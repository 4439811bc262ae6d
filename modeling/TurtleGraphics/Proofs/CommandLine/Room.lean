import TurtleGraphics.Proofs.CommandLine.Filling

set_option autoImplicit false

/-!
# Entries that find room

Any entries can be given together as long as no two of them are for the same part of a request, and
their order makes no difference.
-/

namespace TurtleGraphics.CommandLine

/-- No two entries are for the same part, and no path is empty. -/
structure HaveRoom (entries : List Entry) : Prop where
  distinct : (entries.map Entry.place).Nodup
  named : ∀ entry ∈ entries, ∀ option, entry ≠ .path option ""

theorem HaveRoom.perm {first second : List Entry} (permuted : first.Perm second)
    (room : HaveRoom first) : HaveRoom second where
  distinct := (permuted.map Entry.place).nodup_iff.mp room.distinct
  named := by
    intro entry member
    exact room.named entry (permuted.mem_iff.mpr member)

theorem haveRoom_cons_iff {entry : Entry} {entries : List Entry} :
    HaveRoom (entry :: entries) ↔
      (∀ option, entry ≠ .path option "") ∧ (∀ other ∈ entries, other.place ≠ entry.place) ∧
        HaveRoom entries := by
  have absent : entry.place ∉ entries.map Entry.place ↔
      ∀ other ∈ entries, other.place ≠ entry.place := by simp
  constructor
  · intro room
    obtain ⟨different, distinct⟩ := List.nodup_cons.mp room.distinct
    obtain ⟨named, othersNamed⟩ := List.forall_mem_cons.mp room.named
    exact ⟨named, absent.mp different, distinct, othersNamed⟩
  · intro parts
    obtain ⟨named, different, room⟩ := parts
    exact ⟨List.nodup_cons.mpr ⟨absent.mpr different, room.distinct⟩,
      List.forall_mem_cons.mpr ⟨named, room.named⟩⟩

namespace Request

/-- A request is what it holds. -/
theorem ext_holds {first second : Request}
    (same : ∀ entry, first.Holds entry ↔ second.Holds entry) : first = second := by
  have number (option : NumberOption) : first.number option = second.number option := by
    apply Option.ext
    intro value
    exact same (.number option value)
  have path (option : PathOption) : first.path option = second.path option := by
    apply Option.ext
    intro path
    exact same (.path option path)
  have switch (switch : Switch) : first.isOn switch = second.isOn switch :=
    Bool.eq_iff_iff.mpr (same (.switch switch))
  have commands : first.commands = second.commands := by
    apply Option.ext
    intro text
    exact same (.commands text)
  cases first
  cases second
  congr
  · exact number .step
  · exact number .delta
  · exact number .heading
  · exact number .startX
  · exact number .startY
  · exact path .setup
  · exact path .image
  · exact switch .bracketed
  · exact switch .json

theorem entryAt_blank (place : Place) : blank.entryAt place = none := by
  rcases place with ⟨⟨⟩⟩ | ⟨⟨⟩⟩ | ⟨⟨⟩⟩ | _ <;> rfl

theorem entryAt_put_eq_none_iff {request : Request} {entry : Entry} {place : Place} :
    (request.put entry).entryAt place = none ↔
      place ≠ entry.place ∧ request.entryAt place = none := by
  rw [entryAt_put]
  split
  next same => simp [same]
  next different => simp [different]

theorem exists_addAll_iff {entries : List Entry} {request : Request} :
    (∃ final, addAll entries request = some final) ↔
      HaveRoom entries ∧ ∀ entry ∈ entries, request.entryAt entry.place = none := by
  induction entries generalizing request with
  | nil => exact ⟨fun _ => ⟨⟨List.nodup_nil, nofun⟩, nofun⟩, fun _ => ⟨request, rfl⟩⟩
  | cons entry entries ih =>
      rw [haveRoom_cons_iff, List.forall_mem_cons]
      constructor
      · intro filled
        obtain ⟨final, added⟩ := filled
        obtain ⟨next, addedFirst, addedRest⟩ := Option.bind_eq_some_iff.mp added
        obtain ⟨named, free, rfl⟩ := add_eq_some_iff.mp addedFirst
        obtain ⟨room, later⟩ := ih.mp ⟨final, addedRest⟩
        simp only [entryAt_put_eq_none_iff, forall_and] at later
        exact ⟨⟨named, later.1, room⟩, free, later.2⟩
      · intro parts
        obtain ⟨⟨named, different, room⟩, free, later⟩ := parts
        have addedFirst : request.add entry = some (request.put entry) :=
          add_eq_some_iff.mpr ⟨named, free, rfl⟩
        have othersFree : ∀ other ∈ entries, (request.put entry).entryAt other.place = none := by
          intro other member
          exact entryAt_put_eq_none_iff.mpr ⟨different other member, later other member⟩
        obtain ⟨final, addedRest⟩ := ih.mpr ⟨room, othersFree⟩
        exact ⟨final, Option.bind_eq_some_iff.mpr ⟨_, addedFirst, addedRest⟩⟩

theorem exists_addAll_blank_iff {entries : List Entry} :
    (∃ final, addAll entries blank = some final) ↔ HaveRoom entries := by
  rw [exists_addAll_iff]
  exact and_iff_left fun entry _ => entryAt_blank entry.place

/-- The order of entries makes no difference to the request that they fill, nor to whether they
do. -/
theorem addAll_perm {first second : List Entry} (permuted : first.Perm second) :
    addAll first .blank = addAll second .blank := by
  cases added : addAll first .blank with
  | none =>
      apply Eq.symm
      apply Option.eq_none_iff_forall_ne_some.mpr
      intro other filled
      have room := exists_addAll_blank_iff.mp ⟨other, filled⟩
      obtain ⟨final, impossible⟩ := exists_addAll_blank_iff.mpr (room.perm permuted.symm)
      cases added.symm.trans impossible
  | some final =>
      have room := exists_addAll_blank_iff.mp ⟨final, added⟩
      obtain ⟨other, filled⟩ := exists_addAll_blank_iff.mpr (room.perm permuted)
      have same : final = other := by
        apply ext_holds
        intro entry
        rw [holds_addAll_blank added, holds_addAll_blank filled, permuted.mem_iff]
      rw [filled, same]

theorem addAll_append (first second : List Entry) (request : Request) :
    addAll (first ++ second) request = (addAll first request).bind (addAll second) := by
  induction first generalizing request with
  | nil => rfl
  | cons entry first ih =>
      simp only [List.cons_append, addAll, Option.bind_assoc]
      exact congrArg _ (funext ih)

end Request

end TurtleGraphics.CommandLine

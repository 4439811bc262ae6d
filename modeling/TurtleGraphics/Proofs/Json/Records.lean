import Mathlib.Data.List.Forall2
import Mathlib.Data.List.Nodup
import TurtleGraphics.Json.Form

set_option autoImplicit false

/-!
# Records

Which records an object is read as, field by field. A given field has the value that its form reads,
every other one has that of the base, if it may be left out; the order of the members and the ones
with other keys do not matter. A list is read as the object that gives its items to the first
fields.
-/

namespace TurtleGraphics.Json

section Results

variable {ε α β : Type}

theorem bind_eq_ok {result : Except ε α} {next : α → Except ε β} {value : β} :
    result >>= next = .ok value ↔ ∃ read, result = .ok read ∧ next read = .ok value := by
  cases result with
  | error fault => exact ⟨nofun, nofun⟩
  | ok read => exact ⟨fun rest => ⟨read, rfl, rest⟩, fun ⟨_, rfl, rest⟩ => rest⟩

theorem map_eq_ok {result : Except ε α} {change : α → β} {value : β} :
    result.map change = .ok value ↔ ∃ read, result = .ok read ∧ change read = value := by
  cases result with
  | error fault => exact ⟨nofun, nofun⟩
  | ok read => exact ⟨fun same => ⟨read, rfl, Except.ok.inj same⟩, fun ⟨_, rfl, same⟩ =>
      congrArg Except.ok same⟩

end Results

/-- Members with the texts that their keys stand for. -/
def Keyed (members : List (List Piece × Value)) (named : List (String × Value)) : Prop :=
  List.Forall₂ (fun member entry => decode member.1 none = .ok entry.1.toList ∧
    member.2 = entry.2) members named

namespace Field

variable {α : Type}

/-- What becomes of a field when it is given a value, or none. -/
def Gives (field : Field α) (given : Option Value) (before after : α) : Prop :=
  match given with
  | some value => field.form.read value = .ok (field.get after)
  | none => field.get after = field.get before

end Field

namespace Record

variable {α : Type}

def keys (record : Record α) : List String :=
  record.fields.map Field.key

/-- The fields of a record are its independent parts, and there are no others. -/
structure IsLawful (record : Record α) : Prop where
  nodup_keys : record.keys.Nodup
  get_set : ∀ field ∈ record.fields, ∀ part value, field.get (field.set part value) = part
  get_set_of_ne : ∀ field ∈ record.fields, ∀ other ∈ record.fields, field.key ≠ other.key →
    ∀ part value, other.get (field.set part value) = other.get value
  ext : ∀ value other, (∀ field ∈ record.fields, field.get value = field.get other) → value = other

/-- The keys of fields among the keys of members, in their order. -/
def knownKeys (record : Record α) (named : List (String × Value)) : List String :=
  (named.map Prod.fst).filter (· ∈ record.keys)

variable {record : Record α}

theorem IsLawful.eq_of_key_eq (lawful : record.IsLawful) {field other : Field α}
    (member : field ∈ record.fields) (otherMember : other ∈ record.fields)
    (same : field.key = other.key) : field = other :=
  List.inj_on_of_nodup_map lawful.nodup_keys member otherMember same

theorem find?_eq_none_iff {key : String} :
    (record.fields.find? fun field => field.key = key) = none ↔ key ∉ record.keys := by
  simp [keys, List.find?_eq_none]

theorem IsLawful.find?_eq_some (lawful : record.IsLawful) {field : Field α}
    (member : field ∈ record.fields) :
    (record.fields.find? fun other => other.key = field.key) = some field := by
  cases found : record.fields.find? fun other => other.key = field.key with
  | none => exact absurd (List.mem_map_of_mem member) (find?_eq_none_iff.mp found)
  | some other =>
      have same : other.key = field.key := by simpa using List.find?_some found
      rw [lawful.eq_of_key_eq (List.mem_of_find?_eq_some found) member same]

/-! ### Objects -/

section Objects

variable {pieces : List Piece} {key : String} {member : Value}
  {members : List (List Piece × Value)} {given : List String} {value : α}

theorem readMembers_known (lawful : record.IsLawful) {field : Field α}
    (isField : field ∈ record.fields) (decoded : decode pieces none = .ok field.key.toList) :
    record.readMembers ((pieces, member) :: members) given value =
      if field.key ∈ given then .error (.duplicateField field.key)
      else field.read member value >>= record.readMembers members (field.key :: given) := by
  simp only [readMembers, decoded, bind, Except.bind, String.ofList_toList,
    lawful.find?_eq_some isField]
  rfl

theorem readMembers_unknown (decoded : decode pieces none = .ok key.toList)
    (unknown : key ∉ record.keys) (whole : member.flaw? = none) :
    record.readMembers ((pieces, member) :: members) given value =
      record.readMembers members given value := by
  simp only [readMembers, decoded, bind, Except.bind, String.ofList_toList,
    find?_eq_none_iff.mpr unknown, whole]

theorem knownKeys_cons_known {named : List (String × Value)} (known : key ∈ record.keys) :
    record.knownKeys ((key, member) :: named) = key :: record.knownKeys named := by
  simp [knownKeys, known]

theorem knownKeys_cons_unknown {named : List (String × Value)} (unknown : key ∉ record.keys) :
    record.knownKeys ((key, member) :: named) = record.knownKeys named := by
  simp [knownKeys, unknown]

theorem lookup_eq_none_iff {named : List (String × Value)} (known : key ∈ record.keys) :
    named.lookup key = none ↔ key ∉ record.knownKeys named := by
  rw [List.lookup_eq_none_iff, knownKeys]
  simp only [List.mem_filter, decide_eq_true known, and_true, List.mem_map, not_exists, not_and,
    bne_iff_ne]
  exact forall₂_congr fun entry _ => ne_comm

/-- A field that is set first and not mentioned again is a field that is given its value. -/
theorem gives_set_iff (lawful : record.IsLawful) {field : Field α}
    (isField : field ∈ record.fields) {part : field.β} (read : field.form.read member = .ok part)
    {named : List (String × Value)} (absent : named.lookup field.key = none) {value' : α} :
    (∀ other ∈ record.fields, other.Gives (named.lookup other.key) (field.set part value) value') ↔
      ∀ other ∈ record.fields,
        other.Gives (((field.key, member) :: named).lookup other.key) value value' := by
  refine forall₂_congr fun other isOther => ?_
  by_cases same : other.key = field.key
  · obtain rfl := lawful.eq_of_key_eq isOther isField same
    simp only [absent, List.lookup_cons_self, Field.Gives, lawful.get_set _ isField, read,
      Except.ok.injEq]
    exact eq_comm
  · have skipped : ((field.key, member) :: named).lookup other.key = named.lookup other.key := by
      rw [List.lookup_cons, beq_false_of_ne same]
    rw [skipped]
    cases named.lookup other.key with
    | some given => exact Iff.rfl
    | none =>
        simp only [Field.Gives,
          lawful.get_set_of_ne _ isField _ isOther fun equal => same equal.symm]

/-- Reading members succeeds just if no known key repeats and every field that is given reads its
value. The fields that are not given stay as they were. -/
theorem readMembers_eq_ok_iff (lawful : record.IsLawful) {named : List (String × Value)}
    (keyed : Keyed members named) (whole : ∀ entry ∈ named, entry.2.flaw? = none)
    {given' : List String} {value' : α} :
    record.readMembers members given value = .ok (given', value') ↔
      (record.knownKeys named).Nodup ∧ (∀ key ∈ record.knownKeys named, key ∉ given) ∧
        given' = (record.knownKeys named).reverse ++ given ∧
        ∀ field ∈ record.fields, field.Gives (named.lookup field.key) value value' := by
  -- Members before these may have given keys and changed the record, so both are generalized.
  induction keyed generalizing given value with
  | nil =>
      constructor
      · rintro read
        cases read
        exact ⟨List.nodup_nil, nofun, rfl, fun field _ => rfl⟩
      · rintro ⟨-, -, rfl, kept⟩
        rw [lawful.ext value' value kept]
        rfl
  | @cons member entry members named decoded keyed ih =>
      obtain ⟨pieces, part⟩ := member
      obtain ⟨key, _⟩ := entry
      obtain ⟨decoded, rfl⟩ := decoded
      obtain ⟨partWhole, othersWhole⟩ := List.forall_mem_cons.mp whole
      by_cases known : key ∈ record.keys
      · obtain ⟨field, isField, rfl⟩ := List.mem_map.mp known
        rw [readMembers_known lawful isField decoded, knownKeys_cons_known known]
        split
        case isTrue repeated =>
          exact ⟨nofun, fun ⟨_, fresh, _⟩ => absurd repeated (fresh _ List.mem_cons_self)⟩
        case isFalse new =>
          simp only [bind_eq_ok, Field.read, map_eq_ok]
          constructor
          · rintro ⟨_, ⟨read, isRead, rfl⟩, rest⟩
            obtain ⟨nodup, fresh, rfl, gives⟩ := (ih othersWhole).mp rest
            have absent : field.key ∉ record.knownKeys named := fun listed =>
              fresh _ listed List.mem_cons_self
            refine ⟨List.nodup_cons.mpr ⟨absent, nodup⟩, ?_, ?_, ?_⟩
            · exact List.forall_mem_cons.mpr ⟨new, fun key listed old =>
                fresh key listed (List.mem_cons_of_mem _ old)⟩
            · rw [List.reverse_cons, List.append_assoc]
              rfl
            · exact (gives_set_iff lawful isField isRead
                ((lookup_eq_none_iff known).mpr absent)).mp gives
          · rintro ⟨nodup, fresh, rfl, gives⟩
            obtain ⟨absent, nodup⟩ := List.nodup_cons.mp nodup
            obtain ⟨-, fresh⟩ := List.forall_mem_cons.mp fresh
            have isRead : field.form.read part = .ok (field.get value') := by
              have given := gives field isField
              rwa [List.lookup_cons_self] at given
            refine ⟨_, ⟨_, isRead, rfl⟩, (ih othersWhole).mpr ⟨nodup, ?_, ?_, ?_⟩⟩
            · intro key listed old
              obtain rfl | old := List.mem_cons.mp old
              · exact absent listed
              · exact fresh key listed old
            · rw [List.reverse_cons, List.append_assoc]
              rfl
            · exact (gives_set_iff lawful isField isRead
                ((lookup_eq_none_iff known).mpr absent)).mpr gives
      · rw [readMembers_unknown decoded known partWhole, knownKeys_cons_unknown known,
          ih othersWhole]
        have skipped : ∀ field ∈ record.fields,
            ((key, part) :: named).lookup field.key = named.lookup field.key := by
          intro field isField
          have other : field.key ≠ key := fun same => known (same ▸ List.mem_map_of_mem isField)
          rw [List.lookup_cons, beq_false_of_ne other]
        refine and_congr_right fun _ => and_congr_right fun _ => and_congr_right fun _ =>
          forall₂_congr fun field isField => ?_
        rw [skipped field isField]

/-- An object is read as the one record whose given fields have the values that were read and whose
other fields are those of the base. It is not read at all if a known key repeats, if a required one
is missing, or if the form of a given field does not read its value. -/
theorem read_object_eq_ok_iff (lawful : record.IsLawful) {named : List (String × Value)}
    (keyed : Keyed members named) (whole : ∀ entry ∈ named, entry.2.flaw? = none) :
    record.form.read (.object members none) = .ok value ↔
      (record.knownKeys named).Nodup ∧ ∀ field ∈ record.fields,
        field.Gives (named.lookup field.key) record.base value ∧
          (named.lookup field.key = none → field.required = false) := by
  have missing : ∀ field ∈ record.fields, (field.required &&
      !(record.knownKeys named).reverse.contains field.key) = true ↔
        named.lookup field.key = none ∧ field.required = true := by
    intro field isField
    rw [lookup_eq_none_iff (List.mem_map_of_mem isField)]
    simp [and_comm]
  change record.ofMembers members none = .ok value ↔ _
  rw [ofMembers, bind_eq_ok]
  constructor
  · rintro ⟨⟨given, read⟩, members, complete⟩
    obtain ⟨nodup, -, rfl, gives⟩ := (readMembers_eq_ok_iff lawful keyed whole).mp members
    dsimp only at complete
    split at complete
    next => cases complete
    next none =>
      cases complete
      refine ⟨nodup, fun field isField => ⟨gives field isField, fun absent => ?_⟩⟩
      have optional := List.find?_eq_none.mp none field isField
      rw [List.append_nil, missing field isField] at optional
      exact Bool.eq_false_iff.mpr fun required => optional ⟨absent, required⟩
  · rintro ⟨nodup, fields⟩
    refine ⟨⟨(record.knownKeys named).reverse, value⟩, ?_, ?_⟩
    · refine (readMembers_eq_ok_iff lawful keyed whole).mpr ⟨nodup, nofun, ?_, fun field isField =>
        (fields field isField).1⟩
      rw [List.append_nil]
    · have complete : (record.fields.find? fun field =>
          field.required && !(record.knownKeys named).reverse.contains field.key) = none := by
        rw [List.find?_eq_none]
        intro field isField required
        obtain ⟨absent, required⟩ := (missing field isField).mp required
        rw [(fields field isField).2 absent] at required
        cases required
      simp only [complete]
      rfl

end Objects

/-! ### Lists -/

section Lists

variable {items : List Value} {value value' : α}

theorem readItems_nil_eq_ok_iff (fields : List (Field α)) (count : Nat) :
    record.readItems none fields [] count value = .ok value' ↔
      value = value' ∧ ∀ field ∈ fields, field.required = false := by
  induction fields generalizing count with
  | nil =>
      refine ⟨fun read => ⟨Except.ok.inj read, nofun⟩, ?_⟩
      rintro ⟨rfl, -⟩
      rfl
  | cons field fields ih =>
      rw [List.forall_mem_cons]
      cases required : field.required with
      | true =>
          simp [readItems, required]
      | false =>
          simp [readItems, required, ih]

theorem lookup_zip_eq_none {key : String} {keys : List String} (absent : key ∉ keys)
    (items : List Value) : (keys.zip items).lookup key = none := by
  rw [List.lookup_eq_none_iff]
  rintro ⟨other, item⟩ listed
  rw [bne_iff_ne]
  rintro rfl
  exact absent (List.of_mem_zip listed).1

/-- A list gives its items to the fields in their order. -/
theorem readItems_eq_ok_iff (lawful : record.IsLawful) {fields : List (Field α)}
    (areFields : ∀ field ∈ fields, field ∈ record.fields) (nodup : (fields.map Field.key).Nodup)
    (count : Nat) :
    record.readItems none fields items count value = .ok value' ↔
      items.length ≤ fields.length ∧
        (∀ field ∈ record.fields,
          field.Gives (((fields.map Field.key).zip items).lookup field.key) value value') ∧
        ∀ field ∈ fields, ((fields.map Field.key).zip items).lookup field.key = none →
          field.required = false := by
  induction fields generalizing items count value with
  | nil =>
      cases items with
      | nil =>
          refine ⟨fun read => ?_, fun ⟨_, kept, _⟩ => ?_⟩
          · cases read
            exact ⟨Nat.le_refl 0, fun field _ => rfl, nofun⟩
          · rw [lawful.ext value' value kept]
            rfl
      | cons item items => exact ⟨nofun, fun ⟨short, _⟩ => absurd short (by simp)⟩
  | cons field fields ih =>
      obtain ⟨isField, areFields⟩ := List.forall_mem_cons.mp areFields
      obtain ⟨absent, nodup⟩ := List.nodup_cons.mp nodup
      cases items with
      | nil =>
          rw [readItems_nil_eq_ok_iff]
          refine ⟨?_, fun ⟨_, kept, optional⟩ => ⟨?_, fun other listed => ?_⟩⟩
          · rintro ⟨rfl, optional⟩
            exact ⟨Nat.zero_le _, fun other _ => by rw [List.zip_nil_right]; rfl,
              fun other listed _ => optional other listed⟩
          · refine (lawful.ext value' value fun other isOther => ?_).symm
            have given := kept other isOther
            rwa [List.zip_nil_right] at given
          · exact optional other listed (by rw [List.zip_nil_right]; rfl)
      | cons item items =>
          have skipped : ∀ other ∈ fields, (((field :: fields).map Field.key).zip
              (item :: items)).lookup other.key =
                ((fields.map Field.key).zip items).lookup other.key := by
            intro other listed
            have distinct : other.key ≠ field.key := fun same =>
              absent (same ▸ List.mem_map_of_mem listed)
            rw [List.map_cons, List.zip_cons_cons, List.lookup_cons, beq_false_of_ne distinct]
          have read_iff : record.readItems none (field :: fields) (item :: items) count value =
              .ok value' ↔ ∃ part, field.form.read item = .ok part ∧
                record.readItems none fields items (count + 1) (field.set part value) =
                  .ok value' := by
            simp only [readItems, bind_eq_ok, Field.read, map_eq_ok, exists_exists_and_eq_and]
          rw [read_iff, List.forall_mem_cons]
          constructor
          · rintro ⟨part, read, rest⟩
            obtain ⟨short, gives, optional⟩ := (ih areFields nodup (count + 1)).mp rest
            refine ⟨Nat.succ_le_succ short, ?_, ?_, fun other listed none => ?_⟩
            · exact (gives_set_iff lawful isField read (lookup_zip_eq_none absent items)).mp gives
            · simp
            · exact optional other listed (skipped other listed ▸ none)
          · rintro ⟨short, gives, -, optional⟩
            have read : field.form.read item = .ok (field.get value') := by
              have given := gives field isField
              rwa [List.map_cons, List.zip_cons_cons, List.lookup_cons_self] at given
            refine ⟨_, read, (ih areFields nodup (count + 1)).mpr
              ⟨Nat.le_of_succ_le_succ short, ?_, fun other listed none => ?_⟩⟩
            · exact (gives_set_iff lawful isField read (lookup_zip_eq_none absent items)).mpr gives
            · exact optional other listed ((skipped other listed).trans none)

theorem sublist_map_fst_zip (keys : List String) (items : List Value) :
    ((keys.zip items).map Prod.fst).Sublist keys := by
  induction keys generalizing items with
  | nil => exact List.Sublist.refl []
  | cons key keys ih =>
      cases items with
      | nil => exact List.nil_sublist _
      | cons item items => exact (ih items).cons_cons key

theorem nodup_knownKeys_zip (lawful : record.IsLawful) (items : List Value) :
    (record.knownKeys (record.keys.zip items)).Nodup :=
  ((sublist_map_fst_zip record.keys items).nodup lawful.nodup_keys).filter _

/-- A list is read like the object that names its items in the order of the fields. -/
theorem read_list_eq_ok_iff (lawful : record.IsLawful)
    {members : List (List Piece × Value)} (keyed : Keyed members (record.keys.zip items))
    (whole : ∀ item ∈ items, item.flaw? = none) (short : items.length ≤ record.fields.length) :
    record.form.read (.list items none) = .ok value ↔
      record.form.read (.object members none) = .ok value := by
  have entriesWhole : ∀ entry ∈ record.keys.zip items, entry.2.flaw? = none :=
    fun entry listed => whole _ (List.of_mem_zip listed).2
  rw [read_object_eq_ok_iff lawful keyed entriesWhole]
  change record.readItems none record.fields items 0 record.base = .ok value ↔ _
  rw [readItems_eq_ok_iff lawful (fun _ => id) lawful.nodup_keys, forall₂_and]
  exact ⟨fun ⟨_, read⟩ => ⟨nodup_knownKeys_zip lawful items, read⟩, fun ⟨_, read⟩ => ⟨short, read⟩⟩

end Lists

/-! ### What reading ensures -/

section Ensures

variable {property : α → Prop} {ending : Option Flaw}
  (kept : ∀ field ∈ record.fields, ∀ given part value, field.form.read given = .ok part →
    property value → property (field.set part value))

include kept

theorem ensures_field {field : Field α} (isField : field ∈ record.fields) {given : Value}
    {value value' : α} (read : field.read given value = .ok value') (holds : property value) :
    property value' := by
  obtain ⟨part, partRead, rfl⟩ := map_eq_ok.mp read
  exact kept field isField given part value partRead holds

theorem ensures_readMembers {members : List (List Piece × Value)} {given given' : List String}
    {value value' : α} (read : record.readMembers members given value = .ok (given', value'))
    (holds : property value) : property value' := by
  induction members generalizing given value with
  | nil =>
      cases read
      exact holds
  | cons member members ih =>
      obtain ⟨pieces, member⟩ := member
      rw [readMembers] at read
      obtain ⟨chars, -, read⟩ := bind_eq_ok.mp read
      dsimp only at read
      split at read
      next field found =>
        split at read
        next => cases read
        next =>
          obtain ⟨changed, set, read⟩ := bind_eq_ok.mp read
          exact ih read (ensures_field kept (List.mem_of_find?_eq_some found) set holds)
      next =>
        split at read
        next => cases read
        next => exact ih read holds

theorem ensures_readItems {fields : List (Field α)}
    (areFields : ∀ field ∈ fields, field ∈ record.fields) {items : List Value} {count : Nat}
    {value value' : α} (read : record.readItems ending fields items count value = .ok value')
    (holds : property value) : property value' := by
  induction fields generalizing items count value with
  | nil =>
      rw [readItems] at read
      split at read
      next => cases read
      next =>
        cases read
        exact holds
  | cons field fields ih =>
      obtain ⟨isField, areFields⟩ := List.forall_mem_cons.mp areFields
      cases items with
      | cons item items =>
          rw [readItems] at read
          obtain ⟨changed, set, read⟩ := bind_eq_ok.mp read
          exact ih areFields read (ensures_field kept isField set holds)
      | nil =>
          cases ending with
          | some flaw => cases read
          | none =>
              rw [readItems] at read
              split at read
              next => cases read
              next => exact ih areFields read holds

variable (property) in
/-- What the base has and what no field loses is had by all that is read, from any value. -/
theorem ensures_read (base : property record.base) {given : Value} {value : α}
    (read : record.form.read given = .ok value) : property value := by
  cases given with
  | object members ending =>
      obtain ⟨⟨keys, value'⟩, members, read⟩ := bind_eq_ok.mp read
      have holds := ensures_readMembers kept members base
      dsimp only at read
      split at read
      next => cases read
      next =>
        split at read
        next => cases read
        next =>
          cases read
          exact holds
  | list items ending => exact ensures_readItems kept (fun _ => id) read base
  | _ => cases read

end Ensures

end Record

end TurtleGraphics.Json

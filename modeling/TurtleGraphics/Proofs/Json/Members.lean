import TurtleGraphics.Proofs.Json.Parsing
import TurtleGraphics.Proofs.Json.Records

set_option autoImplicit false

/-!
# Texts of records

What a record is read as, in terms of the texts of its parts: an object text has a text for each
key, a list text one for each item.
-/

namespace TurtleGraphics.Json

/-- The texts of an object with these keys, in this order, and with values that have these texts.
Keys may be written with escapes. -/
def IsObjectText (text : String) (members : List (String × String)) : Prop :=
  ∃ parsed : List (List Piece × Value), IsText (.object parsed none) text ∧
    List.Forall₂ (fun member entry => decode member.1 none = .ok entry.1.toList ∧
      IsText member.2 entry.2) parsed members

/-- The texts of a list of values that have these texts. -/
def IsListText (text : String) (items : List String) : Prop :=
  ∃ parsed : List Value, IsText (.list parsed none) text ∧ List.Forall₂ IsText parsed items

/-- None of the given keys is the key of two members. -/
def Unrepeated (members : List (String × String)) (keys : List String) : Prop :=
  ((members.map Prod.fst).filter (· ∈ keys)).Nodup

/-- What a part of a record is, given the texts of members: what its form reads from the text for
its key, else what it is by default. Without a default it must be given. -/
def IsCompleted {β : Type} (members : List (String × String)) (key : String) (form : Form β)
    (default? : Option β) (part : β) : Prop :=
  match members.lookup key with
  | some text => form.readText text = .ok part
  | none => default? = some part

/-- A list stands for the object that gives its items to the first of the keys. -/
def ListsStandForObjects {α : Type} (form : Form α) (keys : List String) : Prop :=
  ∀ (list object : String) (items : List String), items.length ≤ keys.length →
    IsListText list items → IsObjectText object (keys.zip items) →
      ∀ value, form.readText list = .ok value ↔ form.readText object = .ok value

/-- Values by key, with the texts of the same values. -/
def Spelling (named : List (String × Value)) (members : List (String × String)) : Prop :=
  List.Forall₂ (fun entry member => entry.1 = member.1 ∧ IsText entry.2 member.2) named members

theorem exists_named {parsed : List (List Piece × Value)} {members : List (String × String)}
    (spelled : List.Forall₂ (fun member entry => decode member.1 none = .ok entry.1.toList ∧
      IsText member.2 entry.2) parsed members) :
    ∃ named, Keyed parsed named ∧ Spelling named members := by
  induction spelled with
  | nil => exact ⟨[], .nil, .nil⟩
  | @cons member entry parsed members first _ ih =>
      obtain ⟨named, keyed, spelling⟩ := ih
      exact ⟨(entry.1, member.2) :: named, .cons ⟨first.1, rfl⟩ keyed,
        .cons ⟨rfl, first.2⟩ spelling⟩

namespace Spelling

variable {named : List (String × Value)} {members : List (String × String)}

theorem map_fst (spelling : Spelling named members) :
    named.map Prod.fst = members.map Prod.fst := by
  induction spelling with
  | nil => rfl
  | cons first _ ih => rw [List.map_cons, List.map_cons, first.1, ih]

theorem whole (spelling : Spelling named members) : ∀ entry ∈ named, entry.2.flaw? = none := by
  induction spelling with
  | nil => exact nofun
  | cons first _ ih => exact List.forall_mem_cons.mpr ⟨first.2.flaw?_eq_none, ih⟩

theorem lookup (spelling : Spelling named members) (key : String) :
    (named.lookup key = none ∧ members.lookup key = none) ∨
      ∃ value text, named.lookup key = some value ∧ members.lookup key = some text ∧
        IsText value text := by
  induction spelling with
  | nil => exact .inl ⟨rfl, rfl⟩
  | @cons entry member named members first _ ih =>
      obtain ⟨name, value⟩ := entry
      obtain ⟨_, text⟩ := member
      obtain ⟨rfl, isText⟩ := first
      by_cases same : key = name
      · subst same
        exact .inr ⟨value, text, List.lookup_cons_self, List.lookup_cons_self, isText⟩
      · rw [List.lookup_cons, List.lookup_cons, beq_false_of_ne same]
        exact ih

end Spelling

/-- Members that are spelled like items have the values of these items. -/
theorem keyed_zip {values : List Value} {items : List String}
    (itemsSpelled : List.Forall₂ IsText values items) {keys : List String}
    {parsed : List (List Piece × Value)}
    (spelled : List.Forall₂ (fun member entry => decode member.1 none = .ok entry.1.toList ∧
      IsText member.2 entry.2) parsed (keys.zip items)) :
    Keyed parsed (keys.zip values) := by
  induction itemsSpelled generalizing keys parsed with
  | nil =>
      rw [List.zip_nil_right] at spelled ⊢
      cases spelled
      exact .nil
  | @cons value item values items isText _ ih =>
      cases keys with
      | nil =>
          cases spelled
          exact .nil
      | cons key keys =>
          cases spelled with
          | cons first others => exact .cons ⟨first.1, first.2.unique isText⟩ (ih others)

theorem whole_items {values : List Value} {items : List String}
    (itemsSpelled : List.Forall₂ IsText values items) : ∀ value ∈ values, value.flaw? = none := by
  induction itemsSpelled with
  | nil => exact nofun
  | cons isText _ ih => exact List.forall_mem_cons.mpr ⟨isText.flaw?_eq_none, ih⟩

namespace Record

variable {α : Type} {record : Record α}

/-- An object text is read as the default record in which exactly the given parts are replaced. -/
theorem readText_object_eq_ok_iff (lawful : record.IsLawful) {text : String}
    {members : List (String × String)} (isObject : IsObjectText text members) {value : α} :
    record.form.readText text = .ok value ↔
      Unrepeated members record.keys ∧ ∀ field ∈ record.fields,
        IsCompleted members field.key field.form
          (if field.required then none else some (field.get record.base)) (field.get value) := by
  obtain ⟨parsed, isText, spelled⟩ := isObject
  obtain ⟨named, keyed, spelling⟩ := exists_named spelled
  rw [readText_of_isText record.form isText, read_object_eq_ok_iff lawful keyed spelling.whole]
  refine and_congr ?_ (forall₂_congr fun field _ => ?_)
  · rw [knownKeys, spelling.map_fst, Unrepeated]
  · obtain ⟨noValue, noText⟩ | ⟨part, text, valued, texted, isText⟩ := spelling.lookup field.key
    · rw [IsCompleted, noText, noValue]
      cases field.required with
      | true => simp [Field.Gives]
      | false => simp [Field.Gives, eq_comm]
    · rw [IsCompleted, texted, valued]
      simp [Field.Gives, readText_of_isText field.form isText]

theorem listsStandForObjects (lawful : record.IsLawful) :
    ListsStandForObjects record.form record.keys := by
  rintro list object items short ⟨parsedItems, isList, itemsSpelled⟩
    ⟨parsed, isObject, spelled⟩ value
  rw [readText_of_isText record.form isList, readText_of_isText record.form isObject]
  refine read_list_eq_ok_iff lawful (keyed_zip itemsSpelled spelled) ?_ ?_
  · exact whole_items itemsSpelled
  · rw [itemsSpelled.length_eq]
    exact Nat.le_trans short (Nat.le_of_eq (List.length_map _))

end Record

end TurtleGraphics.Json

import TurtleGraphics.Proofs.Json.Printing

set_option autoImplicit false

/-!
# What written texts say

A value that was parsed holds a document if the document can be told from it: texts by their
characters, numbers by the doubles that they denote, and `null` where a number was not finite.
-/

namespace TurtleGraphics.Json

/-- What is written for a double is read as this double. The text is the shortest numeral that is
nearest to the double, and `Numeral.toFloat` is what it is read by, which rounds more than once. So
this holds of many doubles but not of all, and is assumed where it is needed. -/
def ReadsBack (double : Float) : Prop :=
  Form.number.readText (Form.number.write double).compact = .ok double

theorem readsBack_iff {double : Float} :
    ReadsBack double ↔
      (Form.number.readText (Form.number.write double).compact).toOption = some double := by
  rw [ReadsBack]
  cases Form.number.readText (Form.number.write double).compact with
  | error fault => exact iff_of_false nofun nofun
  | ok read => simp [Except.toOption]

instance (double : Float) : Decidable (ReadsBack double) :=
  decidable_of_iff _ readsBack_iff.symm

example : ReadsBack 0.1 ∧ ¬ ReadsBack 14.142135623730951 := by decide +kernel

theorem ReadsBack.read {double : Float} (readsBack : ReadsBack double) :
    Form.number.read (Document.number double).value = .ok double := by
  rwa [ReadsBack, readText_compact] at readsBack

namespace Document

mutual

/-- What can be told from a value, item by item and member by member in their order. -/
def IsHeldBy : Document → Value → Prop
  | .number double, value =>
    if double.isFinite then Form.number.read value = .ok double else value = .null
  | .count amount, value => value = .number (.plainly false amount)
  | .text written, value =>
    ∃ pieces, value = .text pieces ∧ decode pieces none = .ok written.toList
  | .list items, value => ∃ values, value = .list values none ∧ AreHeldBy items values
  | .object members, value =>
    ∃ parsed, value = .object parsed none ∧ AreHeldByMembers members parsed

def AreHeldBy : List Document → List Value → Prop
  | [], values => values = []
  | item :: items, values =>
    ∃ value others, values = value :: others ∧ item.IsHeldBy value ∧ AreHeldBy items others

def AreHeldByMembers : List (String × Document) → List (List Piece × Value) → Prop
  | [], parsed => parsed = []
  | (key, member) :: members, parsed =>
    ∃ pieces value others, parsed = (pieces, value) :: others ∧
      decode pieces none = .ok key.toList ∧ member.IsHeldBy value ∧
      AreHeldByMembers members others

end

mutual

def doubles : Document → List Float
  | .number double => [double]
  | .count _ => []
  | .text _ => []
  | .list items => itemDoubles items
  | .object members => memberDoubles members

def itemDoubles : List Document → List Float
  | [] => []
  | item :: items => item.doubles ++ itemDoubles items

def memberDoubles : List (String × Document) → List Float
  | [] => []
  | (_, member) :: members => member.doubles ++ memberDoubles members

end

/-- What is written for the finite ones of some doubles is read as these doubles. -/
def ReadBack (doubles : List Float) : Prop :=
  ∀ double ∈ doubles, double.isFinite = true → ReadsBack double

theorem isHeldBy_number {double : Float} (readBack : ReadBack [double]) :
    (number double).IsHeldBy (number double).value := by
  rw [IsHeldBy]
  split
  next finite => exact (readBack double List.mem_cons_self finite).read
  next infinite =>
    rw [value, numberChars, if_neg infinite]
    rfl

mutual

/-- Every document can be told from the value that its texts spell. -/
theorem isHeldBy_value :
    ∀ document : Document, ReadBack document.doubles → document.IsHeldBy document.value
  | .number _, readBack => isHeldBy_number readBack
  | .count _, _ => rfl
  | .text written, _ => ⟨textPieces written, rfl, decode_textPieces written⟩
  | .list items, readBack => ⟨_, rfl, areHeldBy_itemValues items readBack⟩
  | .object members, readBack => ⟨_, rfl, areHeldBy_memberValues members readBack⟩

theorem areHeldBy_itemValues : ∀ items : List Document, ReadBack (itemDoubles items) →
    AreHeldBy items (itemValues items)
  | [], _ => rfl
  | item :: items, readBack =>
    ⟨_, _, rfl, isHeldBy_value item (List.forall_mem_append.mp readBack).1,
      areHeldBy_itemValues items (List.forall_mem_append.mp readBack).2⟩

theorem areHeldBy_memberValues : ∀ members : List (String × Document),
    ReadBack (memberDoubles members) → AreHeldByMembers members (memberValues members)
  | [], _ => rfl
  | (key, member) :: members, readBack =>
    ⟨_, _, _, rfl, decode_textPieces key,
      isHeldBy_value member (List.forall_mem_append.mp readBack).1,
      areHeldBy_memberValues members (List.forall_mem_append.mp readBack).2⟩

end

end Document

end TurtleGraphics.Json

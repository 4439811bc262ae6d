import TurtleGraphics.Proofs.Json.Parsing

set_option autoImplicit false

/-!
# Where texts are refused

A place is told by what stands before it: its line by the line breaks, its column by the bytes since
the last of them. Faults are reported at places inside the text, whatever form it was to have.
-/

namespace TurtleGraphics.Json

def byteSize (text : List Char) : Nat :=
  (String.ofList text).utf8ByteSize

theorem byteSize_append (text other : List Char) :
    byteSize (text ++ other) = byteSize text + byteSize other := by
  simp only [byteSize, String.ofList_append, String.utf8ByteSize_append]

theorem byteSize_cons (c : Char) (text : List Char) :
    byteSize (c :: text) = c.utf8Size + byteSize text := by
  have single : byteSize [c] = c.utf8Size := by
    rw [byteSize, ← String.singleton_eq_ofList, String.utf8ByteSize_singleton]
  rw [← List.singleton_append, byteSize_append, single]

namespace Position

/-- The place right behind a text. -/
def behind (text : List Char) : Position :=
  ⟨text.count '\n' + 1, byteSize (text.reverse.takeWhile (· ≠ '\n'))⟩

/-- So many bytes further on in the same line. -/
def further (position : Position) (bytes : Nat) : Position :=
  { position with column := position.column + bytes }

variable {c : Char} {passed text rest : List Char}

theorem behind_break : behind (passed ++ ['\n']) = ⟨(behind passed).line + 1, 0⟩ := by
  simp [behind, byteSize]

theorem behind_concat (unbroken : c ≠ '\n') :
    behind (passed ++ [c]) = (behind passed).further c.utf8Size := by
  simp [behind, further, unbroken, byteSize_cons, Nat.add_comm]

theorem after_zero (position : Position) (text : List Char) : position.after text 0 = position := by
  cases text <;> simp [after]

theorem after_cons (bytes : Nat) :
    after (behind passed) (c :: rest) (c.utf8Size + bytes) =
      after (behind (passed ++ [c])) rest bytes := by
  have positive : c.utf8Size + bytes ≠ 0 := by have := c.utf8Size_pos; omega
  rw [after, if_neg positive]
  split
  next broken =>
    subst broken
    rw [behind_break]
    congr 1
    exact Nat.add_sub_cancel_left ..
  next unbroken =>
    rw [behind_concat unbroken, Nat.min_eq_right (Nat.le_add_right ..), Nat.add_sub_cancel_left]
    rfl

theorem after_append (bytes : Nat) :
    after (behind passed) (text ++ rest) (byteSize text + bytes) =
      after (behind (passed ++ text)) rest bytes := by
  induction text generalizing passed with
  | nil => simp [byteSize]
  | cons c text ih =>
      rw [byteSize_cons, Nat.add_assoc, List.cons_append, after_cons, ih, List.append_assoc,
        List.singleton_append]

theorem after_short {bytes : Nat} (unbroken : c ≠ '\n') (short : bytes ≤ c.utf8Size) :
    after (behind passed) (c :: rest) bytes = (behind passed).further bytes := by
  rw [after, if_neg unbroken]
  split
  next none =>
    subst none
    rfl
  next =>
    rw [Nat.min_eq_left short, Nat.sub_eq_zero_of_le short, after_zero]
    rfl

/-- Being in a text means to be between two of its characters, or inside one. -/
def IsIn (position : Position) (text : List Char) : Prop :=
  ∃ before rest, text = before ++ rest ∧
    (position = behind before ∨
      ∃ c others bytes, rest = c :: others ∧ bytes < c.utf8Size ∧
        position = (behind before).further bytes)

theorem after_isIn (bytes : Nat) : (after (behind passed) rest bytes).IsIn (passed ++ rest) := by
  induction rest generalizing passed bytes with
  | nil => exact ⟨passed, [], rfl, .inl rfl⟩
  | cons c rest ih =>
      rcases Nat.lt_or_ge bytes c.utf8Size with short | long
      · by_cases broken : c = '\n'
        · subst broken
          have none : bytes = 0 := Nat.lt_one_iff.mp short
          rw [none, after_zero]
          exact ⟨passed, _, rfl, .inl rfl⟩
        · rw [after_short broken (Nat.le_of_lt short)]
          exact ⟨passed, c :: rest, rfl, .inr ⟨c, rest, bytes, rfl, short, rfl⟩⟩
      · obtain ⟨more, rfl⟩ := Nat.exists_eq_add_of_le long
        rw [after_cons, List.append_cons passed c rest]
        exact ih more

end Position

theorem Stop.position_isIn (stop : Stop) (text : List Char) : (stop.position text).IsIn text :=
  @Position.after_isIn [] text _

/-- Whoever refuses a text does so at a place in it. -/
theorem Form.position_isIn {α : Type} (form : Form α) (text : String) :
    (form.position text).IsIn text.toList :=
  Stop.position_isIn _ _

theorem Stop.position_append (before rest : List Char) (ahead : Nat) :
    Stop.position ⟨rest, ahead⟩ (before ++ rest) =
      Position.after (Position.behind before) rest ahead := by
  have passed : byteSize (before ++ rest) - byteSize rest = byteSize before := by
    rw [byteSize_append, Nat.add_sub_cancel]
  have reached : Position.after (Position.behind []) (before ++ rest) (byteSize before + ahead) =
      Position.after (Position.behind before) rest ahead := Position.after_append ahead
  rw [← passed] at reached
  exact reached

theorem run_suffix (mode : Mode) (stack : List Frame) (text : List Char) :
    (run mode stack text).2 <:+ text := by
  induction text generalizing mode stack with
  | nil => exact List.suffix_rfl
  | cons c rest ih =>
      rw [run]
      split
      · exact (ih _ _).trans (List.suffix_cons c rest)
      · exact List.suffix_cons c rest
      · exact List.suffix_rfl
      · exact List.nil_suffix

/-- What follows a value that is read, and is no blank, is refused at its first byte. -/
theorem Form.position_of_trailing {α : Type} {form : Form α} {text : String} {value : Value}
    {result : α} {blanks others : List Char} {c : Char}
    (parsed : parse text.toList = (value, blanks ++ c :: others)) (areBlanks : IsBlanks blanks)
    (visible : isBlank c = false) (read : form.read value = .ok result) :
    ∃ before, text.toList = before ++ c :: others ∧
      form.readText text = .error .trailingCharacters ∧
      form.position text = (Position.behind before).further 1 := by
  obtain ⟨start, whole⟩ : blanks ++ c :: others <:+ text.toList := by
    have suffix := run_suffix .value [] text.toList
    rwa [← parse, parsed] at suffix
  have unbroken : c ≠ '\n' := by
    rintro rfl
    cases visible
  have skipped : skipBlanks (blanks ++ c :: others) = c :: others := by
    rw [skipBlanks, List.dropWhile_append_of_pos areBlanks,
      List.dropWhile_cons_of_neg (by simp [visible])]
  refine ⟨start ++ blanks, ?_, ?_, ?_⟩
  · rw [← whole, List.append_assoc]
  · have trailing : (blanks ++ c :: others).all isBlank = false := by simp [visible]
    simp only [readText, parsed, trailing]
    rw [read]
    rfl
  · have accepted : (form.read value).isOk = true := by rw [read]; rfl
    simp only [position, parsed, accepted, if_true, skipped]
    rw [← whole, ← List.append_assoc, Stop.position_append,
      Position.after_short unbroken c.utf8Size_pos]

example : Form.number.position "1\n é" = ⟨2, 2⟩ := by decide

end TurtleGraphics.Json

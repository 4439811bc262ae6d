import TurtleGraphics.Proofs.Json.Scalars

set_option autoImplicit false

/-!
# Parsing well-formed texts

The parser reads every spelling of a value as this value. So what is read from a whole text depends
on the value alone.
-/

namespace TurtleGraphics.Json

/-! ### Values -/

theorem ends_blanks {blanks : List Char} (areBlanks : IsBlanks blanks) {rest : List Char}
    (ends : Ends rest) : Ends (blanks ++ rest) := by
  cases blanks with
  | nil => exact ends
  | cons c blanks => exact .inl (areBlanks c List.mem_cons_self)

/-- A value starts with a character that is neither a blank nor a closing bracket. -/
def StartsValue (chars : List Char) : Prop :=
  ∃ c others, chars = c :: others ∧ ¬ isBlank c = true ∧ c ≠ ']'

theorem startsValue_of_isDigit {c : Char} (isDigit : c.isDigit = true) (others : List Char) :
    StartsValue (c :: others) := by
  refine ⟨c, others, rfl, fun blank => ?_, ?_⟩
  · rw [not_isDigit_of_isBlank blank] at isDigit
    cases isDigit
  · rintro rfl
    cases isDigit

theorem NumeralText.startsValue (text : NumeralText) : StartsValue text.chars := by
  rw [NumeralText.chars]
  cases text.negative with
  | true => exact ⟨_, _, rfl, by decide, by decide⟩
  | false =>
      obtain single | ⟨someDigit, areDigits, -⟩ := text.areWhole
      · rw [NumeralText.unsignedChars, single]
        exact startsValue_of_isDigit rfl _
      · rw [NumeralText.unsignedChars]
        cases given : text.whole with
        | nil => exact absurd given someDigit
        | cons digit digits =>
            exact startsValue_of_isDigit (areDigits digit (given ▸ List.mem_cons_self)) _

theorem Spelled.startsValue {value : Value} {chars : List Char}
    (spelled : Spelled (.value value) chars) : StartsValue chars := by
  cases spelled with
  | null => exact ⟨_, _, rfl, by decide, by decide⟩
  | yes => exact ⟨_, _, rfl, by decide, by decide⟩
  | no => exact ⟨_, _, rfl, by decide, by decide⟩
  | number text => exact text.startsValue
  | text quotedText =>
      obtain ⟨inner, -, rfl⟩ := quotedText
      exact ⟨_, _, rfl, by decide, by decide⟩
  | emptyList => exact ⟨_, _, rfl, by decide, by decide⟩
  | list => exact ⟨_, _, rfl, by decide, by decide⟩
  | emptyObject => exact ⟨_, _, rfl, by decide, by decide⟩
  | object => exact ⟨_, _, rfl, by decide, by decide⟩

/-- Where an item is wanted, a value is read as anywhere else. -/
theorem run_item {value : Value} {chars : List Char} (spelled : Spelled (.value value) chars)
    (first : Bool) (items : List Value) (stack : List Frame) (rest : List Char) :
    run (.item first items) stack (chars ++ rest) =
      run .value (.list items :: stack) (chars ++ rest) := by
  obtain ⟨c, others, rfl, notBlank, notClosing⟩ := spelled.startsValue
  simp only [List.cons_append, run, step, notBlank, stepItem, notClosing,
    Bool.false_eq_true, if_false]

/-- What a run makes of a part of a text. -/
def IsRead : Part → List Char → Prop
  | .value value, chars => ∀ stack rest, Ends rest →
      run .value stack (chars ++ rest) = after value stack rest
  | .items items, chars => ∀ first done stack rest,
      run (.item first done) stack (chars ++ ']' :: rest) =
        after (.list (done.reverse ++ items) none) stack rest
  | .members members, chars => ∀ first done stack rest,
      run (.key first done) stack (chars ++ '\x7d' :: rest) =
        after (.object (done.reverse ++ members) none) stack rest

/-- A member before what follows its value. -/
theorem run_member {key : List Piece} {value : Value}
    {before keyChars beforeColon afterColon chars behind : List Char}
    (blanksBefore : IsBlanks before) (blanksBeforeColon : IsBlanks beforeColon)
    (blanksAfterColon : IsBlanks afterColon) (blanksAfter : IsBlanks behind)
    (quotedText : QuotedText key keyChars) (isRead : IsRead (.value value) chars)
    (first : Bool) (done : List (List Piece × Value)) (stack : List Frame) {rest : List Char}
    (ends : Ends rest) :
    run (.key first done) stack (before ++ (keyChars ++ (beforeColon ++ ':' :: (afterColon ++
      (chars ++ (behind ++ rest)))))) = run (.afterMember ((key, value) :: done)) stack rest := by
  have colon : ∀ rest, run (.colon done key) stack (':' :: rest) =
      run .value (.member done key :: stack) rest := fun _ => run_shift rfl
  rw [run_blanks (.key first done) trivial blanksBefore, run_key quotedText,
    run_blanks (.colon done key) trivial blanksBeforeColon, colon,
    run_blanks .value trivial blanksAfterColon, isRead _ _ (ends_blanks blanksAfter ends)]
  exact run_blanks (.afterMember ((key, value) :: done)) trivial blanksAfter stack rest

theorem Spelled.isRead {part : Part} {chars : List Char} (spelled : Spelled part chars) :
    IsRead part chars := by
  -- A part is read alike below any frames and before any rest that ends a numeral. This is what the
  -- parts of a value hand to it.
  induction spelled with
  | null => exact fun stack rest _ => run_word ['u', 'l', 'l'] .null stack rest
  | yes => exact fun stack rest _ => run_word ['r', 'u', 'e'] (.boolean true) stack rest
  | no => exact fun stack rest _ => run_word ['a', 'l', 's', 'e'] (.boolean false) stack rest
  | number text => exact fun stack rest ends => run_numeralText text stack ends
  | text quotedText => exact fun stack rest _ => run_text quotedText stack rest
  | @emptyList blanks areBlanks =>
      intro stack rest _
      have opened : ∀ rest, run .value stack ('[' :: rest) = run (.item true []) stack rest :=
        fun _ => run_shift rfl
      rw [List.cons_append, opened, List.append_assoc,
        run_blanks (.item true []) trivial areBlanks]
      exact run_finish rfl
  | @list items chars _ ih =>
      intro stack rest _
      have opened : ∀ rest, run .value stack ('[' :: rest) = run (.item true []) stack rest :=
        fun _ => run_shift rfl
      rw [List.cons_append, opened, List.append_assoc]
      exact ih true [] stack rest
  | @emptyObject blanks areBlanks =>
      intro stack rest _
      have opened : ∀ rest, run .value stack ('\x7b' :: rest) = run (.key true []) stack rest :=
        fun _ => run_shift rfl
      rw [List.cons_append, opened, List.append_assoc,
        run_blanks (.key true []) trivial areBlanks]
      exact run_finish rfl
  | @object members chars _ ih =>
      intro stack rest _
      have opened : ∀ rest, run .value stack ('\x7b' :: rest) = run (.key true []) stack rest :=
        fun _ => run_shift rfl
      rw [List.cons_append, opened, List.append_assoc]
      exact ih true [] stack rest
  | @lastItem value before chars behind blanksBefore blanksAfter spelled ih =>
      intro first done stack rest
      have ends : Ends (']' :: rest) := .inr (.inr (.inl rfl))
      have closed : run (.afterItem (value :: done)) stack (']' :: rest) =
          after (.list (done.reverse ++ [value]) none) stack rest := by
        rw [← List.reverse_cons]
        exact run_finish rfl
      rw [List.append_assoc, List.append_assoc, run_blanks (.item first done) trivial blanksBefore,
        run_item spelled, ih _ _ (ends_blanks blanksAfter ends)]
      exact (run_blanks (.afterItem (value :: done)) trivial blanksAfter stack _).trans closed
  | @item value items before chars behind others blanksBefore blanksAfter spelled _ ih ihOthers =>
      intro first done stack rest
      have ends : Ends (',' :: (others ++ ']' :: rest)) := .inr (.inl rfl)
      have goesOn : run (.afterItem (value :: done)) stack (',' :: (others ++ ']' :: rest)) =
          after (.list (done.reverse ++ value :: items) none) stack rest := by
        refine (run_shift rfl).trans ((ihOthers false (value :: done) stack rest).trans ?_)
        rw [List.reverse_cons, List.append_assoc]
        rfl
      rw [List.append_assoc, List.append_assoc, List.append_assoc,
        run_blanks (.item first done) trivial blanksBefore, run_item spelled, List.cons_append,
        ih _ _ (ends_blanks blanksAfter ends)]
      exact (run_blanks (.afterItem (value :: done)) trivial blanksAfter stack _).trans goesOn
  | @lastMember key value before keyChars beforeColon afterColon chars behind blanksBefore
      blanksBeforeColon blanksAfterColon blanksAfter quotedText _ ih =>
      intro first done stack rest
      have ends : Ends ('\x7d' :: rest) := .inr (.inr (.inr rfl))
      have closed : run (.afterMember ((key, value) :: done)) stack ('\x7d' :: rest) =
          after (.object (done.reverse ++ [(key, value)]) none) stack rest := by
        rw [← List.reverse_cons]
        exact run_finish rfl
      simp only [List.append_assoc, List.cons_append]
      rw [run_member blanksBefore blanksBeforeColon blanksAfterColon blanksAfter quotedText ih
        first done stack ends, closed]
  | @member key value members before keyChars beforeColon afterColon chars behind others
      blanksBefore blanksBeforeColon blanksAfterColon blanksAfter quotedText _ _ ih ihOthers =>
      intro first done stack rest
      have ends : Ends (',' :: (others ++ '\x7d' :: rest)) := .inr (.inl rfl)
      have goesOn : run (.afterMember ((key, value) :: done)) stack
          (',' :: (others ++ '\x7d' :: rest)) =
            after (.object (done.reverse ++ (key, value) :: members) none) stack rest := by
        refine (run_shift rfl).trans
          ((ihOthers false ((key, value) :: done) stack rest).trans ?_)
        rw [List.reverse_cons, List.append_assoc]
        rfl
      simp only [List.append_assoc, List.cons_append]
      rw [run_member blanksBefore blanksBeforeColon blanksAfterColon blanksAfter quotedText ih
        first done stack ends, goesOn]

/-! ### Whole texts -/

theorem parse_of_isText {value : Value} {text : String} (isText : IsText value text) :
    ∃ blanks, IsBlanks blanks ∧ parse text.toList = (value, blanks) := by
  obtain ⟨before, chars, behind, blanksBefore, blanksAfter, spelled, equal⟩ := isText
  refine ⟨behind, blanksAfter, ?_⟩
  have ends : Ends behind := by
    rw [← List.append_nil behind]
    exact ends_blanks blanksAfter trivial
  rw [equal, parse, run_blanks .value trivial blanksBefore]
  exact spelled.isRead [] behind ends

/-- A text has one value at most. -/
theorem IsText.unique {value other : Value} {text : String} (isText : IsText value text)
    (isOther : IsText other text) : value = other := by
  obtain ⟨_, -, parsed⟩ := parse_of_isText isText
  obtain ⟨_, -, otherParsed⟩ := parse_of_isText isOther
  exact (Prod.mk.inj (parsed.symm.trans otherParsed)).1

/-- What is read from a well-formed text depends on its value alone. -/
theorem readText_of_isText {α : Type} (form : Form α) {value : Value} {text : String}
    (isText : IsText value text) : form.readText text = form.read value := by
  obtain ⟨blanks, areBlanks, parsed⟩ := parse_of_isText isText
  have allBlank : blanks.all isBlank = true := List.all_eq_true.mpr areBlanks
  rw [Form.readText, parsed]
  simp only [allBlank, if_true]
  cases form.read value <;> rfl

/-- What is read from any text is read from some value. -/
theorem read_of_readText {α : Type} {form : Form α} {text : String} {result : α}
    (read : form.readText text = .ok result) : form.read (parse text.toList).1 = .ok result := by
  rw [Form.readText] at read
  generalize parse text.toList = parsed at read
  obtain ⟨value, rest⟩ := parsed
  dsimp only at read ⊢
  cases inner : form.read value with
  | error fault =>
      rw [inner] at read
      cases read
  | ok other =>
      rw [inner] at read
      change (if rest.all isBlank = true then Except.ok other else .error _) = _ at read
      split at read
      next => exact read
      next => cases read

theorem Spelled.flaw?_eq_none {value : Value} {chars : List Char}
    (spelled : Spelled (.value value) chars) : value.flaw? = none := by
  cases spelled <;> rfl

theorem IsText.flaw?_eq_none {value : Value} {text : String} (isText : IsText value text) :
    value.flaw? = none := by
  obtain ⟨_, _, _, _, _, spelled, _⟩ := isText
  exact spelled.flaw?_eq_none

end TurtleGraphics.Json

import TurtleGraphics.Proofs.Json.Grammar

set_option autoImplicit false

/-!
# Parsing words, numerals and quoted texts

A run of the parser over the spelling of a scalar delivers the value of this scalar, and then goes
on as it would after any other spelling.
-/

namespace TurtleGraphics.Json

/-- How a run goes on when a whole value has been read. -/
def after (value : Value) (stack : List Frame) (rest : List Char) : Value × List Char :=
  match deliver? value stack with
  | some (mode, outer) => run mode outer rest
  | none => (value, rest)

/-- What may follow a value: nothing, a blank, a comma or a closing bracket. -/
def Ends : List Char → Prop
  | [] => True
  | c :: _ => isBlank c = true ∨ c = ',' ∨ c = ']' ∨ c = '\x7d'

/-! ### Steps of a run -/

section Steps

variable {mode mode' : Mode} {stack stack' : List Frame} {c : Char} {rest : List Char}

theorem run_shift (shifts : step mode stack c rest = .shift mode' stack') :
    run mode stack (c :: rest) = run mode' stack' rest := by
  rw [run, shifts]

theorem run_finish {value : Value} (finishes : step mode stack c rest = finish value stack) :
    run mode stack (c :: rest) = after value stack rest := by
  rw [run, finishes, finish, after]
  cases deliver? value stack with
  | none => rfl
  | some target => rfl

end Steps

/-- The modes between two tokens. -/
def Mode.SkipsBlanks : Mode → Prop
  | .value | .item _ _ | .afterItem _ | .key _ _ | .colon _ _ | .afterMember _ => True
  | .keyText _ _ | .word _ _ | .numeral _ | .text _ => False

theorem run_blanks (mode : Mode) {blanks : List Char} (skips : mode.SkipsBlanks)
    (areBlanks : IsBlanks blanks) (stack : List Frame) (rest : List Char) :
    run mode stack (blanks ++ rest) = run mode stack rest := by
  induction blanks with
  | nil => rfl
  | cons c blanks ih =>
      have blank : isBlank c = true := areBlanks c List.mem_cons_self
      have skipped : step mode stack c (blanks ++ rest) = .shift mode stack := by
        cases mode <;> first | exact skips.elim | exact if_pos blank
      rw [List.cons_append, run_shift skipped]
      exact ih fun c member => areBlanks c (List.mem_cons_of_mem _ member)

/-- A value whose end shows only by what follows is delivered there. -/
theorem run_afterValue {mode : Mode} {value : Value} {stack : List Frame} {rest : List Char}
    (step_eq : ∀ c others, rest = c :: others →
      step mode stack c others = stepAfterValue value stack c)
    (atEnd_eq : atEnd mode stack = breakAfterValue value stack) :
    run mode stack rest = after value stack rest := by
  cases rest with
  | nil =>
      rw [run, atEnd_eq]
      cases stack with
      | nil => rfl
      | cons frame stack => cases frame <;> rfl
  | cons c rest =>
      rw [run, step_eq c rest rfl]
      cases stack with
      | nil => rfl
      | cons frame stack =>
          cases frame with
          | list items =>
              simp only [after, deliver?, stepAfterValue, run, step]
          | member members key =>
              simp only [after, deliver?, stepAfterValue, run, step]

/-! ### Words -/

theorem run_word (missing : List Char) (value : Value) (stack : List Frame) (rest : List Char) :
    run (.word missing value) stack (missing ++ rest) = after value stack rest := by
  induction missing with
  | nil => exact run_afterValue (fun _ _ _ => rfl) rfl
  | cons c missing ih =>
      have shifts : step (.word (c :: missing) value) stack c (missing ++ rest) =
          .shift (.word missing value) stack := if_pos rfl
      rw [List.cons_append, run_shift shifts]
      exact ih

/-! ### Numerals -/

section Numerals

variable {scan scan' : NumeralScan} {stack : List Frame} {c : Char} {rest : List Char}

theorem run_numeral_more (more : scan.step c = .more scan') :
    run (.numeral scan) stack (c :: rest) = run (.numeral scan') stack rest := by
  apply run_shift
  simp only [step, more]

/-- A numeral that may end here does, unless a digit, a point or a mark follows. -/
theorem NumeralScan.step_of_finish? {numeral : Numeral} (finishes : scan.finish? = some numeral)
    (notDigit : c.isDigit = false) (notPoint : c ≠ '.') (notMark : c ≠ 'e' ∧ c ≠ 'E') :
    scan.step c = .complete numeral := by
  obtain ⟨phase, scanned⟩ := scan
  cases phase <;> cases finishes <;>
    simp [NumeralScan.step, NumeralScan.afterWhole, notDigit, notPoint, notMark]

theorem not_isDigit_of_isBlank (blank : isBlank c = true) : c.isDigit = false := by
  simp only [isBlank, Bool.or_eq_true, beq_iff_eq] at blank
  obtain ((rfl | rfl) | rfl) | rfl := blank <;> rfl

theorem run_numeral_finish {numeral : Numeral} (finishes : scan.finish? = some numeral)
    (ends : Ends rest) :
    run (.numeral scan) stack rest = after (.number numeral) stack rest := by
  refine run_afterValue (fun c others equal => ?_) (by simp only [atEnd, finishes])
  subst equal
  have complete : scan.step c = .complete numeral := by
    obtain blank | rfl | rfl | rfl := ends
    · refine NumeralScan.step_of_finish? finishes (not_isDigit_of_isBlank blank) ?_ ⟨?_, ?_⟩ <;>
        (rintro rfl; exact absurd blank (by decide))
    · exact NumeralScan.step_of_finish? finishes rfl (by decide) (by decide)
    · exact NumeralScan.step_of_finish? finishes rfl (by decide) (by decide)
    · exact NumeralScan.step_of_finish? finishes rfl (by decide) (by decide)
  simp only [step, complete]

end Numerals

theorem Numeral.plain_whole (_ : true = true) : 0 = 0 ∧ 0 = 0 :=
  ⟨rfl, rfl⟩

/-- A numeral without point and exponent. -/
def Numeral.plainly (negative : Bool) (significand : Nat) : Numeral :=
  ⟨negative, significand, 0, false, 0, true, plain_whole⟩

/-- A numeral that has a point or an exponent. -/
def Numeral.marked (negative : Bool) (significand scale : Nat) (exponentNegative : Bool)
    (exponent : Nat) : Numeral :=
  ⟨negative, significand, scale, exponentNegative, exponent, false, nofun⟩

/-- Further digits of a number. -/
def moreDigits (number : Nat) (digits : List Char) : Nat :=
  digits.foldl (fun number digit => 10 * number + Number.digitValue digit) number

section NumeralParts

variable {negative : Bool} {significand scale : Nat} {stack : List Frame}

/-- Digits in a phase that goes on with digits, where `state` is the numeral with a number that the
digits add to and a count of the digits. -/
theorem run_digits (state : Nat → Nat → Numeral) {phase : NumeralPhase}
    (more : ∀ number count digit, digit.isDigit = true →
      NumeralScan.step ⟨phase, state number count⟩ digit =
        .more ⟨phase, state (10 * number + Number.digitValue digit) (count + 1)⟩)
    {digits : List Char} (areDigits : AreDigits digits) (number count : Nat) (rest : List Char) :
    run (.numeral ⟨phase, state number count⟩) stack (digits ++ rest) =
      run (.numeral ⟨phase, state (moreDigits number digits) (count + digits.length)⟩) stack
        rest := by
  induction digits generalizing number count with
  | nil => rfl
  | cons digit digits ih =>
      obtain ⟨isDigit, areDigits⟩ := List.forall_mem_cons.mp areDigits
      rw [List.cons_append, run_numeral_more (more number count digit isDigit), ih areDigits,
        List.length_cons, Nat.add_comm digits.length, ← Nat.add_assoc]
      rfl

/-- The phases in which the digits before the point are complete. -/
def NumeralPhase.EndsWhole (phase : NumeralPhase) : Prop :=
  phase = .zero ∨ phase = .whole

theorem run_moreWhole {digits : List Char} (areDigits : AreDigits digits) (rest : List Char) :
    run (.numeral ⟨.whole, .plainly negative significand⟩) stack (digits ++ rest) =
      run (.numeral ⟨.whole, .plainly negative (moreDigits significand digits)⟩) stack rest := by
  refine run_digits (fun number _ => .plainly negative number) ?_ areDigits significand 0 rest
  intro number count digit isDigit
  exact if_pos isDigit

theorem run_moreFraction {digits : List Char} (areDigits : AreDigits digits) (rest : List Char) :
    run (.numeral ⟨.fraction, .marked negative significand scale false 0⟩) stack (digits ++ rest) =
      run (.numeral ⟨.fraction, .marked negative (moreDigits significand digits)
        (scale + digits.length) false 0⟩) stack rest := by
  refine run_digits (fun number count => .marked negative number count false 0) ?_ areDigits
    significand scale rest
  intro number count digit isDigit
  exact if_pos isDigit

theorem run_moreExponent {digits : List Char} (areDigits : AreDigits digits)
    (exponentNegative : Bool) (exponent : Nat) (rest : List Char) :
    run (.numeral ⟨.exponent, .marked negative significand scale exponentNegative exponent⟩) stack
        (digits ++ rest) =
      run (.numeral ⟨.exponent, .marked negative significand scale exponentNegative
        (moreDigits exponent digits)⟩) stack rest := by
  refine run_digits (fun number _ => .marked negative significand scale exponentNegative number)
    ?_ areDigits exponent 0 rest
  intro number count digit isDigit
  exact if_pos isDigit

/-- The mode before the first digit of a numeral. -/
def Mode.unsigned : Bool → Mode
  | true => .numeral ⟨.sign, .plainly true 0⟩
  | false => .value

theorem startValue_of_start? {c : Char} {scan : NumeralScan}
    (starts : NumeralScan.start? c = some scan) (stack : List Frame) :
    startValue stack c = .shift (.numeral scan) stack := by
  unfold startValue
  split <;> first | cases starts | simp only [starts]

theorem step_unsigned_zero (stack : List Frame) (rest : List Char) :
    step (.unsigned negative) stack '0' rest =
      .shift (.numeral ⟨.zero, .plainly negative 0⟩) stack := by
  cases negative <;> rfl

theorem step_unsigned_digit {digit : Char} (isDigit : digit.isDigit = true) (notZero : digit ≠ '0')
    (stack : List Frame) (rest : List Char) :
    step (.unsigned negative) stack digit rest =
      .shift (.numeral ⟨.whole, .plainly negative (Number.digitValue digit)⟩) stack := by
  cases negative with
  | true =>
      have more : NumeralScan.step ⟨.sign, .plainly true 0⟩ digit =
          .more ⟨.whole, .plainly true (10 * 0 + Number.digitValue digit)⟩ :=
        (if_neg notZero).trans (if_pos isDigit)
      rw [Nat.mul_zero, Nat.zero_add] at more
      simp only [Mode.unsigned, step, more]
  | false =>
      have notBlank : ¬ isBlank digit = true := fun blank => by
        rw [not_isDigit_of_isBlank blank] at isDigit
        cases isDigit
      have notMinus : digit ≠ '-' := by
        rintro rfl
        cases isDigit
      have starts : NumeralScan.start? digit =
          some ⟨.whole, .plainly false (Number.digitValue digit)⟩ :=
        (if_neg notMinus).trans ((if_neg notZero).trans (if_pos isDigit))
      exact (if_neg notBlank).trans (startValue_of_start? starts stack)

/-- The digits before the point. -/
theorem run_whole (negative : Bool) (stack : List Frame) {digits : List Char}
    (areWhole : AreWhole digits) :
    ∃ phase : NumeralPhase, phase.EndsWhole ∧ ∀ rest,
      run (.unsigned negative) stack (digits ++ rest) =
        run (.numeral ⟨phase, .plainly negative (Number.ofDigits digits)⟩) stack rest := by
  obtain rfl | ⟨someDigit, areDigits, noZero⟩ := areWhole
  · exact ⟨.zero, .inl rfl, fun rest => run_shift (step_unsigned_zero stack rest)⟩
  · cases digits with
    | nil => exact absurd rfl someDigit
    | cons digit digits =>
        obtain ⟨isDigit, areDigits⟩ := List.forall_mem_cons.mp areDigits
        have notZero : digit ≠ '0' := fun zero => noZero (congrArg some zero)
        refine ⟨.whole, .inr rfl, fun rest => ?_⟩
        rw [List.cons_append, run_shift (step_unsigned_digit isDigit notZero stack _),
          run_moreWhole areDigits]
        simp only [Number.ofDigits, List.foldl_cons, Nat.mul_zero, Nat.zero_add, moreDigits]

/-- The point and the digits after it. -/
theorem run_fraction {phase : NumeralPhase} (endsWhole : phase.EndsWhole) {digit : Char}
    {digits : List Char} (areDigits : AreDigits (digit :: digits)) (rest : List Char) :
    run (.numeral ⟨phase, .plainly negative significand⟩) stack ('.' :: digit :: digits ++ rest) =
      run (.numeral ⟨.fraction, .marked negative (moreDigits significand (digit :: digits))
        (digits.length + 1) false 0⟩) stack rest := by
  obtain ⟨isDigit, areDigits⟩ := List.forall_mem_cons.mp areDigits
  have pointed : NumeralScan.step ⟨phase, .plainly negative significand⟩ '.' =
      .more ⟨.point, .marked negative significand 0 false 0⟩ := by
    obtain rfl | rfl := endsWhole <;> rfl
  have first : NumeralScan.step ⟨.point, .marked negative significand 0 false 0⟩ digit =
      .more ⟨.fraction, .marked negative (10 * significand + Number.digitValue digit) 1 false
        0⟩ := if_pos isDigit
  rw [List.cons_append, run_numeral_more pointed, List.cons_append, run_numeral_more first,
    run_moreFraction areDigits, Nat.add_comm 1]
  rfl

/-- The sign and the digits of an exponent, after its mark. -/
theorem run_exponent {exponent : ExponentText} (rest : List Char) :
    run (.numeral ⟨.mark, .marked negative significand scale false 0⟩) stack
        (exponent.chars.tail ++ rest) =
      run (.numeral ⟨.exponent, .marked negative significand scale (exponent.sign.getD false)
        (Number.ofDigits exponent.digits)⟩) stack rest := by
  obtain ⟨capital, sign, digits, someDigit, areDigits⟩ := exponent
  cases digits with
  | nil => exact absurd rfl someDigit
  | cons digit digits =>
      obtain ⟨isDigit, areDigits⟩ := List.forall_mem_cons.mp areDigits
      have notSign : digit ≠ '+' ∧ digit ≠ '-' := by
        constructor <;> (rintro rfl; cases isDigit)
      have fromMark : NumeralScan.step ⟨.mark, .marked negative significand scale false 0⟩ digit =
          .more ⟨.exponent, .marked negative significand scale false
            (10 * 0 + Number.digitValue digit)⟩ :=
        (if_neg notSign.1).trans ((if_neg notSign.2).trans (if_pos isDigit))
      have fromSign : ∀ signed, NumeralScan.step
          ⟨.markSign, .marked negative significand scale signed 0⟩ digit =
            .more ⟨.exponent, .marked negative significand scale signed
              (10 * 0 + Number.digitValue digit)⟩ := fun signed => if_pos isDigit
      cases sign with
      | none =>
          exact (run_numeral_more fromMark).trans (run_moreExponent areDigits _ _ rest)
      | some signed =>
          cases signed with
          | false =>
              refine (run_numeral_more (c := '+') rfl).trans ?_
              exact (run_numeral_more (fromSign false)).trans (run_moreExponent areDigits _ _ rest)
          | true =>
              refine (run_numeral_more rfl).trans ?_
              exact (run_numeral_more (fromSign true)).trans (run_moreExponent areDigits _ _ rest)

end NumeralParts

section NumeralTexts

variable (text : NumeralText) (stack : List Frame)

theorem run_numeralSign (rest : List Char) :
    run .value stack (text.chars ++ rest) =
      run (.unsigned text.negative) stack
        (text.whole ++ (text.fractionChars ++ (text.exponentChars ++ rest))) := by
  have parts : text.unsignedChars ++ rest =
      text.whole ++ (text.fractionChars ++ (text.exponentChars ++ rest)) := by
    simp only [NumeralText.unsignedChars, List.append_assoc]
  rw [← parts, NumeralText.chars]
  cases text.negative with
  | false => rfl
  | true => exact run_shift rfl

/-- The significand of a numeral, which may end there or go on with an exponent. -/
theorem run_significand :
    ∃ scan : NumeralScan,
      (∀ rest, run .value stack (text.chars ++ rest) =
        run (.numeral scan) stack (text.exponentChars ++ rest)) ∧
      (text.exponent = none → scan.finish? = some text.numeral) ∧
      ∀ mark, mark = 'e' ∨ mark = 'E' → scan.step mark = .more ⟨.mark, .marked text.negative
        text.numeral.significand text.numeral.scale false 0⟩ := by
  obtain ⟨phase, endsWhole, wholeRead⟩ := run_whole text.negative stack text.areWhole
  cases given : text.fraction with
  | nil =>
      refine ⟨⟨phase, .plainly text.negative (Number.ofDigits text.whole)⟩, fun rest => ?_, ?_, ?_⟩
      · rw [run_numeralSign, wholeRead, NumeralText.fractionChars, given]
        rfl
      · intro noExponent
        obtain rfl | rfl := endsWhole <;>
          simp [NumeralScan.finish?, NumeralText.numeral, Numeral.plainly, given, noExponent]
      · intro mark isMark
        obtain rfl | rfl := endsWhole <;> obtain rfl | rfl := isMark <;>
          simp [NumeralScan.step, NumeralScan.afterWhole, NumeralText.numeral, Numeral.plainly,
            Numeral.marked, given]
  | cons digit digits =>
      have areDigits : AreDigits (digit :: digits) := given ▸ text.areFraction
      have digitsRead : moreDigits (Number.ofDigits text.whole) (digit :: digits) =
          text.numeral.significand := by
        change _ = Number.ofDigits (text.whole ++ text.fraction)
        rw [given]
        exact List.foldl_append.symm
      have counted : digits.length + 1 = text.numeral.scale := by
        change _ = text.fraction.length
        rw [given]
        rfl
      refine ⟨⟨.fraction, .marked text.negative text.numeral.significand text.numeral.scale false
        0⟩, fun rest => ?_, ?_, ?_⟩
      · rw [run_numeralSign, wholeRead, NumeralText.fractionChars, given, run_fraction endsWhole
          areDigits, digitsRead, counted]
      · intro noExponent
        simp [NumeralScan.finish?, NumeralText.numeral, Numeral.marked, given, noExponent]
      · intro mark isMark
        obtain rfl | rfl := isMark <;> rfl

/-- A numeral is read to its end if a value can end there. -/
theorem run_numeralText {rest : List Char} (ends : Ends rest) :
    run .value stack (text.chars ++ rest) = after (.number text.numeral) stack rest := by
  obtain ⟨scan, significandRead, finishes, marks⟩ := run_significand text stack
  rw [significandRead]
  cases given : text.exponent with
  | none =>
      rw [NumeralText.exponentChars, given]
      exact run_numeral_finish (finishes given) ends
  | some exponent =>
      have isMark : (if exponent.capital then 'E' else 'e') = 'e' ∨
          (if exponent.capital then 'E' else 'e') = 'E' := by
        cases exponent.capital with
        | false => exact .inl rfl
        | true => exact .inr rfl
      have read : NumeralScan.finish? ⟨.exponent, .marked text.negative text.numeral.significand
          text.numeral.scale (exponent.sign.getD false) (Number.ofDigits exponent.digits)⟩ =
            some text.numeral := by
        simp [NumeralScan.finish?, Numeral.marked, NumeralText.numeral, given]
      rw [NumeralText.exponentChars, given]
      exact (run_numeral_more (marks _ isMark)).trans
        ((run_exponent rest).trans (run_numeral_finish read ends))

end NumeralTexts

/-! ### Quoted texts -/

section Quotations

variable {scan scan' : QuotationScan} {c : Char} {rest : List Char}

theorem hasFourBytes_of_hexDigits {first second third fourth : Char} (rest : List Char) :
    hasFourBytes (first :: second :: third :: fourth :: rest) = true := by
  have firstSize := first.utf8Size_pos
  have secondSize := second.utf8Size_pos
  have thirdSize := third.utf8Size_pos
  have fourthSize := fourth.utf8Size_pos
  apply decide_eq_true
  simp only [List.take_succ_cons, List.take_zero, List.foldl_cons, List.foldl_nil]
  omega

variable {stack : List Frame} (wrap : QuotationScan → Mode)

/-- Modes that scan a quoted text differ in what becomes of it, not in how it is scanned. -/
def ScansQuotation (wrap : QuotationScan → Mode) (stack : List Frame) : Prop :=
  ∀ {scan scan' : QuotationScan} {c : Char} {rest : List Char},
    scan.step c rest = .more scan' → run (wrap scan) stack (c :: rest) = run (wrap scan') stack rest

theorem scansQuotation_text : ScansQuotation .text stack := by
  intro scan scan' c rest more
  apply run_shift
  simp only [step, more]

theorem scansQuotation_keyText (members : List (List Piece × Value)) :
    ScansQuotation (.keyText members) stack := by
  intro scan scan' c rest more
  apply run_shift
  simp only [step, more]

theorem run_unitDigit (scans : ScansQuotation wrap stack) {digit : Char} {meant : Nat}
    (hex : hexValue? digit = some meant) (done : List Piece) (missing value : Nat)
    (rest : List Char) :
    run (wrap ⟨done, .unit (missing + 2) value⟩) stack (digit :: rest) =
      run (wrap ⟨done, .unit (missing + 1) (16 * value + meant)⟩) stack rest := by
  apply scans
  simp only [QuotationScan.step, hex]
  exact if_neg (by omega)

theorem run_unitEnd (scans : ScansQuotation wrap stack) {digit : Char} {meant : Nat}
    (hex : hexValue? digit = some meant) (done : List Piece) (value : Nat) (rest : List Char) :
    run (wrap ⟨done, .unit 1 value⟩) stack (digit :: rest) =
      run (wrap ⟨.unit (16 * value + meant) :: done, .outside⟩) stack rest := by
  apply scans
  simp only [QuotationScan.step, hex]
  exact if_pos (by omega)

theorem run_quoted (scans : ScansQuotation wrap stack) {pieces : List Piece} {chars : List Char}
    (quoted : Quoted pieces chars) (done : List Piece) (rest : List Char) :
    run (wrap ⟨done, .outside⟩) stack (chars ++ rest) =
      run (wrap ⟨pieces.reverse ++ done, .outside⟩) stack rest := by
  have backslash : ∀ done rest, run (wrap ⟨done, .outside⟩) stack ('\\' :: rest) =
      run (wrap ⟨done, .backslash⟩) stack rest := fun _ _ => scans rfl
  induction quoted generalizing done with
  | nil => rfl
  | @plain c pieces chars notQuote notBackslash notControl quoted ih =>
      have more : QuotationScan.step ⟨done, .outside⟩ c (chars ++ rest) =
          .more ⟨.plain c :: done, .outside⟩ :=
        (if_neg notQuote).trans ((if_neg notBackslash).trans (if_neg notControl))
      rw [List.cons_append, scans more, ih, List.reverse_cons, List.append_assoc]
      rfl
  | @escape c meant pieces chars short quoted ih =>
      have more : QuotationScan.step ⟨done, .backslash⟩ c (chars ++ rest) =
          .more ⟨.plain meant :: done, .outside⟩ := by
        simp only [QuotationScan.step, short]
      rw [List.cons_append, backslash, List.cons_append, scans more, ih, List.reverse_cons,
        List.append_assoc]
      rfl
  | @unit first second third fourth a b c d pieces chars isFirst isSecond isThird isFourth quoted
      ih =>
      have more : QuotationScan.step ⟨done, .backslash⟩ 'u'
          (first :: second :: third :: fourth :: (chars ++ rest)) =
            .more ⟨done, .unit 4 0⟩ := if_pos (hasFourBytes_of_hexDigits _)
      have run_unit : run (wrap ⟨done, .outside⟩) stack
          ('\\' :: 'u' :: first :: second :: third :: fourth :: (chars ++ rest)) =
            run (wrap ⟨.unit (16 * (16 * (16 * a + b) + c) + d) :: done, .outside⟩) stack
              (chars ++ rest) := by
        rw [backslash, scans more, run_unitDigit wrap scans isFirst,
          run_unitDigit wrap scans isSecond, run_unitDigit wrap scans isThird,
          run_unitEnd wrap scans isFourth, Nat.mul_zero, Nat.zero_add]
      refine run_unit.trans ?_
      rw [ih, List.reverse_cons, List.append_assoc]
      rfl

theorem run_text {pieces : List Piece} {chars : List Char} (quotedText : QuotedText pieces chars)
    (stack : List Frame) (rest : List Char) :
    run .value stack (chars ++ rest) = after (.text pieces) stack rest := by
  obtain ⟨inner, quoted, rfl⟩ := quotedText
  have opened : ∀ rest, run .value stack ('"' :: rest) = run (.text ⟨[], .outside⟩) stack rest :=
    fun _ => run_shift rfl
  have closed : step (.text ⟨pieces.reverse, .outside⟩) stack '"' rest =
      finish (.text pieces) stack :=
    congrArg (fun pieces => finish (.text pieces) stack) pieces.reverse_reverse
  rw [List.cons_append, opened, List.append_assoc, run_quoted .text scansQuotation_text quoted,
    List.append_nil]
  exact run_finish closed

theorem run_key {pieces : List Piece} {chars : List Char} (quotedText : QuotedText pieces chars)
    (first : Bool) (members : List (List Piece × Value)) (stack : List Frame) (rest : List Char) :
    run (.key first members) stack (chars ++ rest) = run (.colon members pieces) stack rest := by
  obtain ⟨inner, quoted, rfl⟩ := quotedText
  have opened : ∀ rest, run (.key first members) stack ('"' :: rest) =
      run (.keyText members ⟨[], .outside⟩) stack rest := fun _ => run_shift rfl
  have closed : step (.keyText members ⟨pieces.reverse, .outside⟩) stack '"' rest =
      .shift (.colon members pieces) stack :=
    congrArg (fun pieces => Move.shift (.colon members pieces) stack) pieces.reverse_reverse
  rw [List.cons_append, opened, List.append_assoc,
    run_quoted (.keyText members) (scansQuotation_keyText members) quoted, List.append_nil]
  exact run_shift closed

end Quotations

end TurtleGraphics.Json

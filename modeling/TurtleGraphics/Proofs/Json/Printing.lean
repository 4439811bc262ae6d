import TurtleGraphics.Proofs.Json.Parsing
import TurtleGraphics.Proofs.Json.Records
import TurtleGraphics.Proofs.Number.Decimals

set_option autoImplicit false

/-!
# Written texts are well-formed

Every document has a value, and both its compact and its indented text spell this value. So what is
read from a written text does not depend on the way it is laid out.
-/

namespace TurtleGraphics.Json

/-! ### Numerals -/

theorem areDigits_digitChars (n : Nat) : AreDigits (Number.digitChars n) :=
  fun _ => Number.isDigit_of_mem_digitChars

theorem areDigits_zeros (count : Nat) : AreDigits (List.replicate count '0') := by
  intro c listed
  rw [List.eq_of_mem_replicate listed]
  rfl

theorem areDigits_append {digits others : List Char} (areDigits : AreDigits digits)
    (areOthers : AreDigits others) : AreDigits (digits ++ others) :=
  fun c listed => (List.mem_append.mp listed).elim (areDigits c) (areOthers c)

/-- Digits that do not start with a zero. -/
structure Leading (digits : List Char) : Prop where
  someDigit : digits ≠ []
  areDigits : AreDigits digits
  noZero : digits.head? ≠ some '0'

theorem Leading.areWhole {digits : List Char} (leading : Leading digits) : AreWhole digits :=
  .inr ⟨leading.someDigit, leading.areDigits, leading.noZero⟩

theorem leading_digitChars {n : Nat} (positive : 0 < n) : Leading (Number.digitChars n) :=
  ⟨Number.digitChars_ne_nil n, areDigits_digitChars n, Number.head?_digitChars_ne_zero positive⟩

theorem areWhole_digitChars (n : Nat) : AreWhole (Number.digitChars n) := by
  rcases Nat.eq_zero_or_pos n with rfl | positive
  · exact .inl rfl
  · exact (leading_digitChars positive).areWhole

/-- Whether unsigned characters are a numeral. A sign may be put before them. -/
def IsUnsigned (chars : List Char) : Prop :=
  ∀ negative, ∃ text : NumeralText, text.negative = negative ∧ text.unsignedChars = chars

theorem isUnsigned_fraction {whole fraction : List Char} (areWhole : AreWhole whole)
    (areFraction : AreDigits fraction) (some : fraction ≠ []) :
    IsUnsigned (whole ++ '.' :: fraction) := by
  intro negative
  refine ⟨⟨negative, whole, fraction, none, areWhole, areFraction⟩, rfl, ?_⟩
  cases fraction with
  | nil => exact absurd rfl some
  | cons digit digits => simp [NumeralText.unsignedChars, NumeralText.fractionChars,
      NumeralText.exponentChars]

theorem isUnsigned_plainChars {digits : List Char} (leading : Leading digits) (place : Int) :
    IsUnsigned (Number.plainChars digits place) := by
  obtain ⟨someDigit, areDigits, noZero⟩ := leading
  unfold Number.plainChars
  split
  next =>
    refine isUnsigned_fraction (.inl rfl) (areDigits_append (areDigits_zeros _) areDigits) ?_
    exact fun none => someDigit (List.append_eq_nil_iff.mp none).2
  next =>
    dsimp only
    split
    next =>
      refine isUnsigned_fraction (.inr ⟨?_, areDigits_append areDigits (areDigits_zeros _), ?_⟩)
        (areDigits_zeros 1) (List.cons_ne_nil _ _)
      · exact fun none => someDigit (List.append_eq_nil_iff.mp none).1
      · rwa [List.head?_append_of_ne_nil _ someDigit]
    next long =>
      have areTaken : AreDigits (digits.take (place.toNat + 1)) :=
        fun c listed => areDigits c (List.mem_of_mem_take listed)
      refine isUnsigned_fraction (.inr ⟨?_, areTaken, ?_⟩)
        (fun c listed => areDigits c (List.mem_of_mem_drop listed)) ?_
      · exact fun none => (List.take_eq_nil_iff.mp none).elim (Nat.succ_ne_zero _) someDigit
      · rwa [List.head?_take, if_neg (Nat.succ_ne_zero _)]
      · exact fun none => long (List.drop_eq_nil_iff.mp none)

/-- Exponents are written with a small mark and, on request, with either sign. -/
theorem exists_exponentText (place : Int) (plusSign : Bool) :
    ∃ exponent : ExponentText, exponent.chars =
      'e' :: ((if place < 0 then ['-'] else if plusSign then ['+'] else []) ++
        Number.digitChars place.natAbs) := by
  have signed : ∀ sign, ∃ exponent : ExponentText, exponent.capital = false ∧
      exponent.sign = sign ∧ exponent.digits = Number.digitChars place.natAbs :=
    fun sign => ⟨⟨false, sign, _, Number.digitChars_ne_nil _, areDigits_digitChars _⟩, rfl, rfl,
      rfl⟩
  by_cases negative : place < 0
  · obtain ⟨exponent, capital, sign, digits⟩ := signed (some true)
    exact ⟨exponent, by simp [ExponentText.chars, capital, sign, digits, negative]⟩
  · cases plusSign with
    | true =>
        obtain ⟨exponent, capital, sign, digits⟩ := signed (some false)
        exact ⟨exponent, by simp [ExponentText.chars, capital, sign, digits, negative]⟩
    | false =>
        obtain ⟨exponent, capital, sign, digits⟩ := signed none
        exact ⟨exponent, by simp [ExponentText.chars, capital, sign, digits, negative]⟩

theorem isUnsigned_scientificChars {digits : List Char} (leading : Leading digits) (place : Int)
    (plusSign : Bool) : IsUnsigned (Number.scientificChars plusSign digits place) := by
  obtain ⟨someDigit, areDigits, noZero⟩ := leading
  obtain ⟨exponent, exponentChars⟩ := exists_exponentText place plusSign
  intro negative
  match digits with
  | [] => exact absurd rfl someDigit
  | [digit] =>
      have areWhole : AreWhole [digit] := .inr ⟨someDigit, areDigits, noZero⟩
      refine ⟨⟨negative, [digit], [], some exponent, areWhole, nofun⟩, rfl, ?_⟩
      change [digit] ++ exponent.chars = _
      rw [exponentChars]
      rfl
  | digit :: second :: others =>
      obtain ⟨isDigit, areOthers⟩ := List.forall_mem_cons.mp areDigits
      have areWhole : AreWhole [digit] :=
        .inr ⟨List.cons_ne_nil _ _, List.forall_mem_singleton.mpr isDigit, noZero⟩
      refine ⟨⟨negative, [digit], second :: others, some exponent, areWhole, areOthers⟩, rfl, ?_⟩
      change [digit] ++ ('.' :: second :: others ++ exponent.chars) = _
      rw [exponentChars]
      rfl

/-- Finite doubles are written as numerals. -/
theorem exists_numeralText (layout : Number.Layout) {double : Float}
    (finite : double.isFinite = true) :
    ∃ text : NumeralText, text.chars = layout.chars double := by
  have signed : ∀ sign {chars : List Char}, IsUnsigned chars →
      ∃ text : NumeralText, text.chars = Number.signChars sign ++ chars := by
    intro sign chars unsigned
    cases sign with
    | positive =>
        obtain ⟨text, negative, rfl⟩ := unsigned false
        exact ⟨text, by rw [NumeralText.chars, negative]; rfl⟩
    | negative =>
        obtain ⟨text, negative, rfl⟩ := unsigned true
        exact ⟨text, by rw [NumeralText.chars, negative]; rfl⟩
  rw [Number.Layout.chars]
  have isDouble := Number.isDouble_unpack double.toModel
  change double.toModel.unpack.isFinite = true at finite
  obtain ⟨sign, unpacked⟩ | ⟨sign, mantissa, exponent, positive, unpacked⟩ :=
    Number.finite_cases finite
  · rw [unpacked]
    exact signed sign (isUnsigned_fraction (.inl rfl) (areDigits_zeros 1) (List.cons_ne_nil _ _))
  · rw [unpacked] at isDouble ⊢
    refine signed sign ?_
    have leading := leading_digitChars (Number.shortest_pos layout.tie isDouble)
    rw [Number.Layout.decimalChars]
    split
    · exact isUnsigned_plainChars leading _
    · exact isUnsigned_scientificChars leading _ _

/-! ### Quoted texts -/

/-- The piece that a written character is read as. Controls without a short escape become code
units. -/
def textPiece (c : Char) : Piece :=
  match c with
  | '\x08' | '\t' | '\n' | '\x0c' | '\r' => .plain c
  | _ => if c < ' ' then .unit c.toNat else .plain c

def textPieces (text : String) : List Piece :=
  text.toList.map textPiece

theorem hexDigits_control : ∀ number < 32,
    List.replicate (4 - (Text.hexDigits number).length) '0' ++ Text.hexDigits number =
      ['0', '0', Nat.digitChar (number / 16), Nat.digitChar (number % 16)] ∧
    hexValue? (Nat.digitChar (number / 16)) = some (number / 16) ∧
    hexValue? (Nat.digitChar (number % 16)) = some (number % 16) := by
  decide

theorem quoted_control {c : Char} (control : c < ' ') {pieces : List Piece} {chars : List Char}
    (quoted : Quoted pieces chars) :
    Quoted (.unit c.toNat :: pieces)
      ('\\' :: 'u' :: (List.replicate (4 - (Text.hexDigits c.toNat).length) '0' ++
        Text.hexDigits c.toNat) ++ chars) := by
  obtain ⟨digits, high, low⟩ := hexDigits_control c.toNat control
  have value : 16 * (16 * (16 * 0 + 0) + c.toNat / 16) + c.toNat % 16 = c.toNat := by omega
  have zero : hexValue? '0' = some 0 := rfl
  have unit := Quoted.unit zero zero high low quoted
  rw [value] at unit
  rw [digits]
  exact unit

theorem quoted_textChar (c : Char) {pieces : List Piece} {chars : List Char}
    (quoted : Quoted pieces chars) :
    Quoted (textPiece c :: pieces) (Document.textChar c ++ chars) := by
  unfold Document.textChar
  split
  case h_8 notQuote notBackslash notBackspace notTab notLine notPage notReturn =>
    have piece : textPiece c = if c < ' ' then .unit c.toNat else .plain c := by
      unfold textPiece
      split <;> first | rfl | contradiction
    rw [piece]
    split
    next control => exact quoted_control control quoted
    next plain => exact .plain notQuote notBackslash plain quoted
  all_goals exact .escape rfl quoted

theorem quotedText_textChars (text : String) :
    QuotedText (textPieces text) (Document.textChars text) := by
  refine ⟨text.toList.flatMap Document.textChar, ?_, rfl⟩
  rw [textPieces]
  induction text.toList with
  | nil => exact .nil
  | cons c others ih => exact quoted_textChar c ih

theorem decode_unit {number : Nat} (single : number < 0xD800) (pieces : List Piece) :
    decode (.unit number :: pieces) none =
      (decode pieces none).map (Char.ofNat number :: ·) := by
  have closes : closesPair number = false := by
    simp only [closesPair, Bool.and_eq_false_iff, decide_eq_false_iff_not]
    omega
  have opens : opensPair number = false := by
    simp only [opensPair, Bool.and_eq_false_iff, decide_eq_false_iff_not]
    omega
  cases pieces with
  | nil => simp [decode, closes, opens]
  | cons piece pieces =>
      cases piece with
      | plain c => simp [decode, closes, opens]
      | unit second => simp [decode, closes, opens]

theorem decode_textPiece (c : Char) (pieces : List Piece) :
    decode (textPiece c :: pieces) none = (decode pieces none).map (c :: ·) := by
  unfold textPiece
  split
  case h_6 =>
    split
    next control =>
      have small : c.toNat < 32 := control
      rw [decode_unit (by omega), Char.ofNat_toNat]
    next => rfl
  all_goals rfl

theorem decode_textPieces (text : String) : decode (textPieces text) none = .ok text.toList := by
  rw [textPieces]
  induction text.toList with
  | nil => rfl
  | cons c others ih => rw [List.map_cons, decode_textPiece, ih]; rfl

/-! ### Documents -/

namespace Document

mutual

/-- The value that a document's texts spell. -/
def value : Document → Value
  | .number double => (parse (numberChars double)).1
  | .count n => .number (.plainly false n)
  | .text written => .text (textPieces written)
  | .list items => .list (itemValues items) none
  | .object members => .object (memberValues members) none

def itemValues : List Document → List Value
  | [] => []
  | item :: items => item.value :: itemValues items

def memberValues : List (String × Document) → List (List Piece × Value)
  | [] => []
  | (key, member) :: members => (textPieces key, member.value) :: memberValues members

end

end Document

theorem spelled_numberChars (double : Float) :
    Spelled (.value (parse (Document.numberChars double)).1) (Document.numberChars double) := by
  rw [Document.numberChars]
  split
  next finite =>
    obtain ⟨text, chars⟩ := exists_numeralText numberLayout finite
    have parsed : parse text.chars = (.number text.numeral, []) := by
      rw [parse, ← List.append_nil text.chars]
      exact run_numeralText text [] trivial
    rw [← chars, parsed]
    exact .number text
  next => exact .null

theorem spelled_digitChars (number : Nat) :
    Spelled (.value (.number (.plainly false number))) (Number.digitChars number) := by
  let text : NumeralText := ⟨false, _, [], none, areWhole_digitChars number, nofun⟩
  have chars : text.chars = Number.digitChars number := List.append_nil _
  have numeral : text.numeral = .plainly false number := by
    have digits : Number.ofDigits (Number.digitChars number ++ []) = number := by
      rw [List.append_nil, Number.ofDigits_digitChars]
    exact congrArg (Numeral.plainly false) digits
  rw [← numeral, ← chars]
  exact .number text

section Enclosed

variable {lead trail : List Char} (leadBlanks : IsBlanks lead) (trailBlanks : IsBlanks trail)

def SpelledItem (item : Value) (chars : List Char) : Prop :=
  Spelled (.value item) chars

/-- A written member. -/
def SpelledMember (member : List Piece × Value) (chars : List Char) : Prop :=
  ∃ keyChars gap valueChars, QuotedText member.1 keyChars ∧ IsBlanks gap ∧
    Spelled (.value member.2) valueChars ∧ chars = keyChars ++ ':' :: (gap ++ valueChars)

include leadBlanks trailBlanks

theorem spelled_items {item : Value} {chars : List Char} (spelled : SpelledItem item chars)
    {items : List Value} {parts : List (List Char)}
    (others : List.Forall₂ SpelledItem items parts) :
    Spelled (.items (item :: items))
      (lead ++ chars ++ parts.flatMap (fun part => ',' :: (lead ++ part)) ++ trail) := by
  induction others generalizing item chars with
  | nil =>
      have last := Spelled.lastItem leadBlanks trailBlanks spelled
      simpa using last
  | @cons next nextChars items parts nextSpelled _ ih =>
      have first := Spelled.item leadBlanks isBlanks_nil spelled (ih nextSpelled)
      simpa using first

theorem spelled_list {items : List Value} {parts : List (List Char)}
    (spelled : List.Forall₂ SpelledItem items parts) :
    Spelled (.value (.list items none)) (Document.enclosed '[' ']' lead trail parts) := by
  cases spelled with
  | nil => exact .emptyList isBlanks_nil
  | cons first others => exact .list (spelled_items leadBlanks trailBlanks first others)

theorem spelled_members {member : List Piece × Value} {chars : List Char}
    (spelled : SpelledMember member chars) {members : List (List Piece × Value)}
    {parts : List (List Char)} (others : List.Forall₂ SpelledMember members parts) :
    Spelled (.members (member :: members))
      (lead ++ chars ++ parts.flatMap (fun part => ',' :: (lead ++ part)) ++ trail) := by
  induction others generalizing member chars with
  | nil =>
      obtain ⟨keyChars, gap, valueChars, quoted, gapBlanks, spelled, rfl⟩ := spelled
      have last := Spelled.lastMember leadBlanks isBlanks_nil gapBlanks trailBlanks quoted spelled
      simpa using last
  | @cons next nextChars members parts nextSpelled _ ih =>
      obtain ⟨keyChars, gap, valueChars, quoted, gapBlanks, spelled, rfl⟩ := spelled
      have first := Spelled.member leadBlanks isBlanks_nil gapBlanks isBlanks_nil quoted spelled
        (ih nextSpelled)
      simpa using first

theorem spelled_object {members : List (List Piece × Value)} {parts : List (List Char)}
    (spelled : List.Forall₂ SpelledMember members parts) :
    Spelled (.value (.object members none)) (Document.enclosed '\x7b' '\x7d' lead trail parts) := by
  cases spelled with
  | nil => exact .emptyObject isBlanks_nil
  | cons first others => exact .object (spelled_members leadBlanks trailBlanks first others)

end Enclosed

mutual

theorem spelled_compactChars :
    ∀ document : Document, Spelled (.value document.value) document.compactChars
  | .number double => spelled_numberChars double
  | .count number => spelled_digitChars number
  | .text text => .text (quotedText_textChars text)
  | .list items => spelled_list isBlanks_nil isBlanks_nil (spelled_compactItems items)
  | .object members => spelled_object isBlanks_nil isBlanks_nil (spelled_compactMembers members)

theorem spelled_compactItems : ∀ items : List Document,
    List.Forall₂ SpelledItem (Document.itemValues items) (Document.compactItems items)
  | [] => .nil
  | item :: items => .cons (spelled_compactChars item) (spelled_compactItems items)

theorem spelled_compactMembers : ∀ members : List (String × Document),
    List.Forall₂ SpelledMember (Document.memberValues members) (Document.compactMembers members)
  | [] => .nil
  | (key, member) :: members =>
    .cons ⟨_, [], _, quotedText_textChars key, isBlanks_nil, spelled_compactChars member, rfl⟩
      (spelled_compactMembers members)

end

theorem isBlanks_newLine (level : Nat) : IsBlanks (Document.newLine level) := by
  refine List.forall_mem_cons.mpr ⟨rfl, fun c listed => ?_⟩
  rw [List.eq_of_mem_replicate listed]
  rfl

mutual

theorem spelled_indentedChars (level : Nat) :
    ∀ document : Document, Spelled (.value document.value) (document.indentedChars level)
  | .number double => spelled_numberChars double
  | .count number => spelled_digitChars number
  | .text text => .text (quotedText_textChars text)
  | .list items =>
    spelled_list (isBlanks_newLine _) (isBlanks_newLine _) (spelled_indentedItems (level + 1) items)
  | .object members =>
    spelled_object (isBlanks_newLine _) (isBlanks_newLine _)
      (spelled_indentedMembers (level + 1) members)

theorem spelled_indentedItems (level : Nat) : ∀ items : List Document,
    List.Forall₂ SpelledItem (Document.itemValues items) (Document.indentedItems level items)
  | [] => .nil
  | item :: items => .cons (spelled_indentedChars level item) (spelled_indentedItems level items)

theorem spelled_indentedMembers (level : Nat) : ∀ members : List (String × Document),
    List.Forall₂ SpelledMember (Document.memberValues members)
      (Document.indentedMembers level members)
  | [] => .nil
  | (key, member) :: members =>
    .cons ⟨_, [' '], _, quotedText_textChars key, List.forall_mem_singleton.mpr rfl,
      spelled_indentedChars level member, rfl⟩ (spelled_indentedMembers level members)

end

theorem isText_of_spelled {value : Value} {chars : List Char}
    (spelled : Spelled (.value value) chars) : IsText value (String.ofList chars) := by
  refine ⟨[], chars, [], isBlanks_nil, isBlanks_nil, spelled, ?_⟩
  rw [String.toList_ofList, List.append_nil]
  rfl

/-- A document is read alike from its compact text and from its indented one. -/
theorem readText_compact {α : Type} (form : Form α) (document : Document) :
    form.readText document.compact = form.read document.value :=
  readText_of_isText form (isText_of_spelled (spelled_compactChars document))

theorem readText_indented {α : Type} (form : Form α) (document : Document) :
    form.readText document.indented = form.read document.value :=
  readText_of_isText form (isText_of_spelled (spelled_indentedChars 0 document))

/-! ### Records -/

theorem keyed_memberValues (members : List (String × Document)) :
    Keyed (Document.memberValues members)
      (members.map fun member => (member.1, member.2.value)) := by
  induction members with
  | nil => exact .nil
  | cons member members ih => exact .cons ⟨decode_textPieces member.1, rfl⟩ ih

namespace Record

variable {α : Type} {record : Record α}

theorem lookup_fields {fields : List (Field α)} (nodup : (fields.map Field.key).Nodup)
    {field : Field α} (listed : field ∈ fields) (member : Field α → Value) :
    (fields.map fun field => (field.key, member field)).lookup field.key =
      some (member field) := by
  induction fields with
  | nil => cases listed
  | cons first fields ih =>
      obtain ⟨absent, nodup⟩ := List.nodup_cons.mp nodup
      obtain rfl | listed := List.mem_cons.mp listed
      · exact List.lookup_cons_self
      · have other : field.key ≠ first.key := fun same => absent (same ▸ List.mem_map_of_mem listed)
        rw [List.map_cons, List.lookup_cons, beq_false_of_ne other]
        exact ih nodup listed

/-- A record is read from what another one is written as if each of its fields is. -/
theorem read_write_eq_ok_iff (lawful : record.IsLawful) {written value : α} :
    record.form.read (record.form.write written).value = .ok value ↔
      ∀ field ∈ record.fields,
        field.form.read (field.write written).value = .ok (field.get value) := by
  let named := record.fields.map fun field => (field.key, (field.write written).value)
  have keyed : Keyed (Document.memberValues (record.fields.map fun field =>
      (field.key, field.write written))) named := by
    have memberwise := keyed_memberValues (record.fields.map fun field =>
      (field.key, field.write written))
    rwa [List.map_map] at memberwise
  have whole : ∀ entry ∈ named, entry.2.flaw? = none := by
    intro entry listed
    obtain ⟨field, -, rfl⟩ := List.mem_map.mp listed
    exact (spelled_compactChars (field.write written)).flaw?_eq_none
  have nodup : (record.knownKeys named).Nodup := by
    refine List.Nodup.filter _ ?_
    rw [List.map_map]
    exact lawful.nodup_keys
  have given : ∀ field ∈ record.fields,
      named.lookup field.key = some (field.write written).value :=
    fun field listed => lookup_fields lawful.nodup_keys listed fun field =>
      (field.write written).value
  refine (read_object_eq_ok_iff lawful keyed whole).trans ?_
  constructor
  · rintro ⟨-, fields⟩ field listed
    have gives := (fields field listed).1
    rwa [given field listed] at gives
  · intro fields
    refine ⟨nodup, fun field listed => ?_⟩
    rw [given field listed]
    exact ⟨fields field listed, nofun⟩

end Record

end TurtleGraphics.Json

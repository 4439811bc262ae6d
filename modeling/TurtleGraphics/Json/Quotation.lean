import TurtleGraphics.Json.Fault

set_option autoImplicit false

/-!
# Quoted texts in JSON

Between its quotes a text is a row of pieces: characters, written plainly or by a short escape, and
code units of 16 bits. Whether the code units make up characters is decided when the text is
decoded, since a text that nobody reads may hold anything.
-/

namespace TurtleGraphics.Json

inductive Piece where
  | plain (c : Char)
  /-- A code unit that was given by its hexadecimal number. -/
  | unit (value : Nat)
deriving DecidableEq, Repr, Inhabited

/-- Why a quoted text does not come to its closing quote. -/
inductive QuotationFlaw where
  | endOfText
  | controlCharacter
  | unknownEscape
  /-- A code unit with something other than four hexadecimal digits. -/
  | malformedUnit
deriving DecidableEq, Repr

def QuotationFlaw.fault : QuotationFlaw → Fault
  | .endOfText => .endInText
  | .controlCharacter => .controlCharacter
  | .unknownEscape => .invalidEscape
  | .malformedUnit => .invalidEscape

inductive EscapePhase where
  | outside
  | backslash
  | unit (missing : Nat) (value : Nat)
deriving DecidableEq, Repr

/-- A quoted text that is being scanned, with its latest piece first. -/
structure QuotationScan where
  pieces : List Piece
  escape : EscapePhase
deriving DecidableEq, Repr

def QuotationScan.start : QuotationScan := ⟨[], .outside⟩

inductive QuotationStep where
  | more (scan : QuotationScan)
  | complete (pieces : List Piece)
  | broken (pieces : List Piece) (cause : QuotationFlaw)

def shortEscape? : Char → Option Char
  | '"' => some '"'
  | '\\' => some '\\'
  | '/' => some '/'
  | 'b' => some '\x08'
  | 'f' => some '\x0c'
  | 'n' => some '\n'
  | 'r' => some '\r'
  | 't' => some '\t'
  | _ => none

def hexValue? (c : Char) : Option Nat :=
  if c.isDigit then some (c.toNat - '0'.toNat)
  else if 'a' ≤ c ∧ c ≤ 'f' then some (c.toNat - 'a'.toNat + 10)
  else if 'A' ≤ c ∧ c ≤ 'F' then some (c.toNat - 'A'.toNat + 10)
  else none

/-- Whether at least four bytes of text are left, as the digits of a code unit need. -/
def hasFourBytes (rest : List Char) : Bool :=
  4 ≤ (rest.take 4).foldl (fun bytes c => bytes + c.utf8Size) 0

/-- One more character of a quoted text; `rest` is what follows it. The end of the text is noticed
at the start of a code unit, before its digits are looked at. -/
def QuotationScan.step (scan : QuotationScan) (c : Char) (rest : List Char) : QuotationStep :=
  match scan.escape with
  | .outside =>
    if c = '"' then .complete scan.pieces.reverse
    else if c = '\\' then .more ⟨scan.pieces, .backslash⟩
    else if c < ' ' then .broken scan.pieces.reverse .controlCharacter
    else .more ⟨.plain c :: scan.pieces, .outside⟩
  | .backslash =>
    match shortEscape? c with
    | some meant => .more ⟨.plain meant :: scan.pieces, .outside⟩
    | none =>
      if c ≠ 'u' then .broken scan.pieces.reverse .unknownEscape
      else if hasFourBytes rest then .more ⟨scan.pieces, .unit 4 0⟩
      else .broken scan.pieces.reverse .endOfText
  | .unit missing value =>
    match hexValue? c with
    | none => .broken scan.pieces.reverse .malformedUnit
    | some digit =>
      if missing ≤ 1 then .more ⟨.unit (16 * value + digit) :: scan.pieces, .outside⟩
      else .more ⟨scan.pieces, .unit (missing - 1) (16 * value + digit)⟩

def opensPair (unit : Nat) : Bool :=
  0xD800 ≤ unit && unit ≤ 0xDBFF

def closesPair (unit : Nat) : Bool :=
  0xDC00 ≤ unit && unit ≤ 0xDFFF

def pairChar (first second : Nat) : Char :=
  Char.ofNat (0x10000 + (first - 0xD800) * 0x400 + (second - 0xDC00))

/-- What is wrong with a text that goes on, or ends, after the first half of a surrogate pair when
no further code unit follows. -/
def unfinishedPairFault : List Piece → Option QuotationFlaw → Fault
  | [], some .endOfText => .endInText
  | [], some .malformedUnit => .invalidEscape
  | _, _ => .unfinishedSurrogatePair

/-- The characters of a quoted text. Surrogates must come in pairs; the first fault in reading
order is reported, which may be the flaw at the end. -/
def decode : List Piece → Option QuotationFlaw → Except Fault (List Char)
  | [], none => .ok []
  | [], some cause => .error cause.fault
  | .plain c :: rest, cause => (decode rest cause).map (c :: ·)
  | .unit first :: .unit second :: rest, cause =>
    if closesPair first then .error .loneSurrogate
    else if opensPair first then
      if closesPair second then (decode rest cause).map (pairChar first second :: ·)
      else .error .loneSurrogate
    else (decode (.unit second :: rest) cause).map (Char.ofNat first :: ·)
  | .unit first :: rest, cause =>
    if closesPair first then .error .loneSurrogate
    else if opensPair first then .error (unfinishedPairFault rest cause)
    else (decode rest cause).map (Char.ofNat first :: ·)

end TurtleGraphics.Json

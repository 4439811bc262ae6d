import TurtleGraphics.CommandLine.Arguments

set_option autoImplicit false

/-!
# What arguments give

Arguments give entries, each of which is spelled in one or two ways. What is no option can be the
commands, even if it looks like an option; a value that is a path must look less like one.
-/

namespace TurtleGraphics.CommandLine

/-! ### Spellings -/

def NumberOption.name : NumberOption → String
  | .step => "step"
  | .delta => "delta"
  | .heading => "heading"
  | .startX => "start-x"
  | .startY => "start-y"

def PathOption.name : PathOption → String
  | .setup => "config"
  | .image => "png"

def Switch.name : Switch → String
  | .bracketed => "bracketed"
  | .json => "json"

def Information.name : Information → String
  | .version => "version"
  | .help => "help"

def Named.name : Named → String
  | .number named => named.name
  | .path named => named.name
  | .switch named => named.name
  | .information named => named.name

/-- The arguments that are never taken as the commands. -/
inductive IsOption : String → Prop
  | separator : IsOption "--"
  | alone {named : Named} : IsOption ("--" ++ named.name)
  | attached {named : Named} {value : String} : IsOption ("--" ++ named.name ++ "=" ++ value)
  | letters {letters : List Char} : letters ≠ [] →
      (∀ letter ∈ letters, letter = 'V' ∨ letter = 'h') →
      IsOption (String.ofList ('-' :: letters))

/-- An argument that does not even look like an option. -/
def IsPlain (text : String) : Prop :=
  text = "-" ∨ text.toList.head? ≠ some '-'

inductive Entry where
  | number (option : NumberOption) (value : Float)
  | path (option : PathOption) (path : String)
  | switch (switch : Switch)
  | commands (text : String)

def Entry.isCommands : Entry → Bool
  | .commands _ => true
  | _ => false

/-- The arguments that spell an entry, where the flag says that no commands stand before them. -/
inductive Spells (missing : Bool) : List String → Entry → Prop
  | number {option : NumberOption} {text : String} {value : Float} :
      Number.ofText? text = some value →
      Spells missing ["--" ++ option.name, text] (.number option value)
  | attachedNumber {option : NumberOption} {text : String} {value : Float} :
      Number.ofText? text = some value →
      Spells missing ["--" ++ option.name ++ "=" ++ text] (.number option value)
  | path {option : PathOption} {path : String} : path ≠ "" →
      IsPlain path ∨ missing = true ∧ ¬ IsOption path →
      Spells missing ["--" ++ option.name, path] (.path option path)
  | attachedPath {option : PathOption} {path : String} : path ≠ "" →
      Spells missing ["--" ++ option.name ++ "=" ++ path] (.path option path)
  | switch {switch : Switch} : Spells missing ["--" ++ switch.name] (.switch switch)
  | commands {text : String} : missing = true → ¬ IsOption text →
      Spells missing [text] (.commands text)

/-- All entries of some arguments, in order. After the separator there is room for the commands
only. -/
inductive Gives : Bool → List String → List Entry → Prop
  | done {missing : Bool} : Gives missing [] []
  | separated {missing : Bool} : Gives missing ["--"] []
  | separatedCommands {text : String} : Gives true ["--", text] [.commands text]
  | entry {missing : Bool} {spelling arguments : List String} {entry : Entry}
      {entries : List Entry} : Spells missing spelling entry →
      Gives (missing && !entry.isCommands) arguments entries →
      Gives missing (spelling ++ arguments) (entry :: entries)

/-! ### Shapes of spellings -/

theorem Named.ofLong?_name (named : Named) : ofLong? named.name = some named := by
  cases named with
  | number option => cases option <;> rfl
  | path option => cases option <;> rfl
  | switch switch => cases switch <;> rfl
  | information information => cases information <;> rfl

theorem Named.name_of_ofLong? {name : String} {named : Named}
    (known : ofLong? name = some named) : named.name = name := by
  unfold ofLong? at known
  split at known <;> cases known <;> rfl

theorem Named.isName (named : Named) : named.name.toList ≠ [] ∧ '=' ∉ named.name.toList := by
  cases named with
  | number option => cases option <;> decide
  | path option => cases option <;> decide
  | switch switch => cases switch <;> decide
  | information information => cases information <;> decide

theorem splitAtEquals_of_not_mem {name : List Char} (noEquals : '=' ∉ name) :
    splitAtEquals name = (name, none) := by
  induction name with
  | nil => rfl
  | cons letter name ih =>
      obtain ⟨other, later⟩ := not_or.mp (mt List.mem_cons.mpr noEquals)
      simp only [splitAtEquals, if_neg fun same => other (Eq.symm same), ih later]

theorem splitAtEquals_append {name : List Char} (noEquals : '=' ∉ name) (value : List Char) :
    splitAtEquals (name ++ '=' :: value) = (name, some value) := by
  induction name with
  | nil => rfl
  | cons letter name ih =>
      obtain ⟨other, later⟩ := not_or.mp (mt List.mem_cons.mpr noEquals)
      simp only [List.cons_append, splitAtEquals, if_neg fun same => other (Eq.symm same), ih later]

theorem append_splitAtEquals (text : List Char) :
    match splitAtEquals text with
    | (name, none) => text = name
    | (name, some value) => text = name ++ '=' :: value := by
  induction text with
  | nil => rfl
  | cons letter text ih =>
      by_cases equals : letter = '='
      · subst equals
        rfl
      · rcases parts : splitAtEquals text with ⟨name, _ | value⟩
        all_goals
          rw [parts] at ih
          simp only [splitAtEquals, if_neg equals, parts, List.cons_append, ← ih]

namespace Shape

theorem of_long {text : List Char} (named : text ≠ []) :
    of (String.ofList ('-' :: '-' :: text)) =
      (Named.ofLong? (String.ofList (splitAtEquals text).1)).elim .unknownLong
        fun meaning => .named meaning ((splitAtEquals text).2.map String.ofList) := by
  cases text with
  | nil => exact absurd rfl named
  | cons letter text =>
      simp only [of, String.toList_ofList]
      cases Named.ofLong? (String.ofList (splitAtEquals (letter :: text)).1) <;> rfl

theorem of_alone (named : Named) : of ("--" ++ named.name) = .named named none := by
  obtain ⟨nonempty, noEquals⟩ := named.isName
  have spelled : "--" ++ named.name = String.ofList ('-' :: '-' :: named.name.toList) := by
    simp [← String.toList_inj]
  rw [spelled, of_long nonempty, splitAtEquals_of_not_mem noEquals]
  simp [Named.ofLong?_name]

theorem of_attached (named : Named) (value : String) :
    of ("--" ++ named.name ++ "=" ++ value) = .named named (some value) := by
  obtain ⟨nonempty, noEquals⟩ := named.isName
  have spelled : "--" ++ named.name ++ "=" ++ value =
      String.ofList ('-' :: '-' :: (named.name.toList ++ '=' :: value.toList)) := by
    simp [← String.toList_inj]
  rw [spelled, of_long (List.append_ne_nil_of_left_ne_nil nonempty _),
    splitAtEquals_append noEquals]
  simp [Named.ofLong?_name]

theorem of_hyphen {first : Char} (others : List Char) (short : first ≠ '-') :
    of (String.ofList ('-' :: first :: others)) =
      .letters (Information.ofLetter? first)
        ((first :: others).all fun letter => (Information.ofLetter? letter).isSome) := by
  simp [of, short]

theorem isSome_ofLetter?_iff (letter : Char) :
    (Information.ofLetter? letter).isSome = true ↔ letter = 'V' ∨ letter = 'h' := by
  unfold Information.ofLetter?
  split <;> simp_all

theorem of_long_cases {text : List Char} (nonempty : text ≠ []) :
    let argument := String.ofList ('-' :: '-' :: text)
    (∃ known : Named, argument = "--" ++ known.name ∧ of argument = .named known none) ∨
    (∃ (known : Named) (value : String), argument = "--" ++ known.name ++ "=" ++ value ∧
      of argument = .named known (some value)) ∨
    of argument = .unknownLong := by
  intro argument
  have parts := append_splitAtEquals text
  have shape : of argument = _ := of_long nonempty
  rcases split : splitAtEquals text with ⟨name, attached⟩
  rw [split] at parts shape
  cases known : Named.ofLong? (String.ofList name) with
  | none =>
      rw [known] at shape
      exact .inr (.inr shape)
  | some meaning =>
      rw [known] at shape
      have spelled := Named.name_of_ofLong? known
      cases attached with
      | none =>
          refine .inl ⟨meaning, ?_, shape⟩
          simp [argument, spelled, parts, ← String.toList_inj]
      | some value =>
          refine .inr (.inl ⟨meaning, String.ofList value, ?_, shape⟩)
          simp [argument, spelled, parts, ← String.toList_inj]

/-- The spelling that each shape stands for. -/
theorem of_cases (text : String) :
    text = "--" ∧ of text = .separator ∨
    ((∃ known : Named, text = "--" ++ known.name ∧ of text = .named known none) ∨
    (∃ (known : Named) (value : String), text = "--" ++ known.name ++ "=" ++ value ∧
      of text = .named known (some value)) ∨
    of text = .unknownLong) ∨
    (∃ (chars : List Char) (first : Option Information) (allKnown : Bool),
      chars ≠ [] ∧ text = String.ofList ('-' :: chars) ∧ of text = .letters first allKnown ∧
      (allKnown = true ↔ ∀ letter ∈ chars, letter = 'V' ∨ letter = 'h')) ∨
    IsPlain text ∧ of text = .plain := by
  obtain ⟨chars, rfl⟩ : ∃ chars, text = String.ofList chars := ⟨text.toList, by simp⟩
  rcases chars with _ | ⟨first, _ | ⟨second, others⟩⟩
  · simp [IsPlain, of]
  · by_cases hyphen : first = '-'
    · subst hyphen
      simp [IsPlain, of]
    · simp [IsPlain, of, hyphen]
  · by_cases hyphen : first = '-'
    · subst hyphen
      by_cases double : second = '-'
      · subst double
        cases others with
        | nil => exact .inl ⟨rfl, rfl⟩
        | cons letter others =>
            exact .inr (.inl (of_long_cases (List.cons_ne_nil letter others)))
      · refine .inr (.inr (.inl ⟨second :: others, _, _, List.cons_ne_nil _ _, rfl,
          of_hyphen others double, ?_⟩))
        simp only [List.all_eq_true, isSome_ofLetter?_iff]
    · simp [IsPlain, of, hyphen]

theorem of_known {letters : List Char} (given : letters ≠ [])
    (known : ∀ letter ∈ letters, letter = 'V' ∨ letter = 'h') :
    ∃ information, of (String.ofList ('-' :: letters)) = .letters (some information) true := by
  cases letters with
  | nil => exact absurd rfl given
  | cons first others =>
      have firstKnown := known first List.mem_cons_self
      obtain ⟨information, asked⟩ :=
        Option.isSome_iff_exists.mp ((isSome_ofLetter?_iff first).mpr firstKnown)
      have short : first ≠ '-' := by
        obtain rfl | rfl := firstKnown <;> decide
      have allKnown : (first :: others).all
          (fun letter => (Information.ofLetter? letter).isSome) = true := by
        simpa only [List.all_eq_true, isSome_ofLetter?_iff] using known
      exact ⟨information, by rw [of_hyphen others short, asked, allKnown]⟩

theorem isPathValue_of_isOption {text : String} (option : IsOption text) :
    (of text).isPathValue true = false := by
  cases option with
  | separator => rfl
  | alone =>
      rw [of_alone]
      rfl
  | attached =>
      rw [of_attached]
      rfl
  | letters given known =>
      obtain ⟨information, shape⟩ := of_known given known
      rw [shape]
      rfl

/-- An argument that is no option can be the commands, even if it looks like an option. -/
theorem isPathValue_true_iff {text : String} :
    (of text).isPathValue true = true ↔ ¬ IsOption text := by
  constructor
  · intro value option
    rw [isPathValue_of_isOption option] at value
    cases value
  · intro other
    obtain ⟨rfl, -⟩ | (⟨known, rfl, -⟩ | ⟨known, value, rfl, -⟩ | shape) |
      ⟨chars, first, allKnown, given, rfl, shape, known⟩ | ⟨-, shape⟩ := of_cases text
    · exact absurd .separator other
    · exact absurd .alone other
    · exact absurd .attached other
    · rw [shape]
      rfl
    · cases allKnown with
      | true => exact absurd (.letters given (known.mp rfl)) other
      | false =>
          rw [shape]
          rfl
    · rw [shape]
      rfl

theorem of_eq_plain_iff {text : String} : of text = .plain ↔ IsPlain text := by
  constructor
  · intro plain
    obtain ⟨-, shape⟩ | (⟨_, -, shape⟩ | ⟨_, _, -, shape⟩ | shape) | ⟨_, _, _, -, -, shape, -⟩ |
      ⟨looks, -⟩ := of_cases text
    · cases shape.symm.trans plain
    · cases shape.symm.trans plain
    · cases shape.symm.trans plain
    · cases shape.symm.trans plain
    · cases shape.symm.trans plain
    · exact looks
  · intro looks
    obtain ⟨chars, rfl⟩ : ∃ chars, text = String.ofList chars := ⟨text.toList, by simp⟩
    obtain same | other := looks
    · rw [same]
      rfl
    · cases chars with
      | nil => rfl
      | cons first others =>
          have noHyphen : first ≠ '-' := by simpa using other
          simp [of, noHyphen]

theorem isPathValue_false_iff {text : String} :
    (of text).isPathValue false = true ↔ IsPlain text := by
  rw [← of_eq_plain_iff]
  cases of text <;> simp [isPathValue]

theorem isPathValue_iff {free : Bool} {text : String} :
    (of text).isPathValue free = true ↔ IsPlain text ∨ free = true ∧ ¬ IsOption text := by
  cases free with
  | false => simp only [isPathValue_false_iff, Bool.false_eq_true, false_and, or_false]
  | true =>
      have other : IsPlain text → ¬ IsOption text := by
        intro plain
        rw [← isPathValue_true_iff, of_eq_plain_iff.mpr plain]
        rfl
      simp only [isPathValue_true_iff, true_and, or_iff_right_of_imp other]

end Shape

end TurtleGraphics.CommandLine

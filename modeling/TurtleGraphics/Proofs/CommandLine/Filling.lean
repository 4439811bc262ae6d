import TurtleGraphics.Proofs.CommandLine.Entries

set_option autoImplicit false

/-!
# Requests that arguments fill

Reading arguments fills a request with just the entries that they give, so neither the order of the
arguments nor their spelling matters to what the request holds.
-/

namespace TurtleGraphics.CommandLine

/-! ### Filling requests -/

/-- The parts of a request, each of which has room for one entry. -/
inductive Place where
  | number (option : NumberOption)
  | path (option : PathOption)
  | switch (switch : Switch)
  | commands
deriving DecidableEq

def Entry.place : Entry → Place
  | .number option _ => .number option
  | .path option _ => .path option
  | .switch named => .switch named
  | .commands _ => .commands

namespace Request

def number (request : Request) : NumberOption → Option Float
  | .step => request.step
  | .delta => request.delta
  | .heading => request.heading
  | .startX => request.startX
  | .startY => request.startY

def path (request : Request) : PathOption → Option String
  | .setup => request.setupPath
  | .image => request.imagePath

def isOn (request : Request) : Switch → Bool
  | .bracketed => request.bracketed
  | .json => request.json

def Holds (request : Request) : Entry → Prop
  | .number option value => request.number option = some value
  | .path option path => request.path option = some path
  | .switch switch => request.isOn switch = true
  | .commands text => request.commands = some text

/-- Adds one entry, for which there must be room. -/
def add (request : Request) (entry : Entry) : Option Request :=
  match entry with
  | .number .step value => return { request with step := ← once request.step value }
  | .number .delta value => return { request with delta := ← once request.delta value }
  | .number .heading value => return { request with heading := ← once request.heading value }
  | .number .startX value => return { request with startX := ← once request.startX value }
  | .number .startY value => return { request with startY := ← once request.startY value }
  | .path option path => request.addPath option path
  | .switch switch => request.addSwitch switch
  | .commands text => request.addCommands text

def addAll : List Entry → Request → Option Request
  | [], request => some request
  | entry :: entries, request => (request.add entry).bind (addAll entries)

def entryAt (request : Request) : Place → Option Entry
  | .number option => (request.number option).map (.number option)
  | .path option => (request.path option).map (.path option)
  | .switch switch => if request.isOn switch then some (.switch switch) else none
  | .commands => request.commands.map .commands

def put (request : Request) : Entry → Request
  | .number .step value => { request with step := some value }
  | .number .delta value => { request with delta := some value }
  | .number .heading value => { request with heading := some value }
  | .number .startX value => { request with startX := some value }
  | .number .startY value => { request with startY := some value }
  | .path .setup path => { request with setupPath := some path }
  | .path .image path => { request with imagePath := some path }
  | .switch .bracketed => { request with bracketed := true }
  | .switch .json => { request with json := true }
  | .commands text => { request with commands := some text }

theorem addNumber_eq_bind (request : Request) (option : NumberOption) (text : String) :
    request.addNumber option text =
      (Number.ofText? text).bind fun value => request.add (.number option value) := by
  cases option <;> rfl

theorem once_bind_eq_some_iff {α : Type} {given : Option α} {value : α} {next : Request}
    (fill : Option α → Request) :
    ((once given value).bind fun filled => some (fill filled)) = some next ↔
      given = none ∧ fill (some value) = next := by
  cases given <;> simp [once]

theorem add_eq_some_iff {request next : Request} {entry : Entry} :
    request.add entry = some next ↔
      (∀ option, entry ≠ .path option "") ∧ request.entryAt entry.place = none ∧
        request.put entry = next := by
  rcases entry with ⟨option, value⟩ | ⟨option, path⟩ | switch | text
  · cases option <;> simp [add, once_bind_eq_some_iff, entryAt, number, put, Entry.place]
  · cases option <;>
      simp [add, addPath, once_bind_eq_some_iff, entryAt, Request.path, put, Entry.place]
  · cases on : request.isOn switch
    all_goals
      cases switch <;> simp_all [add, addSwitch, entryAt, isOn, put, Entry.place]
  · simp [add, addCommands, once_bind_eq_some_iff, entryAt, put, Entry.place]

theorem addCommands_of_given {request : Request} (given : request.commands.isNone = false)
    (text : String) : request.addCommands text = none := by
  obtain ⟨commands, given⟩ := Option.isSome_iff_exists.mp (Option.isNone_eq_false_iff.mp given)
  simp [addCommands, once, given]

theorem holds_iff_entryAt (request : Request) (entry : Entry) :
    request.Holds entry ↔ request.entryAt entry.place = some entry := by
  cases entry <;> simp [Holds, entryAt, Entry.place]

/-- An entry fills its own place and leaves all others as they were. -/
theorem entryAt_put (request : Request) (entry : Entry) (place : Place) :
    (request.put entry).entryAt place =
      if place = entry.place then some entry else request.entryAt place := by
  rcases entry with ⟨option, value⟩ | ⟨option, path⟩ | switch | text
  · cases option <;> rcases place with ⟨⟨⟩⟩ | ⟨⟨⟩⟩ | ⟨⟨⟩⟩ | _ <;> rfl
  · cases option <;> rcases place with ⟨⟨⟩⟩ | ⟨⟨⟩⟩ | ⟨⟨⟩⟩ | _ <;> rfl
  · cases switch <;> rcases place with ⟨⟨⟩⟩ | ⟨⟨⟩⟩ | ⟨⟨⟩⟩ | _ <;> rfl
  · rcases place with ⟨⟨⟩⟩ | ⟨⟨⟩⟩ | ⟨⟨⟩⟩ | _ <;> rfl

theorem holds_add {request next : Request} {entry : Entry}
    (added : request.add entry = some next) (other : Entry) :
    next.Holds other ↔ request.Holds other ∨ other = entry := by
  obtain ⟨-, room, rfl⟩ := add_eq_some_iff.mp added
  rw [holds_iff_entryAt, holds_iff_entryAt, entryAt_put]
  -- Two entries of one place are told apart by there having been room.
  by_cases same : other.place = entry.place
  · rw [if_pos same, same, room]
    simp [eq_comm]
  · have different : other ≠ entry := by
      intro equal
      exact same (congrArg Entry.place equal)
    rw [if_neg same, or_iff_left different]

theorem isNone_commands_add {request next : Request} {entry : Entry}
    (added : request.add entry = some next) :
    next.commands.isNone = (request.commands.isNone && !entry.isCommands) := by
  have held := holds_add added
  cases entry with
  | commands text =>
      have filled : next.commands = some text := (held (.commands text)).mpr (.inr rfl)
      simp [filled, Entry.isCommands]
  | _ =>
      have kept : next.commands = request.commands := by
        apply Option.ext
        intro text
        exact (held (.commands text)).trans (or_iff_left nofun)
      simp [kept, Entry.isCommands]

theorem holds_addAll {entries : List Entry} {request final : Request}
    (added : addAll entries request = some final) (entry : Entry) :
    final.Holds entry ↔ request.Holds entry ∨ entry ∈ entries := by
  induction entries generalizing request with
  | nil =>
      cases added
      simp
  | cons first entries ih =>
      obtain ⟨next, addedFirst, addedRest⟩ := Option.bind_eq_some_iff.mp added
      rw [ih addedRest, holds_add addedFirst, List.mem_cons, or_assoc]

theorem not_holds_blank (entry : Entry) : ¬ blank.Holds entry := by
  rcases entry with ⟨option, value⟩ | ⟨option, value⟩ | switch | text
  · cases option <;> simp [Holds, number, blank]
  · cases option <;> simp [Holds, path, blank]
  · cases switch <;> simp [Holds, isOn, blank]
  · simp [Holds, blank]

theorem holds_addAll_blank {entries : List Entry} {request : Request}
    (added : addAll entries .blank = some request) (entry : Entry) :
    request.Holds entry ↔ entry ∈ entries := by
  rw [holds_addAll added, or_iff_right (not_holds_blank entry)]

/-- What a request comes to with some more entries. -/
def finishWith (entries : List Entry) (request : Request) : Intent :=
  match addAll entries request with
  | some final => final.finish
  | none => .reject

theorem finish_eq_draw {request final : Request} (finished : request.finish = .draw final) :
    final = request ∧ ¬ (request.json = true ∧ ∃ path, request.imagePath = some path) := by
  unfold finish at finished
  split at finished
  next => cases finished
  next compatible =>
    cases finished
    refine ⟨rfl, ?_⟩
    rintro ⟨json, path, image⟩
    simp [json, image] at compatible

end Request

/-! ### Reading what arguments give -/

/-- Reading goes on after an entry if there was room for it. -/
def readOn (arguments : List String) : Option Request → Intent
  | some request => readArguments request arguments
  | none => .reject

theorem readOn_eq_draw_iff {arguments : List String} {next : Option Request} {final : Request} :
    readOn arguments next = .draw final ↔
      ∃ request, next = some request ∧ readArguments request arguments = .draw final := by
  cases next <;> simp [readOn]

/-- An argument that is no option is read as the commands, unless they stand before it and its
letters ask for information. -/
theorem readArguments_of_free {text : String} (other : ¬ IsOption text) (request : Request)
    (arguments : List String) :
    readArguments request (text :: arguments) = readOn arguments (request.addCommands text) ∨
      request.commands.isNone = false ∧
        ∃ information, readArguments request (text :: arguments) = .inform information := by
  have value := Shape.isPathValue_true_iff.mpr other
  rw [readArguments]
  cases shape : Shape.of text with
  | plain => exact .inl rfl
  | unknownLong =>
      left
      cases missing : request.commands.isNone with
      | true => rfl
      | false =>
          rw [Request.addCommands_of_given missing]
          rfl
  | letters first allKnown =>
      have unknown : allKnown = false := by
        rw [shape] at value
        simpa only [Shape.isPathValue, Bool.true_and, Bool.not_eq_true'] using value
      subst unknown
      cases missing : request.commands.isNone with
      | true => exact .inl rfl
      | false =>
          cases first with
          | some information => exact .inr ⟨rfl, information, rfl⟩
          | none =>
              rw [Request.addCommands_of_given missing]
              exact .inl rfl
  | separator =>
      rw [shape] at value
      cases value
  | named meaning attached =>
      rw [shape] at value
      cases value

theorem Spells.read {request : Request} {spelling : List String} {entry : Entry}
    (spells : Spells request.commands.isNone spelling entry) (arguments : List String) :
    readArguments request (spelling ++ arguments) = readOn arguments (request.add entry) := by
  cases spells with
  | @number option text value read =>
      have shape : Shape.of ("--" ++ option.name) = .named (.number option) none :=
        Shape.of_alone (.number option)
      simp only [List.cons_append, List.nil_append, readArguments, shape,
        Request.addNumber_eq_bind, read, Option.bind_some]
      rfl
  | @attachedNumber option text value read =>
      have shape : Shape.of ("--" ++ option.name ++ "=" ++ text) =
          .named (.number option) (some text) := Shape.of_attached (.number option) text
      simp only [List.cons_append, List.nil_append, readArguments, shape,
        Request.addNumber_eq_bind, read, Option.bind_some]
      rfl
  | @path option path nonempty looks =>
      have shape : Shape.of ("--" ++ option.name) = .named (.path option) none :=
        Shape.of_alone (.path option)
      have value := Shape.isPathValue_iff.mpr looks
      simp only [List.cons_append, List.nil_append, readArguments, shape, value, if_true]
      rfl
  | @attachedPath option path nonempty =>
      have shape : Shape.of ("--" ++ option.name ++ "=" ++ path) =
          .named (.path option) (some path) := Shape.of_attached (.path option) path
      simp only [List.cons_append, List.nil_append, readArguments, shape]
      rfl
  | @switch switch =>
      have shape : Shape.of ("--" ++ switch.name) = .named (.switch switch) none :=
        Shape.of_alone (.switch switch)
      simp only [List.cons_append, List.nil_append, readArguments, shape]
      rfl
  | @commands text missing other =>
      obtain ending | ⟨given, -⟩ := readArguments_of_free other request arguments
      · exact ending
      · cases missing.symm.trans given

/-- Reading arguments adds the entries that they give, one after the other. -/
theorem Gives.read {missing : Bool} {arguments : List String} {entries : List Entry}
    (gives : Gives missing arguments entries) {request : Request}
    (commands : request.commands.isNone = missing) :
    readArguments request arguments = request.finishWith entries := by
  induction gives generalizing request with
  | done => rfl
  | separated => rfl
  | @separatedCommands text =>
      have free : readArguments request ["--", text] = readFreeArguments request [text] := rfl
      rw [free, readFreeArguments, Request.finishWith, Request.addAll, Request.add]
      cases request.addCommands text <;> rfl
  | @entry missing spelling arguments entry entries spells gives ih =>
      subst commands
      rw [spells.read, Request.finishWith, Request.addAll]
      cases added : request.add entry with
      | none => rfl
      | some next => exact ih (Request.isNone_commands_add added)

/-- Whether the spelling of an entry stands first. -/
def StartsWithEntry (missing : Bool) (arguments : List String) : Prop :=
  ∃ spelling rest entry, arguments = spelling ++ rest ∧ spelling ≠ [] ∧
    Spells missing spelling entry

theorem Spells.starts {missing : Bool} {argument : String} {others : List String} {entry : Entry}
    (spells : Spells missing (argument :: others) entry) (rest : List String) :
    StartsWithEntry missing (argument :: (others ++ rest)) :=
  ⟨argument :: others, rest, entry, rfl, List.cons_ne_nil _ _, spells⟩

section Accepted

variable {request final : Request} {arguments : List String}

theorem startsWithEntry_of_alone {known : Named}
    (accepted : readArguments request (("--" ++ known.name) :: arguments) = .draw final) :
    StartsWithEntry request.commands.isNone (("--" ++ known.name) :: arguments) := by
  rw [readArguments, Shape.of_alone] at accepted
  cases known with
  | number option =>
      cases arguments with
      | nil => cases accepted
      | cons text arguments =>
          simp only [Request.addNumber_eq_bind] at accepted
          cases read : Number.ofText? text with
          | none =>
              rw [read] at accepted
              cases accepted
          | some value => exact Spells.starts (.number read) arguments
  | path option =>
      cases arguments with
      | nil => cases accepted
      | cons path arguments =>
          simp only at accepted
          split at accepted
          next value =>
            have nonempty : path ≠ "" := by
              rintro rfl
              cases accepted
            exact Spells.starts (.path nonempty (Shape.isPathValue_iff.mp value)) arguments
          next => cases accepted
  | switch switch => exact Spells.starts .switch arguments
  | information information => cases accepted

theorem startsWithEntry_of_attached {known : Named} {value : String}
    (accepted : readArguments request (("--" ++ known.name ++ "=" ++ value) :: arguments) =
      .draw final) :
    StartsWithEntry request.commands.isNone
      (("--" ++ known.name ++ "=" ++ value) :: arguments) := by
  rw [readArguments, Shape.of_attached] at accepted
  cases known with
  | number option =>
      simp only [Request.addNumber_eq_bind] at accepted
      cases read : Number.ofText? value with
      | none =>
          rw [read] at accepted
          cases accepted
      | some number => exact Spells.starts (.attachedNumber read) arguments
  | path option =>
      have nonempty : value ≠ "" := by
        rintro rfl
        cases accepted
      exact Spells.starts (.attachedPath nonempty) arguments
  | switch switch => cases accepted
  | information information => cases accepted

/-- What is no option is only accepted as the commands. -/
theorem startsWithEntry_of_free {argument : String} (other : ¬ IsOption argument)
    (accepted : readArguments request (argument :: arguments) = .draw final) :
    StartsWithEntry request.commands.isNone (argument :: arguments) := by
  cases missing : request.commands.isNone with
  | true => exact Spells.starts (.commands rfl other) arguments
  | false =>
      obtain ending | ⟨-, information, ending⟩ := readArguments_of_free other request arguments
      · rw [Request.addCommands_of_given missing] at ending
        cases ending.symm.trans accepted
      · cases ending.symm.trans accepted

/-- Arguments that are read to the end start with the spelling of an entry, unless there are none
or the separator stands first. -/
theorem readArguments_cases (accepted : readArguments request arguments = .draw final) :
    arguments = [] ∨
    (∃ texts, arguments = "--" :: texts ∧ readFreeArguments request texts = .draw final) ∨
    StartsWithEntry request.commands.isNone arguments := by
  cases arguments with
  | nil => exact .inl rfl
  | cons argument arguments =>
      right
      by_cases option : IsOption argument
      · cases option with
        | separator => exact .inl ⟨arguments, rfl, accepted⟩
        | alone => exact .inr (startsWithEntry_of_alone accepted)
        | attached => exact .inr (startsWithEntry_of_attached accepted)
        | letters given known =>
            obtain ⟨information, allKnown⟩ := Shape.of_known given known
            rw [readArguments, allKnown] at accepted
            cases accepted
      · exact .inr (startsWithEntry_of_free option accepted)

end Accepted

theorem exists_gives_of_separator {request final : Request} {texts : List String}
    (free : readFreeArguments request texts = .draw final) :
    ∃ entries, Gives request.commands.isNone ("--" :: texts) entries := by
  cases texts with
  | nil => exact ⟨[], .separated⟩
  | cons text texts =>
      rw [readFreeArguments] at free
      cases missing : request.commands.isNone with
      | false =>
          rw [Request.addCommands_of_given missing] at free
          cases free
      | true =>
          cases texts with
          | nil => exact ⟨[.commands text], .separatedCommands⟩
          | cons second texts =>
              rw [Option.isNone_iff_eq_none] at missing
              simp only [readFreeArguments, Request.addCommands, missing] at free
              cases free

theorem exists_gives {request final : Request} {arguments : List String}
    (accepted : readArguments request arguments = .draw final) :
    ∃ entries, Gives request.commands.isNone arguments entries := by
  -- A spelling is one or two arguments long, so the induction is on how many are left.
  induction total : arguments.length using Nat.strongRecOn generalizing request arguments with
  | ind count ih =>
      obtain rfl | ⟨texts, rfl, free⟩ | ⟨spelling, rest, entry, rfl, nonempty, spells⟩ :=
        readArguments_cases accepted
      · exact ⟨[], .done⟩
      · exact exists_gives_of_separator free
      · rw [spells.read, readOn_eq_draw_iff] at accepted
        obtain ⟨next, added, accepted⟩ := accepted
        have shorter : rest.length < count := by
          have := List.length_pos_iff.mpr nonempty
          rw [List.length_append] at total
          omega
        obtain ⟨entries, gives⟩ := ih rest.length shorter accepted rfl
        rw [Request.isNone_commands_add added] at gives
        exact ⟨entry :: entries, .entry spells gives⟩

/-- What no entry gives is missing from the request. -/
theorem eq_none_of_absent {α : Type} {given : α → Prop} {held : Option α}
    (holds : ∀ value, held = some value ↔ given value) (absent : ∀ value, ¬ given value) :
    held = none := by
  apply Option.eq_none_iff_forall_ne_some.mpr
  intro value same
  exact absent value ((holds value).mp same)

namespace Intent

variable {arguments : List String} {request : Request}

theorem exists_gives (accepted : ofArguments arguments = .draw request) :
    ∃ entries, Gives true arguments entries :=
  CommandLine.exists_gives accepted

theorem finishWith_of_gives (accepted : ofArguments arguments = .draw request)
    {entries : List Entry} (gives : Gives true arguments entries) :
    Request.addAll entries .blank = some request ∧ request.finish = .draw request := by
  have finished : Request.finishWith entries .blank = .draw request :=
    (gives.read rfl).symm.trans accepted
  rw [Request.finishWith] at finished
  cases added : Request.addAll entries .blank with
  | none =>
      rw [added] at finished
      cases finished
  | some final =>
      rw [added] at finished
      obtain ⟨rfl, -⟩ := Request.finish_eq_draw finished
      exact ⟨rfl, finished⟩

/-- A request holds what the arguments give, however they spell it and in whatever order. -/
theorem holds_iff_mem (accepted : ofArguments arguments = .draw request) {entries : List Entry}
    (gives : Gives true arguments entries) (entry : Entry) :
    request.Holds entry ↔ entry ∈ entries := by
  obtain ⟨added, -⟩ := finishWith_of_gives accepted gives
  exact Request.holds_addAll_blank added entry

theorem json_eq_false_of_image (accepted : ofArguments arguments = .draw request) {path : String}
    (image : request.imagePath = some path) : request.json = false := by
  obtain ⟨entries, gives⟩ := exists_gives accepted
  obtain ⟨-, finished⟩ := finishWith_of_gives accepted gives
  obtain ⟨-, compatible⟩ := Request.finish_eq_draw finished
  rw [← Bool.not_eq_true]
  intro json
  exact compatible ⟨json, path, image⟩

end Intent

end TurtleGraphics.CommandLine

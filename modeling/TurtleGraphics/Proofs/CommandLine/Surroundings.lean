import TurtleGraphics.Proofs.CommandLine.Precedence
import TurtleGraphics.Proofs.CommandLine.Printouts

set_option autoImplicit false

/-!
# Commands among options

A text of turtle symbols is taken as the commands, whatever options surround it and however many
hyphens it begins with. The one exception is the text of two hyphens alone, which is the separator.
-/

namespace TurtleGraphics.CommandLine

open Json

/-- A text of which every character is a command of the larger alphabet. -/
def IsTurtleText (text : String) : Prop :=
  ∀ symbol ∈ text.toList, symbol ∈ ['F', 'f', '+', '-', '[', ']']

-- The instance that is found otherwise looks at every character there is.
instance (text : String) : Decidable (IsTurtleText text) :=
  List.decidableBAll _ text.toList

/-- Arguments that are options with their values, none of which is a path. -/
inductive AreOptions : List String → List Entry → Prop
  | done : AreOptions [] []
  | option {spelling arguments : List String} {entry : Entry} {entries : List Entry} :
      Spells false spelling entry → (∀ option path, entry ≠ .path option path) →
      AreOptions arguments entries → AreOptions (spelling ++ arguments) (entry :: entries)

/-- The options among the entries override their parts of a setup, and nothing else is changed. -/
structure Overrides (entries : List Entry) (base setup : Setup) : Prop where
  step : IsGivenOr (.number .step · ∈ entries) base.motion.step setup.motion.step
  delta : IsGivenOr (.number .delta · ∈ entries) base.motion.delta setup.motion.delta
  heading : IsGivenOr (.number .heading · ∈ entries) base.motion.heading setup.motion.heading
  startX : IsGivenOr (.number .startX · ∈ entries) base.motion.start.x setup.motion.start.x
  startY : IsGivenOr (.number .startY · ∈ entries) base.motion.start.y setup.motion.start.y
  branching : .switch .bracketed ∈ entries → setup.alphabet = .bracketed
  alphabet : .switch .bracketed ∉ entries → setup.alphabet = base.alphabet
  viewport : setup.viewport = base.viewport
  scale : setup.scale = base.scale
  style : setup.style = base.style

/-- The output is decoded as an object whose first member is the command text. -/
def ReportsCommands (output commands : String) : Prop :=
  ∃ key pieces members, PrintedAs output (.object ((key, .text pieces) :: members) none) ∧
    decode key none = .ok "commands".toList ∧ decode pieces none = .ok commands.toList

/-- The text is drawn and reported wherever it stands among options, each of which is given once at
most and takes effect. -/
def StandsAsCommands (text : String) : Prop :=
  ∀ (before after : List String) (first second : List Entry)
    (readFile : String → Except FileFault String),
    AreOptions before first → AreOptions after second →
    ((first ++ second).map Entry.place).Nodup →
      let answer := (Intent.ofArguments (before ++ text :: after)).answer readFile
      answer.exit = 0 ∧ ReportsCommands answer.output text ∧
      ∃ setup segments outcome, Overrides (first ++ second) .standard setup ∧
        setup.Draws text segments outcome ∧
        answer.output = (printout text segments outcome).indented ++ "\n"

/-! ### Turtle texts are no options -/

theorem Named.not_isTurtleText (named : Named) : ¬ IsTurtleText named.name := by
  cases named with
  | number option => cases option <;> decide
  | path option => cases option <;> decide
  | switch switch => cases switch <;> decide
  | information information => cases information <;> decide

theorem IsTurtleText.not_isOption {text : String} (isTurtleText : IsTurtleText text)
    (unseparated : text ≠ "--") : ¬ IsOption text := by
  intro option
  cases option with
  | separator => exact unseparated rfl
  | @alone named =>
      apply named.not_isTurtleText
      intro symbol member
      exact isTurtleText symbol (by simp [member])
  | @attached named value =>
      apply named.not_isTurtleText
      intro symbol member
      exact isTurtleText symbol (by simp [member])
  | @letters letters given known =>
      -- One known letter suffices, for neither of them is a turtle symbol.
      obtain ⟨letter, member⟩ := List.exists_mem_of_ne_nil letters given
      have symbol := isTurtleText letter (by simp [member])
      obtain rfl | rfl := known letter member
      · exact absurd symbol (by decide)
      · exact absurd symbol (by decide)

/-! ### Reading commands among options -/

theorem Spells.of_false {missing : Bool} {spelling : List String} {entry : Entry}
    (spells : Spells false spelling entry) : Spells missing spelling entry := by
  cases spells with
  | number read => exact .number read
  | attachedNumber read => exact .attachedNumber read
  | path nonempty looks =>
      obtain plain | ⟨impossible, -⟩ := looks
      · exact .path nonempty (.inl plain)
      · cases impossible
  | attachedPath nonempty => exact .attachedPath nonempty
  | switch => exact .switch
  | commands impossible => cases impossible

theorem Spells.isCommands_eq_false {spelling : List String} {entry : Entry}
    (spells : Spells false spelling entry) : entry.isCommands = false := by
  cases spells with
  | commands impossible => cases impossible
  | number | attachedNumber | path | attachedPath | switch => rfl

namespace AreOptions

variable {arguments : List String} {entries : List Entry}

theorem gives (options : AreOptions arguments entries) {missing : Bool} {rest : List String}
    {others : List Entry} (gives : Gives missing rest others) :
    Gives missing (arguments ++ rest) (entries ++ others) := by
  induction options with
  | done => exact gives
  | option spells noPath options ih =>
      rw [List.append_assoc]
      refine .entry spells.of_false ?_
      -- An option leaves it open whether the commands are still missing.
      rw [spells.isCommands_eq_false, Bool.not_false, Bool.and_true]
      exact ih

/-- Options fill neither the place of the commands nor that of a path. -/
theorem forall_mem (options : AreOptions arguments entries) :
    ∀ entry ∈ entries, entry.isCommands = false ∧ ∀ option path, entry ≠ .path option path := by
  induction options with
  | done => exact nofun
  | option spells noPath options ih =>
      exact List.forall_mem_cons.mpr ⟨⟨spells.isCommands_eq_false, noPath⟩, ih⟩

end AreOptions

theorem place_ne_commands {entry : Entry} (other : entry.isCommands = false) :
    entry.place ≠ .commands := by
  cases entry with
  | commands text => cases other
  | number | path | switch => exact nofun

namespace Request

theorem overrides_override {request : Request} {entries : List Entry}
    (holds : ∀ entry, entry.isCommands = false → (request.Holds entry ↔ entry ∈ entries))
    (base : Setup) : Overrides entries base (request.override base) where
  step := isGivenOr_getD (fun value => holds (.number .step value) rfl) _
  delta := isGivenOr_getD (fun value => holds (.number .delta value) rfl) _
  heading := isGivenOr_getD (fun value => holds (.number .heading value) rfl) _
  startX := isGivenOr_getD (fun value => holds (.number .startX value) rfl) _
  startY := isGivenOr_getD (fun value => holds (.number .startY value) rfl) _
  branching given := if_pos ((holds (.switch .bracketed) rfl).mpr given)
  alphabet absent := if_neg (mt (holds (.switch .bracketed) rfl).mp absent)
  viewport := rfl
  scale := rfl
  style := rfl

end Request

section Between

variable {before after : List String} {first second : List Entry} {text : String}

/-- Options of distinct parts leave room for the commands between them. -/
theorem AreOptions.haveRoom (options : AreOptions before first) (others : AreOptions after second)
    (distinct : ((first ++ second).map Entry.place).Nodup) :
    HaveRoom (first ++ .commands text :: second) := by
  have harmless := List.forall_mem_append.mpr ⟨options.forall_mem, others.forall_mem⟩
  have room : HaveRoom (first ++ second) :=
    ⟨distinct, fun entry member option => (harmless entry member).2 option ""⟩
  have free : ∀ entry ∈ first ++ second, entry.place ≠ .commands := by
    intro entry member
    exact place_ne_commands (harmless entry member).1
  have added : HaveRoom (.commands text :: (first ++ second)) :=
    haveRoom_cons_iff.mpr ⟨nofun, free, room⟩
  exact added.perm List.perm_middle.symm

theorem AreOptions.path_not_mem (options : AreOptions before first)
    (others : AreOptions after second) (option : PathOption) (path : String) :
    .path option path ∉ first ++ .commands text :: second := by
  intro member
  obtain listed | listed := List.mem_append.mp member
  · exact (options.forall_mem _ listed).2 option path rfl
  · obtain impossible | listed := List.mem_cons.mp listed
    · cases impossible
    · exact (others.forall_mem _ listed).2 option path rfl

theorem AreOptions.accepted (options : AreOptions before first) (others : AreOptions after second)
    (distinct : ((first ++ second).map Entry.place).Nodup) (free : ¬ IsOption text) :
    ∃ request, Intent.ofArguments (before ++ text :: after) = .draw request ∧
      request.imagePath = none ∧
      ∀ entry, request.Holds entry ↔ entry ∈ first ++ .commands text :: second := by
  have afterwards : Gives false after second := by
    have gives : Gives false (after ++ []) (second ++ []) := others.gives .done
    rwa [List.append_nil, List.append_nil] at gives
  have gives : Gives true (before ++ text :: after) (first ++ .commands text :: second) :=
    options.gives (.entry (.commands rfl free) afterwards)
  have read : Intent.ofArguments (before ++ text :: after) =
      Request.finishWith (first ++ .commands text :: second) .blank := gives.read rfl
  have room : HaveRoom (first ++ .commands text :: second) := options.haveRoom others distinct
  obtain ⟨request, added⟩ := Request.exists_addAll_blank_iff.mpr room
  have holds := Request.holds_addAll_blank added
  have noImage : request.imagePath = none :=
    eq_none_of_absent (fun path => holds (.path .image path)) (options.path_not_mem others .image)
  refine ⟨request, ?_, noImage, holds⟩
  rw [read, Request.finishWith, added]
  simp [Request.finish, noImage]

end Between

/-! ### Reported commands -/

theorem reportsCommands_report (report : Report) : ReportsCommands report.text report.commands :=
  ⟨_, _, _, printedAs_indented report.document, decode_textPieces _, decode_textPieces _⟩

theorem ReportsCommands.unique {output commands others : String}
    (reports : ReportsCommands output commands) (reportsOthers : ReportsCommands output others) :
    commands = others := by
  obtain ⟨key, pieces, members, printed, -, decoded⟩ := reports
  obtain ⟨otherKey, otherPieces, otherMembers, otherPrinted, -, otherDecoded⟩ := reportsOthers
  cases printed.isText.unique otherPrinted.isText
  exact String.toList_inj.mp (Except.ok.inj (decoded.symm.trans otherDecoded))

namespace Intent

/-- A text of turtle symbols that is not the separator is drawn and reported, however many hyphens
it begins with and whatever options surround it. -/
theorem standsAsCommands_of_isTurtleText {text : String} (isTurtleText : IsTurtleText text)
    (unseparated : text ≠ "--") : StandsAsCommands text := by
  intro before after first second readFile options others distinct answer
  obtain ⟨request, accepted, noImage, holds⟩ :=
    options.accepted others distinct (isTurtleText.not_isOption unseparated)
  have given : .commands text ∈ first ++ .commands text :: second := by simp
  have commands : request.commands = some text := (holds (.commands text)).mpr given
  have loaded : request.setup readFile = .ok (request.override .standard) := by
    have isBase : IsBase (first ++ .commands text :: second) readFile .standard :=
      .standard (options.path_not_mem others .setup) given
    rw [Request.setup, Request.baseSetup_of_isBase holds isBase]
    rfl
  have asked : answer = request.answer readFile := answer_of_accepted accepted readFile
  have drawn : request.drawnCommands = text := by
    rw [Request.drawnCommands, commands, Option.getD_some]
  obtain ⟨exit, -, output⟩ := Request.answer_of_printed loaded noImage
  rw [drawn] at output
  rw [asked, output]
  refine ⟨exit, reportsCommands_report _, request.override .standard, _, _,
    request.overrides_override ?_ .standard, Setup.draws _ text, ?_⟩
  · intro entry other
    have different : entry ≠ .commands text := by
      rintro rfl
      cases other
    rw [holds entry]
    simp [different]
  · exact Report.text_ofSetup _ _

/-- Three hyphens are commands, between a value that begins with a hyphen and two switches. -/
theorem standsAsCommands_hyphens :
    let readFile (_ : String) : Except FileFault String := .error .missing
    let answer := (ofArguments ["--start-x", "-2", "---", "--bracketed", "--json"]).answer readFile
    IsTurtleText "---" ∧ "---" ≠ "--" ∧ answer.exit = 0 ∧ ReportsCommands answer.output "---" ∧
      ∃ (setup : Setup) (segments : List Segment) (outcome : Outcome),
        setup.motion.start.x = -2.0 ∧ setup.motion.start.y = 0.0 ∧
        setup.alphabet = .bracketed ∧ setup.Draws "---" segments outcome ∧
        answer.output = (printout "---" segments outcome).indented ++ "\n" := by
  intro readFile answer
  have isTurtleText : IsTurtleText "---" := by decide
  have unseparated : "---" ≠ "--" := by decide
  have startX : Spells false ["--" ++ NumberOption.startX.name, "-2"] (.number .startX (-2.0)) :=
    .number rfl
  have bracketed : Spells false ["--" ++ Switch.bracketed.name] (.switch .bracketed) := .switch
  have json : Spells false ["--" ++ Switch.json.name] (.switch .json) := .switch
  have before : AreOptions ["--start-x", "-2"] [.number .startX (-2.0)] :=
    .option startX nofun .done
  have after : AreOptions ["--bracketed", "--json"] [.switch .bracketed, .switch .json] :=
    .option bracketed nofun (.option json nofun .done)
  obtain ⟨exit, reports, setup, segments, outcome, overrides, draws, output⟩ :=
    standsAsCommands_of_isTurtleText isTurtleText unseparated _ _ _ _ readFile before after
      (by decide)
  refine ⟨isTurtleText, unseparated, exit, reports, setup, segments, outcome,
    overrides.startX.1 (-2.0) (by simp), overrides.startY.2 (by simp),
    overrides.branching (by simp), draws, output⟩

/-- Two hyphens alone are the separator. No commands are left, so the demonstration is drawn. -/
theorem not_standsAsCommands_separator :
    IsTurtleText "--" ∧ ¬ StandsAsCommands "--" := by
  refine ⟨by decide, ?_⟩
  intro stands
  let readFile (_ : String) : Except FileFault String := .error .missing
  obtain ⟨-, reported, -⟩ := stands [] [] [] [] readFile .done .done List.nodup_nil
  have drawn : ofArguments ["--"] = .draw .blank := by decide
  have loaded : Request.blank.setup readFile = .ok (Request.blank.override .demo) := rfl
  obtain ⟨-, -, output⟩ := Request.answer_of_printed loaded rfl
  have demo : ReportsCommands ((ofArguments ["--"]).answer readFile).output Setup.demoCommands := by
    rw [drawn, answer, output]
    exact reportsCommands_report _
  exact absurd (reported.unique demo) (by decide)

end Intent

end TurtleGraphics.CommandLine

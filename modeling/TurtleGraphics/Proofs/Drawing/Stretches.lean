import TurtleGraphics.Proofs.Drawing.Connections
import TurtleGraphics.Proofs.Drawing.Reports
import TurtleGraphics.Proofs.Turtle.Spoiling

set_option autoImplicit false

/-!
# Stretches of a drawing

What lies between two points of a drawing, whatever its surface refuses later. As long as no cursor
is restored, nothing that was infinite or NaN becomes finite again, neither where the turtle stands
nor in what it draws.
-/

namespace TurtleGraphics

theorem Command.exists_step (alphabet : Alphabet) {symbol : Char}
    (steps : symbol = 'F' ∨ symbol = 'f') :
    ∃ command, ofSymbol? alphabet symbol = some command ∧
      (command = .forward ∨ command = .move) := by
  rcases steps with rfl | rfl
  · exact ⟨.forward, by cases alphabet <;> rfl, .inl rfl⟩
  · exact ⟨.move, by cases alphabet <;> rfl, .inr rfl⟩

namespace Session

variable {σ : Type} [Surface σ]

/-- A drawing stands here when it has read a part of its commands and nothing was refused so far. -/
inductive Reaches (session : Session σ) (commands : String) (part : List Char) : Turtle → Prop
  | reading {begun : σ} {stopped : Progress σ} :
      part <+: commands.toList →
      Surface.perform (.begin session.setup.style) session.surface = (.ok (), begun) →
      (opened session.setup commands begun).readAll session.setup.motion session.setup.alphabet
        part = (.ok (), stopped) →
      session.Reaches commands part stopped.turtle

variable {session : Session σ} {commands : String} {part : List Char} {turtle : Turtle}

/-- What the surface accepts decides how far a drawing comes, and the commands alone where to. -/
theorem reaches_iff : session.Reaches commands part turtle ↔
    part <+: commands.toList ∧
    (∃ reached, Surface.performAll (made session.setup (.ofList part)) session.surface =
      (.ok (), reached)) ∧
    turtle = session.setup.motion.turtle.walk session.setup.motion.step
      session.setup.motion.delta (session.setup.alphabet.commands part) := by
  constructor
  · rintro ⟨begins, started, reading⟩
    obtain ⟨reached, accepted, rfl⟩ := Progress.readAll_accepted _ _ reading
    refine ⟨begins, ⟨reached, ?_⟩, rfl⟩
    rw [performAll_made started commands, String.toList_ofList]
    exact accepted
  · rintro ⟨begins, ⟨reached, performed⟩, rfl⟩
    rcases started : Surface.perform (.begin session.setup.style) session.surface with
      ⟨_ | _, begun⟩
    · rw [made, Surface.performAll, started] at performed
      cases performed
    · have reading := Progress.readAll_spec session.setup.motion session.setup.alphabet part
        (opened session.setup commands begun)
      have begunSurface : (opened session.setup commands begun).surface = begun := rfl
      rw [performAll_made started commands, String.toList_ofList] at performed
      rw [begunSurface, performed] at reading
      exact .reading begins started reading

theorem reaches_of_willing (willing : Surface.Willing session.surface)
    (begins : part <+: commands.toList) :
    session.Reaches commands part (session.setup.motion.turtle.walk session.setup.motion.step
      session.setup.motion.delta (session.setup.alphabet.commands part)) := by
  obtain ⟨reached, accepted, _⟩ := willing.performAll (made session.setup (.ofList part))
  exact reaches_iff.mpr ⟨begins, ⟨reached, accepted⟩, rfl⟩

namespace Reaches

variable {front back : List Char}

theorem turtle_eq (reaches : session.Reaches commands part turtle) :
    turtle = session.setup.motion.turtle.walk session.setup.motion.step
      session.setup.motion.delta (session.setup.alphabet.commands part) :=
  (reaches_iff.mp reaches).2.2

theorem turtle_append {later : Turtle} (reaches : session.Reaches commands front turtle)
    (further : session.Reaches commands (front ++ back) later) :
    later = turtle.walk session.setup.motion.step session.setup.motion.delta
      (session.setup.alphabet.commands back) := by
  rw [further.turtle_eq, reaches.turtle_eq, Alphabet.commands_append, Turtle.walk_append]

theorem made_prefix (setup : Setup) (begins : front <+: part) :
    made setup (.ofList front) <+: made setup (.ofList part) := by
  obtain ⟨back, rfl⟩ := begins
  rw [made, made, Motion.segments, Motion.segments, String.toList_ofList, String.toList_ofList,
    Alphabet.commands_append, Turtle.segments_append, List.map_append]
  exact ⟨_, rfl⟩

/-- Whatever comes before a point of a drawing was reached as well. -/
theorem left (reaches : session.Reaches commands (front ++ back) turtle) :
    ∃ earlier, session.Reaches commands front earlier := by
  obtain ⟨begins, ⟨reached, performed⟩, _⟩ := reaches_iff.mp reaches
  have leads : front <+: front ++ back := List.prefix_append front back
  obtain ⟨further, longer⟩ := made_prefix session.setup leads
  rw [← longer] at performed
  refine ⟨_, reaches_iff.mpr ⟨leads.trans begins, ?_, rfl⟩⟩
  rcases first : Surface.performAll (made session.setup (.ofList front)) session.surface with
    ⟨_ | _, between⟩
  · rw [Surface.performAll_append_of_error first] at performed
    cases performed
  · exact ⟨between, rfl⟩

/-- The segments up to a point of a drawing are the first ones that are handed over. -/
theorem drawn (reaches : session.Reaches commands part turtle) :
    Turtle.segments session.setup.motion.step session.setup.motion.delta
      (session.setup.alphabet.commands part) session.setup.motion.turtle <+:
        session.drawn commands := by
  obtain ⟨begins, ⟨reached, performed⟩, _⟩ := reaches_iff.mp reaches
  obtain ⟨further, longer⟩ := made_prefix session.setup begins
  have calls : session.setup.calls commands =
      made session.setup (.ofList part) ++ (further ++ [.present]) := by
    rw [← List.append_assoc, longer, String.ofList_toList]
    rfl
  rw [drawn_eq, calls, Surface.attempted_append_of_ok performed, List.filterMap_append, made,
    List.filterMap_cons_none rfl, Call.filterMap_draw, Motion.segments, String.toList_ofList]
  exact List.prefix_append _ _

theorem unrestored {later : Turtle} (reaches : session.Reaches commands front turtle)
    (further : session.Reaches commands (front ++ back) later)
    (keeps : ∀ left symbol right standing, back = left ++ symbol :: right →
      session.Reaches commands (front ++ left) standing →
      Command.ofSymbol? session.setup.alphabet symbol = some .pop → standing.saved = []) :
    turtle.Unrestored session.setup.motion.step session.setup.motion.delta
      (session.setup.alphabet.commands back) := by
  rw [reaches.turtle_eq]
  apply Motion.unrestored_of_not_restores
  rintro left symbol right split ⟨pops, saved⟩
  rw [split, ← List.append_assoc] at further
  obtain ⟨standing, reached⟩ := further.left
  rw [← reached.turtle_eq] at saved
  exact saved (keeps left symbol right standing split reached pops)

end Reaches

/-- Along a stretch of a drawing in which no cursor is restored, what is lost stays lost. A step
that is not finite costs both coordinates, a step without a direction makes both NaN, and no
segment has a finite end where an earlier one of the stretch had none. -/
theorem render_never_heals (session : Session σ) {commands : String} {before between : List Char}
    {earlier later : Turtle} (reaches : session.Reaches commands before earlier)
    (further : session.Reaches commands (before ++ between) later)
    (unrestored : ∀ left symbol right standing, between = left ++ symbol :: right →
      session.Reaches commands (before ++ left) standing →
      Command.ofSymbol? session.setup.alphabet symbol = some .pop → standing.saved = []) :
    earlier.cursor.Spoils later.cursor ∧
    (∀ left symbol right standing, between = left ++ symbol :: right →
      symbol = 'F' ∨ symbol = 'f' → session.Reaches commands (before ++ left) standing →
      ∀ axis,
        (session.setup.motion.step.isFinite = false →
          (later.cursor.position.coordinate axis).isFinite = false) ∧
        (standing.cursor.heading.isNaN = true →
          (later.cursor.position.coordinate axis).isNaN = true)) ∧
    ∃ leading stretch trailing, session.drawn commands = leading ++ stretch ++ trailing ∧
      leading.length = before.count 'F' ∧ stretch.length = between.count 'F' ∧
      stretch.Pairwise Segment.Spoils := by
  have keeps := reaches.unrestored further unrestored
  refine ⟨?_, ?_, ?_⟩
  · rw [reaches.turtle_append further]
    exact keeps.spoils
  · intro left symbol right standing split steps reached axis
    obtain ⟨command, decoded, steps⟩ := Command.exists_step session.setup.alphabet steps
    rw [split, Motion.commands_decoded decoded] at keeps
    have spoils := keeps.advance_spoils steps
    rw [← reaches.turtle_append reached, ← Motion.commands_decoded decoded, ← split,
      ← reaches.turtle_append further] at spoils
    exact ⟨fun special => spoils.special axis (Cursor.isFinite_advance special axis),
      fun directionless => spoils.notANumber axis (Cursor.isNaN_advance directionless axis)⟩
  · obtain ⟨trailing, drawn⟩ := further.drawn
    rw [Alphabet.commands_append, Turtle.segments_append, ← reaches.turtle_eq] at drawn
    refine ⟨_, _, trailing, drawn.symm, ?_, ?_, keeps.pairwise_segments⟩
    · rw [Turtle.length_segments, Alphabet.count_forward]
    · rw [Turtle.length_segments, Alphabet.count_forward]

/-- Infinite steps and turns. The closing bracket finds nothing to restore, and the last two steps
have no direction. -/
theorem render_never_heals_infinite :
    let infinity : Float := 1.0 / 0.0
    let motion := { Motion.standard with step := infinity, delta := infinity }
    let session : Session Recording := ⟨.blank, { Setup.standard with
      alphabet := .bracketed
      motion }⟩
    ∃ earlier later, session.Reaches "F]+f[F" [] earlier ∧
      session.Reaches "F]+f[F" "F]+f[F".toList later ∧ earlier.cursor.Spoils later.cursor ∧
      (∀ axis, (later.cursor.position.coordinate axis).isFinite = false ∧
        (later.cursor.position.coordinate axis).isNaN = true) ∧
      ∃ first second trailing,
        session.drawn "F]+f[F" = [first, second] ++ trailing ∧ first.Spoils second := by
  intro infinity motion session
  have willing : Surface.Willing session.surface := Recording.willing .blank
  have before : session.Reaches "F]+f[F" [] _ := reaches_of_willing willing (by decide)
  have after : session.Reaches "F]+f[F" ([] ++ ['F', ']', '+', 'f', '[', 'F']) _ :=
    reaches_of_willing willing (by decide)
  have turned : session.Reaches "F]+f[F" ([] ++ ['F', ']', '+']) _ :=
    reaches_of_willing willing (by decide)
  have unrestored : ∀ left symbol right standing,
      ['F', ']', '+', 'f', '[', 'F'] = left ++ symbol :: right →
      session.Reaches "F]+f[F" ([] ++ left) standing →
      Command.ofSymbol? session.setup.alphabet symbol = some .pop → standing.saved = [] := by
    intro left symbol right standing split reached pops
    have closes : ']' = symbol := Command.symbol_eq_of_ofSymbol? pops
    subst closes
    obtain ⟨rfl, impossible⟩ | ⟨others, rfl, othersSplit⟩ := List.cons_eq_append_iff.mp split
    · cases impossible
    obtain ⟨rfl, -⟩ | ⟨last, rfl, lastSplit⟩ := List.cons_eq_append_iff.mp othersSplit
    · rw [reached.turtle_eq]
      rfl
    · have member : ']' ∈ ['+', 'f', '[', 'F'] := by
        rw [lastSplit]
        exact List.mem_append_right _ List.mem_cons_self
      exact absurd member (by decide)
  obtain ⟨spoils, steps, leading, stretch, trailing, drawn, leads, lasts, pairwise⟩ :=
    session.render_never_heals before after unrestored
  have lost := steps ['F', ']', '+'] 'f' ['[', 'F'] _ rfl (.inr rfl) turned
  have endless : infinity.isFinite = false := by decide
  have directionless : ∀ degrees, (Heading.normalize (degrees + infinity)).isNaN = true := by
    intro degrees
    rw [Heading.normalize_of_not_isFinite (Number.isFinite_add_of_special (.inr endless))]
    rfl
  obtain rfl := List.eq_nil_of_length_eq_zero leads
  obtain ⟨first, second, rfl⟩ := List.length_eq_two.mp lasts
  exact ⟨_, _, before, after, spoils,
    fun axis => ⟨(lost axis).1 endless, (lost axis).2 (directionless _)⟩, first, second, trailing,
    drawn, List.pairwise_pair.mp pairwise⟩

end Session

end TurtleGraphics

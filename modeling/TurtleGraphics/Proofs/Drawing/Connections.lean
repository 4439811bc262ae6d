import TurtleGraphics.Proofs.Drawing.Tallies
import TurtleGraphics.Proofs.Turtle.Trails

set_option autoImplicit false

/-!
# Connected drawings

Without steps that do not draw, every segment takes up the drawing at a point that it has reached
already. It goes on from the segment before it unless a cursor was restored in between.
-/

namespace TurtleGraphics

namespace Motion

variable (motion : Motion) (alphabet : Alphabet)

/-- A character that restores a cursor where it stands: there is one saved by the text before. -/
def Restores (before : List Char) (symbol : Char) : Prop :=
  Command.ofSymbol? alphabet symbol = some .pop ∧
    (motion.turtle.walk motion.step motion.delta (alphabet.commands before)).saved ≠ []

variable {motion alphabet}

theorem unrestored_of_not_restores {before between : List Char}
    (unrestored : ∀ left symbol right, between = left ++ symbol :: right →
      ¬ motion.Restores alphabet (before ++ left) symbol) :
    (motion.turtle.walk motion.step motion.delta (alphabet.commands before)).Unrestored
      motion.step motion.delta (alphabet.commands between) := by
  intro first second split
  obtain ⟨front, back, spelled, frontRead, backRead⟩ := List.filterMap_eq_append_iff.mp split
  obtain ⟨foreign, symbol, rest, backSpelled, ignored, decoded, _⟩ :=
    List.filterMap_eq_cons_iff.mp backRead
  have unread : alphabet.commands foreign = [] := List.filterMap_eq_nil_iff.mpr ignored
  have leading : alphabet.commands (before ++ (front ++ foreign)) =
      alphabet.commands before ++ first := by
    rw [Alphabet.commands_append, Alphabet.commands_append, unread, List.append_nil]
    exact congrArg _ frontRead
  have nothing := unrestored (front ++ foreign) symbol rest
    (by rw [spelled, backSpelled, List.append_assoc])
  rw [Restores, leading, Turtle.walk_append] at nothing
  exact Decidable.not_not.mp fun saved => nothing ⟨decoded, saved⟩

theorem commands_decoded {symbol : Char} {command : Command}
    (decoded : Command.ofSymbol? alphabet symbol = some command) (before after : List Char) :
    alphabet.commands (before ++ symbol :: after) =
      alphabet.commands before ++ command :: alphabet.commands after := by
  rw [Alphabet.commands_append]
  exact congrArg _ (List.filterMap_cons_some decoded)

theorem commands_forward (before after : List Char) :
    alphabet.commands (before ++ 'F' :: after) =
      alphabet.commands before ++ .forward :: alphabet.commands after :=
  commands_decoded (by cases alphabet <;> rfl) before after

/-- A step draws from where the text before it leads. -/
theorem segments_forward {commands : String} {before after : List Char}
    (spelled : commands.toList = before ++ 'F' :: after) :
    ∃ rest, motion.segments alphabet commands =
      motion.segments alphabet (String.ofList before) ++
        (motion.outcome alphabet (String.ofList before)).cursor.stroke motion.step :: rest := by
  rw [segments, spelled, commands_forward, Turtle.segments_forward, segments, outcome,
    String.toList_ofList]
  exact ⟨_, rfl⟩

theorem length_segments (motion : Motion) (alphabet : Alphabet) (commands : String) :
    (motion.segments alphabet commands).length = commands.toList.count 'F' := by
  rw [segments, Turtle.length_segments, alphabet.count_forward]

/-- Two steps that no step and no restored cursor stands between draw one line. -/
theorem segments_consecutive {commands : String} {before between after : List Char}
    (spelled : commands.toList = before ++ 'F' :: (between ++ 'F' :: after))
    (noStep : 'F' ∉ between) (penDown : 'f' ∉ between)
    (unrestored : ∀ left symbol right, between = left ++ symbol :: right →
      ¬ motion.Restores alphabet (before ++ 'F' :: left) symbol) :
    ∃ previous segment,
      (motion.segments alphabet commands)[before.count 'F']? = some previous ∧
      (motion.segments alphabet commands)[before.count 'F' + 1]? = some segment ∧
      segment.start = previous.finish := by
  let first := motion.turtle.walk motion.step motion.delta (alphabet.commands before)
  let reached := motion.turtle.walk motion.step motion.delta
    (alphabet.commands before ++ [.forward])
  let second := reached.walk motion.step motion.delta (alphabet.commands between)
  have noForward : .forward ∉ alphabet.commands between := by
    rw [← List.count_eq_zero, alphabet.count_forward]
    exact List.count_eq_zero.mpr noStep
  have noMove : .move ∉ alphabet.commands between := by
    rw [← List.count_eq_zero, alphabet.count_move]
    exact List.count_eq_zero.mpr penDown
  have length : (Turtle.segments motion.step motion.delta (alphabet.commands before)
      motion.turtle).length = before.count 'F' := by
    rw [Turtle.length_segments, alphabet.count_forward]
  have drawn : ∃ rest, motion.segments alphabet commands =
      Turtle.segments motion.step motion.delta (alphabet.commands before) motion.turtle ++
        first.cursor.stroke motion.step :: second.cursor.stroke motion.step :: rest := by
    rw [segments, spelled, commands_forward, Turtle.segments_forward, commands_forward,
      Turtle.segments_forward, Turtle.segments_of_not_mem noForward]
    exact ⟨_, rfl⟩
  obtain ⟨rest, drawn⟩ := drawn
  rw [drawn, ← length]
  refine ⟨first.cursor.stroke motion.step, second.cursor.stroke motion.step, ?_, ?_, ?_⟩
  · rw [List.getElem?_append_right (Nat.le_refl _), Nat.sub_self]
    rfl
  · rw [List.getElem?_append_right (Nat.le_add_right _ _), Nat.add_sub_cancel_left]
    rfl
  · have stays : second.cursor.position = reached.cursor.position := by
      have after : alphabet.commands before ++ [.forward] = alphabet.commands (before ++ ['F']) :=
        (commands_forward before []).symm
      apply Turtle.position_walk_of_still noForward noMove
      simp only [reached, after]
      apply unrestored_of_not_restores
      intro left symbol right inside
      rw [List.append_assoc]
      exact unrestored left symbol right inside
    have stepped : reached.cursor.position = (first.cursor.advance motion.step).position := by
      simp only [reached, Turtle.walk_append]
      rfl
    exact stays.trans stepped

end Motion

namespace Setup

/-- Without steps that do not draw, each segment starts at the start of the drawing or where an
earlier one ends, and so does what would follow the last one. A segment goes on from the one just
before it if no cursor is restored between their two steps. The first one always starts at the
start. -/
theorem draws_connected (setup : Setup) {commands : String} (penDown : 'f' ∉ commands.toList) :
    ∃ segments outcome, setup.Draws commands segments outcome ∧
      (∀ index segment, segments[index]? = some segment →
        segment.start = setup.motion.start ∨
          ∃ earlier ∈ segments.take index, segment.start = earlier.finish) ∧
      (∀ segment, segments[0]? = some segment → segment.start = setup.motion.start) ∧
      (∀ before between after,
        commands.toList = before ++ 'F' :: (between ++ 'F' :: after) → 'F' ∉ between →
        (∀ left symbol right, between = left ++ symbol :: right →
          ¬ setup.motion.Restores setup.alphabet (before ++ 'F' :: left) symbol) →
        ∃ previous segment, segments[before.count 'F']? = some previous ∧
          segments[before.count 'F' + 1]? = some segment ∧
          segment.start = previous.finish) ∧
      (outcome.cursor.position = setup.motion.start ∨
        ∃ segment ∈ segments, outcome.cursor.position = segment.finish) := by
  let motion := setup.motion
  have starts : motion.turtle.StandsOn [motion.start] := by
    intro cursor member
    rw [List.mem_singleton.mp member]
    exact List.mem_cons_self
  have noMove : .move ∉ setup.alphabet.commands commands.toList := by
    rw [← List.count_eq_zero, Alphabet.count_move]
    exact List.count_eq_zero.mpr penDown
  have reached : ∀ {point : Point} {segments : List Segment},
      point ∈ [motion.start] ++ segments.map Segment.finish →
        point = motion.start ∨ ∃ segment ∈ segments, point = segment.finish := by
    intro point segments member
    obtain atStart | ⟨segment, listed, same⟩ := by simpa using member
    · exact .inl atStart
    · exact .inr ⟨segment, listed, same.symm⟩
  refine ⟨_, _, setup.draws commands, ?_, ?_, ?_, ?_⟩
  · intro index segment drawn
    exact reached (starts.start_mem noMove drawn)
  · intro segment drawn
    exact List.mem_singleton.mp (starts.start_mem noMove drawn)
  · intro before between after spelled noStep unrestored
    have penDownBetween : 'f' ∉ between := by
      intro member
      rw [spelled] at penDown
      exact penDown (by simp [member])
    exact Motion.segments_consecutive spelled noStep penDownBetween unrestored
  · exact reached (starts.walk motion.step motion.delta noMove _ List.mem_cons_self)

/-- The branch is left before the third step. The closing bracket after that step finds nothing to
restore, so the fourth segment goes on from the third. -/
theorem draws_connected_stray :
    let setup := { Setup.standard with alphabet := .bracketed }
    let before := ['F', '[', '+', 'F', ']', ']', '-']
    'f' ∉ "F[+F]]-F]F".toList ∧ "F[+F]]-F]F".toList = before ++ 'F' :: ([']'] ++ ['F']) ∧
      ¬ setup.motion.Restores .bracketed (before ++ ['F']) ']' ∧
      ∃ segments outcome, setup.Draws "F[+F]]-F]F" segments outcome ∧
        (∀ segment, segments[2]? = some segment → segment.start = setup.motion.start ∨
          ∃ earlier ∈ segments.take 2, segment.start = earlier.finish) ∧
        ∃ previous segment, segments[2]? = some previous ∧ segments[3]? = some segment ∧
          segment.start = previous.finish := by
  intro setup before
  have penDown : 'f' ∉ "F[+F]]-F]F".toList := by decide
  have stray : ¬ setup.motion.Restores .bracketed (before ++ ['F']) ']' := by
    rintro ⟨-, saved⟩
    apply saved
    apply List.eq_nil_of_length_eq_zero
    rw [Turtle.length_saved_walk]
    rfl
  obtain ⟨segments, outcome, drawn, earlier, -, consecutive, -⟩ := setup.draws_connected penDown
  refine ⟨penDown, rfl, stray, segments, outcome, drawn, earlier 2, ?_⟩
  apply consecutive before [']'] [] rfl (by decide)
  intro left symbol right split
  obtain ⟨rfl, same⟩ | ⟨others, -, impossible⟩ := List.cons_eq_append_iff.mp split
  · cases same
    exact stray
  · cases List.append_eq_nil_iff.mp impossible.symm with
    | intro _ none => cases none

end Setup

end TurtleGraphics

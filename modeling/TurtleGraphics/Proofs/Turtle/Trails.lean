import TurtleGraphics.Turtle.Path

set_option autoImplicit false

/-!
# Trails

Where the segments of a turtle start. Without steps that do not draw, the turtle stands only where
it began or where a segment ends, now and after restoring any cursor.
-/

namespace TurtleGraphics

/-- The segment that a cursor draws with a step. -/
def Cursor.stroke (cursor : Cursor) (step : Float) : Segment :=
  ⟨cursor.position, (cursor.advance step).position⟩

namespace Turtle

variable {step delta : Float}

theorem length_segments (commands : List Command) (turtle : Turtle) :
    (segments step delta commands turtle).length = commands.count .forward := by
  induction commands generalizing turtle with
  | nil => rfl
  | cons command commands ih =>
      rw [segments, List.length_append, ih]
      cases command with
      | forward =>
          rw [List.count_cons_self]
          exact Nat.add_comm 1 _
      | move | turnLeft | turnRight | push | pop => exact Nat.zero_add _

theorem segments_of_not_mem {commands : List Command} (still : .forward ∉ commands)
    (turtle : Turtle) : segments step delta commands turtle = [] := by
  apply List.eq_nil_of_length_eq_zero
  rw [length_segments, List.count_eq_zero]
  exact still

theorem segments_forward (before after : List Command) (turtle : Turtle) :
    segments step delta (before ++ .forward :: after) turtle =
      segments step delta before turtle ++
        (walk step delta before turtle).cursor.stroke step ::
          segments step delta after (walk step delta (before ++ [.forward]) turtle) := by
  rw [segments_append, walk_append]
  rfl

/-- Every segment is drawn by some step, which the turtle takes after the commands before it. -/
theorem exists_forward_of_getElem? {commands : List Command} {turtle : Turtle} {index : Nat}
    {segment : Segment} (drawn : (segments step delta commands turtle)[index]? = some segment) :
    ∃ before after, commands = before ++ .forward :: after ∧
      (segments step delta before turtle).length = index ∧
      segment = (walk step delta before turtle).cursor.stroke step := by
  induction commands generalizing turtle index with
  | nil => cases drawn
  | cons command commands ih =>
      by_cases draws : command = .forward
      · subst draws
        cases index with
        | zero =>
            cases drawn
            exact ⟨[], commands, rfl, rfl, rfl⟩
        | succ index =>
            obtain ⟨before, after, split, length, same⟩ := ih drawn
            refine ⟨.forward :: before, after, by rw [split]; rfl, ?_, same⟩
            exact congrArg Nat.succ length
      · have silent : (turtle.cursor.apply command step delta).2 = none := by
          cases command with
          | forward => exact absurd rfl draws
          | move | turnLeft | turnRight | push | pop => rfl
        rw [segments, silent] at drawn
        obtain ⟨before, after, split, length, same⟩ := ih drawn
        refine ⟨command :: before, after, by rw [split]; rfl, ?_, same⟩
        rw [segments, silent]
        exact length

/-- Wherever the turtle can stand, now or after restoring a cursor. -/
def StandsOn (turtle : Turtle) (points : List Point) : Prop :=
  ∀ cursor ∈ turtle.cursor :: turtle.saved, cursor.position ∈ points

namespace StandsOn

variable {turtle : Turtle} {points : List Point}

theorem next (step delta : Float) (standsOn : turtle.StandsOn points) {command : Command}
    (penDown : command ≠ .move) :
    (turtle.next step delta command).StandsOn
      (points ++ (turtle.cursor.apply command step delta).2.toList.map Segment.finish) := by
  obtain ⟨cursor, saved⟩ := turtle
  obtain ⟨current, earlier⟩ := List.forall_mem_cons.mp standsOn
  cases command with
  | move => exact absurd rfl penDown
  | forward =>
      have stepped : (cursor.advance step).position ∈
          points ++ [(cursor.advance step).position] := by simp
      refine List.forall_mem_cons.mpr ⟨stepped, ?_⟩
      intro other member
      exact List.mem_append_left _ (earlier other member)
  | turnLeft | turnRight =>
      rw [Cursor.apply, Option.toList_none, List.map_nil, List.append_nil]
      exact List.forall_mem_cons.mpr ⟨current, earlier⟩
  | push =>
      rw [Cursor.apply, Option.toList_none, List.map_nil, List.append_nil]
      exact List.forall_mem_cons.mpr ⟨current, standsOn⟩
  | pop =>
      rw [Cursor.apply, Option.toList_none, List.map_nil, List.append_nil]
      cases saved with
      | nil => exact standsOn
      | cons restored saved => exact earlier

theorem walk (step delta : Float) (standsOn : turtle.StandsOn points) {commands : List Command}
    (penDown : .move ∉ commands) :
    (turtle.walk step delta commands).StandsOn
      (points ++ (segments step delta commands turtle).map Segment.finish) := by
  induction commands generalizing turtle points with
  | nil =>
      rw [segments, List.map_nil, List.append_nil]
      exact standsOn
  | cons command commands ih =>
      obtain ⟨stays, later⟩ := not_or.mp (mt List.mem_cons.mpr penDown)
      have walked := ih (standsOn.next step delta (Ne.symm stays)) later
      rw [segments, List.map_append, ← List.append_assoc]
      exact walked

/-- A segment starts where the turtle could stand at first or where an earlier segment ends. -/
theorem start_mem (standsOn : turtle.StandsOn points) {commands : List Command}
    (penDown : .move ∉ commands) {index : Nat} {segment : Segment}
    (drawn : (segments step delta commands turtle)[index]? = some segment) :
    segment.start ∈
      points ++ ((segments step delta commands turtle).take index).map Segment.finish := by
  obtain ⟨before, after, split, length, same⟩ := exists_forward_of_getElem? drawn
  have penDownBefore : .move ∉ before := by
    intro member
    rw [split] at penDown
    exact penDown (List.mem_append_left _ member)
  have walked := standsOn.walk step delta penDownBefore
  rw [split, segments_forward, ← length, List.take_left, same]
  exact walked _ List.mem_cons_self

end StandsOn

/-! ### Walks that restore nothing -/

/-- No cursor is restored on the way: where a command would do so, there is none saved. -/
def Unrestored (step delta : Float) (commands : List Command) (turtle : Turtle) : Prop :=
  ∀ before after, commands = before ++ .pop :: after → (walk step delta before turtle).saved = []

namespace Unrestored

variable {command : Command} {commands : List Command} {turtle : Turtle}

theorem head (unrestored : turtle.Unrestored step delta (command :: commands))
    (pops : command = .pop) : turtle.saved = [] :=
  unrestored [] commands (congrArg (· :: commands) pops)

theorem tail (unrestored : turtle.Unrestored step delta (command :: commands)) :
    (turtle.next step delta command).Unrestored step delta commands := by
  intro before after split
  exact unrestored (command :: before) after (congrArg (List.cons command) split)

theorem left {first second : List Command}
    (unrestored : turtle.Unrestored step delta (first ++ second)) :
    turtle.Unrestored step delta first := by
  intro before after split
  apply unrestored before (after ++ second)
  rw [split, List.append_assoc]
  rfl

theorem right {first second : List Command}
    (unrestored : turtle.Unrestored step delta (first ++ second)) :
    (turtle.walk step delta first).Unrestored step delta second := by
  intro before after split
  rw [← walk_append]
  apply unrestored (first ++ before) after
  rw [split, List.append_assoc]

end Unrestored

/-- Only steps and restored cursors change where the turtle stands. -/
theorem position_walk_of_still {commands : List Command} {turtle : Turtle}
    (noForward : .forward ∉ commands) (noMove : .move ∉ commands)
    (unrestored : turtle.Unrestored step delta commands) :
    (walk step delta commands turtle).cursor.position = turtle.cursor.position := by
  induction commands generalizing turtle with
  | nil => rfl
  | cons command commands ih =>
      obtain ⟨notForward, noForward⟩ := not_or.mp (mt List.mem_cons.mpr noForward)
      obtain ⟨notMove, noMove⟩ := not_or.mp (mt List.mem_cons.mpr noMove)
      have stays : (turtle.next step delta command).cursor.position = turtle.cursor.position := by
        cases command with
        | forward => exact absurd rfl notForward
        | move => exact absurd rfl notMove
        | turnLeft | turnRight | push => rfl
        | pop =>
            obtain ⟨cursor, saved⟩ := turtle
            have empty : saved = [] := unrestored.head rfl
            rw [empty]
            rfl
      rw [← stays]
      exact ih noForward noMove unrestored.tail

end Turtle

end TurtleGraphics

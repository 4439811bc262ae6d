import TurtleGraphics.Drawing.Session
import TurtleGraphics.Proofs.Turtle.Nesting

set_option autoImplicit false

/-!
# What a drawing is going to do

The calls, the counts and the events of a command text, foreseen without any surface, and the
proof that reading the text on a surface comes to them as long as the surface goes along.
-/

namespace TurtleGraphics

instance : Add Tally where
  add first second :=
    ⟨first.segments + second.segments, first.moves + second.moves, first.turns + second.turns,
      first.ignored + second.ignored, first.unmatchedPops + second.unmatchedPops⟩

theorem Tally.add_def (first second : Tally) :
    first + second =
      ⟨first.segments + second.segments, first.moves + second.moves, first.turns + second.turns,
        first.ignored + second.ignored, first.unmatchedPops + second.unmatchedPops⟩ := rfl

theorem Tally.add_assoc (first second third : Tally) :
    first + second + third = first + (second + third) := by
  simp only [add_def, Nat.add_assoc]

theorem Tally.add_right_comm (first second third : Tally) :
    first + second + third = first + third + second := by
  simp only [add_def, Nat.add_right_comm]

theorem Tally.zero_add (tally : Tally) : .zero + tally = tally := by
  simp only [add_def, zero, Nat.zero_add]

namespace Alphabet

variable (alphabet : Alphabet)

/-- What there is to count in a text that is read with some cursors saved. -/
def tally (text : List Char) (saved : Nat) : Tally :=
  let commands := alphabet.commands text
  { segments := commands.count .forward
    moves := commands.count .forward + commands.count .move
    turns := commands.count .turnLeft + commands.count .turnRight
    ignored := text.countP fun symbol => (Command.ofSymbol? alphabet symbol).isNone
    unmatchedPops := alphabet.unmatchedPops text saved }

/-- What there is to report of a character that is read with some cursors saved. -/
def event? (symbol : Char) (saved : Nat) : Option Event :=
  match Command.ofSymbol? alphabet symbol with
  | none => some (.ignoredSymbol symbol)
  | some .pop => if saved = 0 then some .unmatchedPop else none
  | some _ => none

def events : List Char → Nat → List Event
  | [], _ => []
  | symbol :: symbols, saved =>
    (alphabet.event? symbol saved).toList ++ events symbols (alphabet.nesting [symbol] saved)

theorem tally_append (first second : List Char) (saved : Nat) :
    alphabet.tally (first ++ second) saved =
      alphabet.tally first saved + alphabet.tally second (alphabet.nesting first saved) := by
  simp only [tally, commands_append, unmatchedPops_append, List.count_append,
    List.countP_append, Tally.add_def, Tally.mk.injEq]
  refine ⟨trivial, ?_, ?_, trivial, trivial⟩ <;> omega

theorem tally_of_contained {text : List Char}
    (contained : alphabet.unmatchedPops text 0 = 0) (saved : Nat) :
    alphabet.tally text saved = alphabet.tally text 0 := by
  have shifted := Command.unmatchedPops_add (alphabet.commands text) 0 saved
  rw [Nat.zero_add, ← unmatchedPops, ← unmatchedPops, contained,
    Nat.zero_sub] at shifted
  simp only [tally, shifted, contained]

theorem events_append (first second : List Char) (saved : Nat) :
    alphabet.events (first ++ second) saved =
      alphabet.events first saved ++ alphabet.events second (alphabet.nesting first saved) := by
  induction first generalizing saved with
  | nil => rfl
  | cons symbol symbols ih =>
      have nested := alphabet.nesting_append [symbol] symbols saved
      rw [List.singleton_append] at nested
      simp only [List.cons_append, events, ih, nested, List.append_assoc]

end Alphabet

namespace Progress

variable {σ : Type}

def turtle (progress : Progress σ) : Turtle :=
  ⟨progress.cursor, progress.saved⟩

/-- The calls that reading a text makes, unless one is refused. -/
def plan (motion : Motion) (alphabet : Alphabet) (text : List Char) (progress : Progress σ) :
    List Call :=
  (Turtle.segments motion.step motion.delta (alphabet.commands text) progress.turtle).map .draw

/-- The progress that a text makes, unless a call is refused. -/
def after (motion : Motion) (alphabet : Alphabet) (text : List Char) (progress : Progress σ)
    (surface : σ) : Progress σ :=
  let turtle := progress.turtle.walk motion.step motion.delta (alphabet.commands text)
  { surface
    cursor := turtle.cursor
    saved := turtle.saved
    tally := progress.tally + alphabet.tally text progress.saved.length
    events := progress.events ++ (alphabet.events text progress.saved.length).toArray }

section Laws

variable (motion : Motion) (alphabet : Alphabet)

theorem length_saved_after (text : List Char) (progress : Progress σ) (surface : σ) :
    (progress.after motion alphabet text surface).saved.length =
      alphabet.nesting text progress.saved.length :=
  Turtle.length_saved_walk _ _ _ _

theorem plan_append (first second : List Char) (progress : Progress σ) (surface : σ) :
    progress.plan motion alphabet (first ++ second) =
      progress.plan motion alphabet first ++
        (progress.after motion alphabet first surface).plan motion alphabet second := by
  simp only [plan, Alphabet.commands_append, Turtle.segments_append, List.map_append]
  rfl

theorem after_append (first second : List Char) (progress : Progress σ) (between surface : σ) :
    progress.after motion alphabet (first ++ second) surface =
      (progress.after motion alphabet first between).after motion alphabet second surface := by
  have saved := length_saved_after motion alphabet first progress between
  simp only [after] at saved
  simp only [after, saved, Alphabet.commands_append, Turtle.walk_append, Alphabet.tally_append,
    Alphabet.events_append, Tally.add_assoc, List.append_toArray, Array.append_assoc]
  rfl

theorem after_nil (progress : Progress σ) :
    progress.after motion alphabet [] progress.surface = progress := by
  have counted : progress.tally + alphabet.tally [] progress.saved.length = progress.tally := rfl
  simp [after, Alphabet.events, counted, Turtle.walk, turtle, Alphabet.commands]

theorem read_eq [Surface σ] (symbol : Char) (progress : Progress σ) :
    progress.read motion alphabet symbol =
      match Surface.performAll (progress.plan motion alphabet [symbol]) progress.surface with
      | (.ok (), surface) => (.ok (), progress.after motion alphabet [symbol] surface)
      | (.error failure, surface) => (.error failure, { progress with surface }) := by
  obtain ⟨surface, cursor, saved, tally, events⟩ := progress
  cases decoded : Command.ofSymbol? alphabet symbol with
  | none =>
      have commands : alphabet.commands [symbol] = [] := by simp [Alphabet.commands, decoded]
      simp [read, decoded, ignore, report, plan, after, turtle, commands, Turtle.segments,
        Turtle.walk, Surface.performAll, Alphabet.tally, Alphabet.unmatchedPops, Tally.add_def,
        Command.unmatchedPops, Alphabet.events, Alphabet.event?]
  | some command =>
      have commands : alphabet.commands [symbol] = [command] := by
        simp [Alphabet.commands, decoded]
      simp only [read, decoded, plan, after, turtle, commands, Turtle.segments, Turtle.walk,
        List.foldl_cons, List.foldl_nil, List.append_nil, Alphabet.tally, Alphabet.unmatchedPops,
        Tally.add_def, Command.unmatchedPops, Alphabet.events, Alphabet.event?,
        List.countP_singleton, Option.isNone_some]
      cases command with
      | forward =>
          simp only [follow, stepTo, Cursor.apply, Option.toList_some, List.map_cons,
            List.map_nil, Surface.performAll]
          -- The surface decides: both sides ask it for the same segment.
          rcases Surface.perform (.draw ⟨cursor.position, (cursor.advance motion.step).position⟩)
            surface with ⟨_ | _, next⟩ <;>
            simp [Turtle.next, Cursor.apply]
      | move => simp [follow, stepTo, Cursor.apply, Turtle.next, Surface.performAll]
      | turnLeft | turnRight =>
          simp [follow, turnTo, Cursor.apply, Turtle.next, Surface.performAll]
      | push => simp [follow, push, Turtle.next, Cursor.apply, Surface.performAll]
      | pop =>
          cases saved <;>
            simp [follow, pop, report, Turtle.next, Cursor.apply, Surface.performAll]

/-- A text does what was foreseen for it, up to the first call that is refused. -/
theorem readAll_spec [Surface σ] (text : List Char) (progress : Progress σ) :
    match Surface.performAll (progress.plan motion alphabet text) progress.surface with
    | (.ok (), surface) =>
      readAll motion alphabet text progress =
        (.ok (), progress.after motion alphabet text surface)
    | (.error failure, surface) =>
      ∃ stopped, readAll motion alphabet text progress = (.error failure, stopped) ∧
        stopped.surface = surface := by
  induction text generalizing progress with
  | nil => simp [readAll, plan, Surface.performAll, after_nil, Alphabet.commands, Turtle.segments]
  | cons symbol symbols ih =>
      have planned := plan_append motion alphabet [symbol] symbols progress
      rw [List.singleton_append] at planned
      have step := read_eq motion alphabet symbol progress
      rcases first : Surface.performAll (progress.plan motion alphabet [symbol])
        progress.surface with ⟨_ | _, between⟩
      · rw [first] at step
        rw [planned between, Surface.performAll_append_of_error first, readAll, step]
        exact ⟨_, rfl, rfl⟩
      · rw [first] at step
        have rest := ih (progress.after motion alphabet [symbol] between)
        have joined := after_append motion alphabet [symbol] symbols progress between
        simp only [List.singleton_append] at joined
        rw [planned between, Surface.performAll_append_of_ok first, readAll, step]
        simp only [joined]
        exact rest

/-- What no single command puts an end to lasts as far as a text is read, also if it is read only up
to a call that is refused. -/
theorem readAll_keeps [Surface σ] {holds : Turtle → Prop}
    (kept : ∀ turtle command, holds turtle →
      holds (turtle.next motion.step motion.delta command))
    (text : List Char) {progress : Progress σ} (held : holds progress.turtle) :
    holds (readAll motion alphabet text progress).2.turtle := by
  induction text generalizing progress with
  | nil => exact held
  | cons symbol symbols ih =>
      have step := read_eq motion alphabet symbol progress
      rcases performed : Surface.performAll (progress.plan motion alphabet [symbol])
        progress.surface with ⟨_ | _, next⟩
      · rw [performed] at step
        rw [readAll, step]
        exact held
      · rw [performed] at step
        rw [readAll, step]
        exact ih (Turtle.walk_keeps kept (alphabet.commands [symbol]) held)

end Laws

end Progress

end TurtleGraphics

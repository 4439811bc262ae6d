import TurtleGraphics.Proofs.Drawing.Protocol

set_option autoImplicit false

/-!
# What a drawing reports

The events of a drawing and its counts are two records of one run. A drawing that is interrupted
has reported the characters before the one whose segment was refused, and nothing after them.
-/

namespace TurtleGraphics

/-- What a log is given of an event. -/
structure Notice where
  level : Level
  message : String
  fields : List (String × FieldValue)
deriving DecidableEq

def Event.notice (event : Event) : Notice :=
  ⟨event.level, event.message, event.fields⟩

namespace Alphabet

variable (alphabet : Alphabet)

/-- The notices of a text that is read with some cursors saved: one for each foreign character and
one for each command that finds no cursor to restore. -/
def notices : List Char → Nat → List Notice
  | [], _ => []
  | symbol :: symbols, saved =>
    match Command.ofSymbol? alphabet symbol with
    | none =>
      ⟨.trace, "ignored symbol", [("symbol", .text (String.singleton symbol))]⟩ ::
        notices symbols saved
    | some .push => notices symbols (saved + 1)
    | some .pop =>
      if saved = 0 then ⟨.warn, "pop with no saved cursor", []⟩ :: notices symbols 0
      else notices symbols (saved - 1)
    | some _ => notices symbols saved

theorem map_notice_events (text : List Char) (saved : Nat) :
    (alphabet.events text saved).map Event.notice = alphabet.notices text saved := by
  induction text generalizing saved with
  | nil => rfl
  | cons symbol symbols ih =>
      rw [events, List.map_append, ih, notices, event?]
      cases decoded : Command.ofSymbol? alphabet symbol with
      | none =>
          have kept : alphabet.nesting [symbol] saved = saved := by
            simp [nesting, commands, decoded, Command.nesting]
          rw [kept]
          rfl
      | some command =>
          have nested : alphabet.nesting [symbol] saved = command.height saved := by
            simp [nesting, commands, decoded, Command.nesting]
          rw [nested]
          cases command with
          | pop => cases saved <;> rfl
          | forward | move | turnLeft | turnRight | push => rfl

/-- Every foreign character is one event of the least level. -/
theorem countP_trace_events (text : List Char) (saved : Nat) :
    (alphabet.events text saved).countP (fun event => event.level = .trace) =
      (alphabet.tally text saved).ignored := by
  induction text generalizing saved with
  | nil => rfl
  | cons symbol symbols ih =>
      have rest := ih (alphabet.nesting [symbol] saved)
      simp only [tally] at rest
      simp only [events, event?, tally, List.countP_append, List.countP_cons, rest]
      cases Command.ofSymbol? alphabet symbol with
      | none => simp [Event.level, Nat.add_comm]
      | some command =>
          cases command with
          | pop => by_cases none : saved = 0 <;> simp [none, Event.level]
          | forward | move | turnLeft | turnRight | push => simp

/-- Every command that finds no cursor to restore is one warning. -/
theorem countP_warn_events (text : List Char) (saved : Nat) :
    (alphabet.events text saved).countP (fun event => event.level = .warn) =
      (alphabet.tally text saved).unmatchedPops := by
  induction text generalizing saved with
  | nil => rfl
  | cons symbol symbols ih =>
      have first : (alphabet.event? symbol saved).toList.countP
          (fun event => event.level = .warn) = alphabet.unmatchedPops [symbol] saved := by
        simp only [event?, unmatchedPops, commands]
        cases decoded : Command.ofSymbol? alphabet symbol with
        | none => simp [decoded, Event.level, Command.unmatchedPops]
        | some command =>
            cases command with
            | pop =>
                by_cases empty : saved = 0 <;>
                  simp [decoded, empty, Event.level, Command.unmatchedPops]
            | forward | move | turnLeft | turnRight | push =>
                simp [decoded, Command.unmatchedPops]
      have joined := alphabet.unmatchedPops_append [symbol] symbols saved
      rw [List.singleton_append] at joined
      rw [events, List.countP_append, first, ih, tally, tally, joined]

/-- Only the end of a drawing reports that it is done. -/
theorem message_ne_of_mem_events {text : List Char} {saved : Nat} {event : Event}
    (member : event ∈ alphabet.events text saved) : event.message ≠ "render done" := by
  induction text generalizing saved with
  | nil => cases member
  | cons symbol symbols ih =>
      rcases List.mem_append.mp member with first | later
      · revert first
        rw [event?]
        split
        · intro first
          obtain rfl := List.mem_singleton.mp first
          simp [Event.message]
        · split
          · intro first
            obtain rfl := List.mem_singleton.mp first
            simp [Event.message]
          · intro first
            cases first
        · intro first
          cases first
      · exact ih later

end Alphabet

namespace Progress

variable {σ : Type} [Surface σ] (motion : Motion) (alphabet : Alphabet)

/-- One character makes at most one call. -/
theorem plan_of_refused {symbol : Char} {progress : Progress σ} {failure : Failure}
    {stopped : σ}
    (refused : Surface.performAll (progress.plan motion alphabet [symbol]) progress.surface =
      (.error failure, stopped)) :
    ∃ segment, progress.plan motion alphabet [symbol] = [.draw segment] ∧
      Surface.perform (.draw segment) progress.surface = (.error failure, stopped) := by
  have calls : progress.plan motion alphabet [symbol] =
      ((Command.ofSymbol? alphabet symbol).bind fun command =>
        (progress.cursor.apply command motion.step motion.delta).2).toList.map .draw := by
    cases decoded : Command.ofSymbol? alphabet symbol <;>
      simp [plan, Alphabet.commands, decoded, Turtle.segments, turtle]
  rw [calls] at refused ⊢
  cases drawn : (Command.ofSymbol? alphabet symbol).bind fun command =>
      (progress.cursor.apply command motion.step motion.delta).2 with
  | none =>
      rw [drawn] at refused
      cases refused
  | some segment =>
      rw [drawn] at refused
      refine ⟨segment, rfl, ?_⟩
      simp only [Option.toList_some, List.map_cons, List.map_nil, Surface.performAll] at refused
      split at refused
      next => cases refused
      next performed =>
        cases refused
        exact performed

/-- Where a text is interrupted: at one character, with all that stands before it done. -/
theorem readAll_refused {text : List Char} {progress stopped : Progress σ} {failure : Failure}
    (refused : readAll motion alphabet text progress = (.error failure, stopped)) :
    ∃ before symbol after segment reached,
      text = before ++ symbol :: after ∧
      Surface.performAll (progress.plan motion alphabet before) progress.surface =
        (.ok (), reached) ∧
      progress.plan motion alphabet (before ++ [symbol]) =
        progress.plan motion alphabet before ++ [.draw segment] ∧
      Surface.perform (.draw segment) reached = (.error failure, stopped.surface) ∧
      stopped.events = (progress.after motion alphabet before reached).events := by
  induction text generalizing progress with
  | nil => cases refused
  | cons symbol symbols ih =>
      have step := read_eq motion alphabet symbol progress
      rw [readAll] at refused
      rcases first : Surface.performAll (progress.plan motion alphabet [symbol])
        progress.surface with ⟨_ | _, between⟩
      · rw [first] at step
        rw [step] at refused
        cases refused
        obtain ⟨segment, planned, performed⟩ := plan_of_refused motion alphabet first
        refine ⟨[], symbol, symbols, segment, progress.surface, rfl, rfl, planned, performed, ?_⟩
        rw [after_nil]
      · rw [first] at step
        rw [step] at refused
        obtain ⟨before, stop, rest, segment, reached, rfl, accepted, planned, performed, told⟩ :=
          ih refused
        have joined := plan_append motion alphabet [symbol] before progress between
        have longer := plan_append motion alphabet [symbol] (before ++ [stop]) progress between
        have whole := after_append motion alphabet [symbol] before progress between reached
        refine ⟨symbol :: before, stop, rest, segment, reached, rfl, ?_, ?_, performed, ?_⟩
        · rw [← List.singleton_append, joined, Surface.performAll_append_of_ok first]
          exact accepted
        · rw [List.cons_append, ← List.singleton_append, longer, planned, ← List.append_assoc,
            ← joined, List.singleton_append]
        · rw [told, ← whole, List.singleton_append]

/-- A text that is read to its end has had all its calls made. -/
theorem readAll_accepted {text : List Char} {progress stopped : Progress σ}
    (accepted : readAll motion alphabet text progress = (.ok (), stopped)) :
    ∃ reached, Surface.performAll (progress.plan motion alphabet text) progress.surface =
        (.ok (), reached) ∧
      stopped = progress.after motion alphabet text reached := by
  have spec := readAll_spec motion alphabet text progress
  rcases drawn : Surface.performAll (progress.plan motion alphabet text) progress.surface with
    ⟨failure | _, reached⟩
  · rw [drawn, accepted] at spec
    obtain ⟨_, interrupted, _⟩ := spec
    cases interrupted
  · rw [drawn, accepted] at spec
    exact ⟨reached, rfl, congrArg Prod.snd spec⟩

end Progress

namespace Session

/-- What a drawing of the commands has reported by the time it has read a part of them. -/
def told (setup : Setup) (commands part : String) : List Event :=
  startEvent setup commands :: setup.alphabet.events part.toList 0

/-- The calls that a drawing has made by the time it has read a part of its commands. -/
def made (setup : Setup) (part : String) : List Call :=
  .begin setup.style :: (setup.motion.segments setup.alphabet part).map .draw

section Opened

variable {σ : Type}

theorem events_start (surface : σ) (setup : Setup) : (start surface setup).events = #[] := by
  rw [start]
  cases setup.undrawable? <;> rfl

theorem events_reconfigure (session : Session σ) (setup : Setup) :
    (session.reconfigure setup).events = #[] := by
  rw [reconfigure]
  cases setup.undrawable? <;> rfl

/-- A drawing that has begun and has read nothing yet. -/
def opened (setup : Setup) (commands : String) (begun : σ) : Progress σ :=
  ⟨begun, startCursor setup, [], .zero, #[startEvent setup commands]⟩

theorem made_eq (setup : Setup) (commands part : String) (begun : σ) :
    made setup part = .begin setup.style ::
      (opened setup commands begun).plan setup.motion setup.alphabet part.toList := rfl

theorem toList_events_opened (setup : Setup) (commands part : String) (begun reached : σ) :
    ((opened setup commands begun).after setup.motion setup.alphabet part.toList
      reached).events.toList = told setup commands part := by
  simp [Progress.after, opened, told]

theorem performAll_made [Surface σ] {surface begun : σ} {setup : Setup}
    (started : Surface.perform (.begin setup.style) surface = (.ok (), begun))
    (commands part : String) :
    Surface.performAll (made setup part) surface = Surface.performAll
      ((opened setup commands begun).plan setup.motion setup.alphabet part.toList) begun := by
  rw [made_eq setup commands part begun, Surface.performAll, started]

end Opened

variable {σ : Type} [Surface σ]

/-- The four ways in which a drawing ends. -/
theorem render_cases (surface : σ) (setup : Setup) (commands : String) :
    let rendering := (⟨surface, setup⟩ : Session σ).render commands
    (∃ failure stopped, Surface.perform (.begin setup.style) surface = (.error failure, stopped) ∧
      rendering.result = .error failure ∧
      rendering.events.toList = [startEvent setup commands]) ∨
    (∃ (failure : Failure) (before : String) (symbol : Char) (after : List Char)
        (segment : Segment) (reached stopped : σ),
      commands.toList = before.toList ++ symbol :: after ∧
      made setup (before.push symbol) = made setup before ++ [.draw segment] ∧
      Surface.performAll (made setup before) surface = (.ok (), reached) ∧
      Surface.perform (.draw segment) reached = (.error failure, stopped) ∧
      rendering.result = .error failure ∧
      rendering.events.toList = told setup commands before) ∨
    (∃ failure reached stopped, Surface.performAll (made setup commands) surface =
        (.ok (), reached) ∧
      Surface.perform .present reached = (.error failure, stopped) ∧
      rendering.result = .error failure ∧
      rendering.events.toList = told setup commands commands) ∨
    (∃ outcome shown, Surface.performAll (setup.calls commands) surface = (.ok (), shown) ∧
      rendering.result = .ok outcome ∧
      outcome.tally = setup.alphabet.tally commands.toList 0 ∧
      rendering.events.toList = told setup commands commands ++ [doneEvent outcome]) := by
  intro rendering
  rcases started : Surface.perform (.begin setup.style) surface with ⟨failure | _, begun⟩
  · refine .inl ⟨failure, begun, rfl, ?_, ?_⟩ <;> simp only [rendering, render, started]
  let opening := opened setup commands begun
  rcases reading : opening.readAll setup.motion setup.alphabet commands.toList with
    ⟨failure | _, stopped⟩
  · obtain ⟨before, symbol, after, segment, reached, text, drawn, next, refused, events⟩ :=
      Progress.readAll_refused _ _ reading
    have ended : rendering.result = .error failure ∧ rendering.events = stopped.events := by
      simp only [opening, opened] at reading
      simp [rendering, render, started, reading]
    refine .inr (.inl ⟨failure, .ofList before, symbol, after, segment, reached,
      stopped.surface, ?_, ?_, ?_, refused, ended.1, ?_⟩)
    · rw [text, String.toList_ofList]
    · rw [made_eq setup commands _ begun, made_eq setup commands _ begun, String.toList_push,
        String.toList_ofList, next, List.cons_append]
    · rw [performAll_made started commands, String.toList_ofList]
      exact drawn
    · rw [ended.2, events, ← toList_events_opened _ _ _ begun reached, String.toList_ofList]
  obtain ⟨reached, drawn, rfl⟩ := Progress.readAll_accepted _ _ reading
  have accepted : Surface.performAll (made setup commands) surface = (.ok (), reached) :=
    (performAll_made started commands commands).trans drawn
  have reported := toList_events_opened setup commands commands begun reached
  simp only [opening, opened] at reading
  rcases shown : Surface.perform .present reached with ⟨failure | _, last⟩
  · have ended : rendering.result = .error failure ∧ rendering.events =
        (opening.after setup.motion setup.alphabet commands.toList reached).events := by
      simp only [rendering, render, started, reading]
      simp only [Progress.after, shown]
      exact ⟨trivial, rfl⟩
    refine .inr (.inr (.inl ⟨failure, reached, last, accepted, shown, ended.1, ?_⟩))
    rw [ended.2, reported]
  · let outcome := setup.motion.outcome setup.alphabet commands
    have ended : rendering.result = .ok outcome ∧ rendering.events =
        (opening.after setup.motion setup.alphabet commands.toList reached).events.push
          (doneEvent outcome) := by
      simp only [rendering, render, started, reading]
      simp only [Progress.after, shown, Tally.zero_add]
      exact ⟨rfl, rfl⟩
    refine .inr (.inr (.inr ⟨outcome, last, ?_, ended.1, rfl, ?_⟩))
    · change Surface.performAll (made setup commands ++ [.present]) surface = _
      rw [Surface.performAll_append_of_ok accepted, Surface.performAll, shown]
      rfl
    · rw [ended.2, Array.toList_push, reported]

theorem message_ne_of_mem_told {setup : Setup} {commands part : String} {event : Event}
    (member : event ∈ told setup commands part) : event.message ≠ "render done" := by
  rcases List.mem_cons.mp member with rfl | later
  · simp [startEvent, Event.message]
  · exact setup.alphabet.message_ne_of_mem_events later

/-- What an interrupted drawing reports is always the report of a part of its commands. -/
theorem completed_iff_of_told {setup : Setup} {commands part : String} {failure : Failure}
    {result : Except Failure Outcome} {events : List Event} (interrupted : result = .error failure)
    (reported : events = told setup commands part) :
    (∃ outcome, result = .ok outcome) ↔ ∃ event ∈ events, event.message = "render done" := by
  constructor
  · rintro ⟨outcome, completed⟩
    cases interrupted.symm.trans completed
  · rintro ⟨event, member, done⟩
    rw [reported] at member
    exact absurd done (message_ne_of_mem_told member)

/-- A drawing reports its start, then every foreign character and every command that finds no
cursor to restore, in text order, and its end if and only if it completes. One that is interrupted
reports the characters before the one whose segment is refused. Starting a session and exchanging
its setup report nothing, whether the setup is accepted or refused. -/
theorem render_events (session : Session σ) (commands : String) :
    let setup := session.setup
    let rendering := session.render commands
    let events := rendering.events.toList
    let start := Event.renderStart commands.utf8ByteSize setup.motion.step setup.motion.delta
      (Heading.normalize setup.motion.heading) setup.alphabet
    let told (part : String) := start :: setup.alphabet.events part.toList 0
    let made (part : String) :=
      Call.begin setup.style :: (setup.motion.segments setup.alphabet part).map Call.draw
    (∀ part : String, (told part).map Event.notice =
      ⟨.debug, "render start",
        [("len", .count commands.utf8ByteSize), ("step", .number setup.motion.step),
          ("delta", .number setup.motion.delta),
          ("heading", .number (Heading.normalize setup.motion.heading)),
          ("symbol_set", .text setup.alphabet.eventName)]⟩ ::
        setup.alphabet.notices part.toList 0) ∧
    (∀ outcome, rendering.result = .ok outcome →
      (∃ shown, Surface.performAll (made commands ++ [.present]) session.surface =
        (.ok (), shown)) ∧
      (∃ done, events = told commands ++ [done] ∧
        done.level = .debug ∧ done.message = "render done" ∧
        done.fields =
          [("segments", .count outcome.tally.segments), ("ignored", .count outcome.tally.ignored),
            ("x", .number outcome.cursor.position.x), ("y", .number outcome.cursor.position.y),
            ("heading", .number outcome.cursor.heading)]) ∧
      (events.countP fun event => event.level = .trace) = outcome.tally.ignored ∧
      (events.countP fun event => event.level = .warn) = outcome.tally.unmatchedPops) ∧
    (∀ failure, rendering.result = .error failure →
      (∃ stopped, Surface.perform (.begin setup.style) session.surface =
          (.error failure, stopped) ∧
        events = [start]) ∨
      (∃ (before : String) (symbol : Char) (after : List Char) (segment : Segment)
          (reached stopped : σ),
        commands.toList = before.toList ++ symbol :: after ∧
        made (before.push symbol) = made before ++ [.draw segment] ∧
        Surface.performAll (made before) session.surface = (.ok (), reached) ∧
        Surface.perform (.draw segment) reached = (.error failure, stopped) ∧
        events = told before) ∨
      (∃ reached stopped, Surface.performAll (made commands) session.surface = (.ok (), reached) ∧
        Surface.perform .present reached = (.error failure, stopped) ∧
        events = told commands)) ∧
    ((∃ outcome, rendering.result = .ok outcome) ↔
      ∃ event ∈ events, event.message = "render done") ∧
    ∀ (surface : σ) (next : Setup),
      (Session.start surface next).events = #[] ∧ (session.reconfigure next).events = #[] ∧
      (session.perform (.reconfigure next)).2.2 = #[] := by
  intro setup rendering events start reports calls
  have course := render_cases session.surface session.setup commands
  refine ⟨?_, ?_, ?_, ?_, ?_⟩
  · intro part
    rw [List.map_cons, Alphabet.map_notice_events]
    rfl
  · intro outcome completed
    obtain ⟨_, _, _, result, _⟩ | ⟨_, _, _, _, _, _, _, _, _, _, _, result, _⟩ |
      ⟨_, _, _, _, _, result, _⟩ | ⟨drawn, shown, accepted, result, counted, reported⟩ := course
    · cases result.symm.trans completed
    · cases result.symm.trans completed
    · cases result.symm.trans completed
    · cases result.symm.trans completed
      have whole : events = reports commands ++ [doneEvent outcome] := reported
      refine ⟨⟨shown, accepted⟩, ⟨doneEvent outcome, whole, rfl, rfl, rfl⟩, ?_, ?_⟩
      · have traced := setup.alphabet.countP_trace_events commands.toList 0
        rw [whole, List.countP_append, List.countP_cons, traced, counted]
        simp [start, doneEvent, Event.level, setup]
      · have warned := setup.alphabet.countP_warn_events commands.toList 0
        rw [whole, List.countP_append, List.countP_cons, warned, counted]
        simp [start, doneEvent, Event.level, setup]
  · intro failure interrupted
    obtain ⟨other, stopped, refused, result, reported⟩ |
      ⟨other, before, symbol, after, segment, reached, stopped, text, next, accepted, refused,
        result, reported⟩ |
      ⟨other, reached, stopped, accepted, refused, result, reported⟩ |
      ⟨drawn, shown, accepted, result, counted, reported⟩ := course
    · cases result.symm.trans interrupted
      exact .inl ⟨stopped, refused, reported⟩
    · cases result.symm.trans interrupted
      exact .inr (.inl ⟨before, symbol, after, segment, reached, stopped, text, next, accepted,
        refused, reported⟩)
    · cases result.symm.trans interrupted
      exact .inr (.inr ⟨reached, stopped, accepted, refused, reported⟩)
    · cases result.symm.trans interrupted
  · obtain ⟨_, _, _, result, reported⟩ | ⟨_, before, _, _, _, _, _, _, _, _, _, result, reported⟩ |
      ⟨_, _, _, _, _, result, reported⟩ | ⟨drawn, _, _, result, _, reported⟩ := course
    · have nothing : events = told setup commands "" := reported
      exact completed_iff_of_told result nothing
    · exact completed_iff_of_told result reported
    · exact completed_iff_of_told result reported
    · have member : doneEvent drawn ∈ events := by
        have whole : events = reports commands ++ [doneEvent drawn] := reported
        rw [whole]
        exact List.mem_append_right _ (List.mem_singleton_self _)
      exact ⟨fun _ => ⟨_, member, rfl⟩, fun _ => ⟨drawn, result⟩⟩
  · intro surface next
    refine ⟨events_start surface next, session.events_reconfigure next, ?_⟩
    rw [perform, reconfigure]
    cases next.undrawable? <;> rfl

/-- Nine characters in ten bytes, two of them foreign and one of them a bracket without its
partner. The second segment of the drawing on a journal is refused, so that drawing is never done;
a recording completes it. Neither a refused setup nor an accepted one is reported. -/
theorem render_events_branching :
    let setup := { Setup.standard with alphabet := .bracketed }
    let journal : Session Journal := ⟨.blank ⟨none, some 2, none⟩, setup⟩
    let recording : Session Recording := ⟨.blank, setup⟩
    let outcome := setup.motion.outcome .bracketed "F[é]]xF+F"
    (¬ ∃ event ∈ (journal.render "F[é]]xF+F").events.toList, event.message = "render done") ∧
    (journal.render "F[é]]xF+F").events.toList =
      [.renderStart 10 30.0 90.0 90.0 .bracketed, .ignoredSymbol 'é', .unmatchedPop,
        .ignoredSymbol 'x'] ∧
    (journal.render "F[é]]xF+F").events.toList.map Event.notice =
      [⟨.debug, "render start", [("len", .count 10), ("step", .number 30.0),
          ("delta", .number 90.0), ("heading", .number 90.0), ("symbol_set", .text "Bracketed")]⟩,
        ⟨.trace, "ignored symbol", [("symbol", .text "é")]⟩,
        ⟨.warn, "pop with no saved cursor", []⟩,
        ⟨.trace, "ignored symbol", [("symbol", .text "x")]⟩] ∧
    (recording.render "F[é]]xF+F").result = .ok outcome ∧ outcome.tally.ignored = 2 ∧
    ((recording.render "F[é]]xF+F").events.toList.countP fun event => event.level = .trace) = 2 ∧
    ((recording.render "F[é]]xF+F").events.toList.countP fun event => event.level = .warn) = 1 ∧
    (journal.reconfigure .standard).result = .ok () ∧
    (journal.reconfigure .standard).events = #[] ∧
    (journal.reconfigure { setup with scale := 0.0 }).result = .error (.undrawable .scale) ∧
    (journal.reconfigure { setup with scale := 0.0 }).events = #[] := by
  have undrawable : Setup.undrawable? { Setup.standard with alphabet := .bracketed, scale := 0.0 } =
      some .scale := by decide
  intro setup journal recording outcome
  obtain ⟨-, -, -, done, quiet⟩ := journal.render_events "F[é]]xF+F"
  obtain ⟨-, completed, -⟩ := recording.render_events "F[é]]xF+F"
  have result : (recording.render "F[é]]xF+F").result = .ok outcome := rfl
  obtain ⟨-, -, traced, warned⟩ := completed outcome result
  have told : (journal.render "F[é]]xF+F").events.toList =
      [.renderStart 10 30.0 90.0 90.0 .bracketed, .ignoredSymbol 'é', .unmatchedPop,
        .ignoredSymbol 'x'] := by decide
  refine ⟨?_, told, ?_, result, rfl, traced, warned, rfl, (quiet journal.surface .standard).2.1,
    congrArg Effect.result (reconfigure_of_undrawable undrawable),
    (quiet journal.surface _).2.1⟩
  · rw [← done]
    rintro ⟨_, interrupted⟩
    cases interrupted
  · rw [told]
    rfl

end Session

end TurtleGraphics

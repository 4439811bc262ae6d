import TurtleGraphics.Proofs.Drawing.Fields
import TurtleGraphics.Proofs.Json.Members
import TurtleGraphics.Proofs.Json.Printing

set_option autoImplicit false

/-!
# Completing setups

A text that gives only parts of a setup is completed from the standard setup, and so are the motion
and the style inside it. A viewport, a point and a colour have no standard parts.
-/

namespace TurtleGraphics

open Json

/-- What an object text is read as, level by level: the known keys must not repeat, each given part
is what its form reads, and each other part is the standard one. Only the keys that are known
matter, whatever else the object holds and in whatever order. A list stands for the object that
gives its items to the first keys. -/
theorem Setup.completed :
    (∀ text members, IsObjectText text members → ∀ setup,
      Setup.record.form.readText text = .ok setup ↔
        Unrepeated members ["params", "viewport", "scale", "style", "symbol_set"] ∧
        IsCompleted members "params" Motion.record.form (some Setup.standard.motion)
          setup.motion ∧
        IsCompleted members "viewport" Viewport.record.form (some Setup.standard.viewport)
          setup.viewport ∧
        IsCompleted members "scale" .number (some Setup.standard.scale) setup.scale ∧
        IsCompleted members "style" Style.record.form (some Setup.standard.style) setup.style ∧
        IsCompleted members "symbol_set" Alphabet.choice.form (some Setup.standard.alphabet)
          setup.alphabet) ∧
    (∀ text members, IsObjectText text members → ∀ motion,
      Motion.record.form.readText text = .ok motion ↔
        Unrepeated members ["step", "delta", "start", "heading"] ∧
        IsCompleted members "step" .number (some Motion.standard.step) motion.step ∧
        IsCompleted members "delta" .number (some Motion.standard.delta) motion.delta ∧
        IsCompleted members "start" Point.record.form (some Motion.standard.start) motion.start ∧
        IsCompleted members "heading" .number (some Motion.standard.heading) motion.heading) ∧
    (∀ text members, IsObjectText text members → ∀ style,
      Style.record.form.readText text = .ok style ↔
        Unrepeated members ["color", "width", "background"] ∧
        IsCompleted members "color" Color.record.form (some Style.standard.color) style.color ∧
        IsCompleted members "width" .number (some Style.standard.width) style.width ∧
        IsCompleted members "background" Color.record.form (some Style.standard.background)
          style.background) ∧
    (∀ text members, IsObjectText text members → ∀ viewport,
      Viewport.record.form.readText text = .ok viewport ↔
        Unrepeated members ["width", "height"] ∧
        IsCompleted members "width" .word none viewport.width ∧
        IsCompleted members "height" .word none viewport.height) ∧
    (∀ text members, IsObjectText text members → ∀ point,
      Point.record.form.readText text = .ok point ↔
        Unrepeated members ["x", "y"] ∧
        IsCompleted members "x" .number none point.x ∧
        IsCompleted members "y" .number none point.y) ∧
    (∀ text members, IsObjectText text members → ∀ color,
      Color.record.form.readText text = .ok color ↔
        Unrepeated members ["red", "green", "blue", "alpha"] ∧
        IsCompleted members "red" .number none color.red ∧
        IsCompleted members "green" .number none color.green ∧
        IsCompleted members "blue" .number none color.blue ∧
        IsCompleted members "alpha" .number none color.alpha) ∧
    ListsStandForObjects Setup.record.form
      ["params", "viewport", "scale", "style", "symbol_set"] ∧
    ListsStandForObjects Motion.record.form ["step", "delta", "start", "heading"] ∧
    ListsStandForObjects Style.record.form ["color", "width", "background"] ∧
    ListsStandForObjects Viewport.record.form ["width", "height"] ∧
    ListsStandForObjects Point.record.form ["x", "y"] ∧
    ListsStandForObjects Color.record.form ["red", "green", "blue", "alpha"] := by
  refine ⟨fun text members isObject setup => ?_, fun text members isObject motion => ?_,
    fun text members isObject style => ?_, fun text members isObject viewport => ?_,
    fun text members isObject point => ?_, fun text members isObject color => ?_,
    Record.listsStandForObjects Setup.isLawful, Record.listsStandForObjects Motion.isLawful,
    Record.listsStandForObjects Style.isLawful, Record.listsStandForObjects Viewport.isLawful,
    Record.listsStandForObjects Point.isLawful, Record.listsStandForObjects Color.isLawful⟩
  · refine (Record.readText_object_eq_ok_iff Setup.isLawful isObject).trans (and_congr_right' ?_)
    simp [Setup.record]
  · refine (Record.readText_object_eq_ok_iff Motion.isLawful isObject).trans (and_congr_right' ?_)
    simp [Motion.record]
  · refine (Record.readText_object_eq_ok_iff Style.isLawful isObject).trans (and_congr_right' ?_)
    simp [Style.record]
  · refine (Record.readText_object_eq_ok_iff Viewport.isLawful isObject).trans
      (and_congr_right' ?_)
    simp [Viewport.record]
  · refine (Record.readText_object_eq_ok_iff Point.isLawful isObject).trans (and_congr_right' ?_)
    simp [Point.record]
  · refine (Record.readText_object_eq_ok_iff Color.isLawful isObject).trans (and_congr_right' ?_)
    simp [Color.record]

/-- Two keys are known. Another one stands there twice, before a value that holds a known key. -/
theorem Setup.completed_scale_and_params :
    IsObjectText
        "\x7b\"a\":[\x7b\"scale\": 3\x7d],\"scale\" : 2,\"params\":[10],\"a\":null\x7d"
        [("a", "[\x7b\"scale\": 3\x7d]"), ("scale", "2"), ("params", "[10]"), ("a", "null")] ∧
      Setup.record.form.readText
        "\x7b\"a\":[\x7b\"scale\": 3\x7d],\"scale\" : 2,\"params\":[10],\"a\":null\x7d" =
          .ok { Setup.standard with
            scale := 2.0
            motion := { Motion.standard with step := 10.0 } } := by
  have blank : IsBlanks [' '] := List.forall_mem_singleton.mpr rfl
  have inner : Spelled (.value (.object [(textPieces "scale", .number (.plainly false 3))] none))
      "\x7b\"scale\": 3\x7d".toList :=
    .object (.lastMember isBlanks_nil isBlanks_nil blank isBlanks_nil
      (quotedText_textChars "scale") (spelled_digitChars 3))
  have list : Spelled (.value (.list [_] none)) "[\x7b\"scale\": 3\x7d]".toList :=
    .list (.lastItem isBlanks_nil isBlanks_nil inner)
  have params : Spelled (.value (.list [.number (.plainly false 10)] none)) "[10]".toList :=
    .list (.lastItem isBlanks_nil isBlanks_nil (spelled_digitChars 10))
  have object : Spelled (.value (.object [(textPieces "a", _), (textPieces "scale", _),
      (textPieces "params", _), (textPieces "a", _)] none))
        "\x7b\"a\":[\x7b\"scale\": 3\x7d],\"scale\" : 2,\"params\":[10],\"a\":null\x7d".toList :=
    .object (.member isBlanks_nil isBlanks_nil isBlanks_nil isBlanks_nil
        (quotedText_textChars "a") list
      (.member isBlanks_nil blank blank isBlanks_nil
        (quotedText_textChars "scale") (spelled_digitChars 2)
      (.member isBlanks_nil isBlanks_nil isBlanks_nil isBlanks_nil
        (quotedText_textChars "params") params
      (.lastMember isBlanks_nil isBlanks_nil isBlanks_nil isBlanks_nil
        (quotedText_textChars "a") .null))))
  have isObject : IsObjectText
      "\x7b\"a\":[\x7b\"scale\": 3\x7d],\"scale\" : 2,\"params\":[10],\"a\":null\x7d"
      [("a", "[\x7b\"scale\": 3\x7d]"), ("scale", "2"), ("params", "[10]"), ("a", "null")] :=
    ⟨_, isText_of_spelled object, .cons ⟨rfl, isText_of_spelled list⟩
      (.cons ⟨rfl, isText_of_spelled (spelled_digitChars 2)⟩
      (.cons ⟨rfl, isText_of_spelled params⟩ (.cons ⟨rfl, isText_of_spelled .null⟩ .nil)))⟩
  have unrepeated : Unrepeated
      [("a", "[\x7b\"scale\": 3\x7d]"), ("scale", "2"), ("params", "[10]"), ("a", "null")]
      ["params", "viewport", "scale", "style", "symbol_set"] := by
    unfold Unrepeated
    decide
  exact ⟨isObject, (Setup.completed.1 _ _ isObject _).mpr ⟨unrepeated, rfl, rfl, rfl, rfl, rfl⟩⟩

end TurtleGraphics

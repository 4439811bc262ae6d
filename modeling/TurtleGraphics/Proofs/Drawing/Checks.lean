import TurtleGraphics.Drawing.Canvas
import TurtleGraphics.Drawing.Setup
import TurtleGraphics.Proofs.Number.Places

set_option autoImplicit false

/-!
# What is checked before a drawing

Eleven checks decide whether anything can be drawn with a setup, and the first one that fails gives
the cause. A setup and the canvas made for it check the viewport and the scale alike, so a drawable
setup never lacks a canvas.
-/

namespace TurtleGraphics

open Number

theorem Viewport.hasPixels_iff (viewport : Viewport) :
    viewport.HasPixels ↔ 0 < viewport.width.toNat ∧ 0 < viewport.height.toNat := by
  rw [HasPixels, UInt32.lt_iff_toNat_lt, UInt32.lt_iff_toNat_lt]
  rfl

theorem isExtent_iff (double : Float) :
    IsExtent double ↔ double.isFinite = true ∧ 0 < value double := by
  apply and_congr_right
  intro finite
  rw [lt_iff rfl finite, standsFor_zero.2]

theorem isIntensity_iff (double : Float) :
    IsIntensity double ↔ double.isFinite = true ∧ 0 ≤ value double ∧ value double ≤ 1 := by
  apply and_congr_right
  intro finite
  rw [le_iff rfl finite, le_iff finite rfl, standsFor_zero.2, standsFor_one.2]

/-- The channels in the order in which they are checked. -/
def Channel.all : List Channel :=
  [.red, .green, .blue, .alpha]

def Color.intensity (color : Color) : Channel → Float
  | .red => color.red
  | .green => color.green
  | .blue => color.blue
  | .alpha => color.alpha

/-- One of the things that must be right about a setup. -/
inductive Check where
  | viewport
  | scale
  | strokeWidth
  | stroke (channel : Channel)
  | background (channel : Channel)
deriving DecidableEq

namespace Check

/-- All checks, in the order in which they are made. -/
def all : List Check :=
  .viewport :: .scale :: .strokeWidth :: (Channel.all.map .stroke ++ Channel.all.map .background)

theorem mem_all (check : Check) : check ∈ all := by
  cases check with
  | viewport | scale | strokeWidth => decide
  | stroke channel | background channel => cases channel <;> decide

/-- What a check asks for, said by the numbers that the doubles of the setup stand for. -/
def Passes (setup : Setup) : Check → Prop
  | .viewport => 0 < setup.viewport.width.toNat ∧ 0 < setup.viewport.height.toNat
  | .scale => setup.scale.isFinite = true ∧ 0 < value setup.scale
  | .strokeWidth => setup.style.width.isFinite = true ∧ 0 < value setup.style.width
  | .stroke channel =>
    let intensity := setup.style.color.intensity channel
    intensity.isFinite = true ∧ 0 ≤ value intensity ∧ value intensity ≤ 1
  | .background channel =>
    let intensity := setup.style.background.intensity channel
    intensity.isFinite = true ∧ 0 ≤ value intensity ∧ value intensity ≤ 1

instance (setup : Setup) : (check : Check) → Decidable (check.Passes setup)
  | .viewport => inferInstanceAs (Decidable (_ ∧ _))
  | .scale => inferInstanceAs (Decidable (_ ∧ _))
  | .strokeWidth => inferInstanceAs (Decidable (_ ∧ _))
  | .stroke _ => inferInstanceAs (Decidable (_ ∧ _ ∧ _))
  | .background _ => inferInstanceAs (Decidable (_ ∧ _ ∧ _))

/-- The cause that a failed check gives. It does not tell the two colours apart. -/
def cause (setup : Setup) : Check → Undrawable
  | .viewport => .emptyViewport setup.viewport
  | .scale => .scale
  | .strokeWidth => .strokeWidth
  | .stroke channel => .channel channel
  | .background channel => .channel channel

/-- The cause that the first failed check of a list gives. -/
def firstCause (setup : Setup) (checks : List Check) : Option Undrawable :=
  (checks.find? fun check => ¬ check.Passes setup).map (cause setup)

variable {setup : Setup}

theorem firstCause_cons (check : Check) (checks : List Check) :
    firstCause setup (check :: checks) =
      if check.Passes setup then firstCause setup checks else some (check.cause setup) := by
  rw [firstCause, List.find?_cons]
  by_cases passes : check.Passes setup
  · simp [passes, firstCause]
  · simp [passes]

theorem firstCause_append (first second : List Check) :
    firstCause setup (first ++ second) =
      (firstCause setup first).or (firstCause setup second) := by
  rw [firstCause, List.find?_append, Option.map_or]
  rfl

theorem firstCause_all_eq_none_iff :
    firstCause setup all = none ↔ ∀ check : Check, check.Passes setup := by
  simp [firstCause, mem_all]

/-- The checks of one colour, whichever it is. -/
theorem firstCause_channels {check : Channel → Check} {color : Color}
    (asks : ∀ channel, (check channel).Passes setup ↔ IsIntensity (color.intensity channel))
    (causes : ∀ channel, (check channel).cause setup = .channel channel) :
    firstCause setup (Channel.all.map check) = color.undrawable? := by
  have channels : color.channels =
      Channel.all.map fun channel => (channel, color.intensity channel) := rfl
  have sameCause : cause setup ∘ check = .channel := funext causes
  have sameTest : (fun channel => decide ¬ (check channel).Passes setup) =
      fun channel => decide ¬ IsIntensity (color.intensity channel) :=
    funext fun channel => decide_eq_decide.mpr (not_congr (asks channel))
  rw [firstCause, Color.undrawable?, channels, List.find?_map, List.find?_map, Option.map_map,
    Option.map_map, sameCause]
  exact congrArg (fun test => (Channel.all.find? test).map Undrawable.channel) sameTest

theorem firstCause_stroke :
    firstCause setup (Channel.all.map .stroke) = setup.style.color.undrawable? :=
  firstCause_channels (fun _ => (isIntensity_iff _).symm) fun _ => rfl

theorem firstCause_background :
    firstCause setup (Channel.all.map .background) = setup.style.background.undrawable? :=
  firstCause_channels (fun _ => (isIntensity_iff _).symm) fun _ => rfl

theorem firstCause_style :
    firstCause setup
        (.strokeWidth :: (Channel.all.map .stroke ++ Channel.all.map .background)) =
      setup.style.undrawable? := by
  have width : strokeWidth.Passes setup ↔ IsExtent setup.style.width := (isExtent_iff _).symm
  rw [firstCause_cons, firstCause_append, firstCause_stroke, firstCause_background,
    if_congr width rfl rfl, Style.undrawable?]
  rfl

end Check

namespace Setup

variable {setup : Setup}

theorem undrawable?_eq_firstCause (setup : Setup) :
    setup.undrawable? = Check.firstCause setup Check.all := by
  have viewport : Check.viewport.Passes setup ↔ setup.viewport.HasPixels :=
    setup.viewport.hasPixels_iff.symm
  have scale : Check.scale.Passes setup ↔ IsExtent setup.scale := (isExtent_iff _).symm
  rw [Check.all, Check.firstCause_cons, Check.firstCause_cons, Check.firstCause_style,
    if_congr viewport rfl rfl, if_congr scale rfl rfl, undrawable?, ite_not, ite_not]
  rfl

theorem undrawable?_eq_none_iff :
    setup.undrawable? = none ↔ ∀ check : Check, check.Passes setup := by
  rw [undrawable?_eq_firstCause, Check.firstCause_all_eq_none_iff]

theorem undrawable?_of_canvas_refused {cause : Undrawable}
    (refused : Canvas.of setup.viewport setup.scale = .error cause) :
    setup.undrawable? = some cause := by
  unfold Canvas.of at refused
  split at refused
  next hasPixels =>
    split at refused
    next => cases refused
    next notExtent =>
      cases refused
      rw [undrawable?, if_neg (not_not.mpr hasPixels), if_pos notExtent]
  next empty =>
    cases refused
    rw [undrawable?, if_pos empty]

theorem undrawable?_of_canvas {canvas : Canvas}
    (made : Canvas.of setup.viewport setup.scale = .ok canvas) :
    setup.undrawable? = setup.style.undrawable? := by
  obtain ⟨viewport, scale⟩ := Canvas.of_eq_ok made
  have hasPixels := canvas.hasPixels
  have isExtent := canvas.isExtent
  rw [viewport] at hasPixels
  rw [scale] at isExtent
  rw [undrawable?, if_neg (not_not.mpr hasPixels), if_neg (not_not.mpr isExtent)]

/-- Checking a setup is making its canvas and then checking its style. What can be drawn with has
pixels, positive extents and intensities from 0 to 1; everything else gives the cause of the first
check that fails. -/
theorem checks_agree (setup : Setup) :
    (∀ cause, Canvas.of setup.viewport setup.scale = .error cause →
      setup.undrawable? = some cause) ∧
    (∀ canvas, Canvas.of setup.viewport setup.scale = .ok canvas →
      setup.undrawable? = setup.style.undrawable?) ∧
    (∀ motion alphabet, { setup with motion, alphabet }.undrawable? = setup.undrawable?) ∧
    (setup.undrawable? = none ↔
      (0 < setup.viewport.width.toNat ∧ 0 < setup.viewport.height.toNat) ∧
      (∀ extent ∈ [setup.scale, setup.style.width],
        extent.isFinite = true ∧ 0 < value extent) ∧
      ∀ color ∈ [setup.style.color, setup.style.background], ∀ channel,
        (color.intensity channel).isFinite = true ∧
          0 ≤ value (color.intensity channel) ∧ value (color.intensity channel) ≤ 1) ∧
    setup.undrawable? = Check.firstCause setup Check.all := by
  refine ⟨fun _ => undrawable?_of_canvas_refused, fun _ => undrawable?_of_canvas,
    fun _ _ => rfl, ?_, setup.undrawable?_eq_firstCause⟩
  rw [undrawable?_eq_none_iff]
  constructor
  · intro passes
    refine ⟨passes .viewport, ?_, ?_⟩
    · rw [List.forall_mem_cons, List.forall_mem_singleton]
      exact ⟨passes .scale, passes .strokeWidth⟩
    · rw [List.forall_mem_cons, List.forall_mem_singleton]
      exact ⟨fun channel => passes (.stroke channel), fun channel => passes (.background channel)⟩
  · rintro ⟨viewport, extents, colors⟩ check
    rw [List.forall_mem_cons, List.forall_mem_singleton] at extents colors
    obtain ⟨scale, width⟩ := extents
    obtain ⟨stroke, background⟩ := colors
    cases check with
    | viewport => exact viewport
    | scale => exact scale
    | strokeWidth => exact width
    | stroke channel => exact stroke channel
    | background channel => exact background channel

/-- Two channels of the background are wrong, one of them because it is NaN. -/
theorem checks_agree_background :
    let background : Color := ⟨0.0, 1.0, 0.0 / 0.0, 2.0⟩
    let setup := { Setup.standard with style := { Style.standard with background } }
    setup.undrawable? = some (.channel .blue) ∧
      ∃ canvas, Canvas.of setup.viewport setup.scale = .ok canvas ∧
        setup.style.undrawable? = some (.channel .blue) := by
  intro background setup
  have refused : setup.undrawable? = some (.channel .blue) := by decide
  have hasPixels : Viewport.standard.HasPixels := by decide
  have isExtent : IsExtent 1.0 := by decide
  have made : Canvas.of setup.viewport setup.scale = .ok ⟨_, _, hasPixels, isExtent⟩ := by
    exact (dif_pos hasPixels).trans (dif_pos isExtent)
  refine ⟨refused, _, made, ?_⟩
  rw [← setup.checks_agree.2.1 _ made]
  exact refused

end Setup

end TurtleGraphics

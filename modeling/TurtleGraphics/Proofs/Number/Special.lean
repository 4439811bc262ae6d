import TurtleGraphics.Proofs.Number.Value

set_option autoImplicit false

/-!
# Infinities and NaN

What is not finite makes every sum and every product that it goes into not finite, and NaN makes
them NaN. Nothing that is added or multiplied later can make them finite again.
-/

namespace TurtleGraphics.Number

open Float.Model Float.Model.UnpackedFloat

/-! ### Values that are not finite -/

theorem add_special {first second : UnpackedFloat}
    (special : first.isFinite = false ∨ second.isFinite = false) :
    IsDouble (UnpackedFloat.add Format.binary64 first second) ∧
      (UnpackedFloat.add Format.binary64 first second).isFinite = false := by
  cases first with
  | notANumber => cases second <;> exact ⟨trivial, rfl⟩
  | infinity sign =>
      cases second with
      | infinity otherSign => cases sign <;> cases otherSign <;> exact ⟨trivial, rfl⟩
      | notANumber | zero | finite => exact ⟨trivial, rfl⟩
  | zero | finite =>
      cases second with
      | notANumber | infinity => exact ⟨trivial, rfl⟩
      | zero | finite => rcases special with impossible | impossible <;> cases impossible

theorem mul_special {first second : UnpackedFloat}
    (special : first.isFinite = false ∨ second.isFinite = false) :
    IsDouble (UnpackedFloat.mul Format.binary64 first second) ∧
      (UnpackedFloat.mul Format.binary64 first second).isFinite = false := by
  cases first with
  | notANumber | infinity => cases second <;> exact ⟨trivial, rfl⟩
  | zero | finite =>
      cases second with
      | notANumber | infinity => exact ⟨trivial, rfl⟩
      | zero | finite => rcases special with impossible | impossible <;> cases impossible

section

variable {left right : Float}

theorem isFinite_add_of_special (special : left.isFinite = false ∨ right.isFinite = false) :
    (left + right).isFinite = false := by
  obtain ⟨double, infinite⟩ := add_special special
  exact (isFinite_pack double).trans infinite

theorem isFinite_mul_of_special (special : left.isFinite = false ∨ right.isFinite = false) :
    (left * right).isFinite = false := by
  obtain ⟨double, infinite⟩ := mul_special special
  exact (isFinite_pack double).trans infinite

/-- A sum is infinite or NaN as soon as one of its summands is. -/
theorem isFinite_of_isFinite_add (finite : (left + right).isFinite = true) :
    left.isFinite = true ∧ right.isFinite = true := by
  by_contra notBoth
  rw [not_and_or, Bool.not_eq_true, Bool.not_eq_true] at notBoth
  rw [isFinite_add_of_special notBoth] at finite
  cases finite

/-! ### NaN -/

theorem eq_nan_iff {double : Float} :
    double.isNaN = true ↔ double.toModel.unpack = .notANumber := by
  change double.toModel.unpack.isNaN = true ↔ _
  cases double.toModel.unpack <;> simp [UnpackedFloat.isNaN]

theorem add_notANumber {first second : UnpackedFloat}
    (either : first = .notANumber ∨ second = .notANumber) :
    UnpackedFloat.add Format.binary64 first second = .notANumber := by
  rcases either with rfl | rfl
  · cases second <;> rfl
  · cases first <;> rfl

theorem mul_notANumber {first second : UnpackedFloat}
    (either : first = .notANumber ∨ second = .notANumber) :
    UnpackedFloat.mul Format.binary64 first second = .notANumber := by
  rcases either with rfl | rfl
  · cases second <;> rfl
  · cases first <;> rfl

theorem isNaN_add (notANumber : left.isNaN = true ∨ right.isNaN = true) :
    (left + right).isNaN = true := by
  rw [eq_nan_iff, eq_nan_iff] at notANumber
  change (Float.Model.pack (UnpackedFloat.add Format.binary64 left.toModel.unpack
    right.toModel.unpack)).unpack.isNaN = true
  rw [add_notANumber notANumber]
  rfl

theorem isNaN_mul (notANumber : left.isNaN = true ∨ right.isNaN = true) :
    (left * right).isNaN = true := by
  rw [eq_nan_iff, eq_nan_iff] at notANumber
  change (Float.Model.pack (UnpackedFloat.mul Format.binary64 left.toModel.unpack
    right.toModel.unpack)).unpack.isNaN = true
  rw [mul_notANumber notANumber]
  rfl

end

theorem isFinite_of_isNaN {double : Float} (notANumber : double.isNaN = true) :
    double.isFinite = false := by
  rw [eq_nan_of_isNaN notANumber]
  rfl

end TurtleGraphics.Number

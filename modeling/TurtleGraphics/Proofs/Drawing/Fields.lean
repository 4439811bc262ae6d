import TurtleGraphics.Drawing.Written
import TurtleGraphics.Proofs.Json.Records

set_option autoImplicit false

/-!
# The parts of a setup

The fields of each record of a setup are independent of one another, and there are no other parts.
-/

namespace TurtleGraphics

open Json

theorem Point.isLawful : Point.record.IsLawful where
  nodup_keys := by decide
  get_set := by simp [Point.record]
  get_set_of_ne := by simp [Point.record]
  ext := by
    rintro ⟨⟩ ⟨⟩ same
    simpa [Point.record] using same

theorem Segment.isLawful : Segment.record.IsLawful where
  nodup_keys := by decide
  get_set := by simp [Segment.record]
  get_set_of_ne := by simp [Segment.record]
  ext := by
    rintro ⟨⟩ ⟨⟩ same
    simpa [Segment.record] using same

theorem Viewport.isLawful : Viewport.record.IsLawful where
  nodup_keys := by decide
  get_set := by simp [Viewport.record]
  get_set_of_ne := by simp [Viewport.record]
  ext := by
    rintro ⟨⟩ ⟨⟩ same
    simpa [Viewport.record] using same

theorem Color.isLawful : Color.record.IsLawful where
  nodup_keys := by decide
  get_set := by simp [Color.record]
  get_set_of_ne := by simp [Color.record]
  ext := by
    rintro ⟨⟩ ⟨⟩ same
    simpa [Color.record] using same

theorem Style.isLawful : Style.record.IsLawful where
  nodup_keys := by decide
  get_set := by simp [Style.record]
  get_set_of_ne := by simp [Style.record]
  ext := by
    rintro ⟨⟩ ⟨⟩ same
    simpa [Style.record] using same

theorem Motion.isLawful : Motion.record.IsLawful where
  nodup_keys := by decide
  get_set := by simp [Motion.record]
  get_set_of_ne := by simp [Motion.record]
  ext := by
    rintro ⟨⟩ ⟨⟩ same
    simpa [Motion.record] using same

theorem Setup.isLawful : Setup.record.IsLawful where
  nodup_keys := by decide
  get_set := by simp [Setup.record]
  get_set_of_ne := by simp [Setup.record]
  ext := by
    rintro ⟨⟩ ⟨⟩ same
    simpa [Setup.record] using same

end TurtleGraphics

import TurtleGraphics.Proofs.Drawing.Checks
import TurtleGraphics.Proofs.Drawing.Fields
import TurtleGraphics.Proofs.Json.Decoding
import TurtleGraphics.Proofs.Number.WholeNumbers

set_option autoImplicit false

/-!
# Setups that are written and read

A setup that can be drawn and whose motion is finite is read from its own text. That the numeral of
a finite double denotes this double is an assumption here; all that stands around the numerals is
not.
-/

namespace TurtleGraphics

open Json

/-! ### The doubles of a value -/

def Point.doubles (point : Point) : List Float :=
  [point.x, point.y]

def Segment.doubles (segment : Segment) : List Float :=
  segment.start.doubles ++ segment.finish.doubles

def Color.doubles (color : Color) : List Float :=
  [color.red, color.green, color.blue, color.alpha]

def Style.doubles (style : Style) : List Float :=
  style.color.doubles ++ style.width :: style.background.doubles

def Motion.doubles (motion : Motion) : List Float :=
  motion.step :: motion.delta :: (motion.start.doubles ++ [motion.heading])

def Setup.doubles (setup : Setup) : List Float :=
  setup.motion.doubles ++ setup.scale :: setup.style.doubles

/-! ### Values that are read from their own documents -/

namespace Json

/-- A form reads a value from the document that it writes for it. -/
def Form.Restores {α : Type} (form : Form α) (value : α) : Prop :=
  form.read (form.write value).value = .ok value

theorem restores_number {double : Float} (readsBack : ReadsBack double) :
    Form.number.Restores double :=
  readsBack.read

theorem restores_word (number : UInt32) : Form.word.Restores number := by
  have short : number.toNat < UInt64.size := Nat.lt_trans number.toNat_lt (by decide)
  have quantity : (Numeral.plainly false number.toNat).quantity =
      .ok (.integer number.toNat) := if_pos ⟨rfl, nofun, short⟩
  have inRange : (0 : Int) ≤ number.toNat ∧ (number.toNat : Int) < UInt32.size :=
    ⟨Int.natCast_nonneg _, Int.ofNat_lt.mpr number.toNat_lt⟩
  have read : Form.word.read (.number (.plainly false number.toNat)) =
      .ok (number.toNat : Int).toNat.toUInt32 := by
    simp only [Form.word, quantity, bind, Except.bind, if_pos inRange]
    rfl
  rw [Form.Restores]
  refine read.trans (congrArg Except.ok ?_)
  exact UInt32.ofNat_toNat

theorem Record.restores {α : Type} {record : Record α} (lawful : record.IsLawful) {value : α}
    (parts : ∀ field ∈ record.fields, field.form.Restores (field.get value)) :
    record.form.Restores value :=
  (Record.read_write_eq_ok_iff lawful).mpr parts

end Json

theorem Alphabet.restores (alphabet : Alphabet) : Alphabet.choice.form.Restores alphabet := by
  cases alphabet <;> rfl

theorem Point.restores {point : Point} (readBack : ∀ double ∈ point.doubles, ReadsBack double) :
    Point.record.form.Restores point := by
  simp only [Point.doubles, List.forall_mem_cons] at readBack
  obtain ⟨x, y, -⟩ := readBack
  apply Record.restores Point.isLawful
  simpa [Point.record] using ⟨restores_number x, restores_number y⟩

theorem Segment.restores {segment : Segment}
    (readBack : ∀ double ∈ segment.doubles, ReadsBack double) :
    Segment.record.form.Restores segment := by
  obtain ⟨start, finish⟩ := List.forall_mem_append.mp readBack
  apply Record.restores Segment.isLawful
  simpa [Segment.record] using ⟨Point.restores start, Point.restores finish⟩

theorem Viewport.restores (viewport : Viewport) : Viewport.record.form.Restores viewport := by
  apply Record.restores Viewport.isLawful
  simpa [Viewport.record] using ⟨restores_word viewport.width, restores_word viewport.height⟩

theorem Color.restores {color : Color} (readBack : ∀ double ∈ color.doubles, ReadsBack double) :
    Color.record.form.Restores color := by
  simp only [Color.doubles, List.forall_mem_cons] at readBack
  obtain ⟨red, green, blue, alpha, -⟩ := readBack
  apply Record.restores Color.isLawful
  simpa [Color.record] using ⟨restores_number red, restores_number green, restores_number blue,
    restores_number alpha⟩

theorem Style.restores {style : Style} (readBack : ∀ double ∈ style.doubles, ReadsBack double) :
    Style.record.form.Restores style := by
  obtain ⟨color, others⟩ := List.forall_mem_append.mp readBack
  obtain ⟨width, background⟩ := List.forall_mem_cons.mp others
  apply Record.restores Style.isLawful
  simpa [Style.record] using ⟨Color.restores color, restores_number width,
    Color.restores background⟩

theorem Motion.restores {motion : Motion}
    (readBack : ∀ double ∈ motion.doubles, ReadsBack double) :
    Motion.record.form.Restores motion := by
  simp only [Motion.doubles, List.forall_mem_cons, List.forall_mem_append] at readBack
  obtain ⟨step, delta, start, heading, -⟩ := readBack
  apply Record.restores Motion.isLawful
  simpa [Motion.record] using ⟨restores_number step, restores_number delta, Point.restores start,
    restores_number heading⟩

theorem Setup.restores {setup : Setup} (readBack : ∀ double ∈ setup.doubles, ReadsBack double) :
    Setup.record.form.Restores setup := by
  obtain ⟨motion, others⟩ := List.forall_mem_append.mp readBack
  obtain ⟨scale, style⟩ := List.forall_mem_cons.mp others
  apply Record.restores Setup.isLawful
  simpa [Setup.record] using ⟨Motion.restores motion, Viewport.restores setup.viewport,
    restores_number scale, Style.restores style, Alphabet.restores setup.alphabet⟩

/-! ### Finite doubles -/

theorem Json.isFinite_toFloat {numeral : Numeral} {quantity : Quantity}
    (read : numeral.quantity = .ok quantity) : quantity.toFloat.isFinite = true := by
  unfold Numeral.quantity at read
  split at read
  next unsigned =>
    cases read
    exact Number.isFinite_ofDecimal_whole _ unsigned.2.2
  next =>
    split at read
    next signed =>
      cases read
      have short : 2 * numeral.significand ≤ 2 ^ 64 := signed.2.2.2
      exact Number.isFinite_ofDecimal_whole _ (by omega)
    next =>
      split at read
      next finite =>
        cases read
        exact finite
      next => cases read

theorem Json.isFinite_of_read {value : Value} {double : Float}
    (read : Form.number.read value = .ok double) : double.isFinite = true := by
  cases value with
  | number numeral =>
      obtain ⟨quantity, inRange, rfl⟩ := map_eq_ok.mp read
      exact isFinite_toFloat inRange
  | _ => cases read

theorem Point.isFinite_of_read {value : Value} {point : Point}
    (read : Point.record.form.read value = .ok point) :
    ∀ double ∈ point.doubles, double.isFinite = true := by
  refine Record.ensures_read (fun point => ∀ double ∈ point.doubles, double.isFinite = true)
    ?_ (by decide) read
  simp only [Point.record, Point.doubles, List.forall_mem_cons]
  refine ⟨?_, ?_, List.forall_mem_nil _⟩
  · rintro given x point read ⟨-, y⟩
    exact ⟨Json.isFinite_of_read read, y⟩
  · rintro given y point read ⟨x, -, rest⟩
    exact ⟨x, Json.isFinite_of_read read, rest⟩

theorem Motion.isFinite_of_read {value : Value} {motion : Motion}
    (read : Motion.record.form.read value = .ok motion) :
    ∀ double ∈ motion.doubles, double.isFinite = true := by
  refine Record.ensures_read (fun motion => ∀ double ∈ motion.doubles, double.isFinite = true)
    ?_ (by decide) read
  simp only [Motion.record, Motion.doubles, List.forall_mem_cons, List.forall_mem_append]
  refine ⟨?_, ?_, ?_, ?_, List.forall_mem_nil _⟩
  · rintro given step motion read ⟨-, others⟩
    exact ⟨Json.isFinite_of_read read, others⟩
  · rintro given delta motion read ⟨step, -, others⟩
    exact ⟨step, Json.isFinite_of_read read, others⟩
  · rintro given start motion read ⟨step, delta, -, heading⟩
    exact ⟨step, delta, Point.isFinite_of_read read, heading⟩
  · rintro given heading motion read ⟨step, delta, start, -, rest⟩
    exact ⟨step, delta, start, Json.isFinite_of_read read, rest⟩

/-- Whatever setup is read has a finite motion. -/
theorem Setup.isFinite_of_read {value : Value} {setup : Setup}
    (read : Setup.record.form.read value = .ok setup) :
    ∀ double ∈ setup.motion.doubles, double.isFinite = true := by
  refine Record.ensures_read (fun setup : Setup =>
    ∀ double ∈ setup.motion.doubles, double.isFinite = true) ?_ (by decide) read
  simp only [Setup.record, List.forall_mem_cons]
  exact ⟨fun given motion setup read _ => Motion.isFinite_of_read read,
    fun given viewport setup read holds => holds, fun given scale setup read holds => holds,
    fun given style setup read holds => holds, fun given alphabet setup read holds => holds,
    List.forall_mem_nil _⟩

theorem Color.isFinite_of_channels {color : Color}
    (finite : ∀ channel, (color.intensity channel).isFinite = true) :
    ∀ double ∈ color.doubles, double.isFinite = true := by
  simp only [Color.doubles, List.forall_mem_cons]
  exact ⟨finite .red, finite .green, finite .blue, finite .alpha, List.forall_mem_nil _⟩

/-- What is drawn with is finite, apart from the motion. -/
theorem Setup.isFinite_of_drawable {setup : Setup} (drawable : setup.undrawable? = none) :
    ∀ double ∈ setup.scale :: setup.style.doubles, double.isFinite = true := by
  have passes := undrawable?_eq_none_iff.mp drawable
  have stroke := Color.isFinite_of_channels fun channel => (passes (.stroke channel)).1
  have background := Color.isFinite_of_channels fun channel => (passes (.background channel)).1
  rw [Style.doubles, List.forall_mem_cons, List.forall_mem_append, List.forall_mem_cons]
  exact ⟨(passes .scale).1, stroke, (passes .strokeWidth).1, background⟩

/-! ### Texts of setups -/

theorem Setup.ofText_eq_ok_iff {text : String} {setup : Setup} :
    Setup.ofText text = .ok setup ↔
      Setup.record.form.readText text = .ok setup ∧ setup.undrawable? = none := by
  rw [Setup.ofText]
  cases Setup.record.form.readText text with
  | error fault => simp
  | ok other =>
      dsimp only
      split
      next cause refused =>
        refine ⟨nofun, ?_⟩
        rintro ⟨same, drawable⟩
        cases same
        cases refused.symm.trans drawable
      next drawable =>
        refine ⟨fun same => ?_, fun ⟨same, _⟩ => congrArg Except.ok (Except.ok.inj same)⟩
        cases same
        exact ⟨rfl, drawable⟩

/-- What is not finite is written as `null`, which no number is read from. -/
theorem Json.isFinite_of_read_write {written double : Float}
    (read : Form.number.read (Form.number.write written).value = .ok double) :
    written.isFinite = true := by
  by_contra infinite
  have null : (Document.number written).value = .null := by
    rw [Document.value, Document.numberChars, if_neg infinite]
    rfl
  change Form.number.read (Document.number written).value = _ at read
  rw [null] at read
  cases read

theorem Point.isFinite_of_read_write {written point : Point}
    (read : Point.record.form.read (Point.record.form.write written).value = .ok point) :
    ∀ double ∈ written.doubles, double.isFinite = true := by
  have fields := (Record.read_write_eq_ok_iff Point.isLawful).mp read
  simp only [Point.record, List.forall_mem_cons] at fields
  obtain ⟨x, y, -⟩ := fields
  simp only [Point.doubles, List.forall_mem_cons]
  exact ⟨Json.isFinite_of_read_write x, Json.isFinite_of_read_write y, List.forall_mem_nil _⟩

/-- Only a finite motion is written as something that a motion is read from. -/
theorem Motion.isFinite_of_read_write {written motion : Motion}
    (read : Motion.record.form.read (Motion.record.form.write written).value = .ok motion) :
    ∀ double ∈ written.doubles, double.isFinite = true := by
  have fields := (Record.read_write_eq_ok_iff Motion.isLawful).mp read
  simp only [Motion.record, List.forall_mem_cons] at fields
  obtain ⟨step, delta, start, heading, -⟩ := fields
  simp only [Motion.doubles, List.forall_mem_cons, List.forall_mem_append]
  exact ⟨Json.isFinite_of_read_write step, Json.isFinite_of_read_write delta,
    Point.isFinite_of_read_write start, Json.isFinite_of_read_write heading, List.forall_mem_nil _⟩

theorem Setup.isFinite_of_read_write {written setup : Setup}
    (read : Setup.record.form.read (Setup.record.form.write written).value = .ok setup) :
    ∀ double ∈ written.motion.doubles, double.isFinite = true := by
  have fields := (Record.read_write_eq_ok_iff Setup.isLawful).mp read
  simp only [Setup.record, List.forall_mem_cons] at fields
  exact Motion.isFinite_of_read_write fields.1

/-- A form reads values whose doubles are finite and read back from their compact texts. -/
def RestoresFinite {α : Type} (form : Form α) (doubles : α → List Float) : Prop :=
  ∀ value, (∀ double ∈ doubles value, double.isFinite = true) →
    (∀ double ∈ doubles value, double.isFinite = true → ReadsBack double) →
      form.readText (form.write value).compact = .ok value

theorem restoresFinite {α : Type} {form : Form α} {doubles : α → List Float}
    (restores : ∀ {value}, (∀ double ∈ doubles value, ReadsBack double) → form.Restores value) :
    RestoresFinite form doubles := by
  intro value finite readsBack
  rw [readText_compact]
  exact restores fun double listed => readsBack double listed (finite double listed)

/-- A setup that can be drawn is read from its own text if its motion is finite, and is not read
from it otherwise. Every part of a setup is read from its own compact text. Only setups that can be
drawn and are finite throughout are ever read, from whatever text. -/
theorem Setup.ofText_toText :
    (∀ setup : Setup, setup.undrawable? = none →
      (∀ double ∈ setup.motion.doubles, double.isFinite = true) →
      (∀ double ∈ setup.doubles, double.isFinite = true → ReadsBack double) →
        Setup.ofText setup.toText = .ok setup) ∧
    (∀ setup : Setup, (∃ double ∈ setup.motion.doubles, double.isFinite = false) →
        ∃ diagnosis, Setup.ofText setup.toText = .error (.setupText diagnosis)) ∧
    RestoresFinite Point.record.form Point.doubles ∧
    RestoresFinite Segment.record.form Segment.doubles ∧
    RestoresFinite Viewport.record.form (fun _ => []) ∧
    RestoresFinite Color.record.form Color.doubles ∧
    RestoresFinite Style.record.form Style.doubles ∧
    RestoresFinite Motion.record.form Motion.doubles ∧
    RestoresFinite Alphabet.choice.form (fun _ => []) ∧
    RestoresFinite Setup.record.form Setup.doubles ∧
    (∀ text setup, Setup.ofText text = .ok setup → setup.undrawable? = none ∧
      ∀ double ∈ setup.doubles, double.isFinite = true) := by
  refine ⟨fun setup drawable finite readsBack => ?_, fun setup infinite => ?_,
    restoresFinite Point.restores, restoresFinite Segment.restores,
    restoresFinite fun _ => Viewport.restores _, restoresFinite Color.restores,
    restoresFinite Style.restores, restoresFinite Motion.restores,
    restoresFinite fun _ => Alphabet.restores _, restoresFinite Setup.restores,
    fun text setup read => ?_⟩
  · have allFinite : ∀ double ∈ setup.doubles, double.isFinite = true :=
      List.forall_mem_append.mpr ⟨finite, Setup.isFinite_of_drawable drawable⟩
    refine Setup.ofText_eq_ok_iff.mpr ⟨?_, drawable⟩
    rw [Setup.toText, readText_indented]
    exact Setup.restores fun double listed => readsBack double listed (allFinite double listed)
  · rw [Setup.ofText, Setup.toText, readText_indented]
    cases read : Setup.record.form.read (Setup.record.form.write setup).value with
    | error fault => exact ⟨⟨fault, _⟩, rfl⟩
    | ok other =>
        obtain ⟨double, listed, infinite⟩ := infinite
        rw [Setup.isFinite_of_read_write read double listed] at infinite
        cases infinite
  · obtain ⟨read, drawable⟩ := Setup.ofText_eq_ok_iff.mp read
    have motion := Setup.isFinite_of_read (read_of_readText read)
    exact ⟨drawable, List.forall_mem_append.mpr ⟨motion, Setup.isFinite_of_drawable drawable⟩⟩

/-- Fractions, a negative zero and an exponent survive. A heading that is not a number does not. -/
theorem Setup.ofText_toText_fractional :
    Setup.ofText (Setup.toText ⟨⟨0.1, -22.5, ⟨-0.0, 1e22⟩, 37.5⟩, .standard, 1.5, .standard,
      .bracketed⟩) = .ok ⟨⟨0.1, -22.5, ⟨-0.0, 1e22⟩, 37.5⟩, .standard, 1.5, .standard,
        .bracketed⟩ ∧
    ∃ diagnosis, Setup.ofText (Setup.toText ⟨⟨0.1, -22.5, ⟨-0.0, 1e22⟩, 0.0 / 0.0⟩, .standard,
      1.5, .standard, .bracketed⟩) = .error (.setupText diagnosis) := by
  have readBack : ∀ double ∈ Setup.doubles ⟨⟨0.1, -22.5, ⟨-0.0, 1e22⟩, 37.5⟩, .standard, 1.5,
      .standard, .bracketed⟩, ReadsBack double := by decide +kernel
  exact ⟨Setup.ofText_toText.1 _ (by decide) (by decide) fun double listed _ =>
    readBack double listed, Setup.ofText_toText.2.1 _
    ⟨0.0 / 0.0, by simp [Motion.doubles], by decide⟩⟩

end TurtleGraphics

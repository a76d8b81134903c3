import AthabascaRecon.Bonelab.ImagePixels
import AthabascaRecon.Foundation.Ensures

/-!
# Calibration fields

`LoadCalibrationFields` reads the dark field and the bright fields. A file may hold a stack of
fields, which are averaged. What is kept of a bright field is its difference to the dark field,
the flat field.
-/

set_option autoImplicit false

namespace AthabascaRecon

/-- What the calibration and the attenuation calculator throw. -/
inductive CalibrationFailure where
  | assertionFailed
  | message (text : String)
  deriving DecidableEq, Repr

/-- What a file with a field holds, by its number of dimensions: one field, a stack of fields,
or something else. -/
inductive CalibrationFile (Space : Type) where
  | single (field : Image2 Space)
  | stack (dims : Tuple2 ℕ) (spacing origin : Tuple2 Space) (fields : List (Tuple2 ℤ → Space))
  | unexpected

/-- The files of a calibration, as far as their names have been set. -/
structure CalibrationFiles (Space : Type) where
  darkField : Option (CalibrationFile Space)
  brightField : Option (CalibrationFile Space)
  postScanBrightField : Option (CalibrationFile Space)

/-- The members of `CTCalibration` that the projection corrections use. -/
structure CTCalibration (Space : Type) where
  darkField : Image2 Space
  flatField : Image2 Space
  postScanFlatField : Option (Image2 Space)
  brightFieldAdvanceInterval : Option Space
  postScanBrightFieldInterval : Option Space
  sensitivityLimit : Space

variable {Space : Type} [Field Space]

/-- `ReadSingle` and `ReadStackAndAverage`: the field in a file, and the interval that is
assumed when none has been set. -/
def CalibrationFile.read (name : String) :
    CalibrationFile Space → Except CalibrationFailure (Image2 Space × Space)
  | .single field => .ok (field, 1)
  | .stack dims spacing origin fields =>
      let factor : Space := 1 / fields.length
      let field : Image2 Space := ⟨dims, spacing, origin, fun _ _ => 0⟩
      .ok (field.updatePixels fun location zero =>
          fields.foldl (fun sum one => sum + factor * one location) zero,
        (fields.length + 1) / (2 : ℕ))
  | .unexpected => .error (.message ("Unexpected dimensions in " ++ name ++ ".\n"))

/-- A bright field without what the dark field has. -/
def readFlatField (darkField : Image2 Space) (name mismatch : String)
    (file : CalibrationFile Space) : Except CalibrationFailure (Image2 Space × Space) := do
  let (field, interval) ← file.read name
  if field.dims = darkField.dims then
    return (field.updatePixels fun location value => value - darkField.pixelAt location, interval)
  else throw (.message mismatch)

/-- `LoadCalibrationFields` of a new calibration. The sensitivity limit stays 0, and intervals
that have been set stay what they are. -/
def loadCalibrationFields (brightFieldAdvanceInterval postScanBrightFieldInterval : Option Space)
    (files : CalibrationFiles Space) : Except CalibrationFailure (CTCalibration Space) :=
  match files.darkField, files.brightField with
  | none, _ => .error (.message "No dark field defined")
  | some _, none => .error (.message "No bright field defined")
  | some darkFile, some brightFile => do
    let (darkField, _) ← darkFile.read "dark field"
    let (flatField, advanceInterval) ← readFlatField darkField "bright field"
      "Bright field and dark field dimensions don't match." brightFile
    let calibration : CTCalibration Space :=
      { darkField, flatField, postScanFlatField := none
        brightFieldAdvanceInterval := some (brightFieldAdvanceInterval.getD advanceInterval)
        postScanBrightFieldInterval, sensitivityLimit := 0 }
    match files.postScanBrightField with
    | none => return calibration
    | some postScanFile => do
      let (postScanFlatField, interval) ← readFlatField darkField "post-scan bright field"
        "Post-scan bright field and dark field dimensions don't match." postScanFile
      return { calibration with
        postScanFlatField := some postScanFlatField
        postScanBrightFieldInterval := some (postScanBrightFieldInterval.getD interval) }

/-- What is known of a calibration whose fields have been loaded. -/
structure CTCalibration.Loaded (calibration : CTCalibration Space) : Prop where
  sameDims : calibration.flatField.dims = calibration.darkField.dims
  postScanSameDims : ∀ field, calibration.postScanFlatField = some field →
    field.dims = calibration.darkField.dims
  sensitivityLimit : calibration.sensitivityLimit = 0

theorem readFlatField_dims {darkField : Image2 Space} {name mismatch : String}
    {file : CalibrationFile Space} {field : Image2 Space} {interval : Space}
    (read : readFlatField darkField name mismatch file = .ok (field, interval)) :
    field.dims = darkField.dims := by
  rw [readFlatField, bind_eq_ok_iff] at read
  obtain ⟨⟨found, foundInterval⟩, _, checked⟩ := read
  dsimp only at checked
  split_ifs at checked with same
  cases checked
  exact same

/-- **A calibration that is loaded has flat fields of the dimensions of its dark field.** -/
theorem loadCalibrationFields_loaded {advance postScan : Option Space}
    {files : CalibrationFiles Space} {calibration : CTCalibration Space}
    (loaded : loadCalibrationFields advance postScan files = .ok calibration) :
    calibration.Loaded := by
  rw [loadCalibrationFields] at loaded
  split at loaded
  · cases loaded
  · cases loaded
  rename_i darkFile brightFile _ _
  rw [bind_eq_ok_iff] at loaded
  obtain ⟨⟨darkField, _⟩, _, loaded⟩ := loaded
  dsimp only at loaded
  rw [bind_eq_ok_iff] at loaded
  obtain ⟨⟨flatField, advanceInterval⟩, bright, loaded⟩ := loaded
  have sameDims := readFlatField_dims bright
  cases chosen : files.postScanBrightField with
  | none =>
    rw [chosen] at loaded
    cases loaded
    exact ⟨sameDims, nofun, rfl⟩
  | some postScanFile =>
    rw [chosen] at loaded
    dsimp only at loaded
    rw [bind_eq_ok_iff] at loaded
    obtain ⟨⟨postScanFlatField, interval⟩, after, loaded⟩ := loaded
    cases loaded
    refine ⟨sameDims, ?_, rfl⟩
    rintro field ⟨⟩
    exact readFlatField_dims after

end AthabascaRecon

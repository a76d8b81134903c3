import AthabascaRecon.Foundation.InPlace
import AthabascaRecon.Bonelab.ImagePixels
import AthabascaRecon.ProjectionCorrection.BadPixelCorrector

/-!
# Correcting bad pixels

`IdentifyBadPixels` appends to the list of bad pixels, and `CorrectBadPixels` replaces the bad
pixels of a projection by averages, one after another in the same projection. The averaging
pixels are good and the replaced ones are bad, so the replacements are separate assignments:
what a bad pixel holds never gets into the result, and the order of the list has no influence.
No law of the arithmetic of pixels is used.
-/

set_option autoImplicit false

namespace AthabascaRecon

open Foundation.InPlace

variable {Value : Type}

/-- All members of `BadPixelCorrector`. -/
structure FullBadPixelCorrector (Value : Type) extends BadPixelCorrector where
  darkFieldBadThreshold : Value
  flatFieldBadThreshold : Value
  correctionTable : List (List (Tuple2 ℤ))
  deriving DecidableEq

/-- The calls that prepare a corrector for its table. -/
inductive CorrectorCall (Value : Type) where
  | setDarkFieldBadThreshold (arg : Value)
  | setFlatFieldBadThreshold (arg : Value)
  | identifyBadPixels (darkField flatField : Image2 Value)

namespace FullBadPixelCorrector

section Identification

variable [LT Value] [DecidableLT Value]

/-- The constructor, for the greatest value of a type. -/
def new [NatCast Value] (greatest : Value) (dims : Tuple2 ℕ) : FullBadPixelCorrector Value where
  imageDims := dims
  badPixelList := []
  darkFieldBadThreshold := greatest
  flatFieldBadThreshold := (10 : ℕ)
  correctionTable := []

/-- The condition on a pixel of the two fields. -/
def IsIdentified (corrector : FullBadPixelCorrector Value) (darkField flatField : Image2 Value)
    (location : Tuple2 ℤ) : Prop :=
  corrector.darkFieldBadThreshold < darkField.pixelAt location ∨
    flatField.pixelAt location < corrector.flatFieldBadThreshold

instance (corrector : FullBadPixelCorrector Value) (darkField flatField : Image2 Value)
    (location : Tuple2 ℤ) : Decidable (corrector.IsIdentified darkField flatField location) :=
  instDecidableOr

/-- `IdentifyBadPixels`. -/
def identifyBadPixels (corrector : FullBadPixelCorrector Value)
    (darkField flatField : Image2 Value) : Except WalkFailure (FullBadPixelCorrector Value) :=
  if darkField.dims = flatField.dims then
    .ok { corrector with
      badPixelList := corrector.badPixelList ++
        (locationsOf darkField.dims).filter (corrector.IsIdentified darkField flatField ·) }
  else .error .assertionFailed

def perform (corrector : FullBadPixelCorrector Value) :
    CorrectorCall Value → Except WalkFailure (FullBadPixelCorrector Value)
  | .setDarkFieldBadThreshold arg => .ok { corrector with darkFieldBadThreshold := arg }
  | .setFlatFieldBadThreshold arg => .ok { corrector with flatFieldBadThreshold := arg }
  | .identifyBadPixels darkField flatField => corrector.identifyBadPixels darkField flatField

end Identification

/-- `ConstructCorrectionTable`. -/
def constructTable (corrector : FullBadPixelCorrector Value) :
    Except WalkFailure (FullBadPixelCorrector Value) :=
  corrector.constructCorrectionTable.map fun table => { corrector with correctionTable := table }

section Correction

variable {Pixel : Type} [Zero Pixel] [Add Pixel] [Div Pixel] [NatCast Pixel]

/-- The mean of the averaging pixels of a bad pixel. -/
def average (row : Tuple2 ℤ × List (Tuple2 ℤ)) (pixelAt : Tuple2 ℤ → Pixel) : Pixel :=
  row.2.foldl (fun x location => x + pixelAt location) 0 / (row.2.length : Pixel)

/-- `CorrectBadPixels`. -/
def correctBadPixels (corrector : FullBadPixelCorrector Value) (projection : Image2 Pixel) :
    Except WalkFailure (Image2 Pixel) :=
  if corrector.badPixelList.length = corrector.correctionTable.length then
    .ok (projection.withPixels (assignAll Prod.fst average
      (corrector.badPixelList.zip corrector.correctionTable) projection.pixelAt))
  else .error .assertionFailed

/-- `ZeroBadPixels`. -/
def zeroBadPixels (corrector : FullBadPixelCorrector Value) (projection : Image2 Pixel) :
    Image2 Pixel :=
  projection.withPixels (assignAll id (fun _ _ => 0) corrector.badPixelList projection.pixelAt)

end Correction

end FullBadPixelCorrector

/-! ## The table depends only on which pixels are bad -/

namespace BadPixelCorrector

open NeighborhoodWalker

variable {corrector other : BadPixelCorrector}

/-- Correctors for one image with the same bad pixels, in any order and any number of times. -/
structure SameBadPixels (corrector other : BadPixelCorrector) : Prop where
  dims : corrector.imageDims = other.imageDims
  bad : ∀ location, corrector.IsBadPixel location ↔ other.IsBadPixel location

theorem SameBadPixels.skipBadPixels_eq (same : SameBadPixels corrector other) (fuel : ℕ)
    (location : Tuple2 ℤ) (walker : NeighborhoodWalker) :
    corrector.skipBadPixels fuel location walker = other.skipBadPixels fuel location walker := by
  induction fuel generalizing location walker with
  | zero => simp only [skipBadPixels, same.bad]
  | succ fuel ih => simp only [skipBadPixels, same.bad, ih]

/-- More rounds than the loop needs change nothing. -/
theorem skipBadPixels_add (more fuel : ℕ) (location : Tuple2 ℤ) (walker : NeighborhoodWalker)
    (enough : corrector.skipBadPixels fuel location walker ≠ .error .outOfFuel) :
    corrector.skipBadPixels (fuel + more) location walker =
      corrector.skipBadPixels fuel location walker := by
  induction fuel generalizing location walker with
  | zero =>
    rw [skipBadPixels] at enough ⊢
    by_cases bad : corrector.IsBadPixel location
    · rw [if_pos bad] at enough
      exact absurd rfl enough
    · rw [if_neg bad]
      cases more with
      | zero => rw [skipBadPixels, if_neg bad]
      | succ more => rw [← Nat.add_assoc, skipBadPixels, if_neg bad]
  | succ fuel ih =>
    rw [Nat.succ_add, skipBadPixels, skipBadPixels]
    rw [skipBadPixels] at enough
    by_cases bad : corrector.IsBadPixel location
    · rw [if_pos bad] at enough
      rw [if_pos bad, if_pos bad]
      cases outcome : walker.getNextLocation with
      | error failure => rfl
      | ok reached =>
        rw [outcome] at enough
        exact ih reached.1 reached.2 enough
    · rw [if_neg bad, if_neg bad]

theorem SameBadPixels.nextGoodLocation_eq (same : SameBadPixels corrector other)
    {startingPoint : Tuple2 ℤ} {walker : NeighborhoodWalker}
    (onSpiral : walker.OnSpiral corrector.imageDims startingPoint) :
    corrector.nextGoodLocation walker = other.nextGoodLocation walker := by
  have enough := nextGoodLocation_ne_outOfFuel onSpiral
  have enoughOther : other.nextGoodLocation walker ≠ .error .outOfFuel := by
    rw [same.dims] at onSpiral
    exact nextGoodLocation_ne_outOfFuel onSpiral
  rw [nextGoodLocation] at enough enoughOther ⊢
  rw [nextGoodLocation]
  cases outcome : walker.getNextLocation with
  | error failure => rfl
  | ok reached =>
    rw [outcome] at enough enoughOther
    dsimp only at enough enoughOther ⊢
    rw [← skipBadPixels_add other.badPixelList.length _ _ _ enough,
      ← skipBadPixels_add corrector.badPixelList.length _ _ _ enoughOther,
      same.skipBadPixels_eq, Nat.add_comm]

theorem SameBadPixels.averagingPixels_eq (same : SameBadPixels corrector other)
    {startingPoint : Tuple2 ℤ} (remaining : ℕ) (walker : NeighborhoodWalker)
    (onSpiral : walker.OnSpiral corrector.imageDims startingPoint) :
    corrector.averagingPixels remaining walker = other.averagingPixels remaining walker := by
  induction remaining generalizing walker with
  | zero => rfl
  | succ remaining ih =>
    have answers := nextGoodLocation_answers onSpiral
    rw [averagingPixels, averagingPixels, ← same.nextGoodLocation_eq onSpiral]
    cases outcome : corrector.nextGoodLocation walker with
    | error failure => rfl
    | ok reached =>
      rw [outcome] at answers
      dsimp only
      rw [ih reached.2 answers.1]

/-- The row of a bad pixel. -/
def rowOf (corrector : BadPixelCorrector) (badPixel : Tuple2 ℤ) :
    Except WalkFailure (List (Tuple2 ℤ)) :=
  corrector.averagingPixels 4 (new corrector.imageDims badPixel)

theorem SameBadPixels.rowOf_eq (same : SameBadPixels corrector other) :
    corrector.rowOf = other.rowOf := by
  funext badPixel
  rw [rowOf, rowOf, ← same.dims]
  exact same.averagingPixels_eq 4 _ (new_onSpiral corrector.imageDims badPixel)

/-- A table that has been constructed pairs the bad pixels with their rows. -/
theorem mem_zip_table {table : List (List (Tuple2 ℤ))}
    (constructed : corrector.constructCorrectionTable = .ok table) {badPixel : Tuple2 ℤ}
    {row : List (Tuple2 ℤ)} :
    (badPixel, row) ∈ corrector.badPixelList.zip table ↔
      corrector.IsBadPixel badPixel ∧ corrector.rowOf badPixel = .ok row :=
  mem_zip_iff (mapM_eq_ok_iff.mp constructed)

/-- A corrector with the same bad pixels has a table as well, with the same rows. -/
theorem SameBadPixels.constructed (same : SameBadPixels corrector other)
    {table : List (List (Tuple2 ℤ))}
    (constructed : corrector.constructCorrectionTable = .ok table) :
    ∃ otherTable, other.constructCorrectionTable = .ok otherTable ∧
      ∀ key, key ∈ corrector.badPixelList.zip table ↔
        key ∈ other.badPixelList.zip otherTable := by
  have length_eq := (constructCorrectionTable_length constructed).symm
  have rows := (exists_mapM_iff corrector.rowOf (fun _ _ => True) corrector.badPixelList).mp
    ⟨table, constructed, List.forall₂_iff_zip.mpr ⟨length_eq, fun _ => trivial⟩⟩
  obtain ⟨otherTable, made, _⟩ :=
    (exists_mapM_iff other.rowOf (fun _ _ => True) other.badPixelList).mpr fun badPixel bad => by
      rw [← same.rowOf_eq]
      exact rows badPixel ((same.bad badPixel).mpr bad)
  refine ⟨otherTable, made, ?_⟩
  rintro ⟨badPixel, row⟩
  rw [mem_zip_table constructed, mem_zip_table made, same.bad, same.rowOf_eq]

end BadPixelCorrector

/-! ## The bad pixels are in the image -/

namespace FullBadPixelCorrector

section Identification

variable [LT Value] [DecidableLT Value]

/-- A corrector for an image, with bad pixels in the image. -/
structure InImage (dims : Tuple2 ℕ) (corrector : FullBadPixelCorrector Value) : Prop where
  imageDims_eq : corrector.imageDims = dims
  inside : ∀ location, corrector.IsBadPixel location → InsideImage dims location

/-- What `IdentifyBadPixels` appends is in the fields. -/
theorem InImage.identifyBadPixels {dims : Tuple2 ℕ} {corrector next : FullBadPixelCorrector Value}
    (inImage : InImage dims corrector) {darkField flatField : Image2 Value}
    (sameDims : darkField.dims = dims)
    (identified : corrector.identifyBadPixels darkField flatField = .ok next) :
    InImage dims next := by
  rw [FullBadPixelCorrector.identifyBadPixels] at identified
  split_ifs at identified
  cases identified
  refine ⟨inImage.imageDims_eq, ?_⟩
  intro location bad
  rcases List.mem_append.mp bad with earlier | new
  · exact inImage.inside location earlier
  · rw [← sameDims]
    exact mem_locationsOf.mp (List.mem_of_mem_filter new)

theorem InImage.perform {dims : Tuple2 ℕ} {corrector next : FullBadPixelCorrector Value}
    (inImage : InImage dims corrector) {call : CorrectorCall Value}
    (sameDims : ∀ darkField flatField, call = .identifyBadPixels darkField flatField →
      darkField.dims = dims)
    (performed : corrector.perform call = .ok next) : InImage dims next := by
  cases call with
  | setDarkFieldBadThreshold arg =>
    cases performed
    exact ⟨inImage.imageDims_eq, inImage.inside⟩
  | setFlatFieldBadThreshold arg =>
    cases performed
    exact ⟨inImage.imageDims_eq, inImage.inside⟩
  | identifyBadPixels darkField flatField =>
    exact inImage.identifyBadPixels (sameDims darkField flatField rfl) performed

theorem InImage.performAll {dims : Tuple2 ℕ} {corrector final : FullBadPixelCorrector Value}
    (inImage : InImage dims corrector) {calls : List (CorrectorCall Value)}
    (sameDims : ∀ darkField flatField, .identifyBadPixels darkField flatField ∈ calls →
      darkField.dims = dims)
    (performed : calls.foldlM FullBadPixelCorrector.perform corrector = .ok final) :
    InImage dims final := by
  refine foldlM_preserves ?_ inImage performed
  intro call member before after inImage performed
  apply inImage.perform _ performed
  rintro darkField flatField rfl
  exact sameDims darkField flatField member

end Identification

theorem new_inImage [NatCast Value] (greatest : Value) (dims : Tuple2 ℕ) :
    InImage dims (new greatest dims) :=
  ⟨rfl, fun _ none => absurd none List.not_mem_nil⟩

/-! ## The corrected projection -/

/-- A corrector that has the table of its bad pixels. -/
def HasTable (corrector : FullBadPixelCorrector Value) : Prop :=
  corrector.constructCorrectionTable = .ok corrector.correctionTable

theorem constructTable_eq_ok {identified corrector : FullBadPixelCorrector Value}
    (constructed : identified.constructTable = .ok corrector) :
    corrector.toBadPixelCorrector = identified.toBadPixelCorrector ∧ corrector.HasTable := by
  rw [constructTable] at constructed
  cases made : identified.constructCorrectionTable with
  | error failure =>
    rw [made] at constructed
    cases constructed
  | ok table =>
    rw [made] at constructed
    cases constructed
    exact ⟨rfl, made⟩

variable {corrector : FullBadPixelCorrector Value}

theorem HasTable.row_good (hasTable : corrector.HasTable)
    {key : Tuple2 ℤ × List (Tuple2 ℤ)}
    (member : key ∈ corrector.badPixelList.zip corrector.correctionTable) :
    ∀ pixel ∈ key.2, corrector.Good pixel := by
  obtain ⟨bad, found⟩ := (BadPixelCorrector.mem_zip_table hasTable).mp member
  exact (BadPixelCorrector.averagingPixels_nearest bad found).fourGood.2.2

theorem HasTable.mem_targets (hasTable : corrector.HasTable) {location : Tuple2 ℤ} :
    location ∈ (corrector.badPixelList.zip corrector.correctionTable).map Prod.fst ↔
      corrector.IsBadPixel location := by
  have sameLength := BadPixelCorrector.constructCorrectionTable_length hasTable
  rw [List.map_fst_zip sameLength.ge]
  rfl

variable {Pixel : Type} [Zero Pixel] [Add Pixel] [Div Pixel] [NatCast Pixel]

/-- The average depends only on the averaging pixels. -/
theorem average_congr (row : Tuple2 ℤ × List (Tuple2 ℤ)) {first second : Tuple2 ℤ → Pixel}
    (same : ∀ pixel ∈ row.2, first pixel = second pixel) :
    average row first = average row second := by
  rw [average, average, List.foldl_ext]
  intro sum pixel member
  rw [same pixel member]

/-- **The replacements are separate assignments**: they write bad pixels and read good ones. -/
theorem HasTable.separate (hasTable : corrector.HasTable) :
    Separate Prod.fst (average : _ → (Tuple2 ℤ → Pixel) → Pixel)
      (corrector.badPixelList.zip corrector.correctionTable) where
  stable := by
    intro key member first second agree
    apply average_congr
    intro pixel inRow
    apply agree
    rw [hasTable.mem_targets]
    exact (hasTable.row_good member pixel inRow).2
  agree := by
    rintro ⟨badPixel, row⟩ member ⟨_, otherRow⟩ otherMember rfl
    have found := ((BadPixelCorrector.mem_zip_table hasTable).mp member).2
    have otherFound := ((BadPixelCorrector.mem_zip_table hasTable).mp otherMember).2
    rw [found, Except.ok.injEq] at otherFound
    rw [otherFound]

/-- The projection that `CorrectBadPixels` leaves. -/
def corrected (corrector : FullBadPixelCorrector Value) (projection : Image2 Pixel) :
    Image2 Pixel :=
  projection.withPixels (assignAll Prod.fst average
    (corrector.badPixelList.zip corrector.correctionTable) projection.pixelAt)

theorem HasTable.correctBadPixels_eq (hasTable : corrector.HasTable) (projection : Image2 Pixel) :
    corrector.correctBadPixels projection = .ok (corrector.corrected projection) :=
  if_pos (BadPixelCorrector.constructCorrectionTable_length hasTable).symm

/-- A good pixel keeps its value. -/
theorem HasTable.corrected_of_not_bad (hasTable : corrector.HasTable) (projection : Image2 Pixel)
    {location : Tuple2 ℤ} (good : ¬ corrector.IsBadPixel location) :
    (corrector.corrected projection).pixelAt location = projection.pixelAt location := by
  rw [corrected, Image2.pixelAt_withPixels, assignAll_of_not_target]
  rw [hasTable.mem_targets]
  exact good

/-- A bad pixel has the average of four good pixels of the given projection. -/
theorem HasTable.corrected_of_bad (hasTable : corrector.HasTable) (projection : Image2 Pixel)
    {badPixel : Tuple2 ℤ} (bad : corrector.IsBadPixel badPixel) :
    ∃ row, corrector.NearestGood badPixel row ∧
      (corrector.corrected projection).pixelAt badPixel =
        average (badPixel, row) projection.pixelAt := by
  obtain ⟨⟨_, row⟩, member, rfl⟩ := List.mem_map.mp (hasTable.mem_targets.mpr bad)
  have found := ((BadPixelCorrector.mem_zip_table hasTable).mp member).2
  refine ⟨row, BadPixelCorrector.averagingPixels_nearest bad found, ?_⟩
  rw [corrected, Image2.pixelAt_withPixels]
  exact assignAll_of_target hasTable.separate member

/-- What the bad pixels hold has no influence. -/
theorem HasTable.corrected_congr (hasTable : corrector.HasTable) {first second : Image2 Pixel}
    (agree : ∀ location, corrector.Good location →
      first.pixelAt location = second.pixelAt location)
    {location : Tuple2 ℤ} (inside : InsideImage corrector.imageDims location) :
    (corrector.corrected first).pixelAt location =
      (corrector.corrected second).pixelAt location := by
  by_cases bad : corrector.IsBadPixel location
  · obtain ⟨⟨_, row⟩, member, rfl⟩ := List.mem_map.mp (hasTable.mem_targets.mpr bad)
    rw [corrected, corrected, Image2.pixelAt_withPixels, Image2.pixelAt_withPixels,
      assignAll_of_target hasTable.separate member, assignAll_of_target hasTable.separate member]
    apply average_congr
    intro pixel inRow
    exact agree pixel (hasTable.row_good member pixel inRow)
  · rw [hasTable.corrected_of_not_bad first bad, hasTable.corrected_of_not_bad second bad]
    exact agree location ⟨inside, bad⟩

theorem HasTable.corrected_corrected (hasTable : corrector.HasTable) (projection : Image2 Pixel) :
    corrector.corrected (corrector.corrected projection) = corrector.corrected projection := by
  rw [corrected, corrected, Image2.pixelAt_withPixels, assignAll_assignAll hasTable.separate]
  rfl

/-- The order of the list and its duplicates have no influence. -/
theorem HasTable.corrected_of_same (hasTable : corrector.HasTable)
    {other : FullBadPixelCorrector Value} (otherHasTable : other.HasTable)
    (same : BadPixelCorrector.SameBadPixels corrector.toBadPixelCorrector
      other.toBadPixelCorrector) (projection : Image2 Pixel) :
    other.corrected projection = corrector.corrected projection := by
  rw [corrected, corrected, assignAll_eq_of_mem_iff otherHasTable.separate hasTable.separate]
  rintro ⟨badPixel, row⟩
  rw [BadPixelCorrector.mem_zip_table hasTable, BadPixelCorrector.mem_zip_table otherHasTable,
    same.bad, same.rowOf_eq]

/-- A detector of sixteen pixels, of which one is bright in the dark field. -/
def brightPixelCalls : List (CorrectorCall ℚ) :=
  [.setDarkFieldBadThreshold 5,
    .identifyBadPixels
      ⟨⟨4, 4⟩, ⟨1, 1⟩, ⟨0, 0⟩, fun i j => if i = 1 ∧ j = 1 then 9 else 0⟩
      ⟨⟨4, 4⟩, ⟨1, 1⟩, ⟨0, 0⟩, fun _ _ => 100⟩]

end FullBadPixelCorrector

end AthabascaRecon

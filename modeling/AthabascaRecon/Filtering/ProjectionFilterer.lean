import AthabascaRecon.Bonelab.Image
import AthabascaRecon.Filtering.RampFilterRealSpace

/-!
# Projection filterers

The members that all filterers have, and the loop over the rows of a projection that those
with transforms share. A row is filtered in a scratch buffer, with what the row before has
left in it.
-/

set_option autoImplicit false

namespace AthabascaRecon

/-- The members of a `ProjectionFilterer`. A smoothing filter constructs its transfer function
for a length. -/
structure ProjectionFilterer (Value : Type) where
  dimensions : Tuple2 ℕ
  pixelSpacing : Value
  weight : Value
  smoothingFilter : Option (ℕ → Samples Value)

/-- The images that a filterer is made for. -/
structure ProjectionFilterer.Accepts {Value : Type} (filterer : ProjectionFilterer Value)
    (input output : Image2 Value) : Prop where
  rows : input.dims.v = output.dims.v
  inputColumns : input.dims.u = filterer.dimensions.u
  outputColumns : output.dims.u = filterer.dimensions.u
  spacing : input.spacing.u = filterer.pixelSpacing

namespace Image2

variable {Value : Type}

/-- The pixels of a row from its first one on. -/
def row (image : Image2 Value) (i : ℕ) : Samples Value := fun j => image.pixel i j

/-- The image after writing through a pointer to the first pixel of a row. -/
def setRow (image : Image2 Value) (i : ℕ) (row : Samples Value) : Image2 Value :=
  { image with pixel := fun a b => if a = i ∧ 0 ≤ b then row b.toNat else image.pixel a b }

theorem setRow_pixel (image : Image2 Value) (i j : ℕ) (row : Samples Value) :
    (image.setRow i row).pixel i j = row j := by
  unfold setRow
  dsimp only
  rw [if_pos ⟨rfl, Int.natCast_nonneg j⟩, Int.toNat_natCast]

theorem setRow_pixel_of_ne (image : Image2 Value) {i other : ℕ} (different : other ≠ i) (j : ℤ)
    (row : Samples Value) : (image.setRow i row).pixel other j = image.pixel other j := by
  unfold setRow
  dsimp only
  rw [if_neg]
  rintro ⟨same, -⟩
  exact different (Int.ofNat_inj.mp same)

end Image2

section Rows

variable {Value Scratch : Type}
  (filterRow : Scratch → Samples Value → Samples Value → Scratch × Samples Value)
  (input : Image2 Value)

/-- The loop over the rows. -/
def filterRows : ℕ → Scratch × Image2 Value → Scratch × Image2 Value
  | 0, state => state
  | rows + 1, state =>
    let (scratch, output) := filterRows rows state
    let (scratch, row) := filterRow scratch (input.row rows) (output.row rows)
    (scratch, output.setRow rows row)

/-- Rows are not touched before their turn. -/
theorem filterRows_pixel_of_le {rows i : ℕ} (later : rows ≤ i) (state : Scratch × Image2 Value)
    (j : ℤ) : (filterRows filterRow input rows state).2.pixel i j = state.2.pixel i j := by
  induction rows with
  | zero => rfl
  | succ rows ih =>
    rw [filterRows]
    dsimp only
    rw [Image2.setRow_pixel_of_ne _ (by omega), ih (by omega)]

/-- **A row of the result is what filtering the row of the input gives, from some content of
the scratch buffer and from the row that was there.** -/
theorem filterRows_row {rows i : ℕ} (inside : i < rows) (state : Scratch × Image2 Value) :
    ∃ scratch, ∀ j : ℕ, (filterRows filterRow input rows state).2.pixel i j =
      (filterRow scratch (input.row i) (state.2.row i)).2 j := by
  induction rows with
  | zero => omega
  | succ rows ih =>
    by_cases last : i = rows
    · subst last
      refine ⟨(filterRows filterRow input i state).1, ?_⟩
      intro j
      have before : (filterRows filterRow input i state).2.row i = state.2.row i := by
        funext j
        exact filterRows_pixel_of_le filterRow input le_rfl state j
      rw [filterRows]
      dsimp only
      rw [Image2.setRow_pixel, before]
    · obtain ⟨scratch, filtered⟩ := ih (by omega)
      refine ⟨scratch, ?_⟩
      intro j
      rw [filterRows]
      dsimp only
      rw [Image2.setRow_pixel_of_ne _ last, filtered]

end Rows

end AthabascaRecon

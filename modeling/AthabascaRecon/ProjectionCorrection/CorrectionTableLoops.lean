import AthabascaRecon.ProjectionCorrection.BadPixelCorrector
import Mathlib.Computability.StateTransition

/-!
# The loops of the correction table

`ConstructCorrectionTable` has a loop over the bad pixels, in it a loop over j, in that a
loop that goes on while the location is bad, and in each call of `GetNextLocation` a loop
that goes on while the location is outside the image. None of the inner two has a bound.
Here the four loops run one test at a time, with nothing that keeps them from running for
ever (`loopStep`), and come to an end nevertheless: with the result of
`constructCorrectionTable`, which is a table or a failed assertion.
-/

set_option autoImplicit false

namespace AthabascaRecon

open StateTransition

/-- The variables of one round of the loop over the bad pixels: the bad pixels after this
one, the table so far, and the averaging pixels so far. -/
structure TableRound where
  remaining : List (Tuple2 ℤ)
  correctionTable : List (List (Tuple2 ℤ))
  averagingPixels : List (Tuple2 ℤ)
  deriving DecidableEq, Repr

/-- Where `ConstructCorrectionTable` is: before the test of one of its loops, or at its
end. -/
inductive TableLoops where
  | atBadPixel (remaining : List (Tuple2 ℤ)) (correctionTable : List (List (Tuple2 ℤ)))
  | atAverage (round : TableRound) (walker : NeighborhoodWalker)
  | whileOutside (round : TableRound) (walker : NeighborhoodWalker)
  | whileBad (round : TableRound) (location : Tuple2 ℤ) (walker : NeighborhoodWalker)
  | returned (correctionTable : List (List (Tuple2 ℤ)))
  | thrown (failure : WalkFailure)
  deriving DecidableEq, Repr

namespace TableLoops

/-- `TakeStep`, in front of the loop of `GetNextLocation` or in it. -/
def step (round : TableRound) (walker : NeighborhoodWalker) : TableLoops :=
  match walker.takeStep with
  | .ok next => .whileOutside round next
  | .error failure => .thrown failure

/-- The end with a result. -/
def finished : Except WalkFailure (List (List (Tuple2 ℤ))) → TableLoops
  | .ok correctionTable => .returned correctionTable
  | .error failure => .thrown failure

end TableLoops

namespace BadPixelCorrector

open NeighborhoodWalker TableLoops

variable (corrector : BadPixelCorrector)

/-- One test of a loop, with what is done up to the next one. -/
def loopStep : TableLoops → Option TableLoops
  | .atBadPixel [] correctionTable => some (.returned correctionTable)
  | .atBadPixel (badPixel :: remaining) correctionTable =>
      some (.atAverage ⟨remaining, correctionTable, []⟩ (new corrector.imageDims badPixel))
  | .atAverage round walker =>
      if round.averagingPixels.length < 4 then some (step round walker)
      else some (.atBadPixel round.remaining (round.correctionTable ++ [round.averagingPixels]))
  | .whileOutside round walker =>
      if walker.LocationIsValid then
        some (.whileBad round walker.currentAbsoluteLocation walker)
      else if walker.count < longProduct walker.imageDims then some (step round walker)
      else some (.thrown .assertionFailed)
  | .whileBad round location walker =>
      if corrector.IsBadPixel location then some (step round walker)
      else some (.atAverage
        { round with averagingPixels := round.averagingPixels ++ [location] } walker)
  | .returned _ => none
  | .thrown _ => none

/-- The beginning: the correction table has been cleared. -/
def loopStart : TableLoops := .atBadPixel corrector.badPixelList []

/-! ## What each loop does -/

variable {corrector} {startingPoint : Tuple2 ℤ}

theorem reaches_step {state next : TableLoops} (stepped : corrector.loopStep state = some next) :
    Reaches corrector.loopStep state next :=
  .single (Option.mem_def.mpr stepped)

/-- The end of a call of `GetNextLocation` or of an exception in it. -/
def afterWalk (round : TableRound) :
    Except WalkFailure (Tuple2 ℤ × NeighborhoodWalker) → TableLoops
  | .ok (location, walker) => .whileBad round location walker
  | .error failure => .thrown failure

/-- The loop of `GetNextLocation`. -/
theorem reaches_skipOutside (round : TableRound) (walker : NeighborhoodWalker) :
    Reaches corrector.loopStep (.whileOutside round walker)
      (afterWalk round walker.skipOutside) := by
  induction walker using skipOutside.induct with
  | case1 walker valid =>
    apply reaches_step
    rw [loopStep, if_pos valid, skipOutside, if_pos valid]
    rfl
  | case2 walker invalid few next stepped ih =>
    rw [skipOutside_of_step invalid few stepped]
    refine (reaches_step ?_).trans ih
    rw [loopStep, if_neg invalid, if_pos few, step, stepped]
  | case3 walker invalid few failure stepped =>
    have thrown : walker.skipOutside = .error failure := by
      rw [skipOutside, if_neg invalid, if_pos few]
      split
      · rename_i next stepped'
        rw [stepped] at stepped'
        cases stepped'
      · rename_i other stepped'
        rw [stepped, Except.error.injEq] at stepped'
        rw [stepped']
    apply reaches_step
    rw [thrown, loopStep, if_neg invalid, if_pos few, step, stepped]
    rfl
  | case4 walker invalid many =>
    apply reaches_step
    rw [loopStep, if_neg invalid, if_neg many, skipOutside, if_neg invalid, if_neg many]
    rfl

theorem reaches_getNextLocation (round : TableRound) (walker : NeighborhoodWalker) :
    Reaches corrector.loopStep (step round walker)
      (afterWalk round walker.getNextLocation) := by
  rw [step, getNextLocation]
  cases walker.takeStep with
  | error failure => exact .refl
  | ok next => exact reaches_skipOutside round next

/-- The end of the loop that goes on while the location is bad. -/
def afterSkip (round : TableRound) :
    Except WalkFailure (Tuple2 ℤ × NeighborhoodWalker) → TableLoops
  | .ok (location, walker) =>
      .atAverage { round with averagingPixels := round.averagingPixels ++ [location] } walker
  | .error failure => .thrown failure

/-- The loop that goes on while the location is bad, as far as its rounds suffice. -/
theorem reaches_skipBadPixels (round : TableRound) (fuel : ℕ) (location : Tuple2 ℤ)
    (walker : NeighborhoodWalker)
    (enough : corrector.skipBadPixels fuel location walker ≠ .error .outOfFuel) :
    Reaches corrector.loopStep (.whileBad round location walker)
      (afterSkip round (corrector.skipBadPixels fuel location walker)) := by
  induction fuel generalizing location walker with
  | zero =>
    rw [skipBadPixels] at enough ⊢
    by_cases bad : corrector.IsBadPixel location
    · rw [if_pos bad] at enough
      exact absurd rfl enough
    · apply reaches_step
      rw [if_neg bad, loopStep, if_neg bad]
      rfl
  | succ fuel ih =>
    rw [skipBadPixels] at enough ⊢
    by_cases bad : corrector.IsBadPixel location
    · rw [if_pos bad] at enough ⊢
      have again : Reaches corrector.loopStep (.whileBad round location walker)
          (afterWalk round walker.getNextLocation) := by
        refine (reaches_step ?_).trans (reaches_getNextLocation round walker)
        rw [loopStep, if_pos bad]
      cases outcome : walker.getNextLocation with
      | error failure =>
        rw [outcome] at again
        exact again
      | ok reached =>
        rw [outcome] at enough again
        exact again.trans (ih reached.1 reached.2 enough)
    · apply reaches_step
      rw [if_neg bad, loopStep, if_neg bad]
      rfl

theorem reaches_nextGoodLocation (round : TableRound) {walker : NeighborhoodWalker}
    (onSpiral : walker.OnSpiral corrector.imageDims startingPoint) :
    Reaches corrector.loopStep (step round walker)
      (afterSkip round (corrector.nextGoodLocation walker)) := by
  have enough := nextGoodLocation_ne_outOfFuel onSpiral
  have walk : Reaches corrector.loopStep (step round walker) _ :=
    reaches_getNextLocation round walker
  rw [nextGoodLocation] at enough ⊢
  cases outcome : walker.getNextLocation with
  | error failure =>
    rw [outcome] at walk
    exact walk
  | ok reached =>
    rw [outcome] at enough walk
    exact walk.trans (reaches_skipBadPixels round _ reached.1 reached.2 enough)

/-- The end of the loop over j. -/
def afterAverages (round : TableRound) : Except WalkFailure (List (Tuple2 ℤ)) → TableLoops
  | .ok pixels =>
      .atBadPixel round.remaining (round.correctionTable ++ [round.averagingPixels ++ pixels])
  | .error failure => .thrown failure

/-- The loop over j. -/
theorem reaches_averagingPixels (remaining : ℕ) (round : TableRound)
    (walker : NeighborhoodWalker) (onSpiral : walker.OnSpiral corrector.imageDims startingPoint)
    (counted : round.averagingPixels.length + remaining = 4) :
    Reaches corrector.loopStep (.atAverage round walker)
      (afterAverages round (corrector.averagingPixels remaining walker)) := by
  induction remaining generalizing round walker with
  | zero =>
    apply reaches_step
    rw [loopStep, if_neg (by omega), averagingPixels, afterAverages, List.append_nil]
  | succ remaining ih =>
    have once : Reaches corrector.loopStep (.atAverage round walker)
        (afterSkip round (corrector.nextGoodLocation walker)) := by
      refine (reaches_step ?_).trans (reaches_nextGoodLocation round onSpiral)
      rw [loopStep, if_pos (by omega)]
    have answers := nextGoodLocation_answers onSpiral
    rw [averagingPixels]
    cases outcome : corrector.nextGoodLocation walker with
    | error failure =>
      rw [outcome] at once
      exact once
    | ok reached =>
      obtain ⟨location, next⟩ := reached
      rw [outcome] at answers once
      have others := ih { round with averagingPixels := round.averagingPixels ++ [location] } next
        answers.1 (by rw [List.length_append, List.length_singleton]; omega)
      refine once.trans ?_
      dsimp only
      cases rest : corrector.averagingPixels remaining next with
      | error failure =>
        rw [rest] at others
        exact others
      | ok pixels =>
        rw [rest, afterAverages, List.append_assoc] at others
        exact others

/-- The loop over the bad pixels, from any table on. -/
theorem reaches_table (remaining : List (Tuple2 ℤ)) (table : List (List (Tuple2 ℤ))) :
    Reaches corrector.loopStep (.atBadPixel remaining table)
      (finished ((remaining.mapM fun badPixel =>
        corrector.averagingPixels 4 (new corrector.imageDims badPixel)).map (table ++ ·))) := by
  induction remaining generalizing table with
  | nil =>
    apply reaches_step
    rw [loopStep, List.mapM_nil]
    change _ = some (TableLoops.returned (table ++ []))
    rw [List.append_nil]
  | cons badPixel remaining ih =>
    have row : Reaches corrector.loopStep (.atBadPixel (badPixel :: remaining) table)
        (afterAverages ⟨remaining, table, []⟩
          (corrector.averagingPixels 4 (new corrector.imageDims badPixel))) := by
      refine (reaches_step rfl).trans ?_
      exact reaches_averagingPixels 4 _ _ (new_onSpiral corrector.imageDims badPixel) rfl
    rw [List.mapM_cons]
    cases first : corrector.averagingPixels 4 (new corrector.imageDims badPixel) with
    | error failure =>
      rw [first] at row
      exact row
    | ok pixels =>
      rw [first] at row
      refine row.trans ?_
      have others := ih (table ++ [pixels])
      rw [afterAverages, List.nil_append]
      cases rest : remaining.mapM fun badPixel =>
          corrector.averagingPixels 4 (new corrector.imageDims badPixel) with
      | error failure =>
        rw [rest] at others
        exact others
      | ok rows =>
        rw [rest] at others
        change Reaches _ _ (TableLoops.returned (table ++ pixels :: rows))
        change Reaches _ _ (TableLoops.returned (table ++ [pixels] ++ rows)) at others
        rw [List.append_assoc] at others
        exact others

/-! ## The end of the loops -/

theorem constructCorrectionTable_error {failure : WalkFailure}
    (failed : corrector.constructCorrectionTable = .error failure) :
    failure = .assertionFailed := by
  obtain ⟨badPixel, _, rowFailed⟩ := exists_of_mapM_eq_error failed
  have row : RowAnswers corrector badPixel 4 0 _ := averagingPixels_row badPixel
  rw [rowFailed] at row
  exact row.1

/-- The loops end with the result of `constructCorrectionTable`. -/
theorem eval_loopStart (corrector : BadPixelCorrector) :
    finished corrector.constructCorrectionTable ∈
      eval corrector.loopStep corrector.loopStart := by
  rw [mem_eval]
  constructor
  · have all : Reaches corrector.loopStep corrector.loopStart _ :=
      reaches_table corrector.badPixelList []
    have same (result : Except WalkFailure (List (List (Tuple2 ℤ)))) :
        result.map (([] : List (List (Tuple2 ℤ))) ++ ·) = result := by
      cases result with
      | error failure => rfl
      | ok table => rfl
    rw [same] at all
    exact all
  · cases corrector.constructCorrectionTable with
    | error failure => rfl
    | ok table => rfl

/-- **The loops of the correction table come to an end, with a table or with a failed
assertion, for every image and every list of bad pixels.** -/
theorem loops_end (corrector : BadPixelCorrector) :
    ∃ final ∈ eval corrector.loopStep corrector.loopStart,
      (∃ table, final = .returned table) ∨ final = .thrown .assertionFailed := by
  refine ⟨_, eval_loopStart corrector, ?_⟩
  cases outcome : corrector.constructCorrectionTable with
  | error failure =>
    rw [constructCorrectionTable_error outcome]
    exact .inr rfl
  | ok table => exact .inl ⟨table, rfl⟩

end BadPixelCorrector

end AthabascaRecon

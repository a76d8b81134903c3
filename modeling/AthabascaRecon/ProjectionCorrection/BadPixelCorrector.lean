import AthabascaRecon.ProjectionCorrection.NeighborhoodWalker
import AthabascaRecon.Foundation.Ensures
import Mathlib.Data.List.Perm.Subperm

/-!
# The correction table of the bad pixels

For every bad pixel the correction table holds the four good pixels that the walk around it
comes to first. The walk gives up at a step outside the image once it has made as many
steps as the image has pixels, whether or not it has come to four good pixels by then:
`constructCorrectionTable_complete_iff` says when it has. One bad pixel at the end of a row
of five is a case where it has not, with the other four pixels good.
-/

set_option autoImplicit false

namespace AthabascaRecon

/-- The part of `BadPixelCorrector` that the correction table is constructed from. -/
structure BadPixelCorrector where
  imageDims : Tuple2 ℕ
  badPixelList : List (Tuple2 ℤ)
  deriving DecidableEq

namespace BadPixelCorrector

open NeighborhoodWalker

variable (corrector : BadPixelCorrector)

/-- `IsBadPixel`. -/
def IsBadPixel (location : Tuple2 ℤ) : Prop := location ∈ corrector.badPixelList

instance (location : Tuple2 ℤ) : Decidable (corrector.IsBadPixel location) :=
  inferInstanceAs (Decidable (location ∈ _))

/-- The loop that replaces a bad location by the next one, in at most as many rounds as
`fuel` says. -/
def skipBadPixels : ℕ → Tuple2 ℤ → NeighborhoodWalker →
    Except WalkFailure (Tuple2 ℤ × NeighborhoodWalker)
  | fuel, location, walker =>
    if corrector.IsBadPixel location then
      match fuel with
      | 0 => .error .outOfFuel
      | fuel + 1 =>
        match walker.getNextLocation with
        | .error failure => .error failure
        | .ok (next, walker) => skipBadPixels fuel next walker
    else .ok (location, walker)

/-- One round of the loop over j: the next good location. No bad pixel is come to twice,
so the number of them bounds the rounds of the inner loop. -/
def nextGoodLocation (walker : NeighborhoodWalker) :
    Except WalkFailure (Tuple2 ℤ × NeighborhoodWalker) :=
  match walker.getNextLocation with
  | .error failure => .error failure
  | .ok (location, walker) =>
      corrector.skipBadPixels corrector.badPixelList.length location walker

/-- The loop over j, for as many locations as it still has to find. -/
def averagingPixels : ℕ → NeighborhoodWalker → Except WalkFailure (List (Tuple2 ℤ))
  | 0, _ => .ok []
  | remaining + 1, walker =>
    match corrector.nextGoodLocation walker with
    | .error failure => .error failure
    | .ok (location, walker) =>
      match averagingPixels remaining walker with
      | .error failure => .error failure
      | .ok others => .ok (location :: others)

/-- `ConstructCorrectionTable`: the table that it leaves in the corrector. -/
def constructCorrectionTable : Except WalkFailure (List (List (Tuple2 ℤ))) :=
  corrector.badPixelList.mapM fun badPixel =>
    corrector.averagingPixels 4 (new corrector.imageDims badPixel)

/-! ## The good pixels that a walk comes to -/

/-- A pixel of the image that is not bad. -/
def Good (location : Tuple2 ℤ) : Prop :=
  InsideImage corrector.imageDims location ∧ ¬ corrector.IsBadPixel location

instance (location : Tuple2 ℤ) : Decidable (corrector.Good location) := instDecidableAnd

/-- Four distinct good pixels. -/
def FourGood (pixels : List (Tuple2 ℤ)) : Prop :=
  pixels.length = 4 ∧ pixels.Nodup ∧ ∀ pixel ∈ pixels, corrector.Good pixel

variable {corrector} {startingPoint : Tuple2 ℤ}

/-- A location inside the image that is good is the next good location. -/
theorem foundNext_good {location : Tuple2 ℤ} {steps : ℤ}
    (good : ¬ corrector.IsBadPixel location)
    (found : FoundNext corrector.imageDims startingPoint (InsideImage corrector.imageDims) steps
      location) :
    FoundNext corrector.imageDims startingPoint corrector.Good steps location where
  isWanted := ⟨found.isWanted, good⟩
  later := found.later
  skipped := by
    intro other after before wanted
    exact found.skipped other after before wanted.1
  allowed := found.allowed

theorem blocked_good {steps : ℤ}
    (blocked : Blocked corrector.imageDims startingPoint (InsideImage corrector.imageDims) steps) :
    Blocked corrector.imageDims startingPoint corrector.Good steps := by
  obtain ⟨obstacle, outside, later, many, clear⟩ := blocked
  refine ⟨obstacle, outside, later, many, ?_⟩
  intro other after before wanted
  exact clear other after before wanted.1

/-- A bad location is passed by. -/
theorem clearBetween_bad {location : Tuple2 ℤ} {steps : ℤ} (bad : corrector.IsBadPixel location)
    (found : FoundNext corrector.imageDims startingPoint (InsideImage corrector.imageDims) steps
      location) :
    ClearBetween corrector.imageDims startingPoint corrector.Good steps
      (visitFrom startingPoint location) := by
  intro other after before
  rcases before.lt_or_eq with earlier | same
  · exact ⟨fun wanted => found.skipped other after earlier wanted.1,
      found.allowed other after earlier⟩
  · have here := visitFrom_injective startingPoint same
    subst here
    exact ⟨fun wanted => wanted.2 bad, fun outside => absurd found.isWanted outside⟩

/-- The bad pixels that the walk has not come to before a number of steps. -/
def badAhead (corrector : BadPixelCorrector) (startingPoint : Tuple2 ℤ) (steps : ℤ) :
    List (Tuple2 ℤ) :=
  corrector.badPixelList.filter fun badPixel => steps ≤ visitFrom startingPoint badPixel

theorem badAhead_length_lt {location : Tuple2 ℤ} {steps laterSteps : ℤ}
    (bad : corrector.IsBadPixel location) (ahead : steps ≤ visitFrom startingPoint location)
    (passed : visitFrom startingPoint location < laterSteps) :
    (corrector.badAhead startingPoint laterSteps).length <
      (corrector.badAhead startingPoint steps).length := by
  have narrowed : corrector.badAhead startingPoint laterSteps =
      (corrector.badAhead startingPoint steps).filter fun badPixel =>
        laterSteps ≤ visitFrom startingPoint badPixel := by
    unfold badAhead
    rw [List.filter_filter]
    apply List.filter_congr
    intro badPixel _
    rw [← Bool.decide_and, decide_eq_decide]
    omega
  rw [narrowed, List.length_filter_lt_length_iff_exists]
  refine ⟨location, ?_, ?_⟩
  · rw [badAhead, List.mem_filter]
    exact ⟨bad, decide_eq_true ahead⟩
  · rw [decide_eq_true_eq]
    omega

/-- The inner loop, when it has as many rounds left as there are bad pixels ahead. -/
theorem skipBadPixels_answers (fuel : ℕ) (location : Tuple2 ℤ) (walker : NeighborhoodWalker)
    (onSpiral : walker.OnSpiral corrector.imageDims startingPoint) {steps : ℤ}
    (arrived : visitFrom startingPoint location = walker.count)
    (found : FoundNext corrector.imageDims startingPoint (InsideImage corrector.imageDims) steps
      location)
    (enough : (corrector.badAhead startingPoint walker.count).length ≤ fuel) :
    Answers corrector.imageDims startingPoint corrector.Good steps
      (corrector.skipBadPixels fuel location walker) := by
  induction fuel generalizing location walker steps with
  | zero =>
    rw [skipBadPixels]
    by_cases bad : corrector.IsBadPixel location
    · have fewer := badAhead_length_lt bad arrived.ge (lt_add_one _)
      omega
    · rw [if_neg bad]
      exact ⟨onSpiral, arrived, foundNext_good bad found⟩
  | succ fuel ih =>
    rw [skipBadPixels]
    by_cases bad : corrector.IsBadPixel location
    · rw [if_pos bad]
      apply Answers.widen (clearBetween_bad bad found) found.later.le
      rw [arrived]
      cases outcome : walker.getNextLocation with
      | error failure =>
        obtain ⟨asserted, blocked⟩ := blocked_of_getNextLocation onSpiral outcome
        exact ⟨asserted, blocked_good blocked⟩
      | ok reached =>
        obtain ⟨next, nextWalker⟩ := reached
        obtain ⟨nextOnSpiral, nextArrived, nextFound⟩ := found_of_getNextLocation onSpiral outcome
        apply ih next nextWalker nextOnSpiral nextArrived nextFound
        have passed : visitFrom startingPoint location < nextWalker.count := by
          rw [arrived, ← nextArrived]
          exact nextFound.later
        have fewer := badAhead_length_lt bad arrived.ge passed
        omega
    · rw [if_neg bad]
      exact ⟨onSpiral, arrived, foundNext_good bad found⟩

theorem nextGoodLocation_answers {walker : NeighborhoodWalker}
    (onSpiral : walker.OnSpiral corrector.imageDims startingPoint) :
    Answers corrector.imageDims startingPoint corrector.Good walker.count
      (corrector.nextGoodLocation walker) := by
  unfold nextGoodLocation
  cases outcome : walker.getNextLocation with
  | error failure =>
    obtain ⟨asserted, blocked⟩ := blocked_of_getNextLocation onSpiral outcome
    exact ⟨asserted, blocked_good blocked⟩
  | ok reached =>
    obtain ⟨next, nextWalker⟩ := reached
    obtain ⟨nextOnSpiral, nextArrived, found⟩ := found_of_getNextLocation onSpiral outcome
    apply skipBadPixels_answers _ next nextWalker nextOnSpiral nextArrived found
    exact List.length_filter_le _ _

/-- The fuel of the inner loop suffices. -/
theorem nextGoodLocation_ne_outOfFuel {walker : NeighborhoodWalker}
    (onSpiral : walker.OnSpiral corrector.imageDims startingPoint) :
    corrector.nextGoodLocation walker ≠ .error .outOfFuel := by
  intro exhausted
  have answers := nextGoodLocation_answers onSpiral
  rw [exhausted] at answers
  cases answers.1

/-! ## When four good pixels are found -/

/-- A location that the walk comes to before it can give up. -/
def ReachedInTime (imageDims : Tuple2 ℕ) (startingPoint location : Tuple2 ℤ) : Prop :=
  ∀ obstacle, ¬ InsideImage imageDims obstacle →
    longProduct imageDims ≤ visitFrom startingPoint obstacle →
    visitFrom startingPoint location < visitFrom startingPoint obstacle

/-- What the loop over j gives: as many good locations as it has to find, in the order of
the walk and all reached in time, or a failed assertion with all good locations up to some
obstacle found and too few of them. -/
def RowAnswers (corrector : BadPixelCorrector) (startingPoint : Tuple2 ℤ) (remaining : ℕ)
    (steps : ℤ) : Except WalkFailure (List (Tuple2 ℤ)) → Prop
  | .ok pixels => pixels.length = remaining ∧
      pixels.Pairwise (fun first second =>
        visitFrom startingPoint first < visitFrom startingPoint second) ∧
      ∀ pixel ∈ pixels, corrector.Good pixel ∧ steps < visitFrom startingPoint pixel ∧
        ∀ obstacle, ¬ InsideImage corrector.imageDims obstacle →
          steps < visitFrom startingPoint obstacle →
          longProduct corrector.imageDims ≤ visitFrom startingPoint obstacle →
          visitFrom startingPoint pixel < visitFrom startingPoint obstacle
  | .error failure => failure = .assertionFailed ∧
      ∃ obstacle, ¬ InsideImage corrector.imageDims obstacle ∧
        steps < visitFrom startingPoint obstacle ∧
        longProduct corrector.imageDims ≤ visitFrom startingPoint obstacle ∧
        ∃ found : List (Tuple2 ℤ), found.length < remaining ∧
          ∀ pixel, corrector.Good pixel → steps < visitFrom startingPoint pixel →
            visitFrom startingPoint pixel ≤ visitFrom startingPoint obstacle → pixel ∈ found

/-- With the next good location, the loop has given up after one more. -/
theorem RowAnswers.cons_error {steps : ℤ} {location : Tuple2 ℤ} {remaining : ℕ}
    {failure : WalkFailure}
    (found : FoundNext corrector.imageDims startingPoint corrector.Good steps location)
    (others : RowAnswers corrector startingPoint remaining (visitFrom startingPoint location)
      (.error failure)) :
    RowAnswers corrector startingPoint (remaining + 1) steps (.error failure) := by
  obtain ⟨asserted, obstacle, outside, later, many, pixels, few, complete⟩ := others
  refine ⟨asserted, obstacle, outside, found.later.trans later, many, location :: pixels,
    Nat.succ_lt_succ few, ?_⟩
  intro pixel good after before
  rcases lt_trichotomy (visitFrom startingPoint pixel) (visitFrom startingPoint location)
    with earlier | same | beyond
  · exact absurd good (found.skipped pixel after earlier)
  · rw [visitFrom_injective startingPoint same]
    exact List.mem_cons_self
  · exact List.mem_cons_of_mem _ (complete pixel good beyond before)

/-- The next good location is in front of the others. -/
theorem RowAnswers.cons_ok {steps : ℤ} {location : Tuple2 ℤ} {remaining : ℕ}
    {pixels : List (Tuple2 ℤ)}
    (found : FoundNext corrector.imageDims startingPoint corrector.Good steps location)
    (others : RowAnswers corrector startingPoint remaining (visitFrom startingPoint location)
      (.ok pixels)) :
    RowAnswers corrector startingPoint (remaining + 1) steps (.ok (location :: pixels)) := by
  obtain ⟨counted, ordered, reached⟩ := others
  refine ⟨by rw [List.length_cons, counted], ?_, ?_⟩
  · rw [List.pairwise_cons]
    exact ⟨fun pixel member => (reached pixel member).2.1, ordered⟩
  -- An obstacle comes after the first location, and then after the others.
  have inTime (obstacle : Tuple2 ℤ) (outside : ¬ InsideImage corrector.imageDims obstacle)
      (after : steps < visitFrom startingPoint obstacle)
      (many : longProduct corrector.imageDims ≤ visitFrom startingPoint obstacle) :
      visitFrom startingPoint location < visitFrom startingPoint obstacle := by
    rcases lt_trichotomy (visitFrom startingPoint obstacle)
      (visitFrom startingPoint location) with earlier | same | beyond
    · have := found.allowed obstacle after earlier outside
      omega
    · rw [visitFrom_injective startingPoint same] at outside
      exact absurd found.isWanted.1 outside
    · exact beyond
  intro pixel member
  rcases List.mem_cons.mp member with rfl | member
  · exact ⟨found.isWanted, found.later, inTime⟩
  · obtain ⟨good, beyond, reachedInTime⟩ := reached pixel member
    refine ⟨good, found.later.trans beyond, ?_⟩
    intro obstacle outside after many
    exact reachedInTime obstacle outside (inTime obstacle outside after many) many

theorem averagingPixels_answers (remaining : ℕ) (walker : NeighborhoodWalker)
    (onSpiral : walker.OnSpiral corrector.imageDims startingPoint) :
    RowAnswers corrector startingPoint remaining walker.count
      (corrector.averagingPixels remaining walker) := by
  induction remaining generalizing walker with
  | zero =>
    exact ⟨rfl, List.Pairwise.nil, fun pixel none => absurd none List.not_mem_nil⟩
  | succ remaining ih =>
    have answers := nextGoodLocation_answers onSpiral
    rw [averagingPixels]
    cases outcome : corrector.nextGoodLocation walker with
    | error failure =>
      rw [outcome] at answers
      obtain ⟨asserted, obstacle, outside, later, many, unwanted⟩ := answers
      refine ⟨asserted, obstacle, outside, later, many, [], Nat.succ_pos _, ?_⟩
      intro pixel good after before
      exact absurd good (unwanted pixel after before)
    | ok reached =>
      obtain ⟨location, next⟩ := reached
      rw [outcome] at answers
      obtain ⟨nextOnSpiral, arrived, found⟩ := answers
      have others := ih next nextOnSpiral
      rw [← arrived] at others
      dsimp only
      cases rest : corrector.averagingPixels remaining next with
      | error failure =>
        rw [rest] at others
        exact others.cons_error found
      | ok pixels =>
        rw [rest] at others
        exact others.cons_ok found

theorem longProduct_pos {imageDims : Tuple2 ℕ} {location : Tuple2 ℤ}
    (inside : InsideImage imageDims location) : 0 < longProduct imageDims := by
  obtain ⟨⟨nonnegV, nonnegU⟩, ltV, ltU⟩ := inside
  have rows : 0 < imageDims.v := by omega
  have columns : 0 < imageDims.u := by omega
  exact Nat.mul_pos rows columns

theorem averagingPixels_row (badPixel : Tuple2 ℤ) :
    RowAnswers corrector badPixel 4 0
      (corrector.averagingPixels 4 (new corrector.imageDims badPixel)) :=
  averagingPixels_answers 4 _ (new_onSpiral corrector.imageDims badPixel)

/-- The row of a bad pixel is made of good pixels that are reached in time. -/
theorem fourGood_of_row {badPixel : Tuple2 ℤ} {pixels : List (Tuple2 ℤ)}
    (row : RowAnswers corrector badPixel 4 0 (.ok pixels)) :
    corrector.FourGood pixels ∧
      ∀ pixel ∈ pixels, ReachedInTime corrector.imageDims badPixel pixel := by
  obtain ⟨counted, ordered, reached⟩ := row
  refine ⟨⟨counted, ?_, fun pixel member => (reached pixel member).1⟩, ?_⟩
  · apply ordered.imp
    intro first second earlier same
    rw [same] at earlier
    exact lt_irrefl _ earlier
  · intro pixel member obstacle outside many
    obtain ⟨good, _, inTime⟩ := reached pixel member
    have some := longProduct_pos good.1
    exact inTime obstacle outside (by omega) many

/-- **The row of a bad pixel is complete exactly when four good pixels are reached before
the walk can give up.** -/
theorem averagingPixels_complete_iff {badPixel : Tuple2 ℤ} (bad : corrector.IsBadPixel badPixel) :
    (∃ pixels, corrector.averagingPixels 4 (new corrector.imageDims badPixel) = .ok pixels ∧
        corrector.FourGood pixels) ↔
      ∃ pixels, corrector.FourGood pixels ∧
        ∀ pixel ∈ pixels, ReachedInTime corrector.imageDims badPixel pixel := by
  have row : RowAnswers corrector badPixel 4 0
      (corrector.averagingPixels 4 (new corrector.imageDims badPixel)) :=
    averagingPixels_row badPixel
  constructor
  · rintro ⟨pixels, constructed, _⟩
    rw [constructed] at row
    exact ⟨pixels, fourGood_of_row row⟩
  · rintro ⟨pixels, ⟨counted, distinct, good⟩, inTime⟩
    cases outcome : corrector.averagingPixels 4 (new corrector.imageDims badPixel) with
    | ok found =>
      rw [outcome] at row
      exact ⟨found, rfl, (fourGood_of_row row).1⟩
    | error failure =>
      rw [outcome] at row
      obtain ⟨_, obstacle, outside, _, many, found, few, complete⟩ := row
      have covered : pixels ⊆ found := by
        intro pixel member
        have different : pixel ≠ badPixel := by
          intro same
          subst same
          exact (good pixel member).2 bad
        exact complete pixel (good pixel member) (visitFrom_pos different)
          (inTime pixel member obstacle outside many).le
      have := (List.subperm_of_subset distinct covered).length_le
      omega

/-! ## The whole table -/

/-- **The correction table is constructed with four distinct good pixels for every bad
pixel exactly when around every bad pixel four good pixels are reached before the walk can
give up**: before the first step outside the image whose number is not less than the
number of pixels. -/
theorem constructCorrectionTable_complete_iff (corrector : BadPixelCorrector) :
    (∃ table, corrector.constructCorrectionTable = .ok table ∧
        List.Forall₂ (fun _ pixels => corrector.FourGood pixels) corrector.badPixelList table) ↔
      ∀ badPixel ∈ corrector.badPixelList, ∃ pixels, corrector.FourGood pixels ∧
        ∀ pixel ∈ pixels, ReachedInTime corrector.imageDims badPixel pixel := by
  unfold constructCorrectionTable
  rw [exists_mapM_iff]
  apply forall₂_congr
  intro badPixel bad
  exact averagingPixels_complete_iff bad

/-- One row of five pixels, of which the first is bad: the other four are good, and the
walk gives up after the fifth step with only one of them found. -/
theorem constructCorrectionTable_gives_up :
    let corrector : BadPixelCorrector := ⟨⟨1, 5⟩, [⟨0, 0⟩]⟩
    (∀ badPixel ∈ corrector.badPixelList, InsideImage corrector.imageDims badPixel) ∧
      corrector.FourGood [⟨0, 1⟩, ⟨0, 2⟩, ⟨0, 3⟩, ⟨0, 4⟩] ∧
      corrector.constructCorrectionTable = .error .assertionFailed := by
  refine ⟨by decide, ⟨rfl, by decide, by decide⟩, by decide +kernel⟩

/-! ## The nearest good pixels -/

/-- The distance of two pixels along the axis along which they are further apart. -/
def chebyshevDistance (first second : Tuple2 ℤ) : ℤ :=
  max |second.v - first.v| |second.u - first.u|

theorem chebyshevDistance_eq_ring (startingPoint location : Tuple2 ℤ) :
    chebyshevDistance startingPoint location =
      ring ⟨location.v - startingPoint.v, location.u - startingPoint.u⟩ := by
  rw [chebyshevDistance, ring, Int.natCast_natAbs, Int.natCast_natAbs]

/-- What the walk comes to earlier is not further away. -/
theorem chebyshevDistance_le {first second : Tuple2 ℤ}
    (earlier : visitFrom startingPoint first < visitFrom startingPoint second) :
    chebyshevDistance startingPoint first ≤ chebyshevDistance startingPoint second := by
  rw [chebyshevDistance_eq_ring, chebyshevDistance_eq_ring]
  by_contra further
  have later := visitNumber_lt_of_ring_lt (not_le.mp further)
  exact absurd later earlier.asymm

/-- The loop over j leaves out no good location on its way. -/
theorem averagingPixels_first (remaining : ℕ) (walker : NeighborhoodWalker)
    (onSpiral : walker.OnSpiral corrector.imageDims startingPoint) {pixels : List (Tuple2 ℤ)}
    (found : corrector.averagingPixels remaining walker = .ok pixels) {other : Tuple2 ℤ}
    (good : corrector.Good other) (ahead : walker.count < visitFrom startingPoint other)
    (leftOut : other ∉ pixels) :
    ∀ pixel ∈ pixels, visitFrom startingPoint pixel < visitFrom startingPoint other := by
  induction remaining generalizing walker pixels with
  | zero =>
    cases found
    exact fun pixel none => absurd none List.not_mem_nil
  | succ remaining ih =>
    have answers := nextGoodLocation_answers onSpiral
    rw [averagingPixels] at found
    cases outcome : corrector.nextGoodLocation walker with
    | error failure =>
      rw [outcome] at found
      cases found
    | ok reached =>
      obtain ⟨location, next⟩ := reached
      rw [outcome] at answers found
      obtain ⟨nextOnSpiral, arrived, isNext⟩ := answers
      dsimp only at found
      cases rest : corrector.averagingPixels remaining next with
      | error failure =>
        rw [rest] at found
        cases found
      | ok others =>
        rw [rest] at found
        cases found
        rw [List.mem_cons, not_or] at leftOut
        have beyond : visitFrom startingPoint location < visitFrom startingPoint other := by
          rcases lt_trichotomy (visitFrom startingPoint other) (visitFrom startingPoint location)
            with earlier | same | later
          · exact absurd good (isNext.skipped other ahead earlier)
          · exact absurd (visitFrom_injective startingPoint same) leftOut.1
          · exact later
        rw [List.forall_mem_cons]
        refine ⟨beyond, ih next nextOnSpiral rest ?_ leftOut.2⟩
        rw [← arrived]
        exact beyond

/-- Four distinct good pixels with no good pixel nearer than one of them left out. -/
structure NearestGood (corrector : BadPixelCorrector) (badPixel : Tuple2 ℤ)
    (pixels : List (Tuple2 ℤ)) : Prop where
  fourGood : corrector.FourGood pixels
  different : badPixel ∉ pixels
  nearest : ∀ other, corrector.Good other → other ∉ pixels → ∀ pixel ∈ pixels,
    chebyshevDistance badPixel pixel ≤ chebyshevDistance badPixel other

theorem averagingPixels_nearest {badPixel : Tuple2 ℤ} {pixels : List (Tuple2 ℤ)}
    (bad : corrector.IsBadPixel badPixel)
    (found : corrector.averagingPixels 4 (new corrector.imageDims badPixel) = .ok pixels) :
    corrector.NearestGood badPixel pixels := by
  have row : RowAnswers corrector badPixel 4 0 _ := averagingPixels_row badPixel
  rw [found] at row
  have fourGood := (fourGood_of_row row).1
  refine ⟨fourGood, ?_, ?_⟩
  · intro member
    exact (fourGood.2.2 badPixel member).2 bad
  · intro other good leftOut pixel member
    apply chebyshevDistance_le
    apply averagingPixels_first 4 _ (new_onSpiral corrector.imageDims badPixel) found good _
      leftOut pixel member
    apply visitFrom_pos
    rintro rfl
    exact good.2 bad

theorem constructCorrectionTable_length {table : List (List (Tuple2 ℤ))}
    (constructed : corrector.constructCorrectionTable = .ok table) :
    table.length = corrector.badPixelList.length :=
  (mapM_eq_ok_iff.mp constructed).length_eq.symm

/-- **When the correction table is constructed, it has one row for every bad pixel, made of
the four good pixels that are nearest to it.** -/
theorem constructCorrectionTable_nearest {table : List (List (Tuple2 ℤ))}
    (constructed : corrector.constructCorrectionTable = .ok table) :
    table.length = corrector.badPixelList.length ∧
      List.Forall₂ corrector.NearestGood corrector.badPixelList table := by
  refine ⟨constructCorrectionTable_length constructed, ?_⟩
  have rows := mapM_eq_ok_iff.mp constructed
  rw [List.forall₂_iff_zip]
  refine ⟨rows.length_eq, ?_⟩
  intro badPixel pixels member
  obtain ⟨bad, found⟩ := (mem_zip_iff rows).mp member
  exact averagingPixels_nearest bad found

theorem constructCorrectionTable_nearest_pair :
    let corrector : BadPixelCorrector := ⟨⟨4, 4⟩, [⟨1, 1⟩, ⟨1, 2⟩]⟩
    let table : List (List (Tuple2 ℤ)) :=
      [[⟨2, 1⟩, ⟨0, 1⟩, ⟨1, 0⟩, ⟨2, 2⟩], [⟨2, 2⟩, ⟨1, 3⟩, ⟨0, 2⟩, ⟨2, 3⟩]]
    corrector.constructCorrectionTable = .ok table ∧
      table.length = corrector.badPixelList.length ∧
      List.Forall₂ corrector.NearestGood corrector.badPixelList table := by
  refine ⟨by decide +kernel, constructCorrectionTable_nearest (by decide +kernel)⟩

end BadPixelCorrector

end AthabascaRecon

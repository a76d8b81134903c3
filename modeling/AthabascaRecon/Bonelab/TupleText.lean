import AthabascaRecon.Bonelab.TupleStream

/-!
# What the input operator of a tuple makes of a text

The input operator works on a stream, from which it takes characters and puts them back,
and it returns at many places because of the state of the stream. Its outcome on a text is
a function of the text alone (`tupleOutcome`): it throws, or it sets the failbit, or it ends
with values and a rest of the text. `readTuple_ends` connects the two.
-/

set_option autoImplicit false

namespace AthabascaRecon

namespace TupleStream

open InputStream

variable {Value : Type}

/-- The blank that the loops of the operator skip. -/
def isBlank (c : Char) : Bool := c = ' '

/-- How the operator ends. -/
inductive TupleOutcome (Value : Type) where
  | thrown
  | failed
  | ended (values : List Value) (rest : Text)
  deriving DecidableEq, Repr

namespace TupleOutcome

/-- The outcome for a loop that has one more value. -/
def cons (value : Value) : TupleOutcome Value → TupleOutcome Value
  | thrown => thrown
  | failed => failed
  | ended values rest => ended (value :: values) rest

/-- A run ends in a way. Unless it failed, the eofbit tells whether text is left. -/
def Ends {Values : Type} (values : List Value → Values) :
    TupleOutcome Value → Except StreamException (Values × InputStream) → Prop
  | thrown, run => ∃ failure, run = .error failure
  | failed, run => ∃ found after, run = .ok (found, after) ∧ after.failbit = true
  | ended found rest, run =>
    ∃ before, run = .ok (values found, ⟨before, rest, rest.isEmpty, false, false⟩)

end TupleOutcome

/-! ## The outcome on a text -/

/-- The text that is left behind an element and its separator when `left` elements are
still to come. -/
def afterSeparator (left : ℕ) (text : Text) : Text :=
  let next := text.dropWhile isBlank
  if next.head? = some ',' ∧ left ≠ 0 then next.tail.dropWhile isBlank else next

/-- The outcome of what follows the last element. -/
def closingOutcome (bracket : Option Char) (text : Text) : TupleOutcome Value :=
  match bracket with
  | none => .thrown
  | some closing =>
    match text.dropWhile isBlank with
    | [] => .failed
    | c :: rest => if c = closing then .ended [] rest else .failed

/-- The outcome of the loop over the elements. -/
def elementsOutcome (conversion : Conversion Value) (bracket : Option Char) :
    ℕ → Text → TupleOutcome Value
  | 0, text => closingOutcome bracket text
  | left + 1, text =>
    match conversion (text.dropWhile isSpace) with
    | (none, _) => .failed
    | (some value, rest) =>
      if rest.isEmpty then
        if bracket.isSome ∨ left ≠ 0 then .failed else .ended [value] []
      else if (afterSeparator left rest).isEmpty then .failed
      else (elementsOutcome conversion bracket left (afterSeparator left rest)).cons value

/-- The outcome of the operator. -/
def tupleOutcome (size : ℕ) (conversion : Conversion Value) (text : Text) :
    TupleOutcome Value :=
  match text.dropWhile isBlank with
  | [] => .failed
  | c :: rest =>
    if (matchBracket c).isSome then
      if (rest.dropWhile isBlank).isEmpty then .failed
      else elementsOutcome conversion (matchBracket c) size (rest.dropWhile isBlank)
    else elementsOutcome conversion none size (c :: rest)

/-! ## Where a stream stands -/

/-- The first character of a text was read from a stream without state bits, or there was
no character to be read. -/
def Reached : Text → Option Char × InputStream → Prop
  | [], read => read.1 = none ∧ read.2.failbit = true
  | c :: rest, read => ∃ before, read = (some c, ⟨c :: before, rest, false, false, false⟩)

theorem Reached.of_nil {read : Option Char × InputStream} (reached : Reached [] read) :
    ∃ after, read = (none, after) ∧ after.failbit = true :=
  ⟨read.2, Prod.ext reached.1 rfl, reached.2⟩

theorem skipBlanks_of_ne {c : Char} (notBlank : ¬ c = ' ') (stream : InputStream) :
    skipBlanks c stream = (some c, stream) := by
  rw [skipBlanks, if_neg notBlank]

theorem skipBlanks_of_none {stream next : InputStream} (read : stream.get = (none, next)) :
    skipBlanks ' ' stream = (none, next) := by
  rw [skipBlanks, if_pos rfl]
  split
  · rename_i same
    rw [read] at same
    exact same.symm
  · rename_i same
    rw [read] at same
    cases same

theorem skipBlanks_of_some {stream next : InputStream} {c : Char}
    (read : stream.get = (some c, next)) :
    skipBlanks ' ' stream = skipBlanks c next := by
  rw [skipBlanks, if_pos rfl]
  split
  · rename_i same
    rw [read] at same
    cases same
  · rename_i same
    rw [read] at same
    cases same
    rfl

theorem reached_skipBlanks {c : Char} {rest before : Text} :
    Reached ((c :: rest).dropWhile isBlank)
      (skipBlanks c ⟨c :: before, rest, false, false, false⟩) := by
  induction rest generalizing c before with
  | nil =>
    by_cases blank : c = ' '
    · subst blank
      rw [skipBlanks_of_none rfl]
      exact ⟨rfl, rfl⟩
    · rw [skipBlanks_of_ne blank, List.dropWhile_cons_of_neg (by simpa [isBlank] using blank)]
      exact ⟨before, rfl⟩
  | cons next rest ih =>
    by_cases blank : c = ' '
    · subst blank
      rw [skipBlanks_of_some rfl, List.dropWhile_cons_of_pos rfl]
      exact ih
    · rw [skipBlanks_of_ne blank, List.dropWhile_cons_of_neg (by simpa [isBlank] using blank)]
      exact ⟨before, rfl⟩

/-- Reading a character and skipping blanks. -/
theorem reached_getSkip (before text : Text) :
    Reached (text.dropWhile isBlank)
      (match get ⟨before, text, false, false, false⟩ with
        | (none, stream) => (none, stream)
        | (some c, stream) => skipBlanks c stream) := by
  cases text with
  | nil => exact ⟨rfl, rfl⟩
  | cons c rest => exact reached_skipBlanks

theorem reached_skipSeparator (left : ℕ) (before text : Text) :
    Reached (afterSeparator left text)
      (skipSeparator left ⟨before, text, false, false, false⟩) := by
  cases text with
  | nil => exact ⟨rfl, rfl⟩
  | cons c rest =>
    have first := @reached_skipBlanks c rest before
    have read : get ⟨before, c :: rest, false, false, false⟩ =
        (some c, ⟨c :: before, rest, false, false, false⟩) := rfl
    rw [skipSeparator, read, afterSeparator]
    dsimp only
    rcases next : (c :: rest).dropWhile isBlank with _ | ⟨c', rest'⟩
    · rw [next] at first
      obtain ⟨after, skipped, failed⟩ := first.of_nil
      rw [skipped]
      exact ⟨rfl, failed⟩
    · rw [next] at first
      obtain ⟨before', skipped⟩ := first
      rw [skipped]
      dsimp only
      by_cases comma : c' = ',' ∧ left ≠ 0
      · rw [if_pos comma, if_pos ⟨congrArg some comma.1, comma.2⟩]
        exact reached_getSkip _ _
      · have notBlank : ¬ c' = ' ' := by
          have head := List.head?_dropWhile_not isBlank (c :: rest)
          rw [next] at head
          simpa [isBlank] using head
        rw [if_neg comma, if_neg (fun both => comma ⟨Option.some.inj both.1, both.2⟩),
          skipBlanks_of_ne notBlank]
        exact ⟨before', rfl⟩

/-! ## The outcome is that of the operator -/

/-- The element in front of a text is extracted, and the eofbit tells whether it was the
end of the text. -/
theorem extract_some {conversion : Conversion Value} {text rest : Text} {value : Value}
    (before : Text) (spaces : conversion [] = (none, []))
    (converted : conversion (text.dropWhile isSpace) = (some value, rest)) :
    ∃ before', (⟨before, text, false, false, false⟩ : InputStream).extract conversion =
      (some value, ⟨before', rest, rest.isEmpty, false, false⟩) := by
  rcases left : text.dropWhile isSpace with _ | ⟨c, others⟩
  · rw [left, spaces] at converted
    cases converted
  · rw [left] at converted
    simp only [extract, good, dropSpaces, left, converted]
    exact ⟨_, rfl⟩

theorem extract_none {conversion : Conversion Value} {text : Text} (before : Text)
    (converted : (conversion (text.dropWhile isSpace)).1 = none) :
    ∃ after, (⟨before, text, false, false, false⟩ : InputStream).extract conversion =
      (none, after) ∧ after.failbit = true := by
  rcases left : text.dropWhile isSpace with _ | ⟨c, others⟩
  · simp only [extract, good, dropSpaces, left]
    exact ⟨_, rfl, rfl⟩
  · rw [left] at converted
    simp only [extract, good, dropSpaces, left, converted]
    exact ⟨_, rfl, rfl⟩

theorem closeBracket_ends (bracket : Option Char) (c : Char) (before rest : Text) :
    (closingOutcome bracket (c :: rest) : TupleOutcome Value).Ends id
      (do
        let stream ← closeBracket bracket c ⟨c :: before, rest, false, false, false⟩
        return ([], stream)) := by
  cases bracket with
  | none => exact ⟨_, rfl⟩
  | some closing =>
    have reached := @reached_skipBlanks c rest before
    unfold closingOutcome closeBracket
    dsimp only
    rcases next : (c :: rest).dropWhile isBlank with _ | ⟨c', rest'⟩
    · rw [next] at reached
      obtain ⟨after, skipped, -⟩ := reached.of_nil
      rw [skipped]
      exact ⟨_, _, rfl, rfl⟩
    · rw [next] at reached
      obtain ⟨before', skipped⟩ := reached
      rw [skipped]
      dsimp only
      by_cases closed : c' = closing
      · rw [if_pos closed, if_pos closed]
        exact ⟨_, rfl⟩
      · rw [if_neg closed, if_neg closed]
        exact ⟨_, _, rfl, rfl⟩

section AfterElement

variable {rest : Char → InputStream → Except StreamException (List Value × InputStream)}
variable {bracket : Option Char} {left : ℕ} {value : Value} {before text : Text}

theorem afterElement_of_eof :
    afterElement rest bracket left value ⟨before, text, true, false, false⟩ =
      .ok ([value], atEnd bracket left ⟨before, text, true, false, false⟩) :=
  rfl

theorem afterElement_of_none {after : InputStream}
    (skipped : skipSeparator left ⟨before, text, false, false, false⟩ = (none, after)) :
    afterElement rest bracket left value ⟨before, text, false, false, false⟩ =
      .ok ([value], after) := by
  simp only [afterElement, fail, skipped]
  rfl

theorem afterElement_of_some {c : Char} {after : InputStream}
    (skipped : skipSeparator left ⟨before, text, false, false, false⟩ = (some c, after)) :
    afterElement rest bracket left value ⟨before, text, false, false, false⟩ =
      (do
        let (values, stream) ← rest c after
        return (value :: values, stream)) := by
  simp only [afterElement, fail, skipped]
  rfl

end AfterElement

/-- The rest of the loop, and one more value. -/
theorem TupleOutcome.ends_cons {outcome : TupleOutcome Value} {value : Value}
    {run : Except StreamException (List Value × InputStream)} (ends : outcome.Ends id run) :
    (outcome.cons value).Ends id (do
      let (values, stream) ← run
      return (value :: values, stream)) := by
  cases outcome with
  | thrown =>
    obtain ⟨failure, rfl⟩ := ends
    exact ⟨failure, rfl⟩
  | failed =>
    obtain ⟨found, after, rfl, failed⟩ := ends
    exact ⟨_, _, rfl, failed⟩
  | ended values rest =>
    obtain ⟨before, rfl⟩ := ends
    exact ⟨before, rfl⟩

/-- **The loop over the elements.** The induction is on the number of elements; the stream
stands behind the first character of the text. -/
theorem readElements_ends {conversion : Conversion Value} (spaces : conversion [] = (none, []))
    (bracket : Option Char) (left : ℕ) (c : Char) (before rest : Text) :
    (elementsOutcome conversion bracket left (c :: rest)).Ends id
      (readElements conversion bracket left c ⟨c :: before, rest, false, false, false⟩) := by
  induction left generalizing c before rest with
  | zero => exact closeBracket_ends bracket c before rest
  | succ left ih =>
    have back : (⟨c :: before, rest, false, false, false⟩ : InputStream).unget =
        ⟨before, c :: rest, false, false, false⟩ := rfl
    rw [readElements_succ, back, elementsOutcome]
    rcases converted : conversion ((c :: rest).dropWhile isSpace) with ⟨_ | value, text⟩
    · obtain ⟨after, extracted, failed⟩ := extract_none before (congrArg Prod.fst converted)
      rw [extracted]
      exact ⟨_, _, rfl, failed⟩
    · obtain ⟨before', extracted⟩ := extract_some before spaces converted
      rw [extracted]
      dsimp only
      by_cases finished : text = []
      · subst finished
        rw [List.isEmpty_nil, if_pos rfl, afterElement_of_eof, atEnd]
        by_cases unfinished : bracket.isSome = true ∨ left ≠ 0
        · rw [if_pos unfinished, if_pos unfinished]
          exact ⟨_, _, rfl, rfl⟩
        · rw [if_neg unfinished, if_neg unfinished]
          exact ⟨_, rfl⟩
      · have more : text.isEmpty = false := by simpa using finished
        rw [more, if_neg Bool.false_ne_true]
        have reached := reached_skipSeparator left before' text
        rcases next : afterSeparator left text with _ | ⟨c', rest'⟩
        · rw [next] at reached
          obtain ⟨after, skipped, failed⟩ := reached.of_nil
          rw [afterElement_of_none skipped]
          exact ⟨_, _, rfl, failed⟩
        · rw [next] at reached
          obtain ⟨before'', skipped⟩ := reached
          rw [afterElement_of_some skipped]
          exact TupleOutcome.ends_cons (ih c' before'' rest')

/-- The loop gives its values to the tuple unless the stream has failed. -/
theorem TupleOutcome.ends_some {outcome : TupleOutcome Value}
    {run : Except StreamException (List Value × InputStream)} (ends : outcome.Ends id run) :
    outcome.Ends some (do
      let (values, stream) ← run
      return (if stream.fail then none else some values, stream)) := by
  cases outcome with
  | thrown =>
    obtain ⟨failure, rfl⟩ := ends
    exact ⟨failure, rfl⟩
  | failed =>
    obtain ⟨found, after, rfl, failed⟩ := ends
    exact ⟨_, _, rfl, failed⟩
  | ended values rest =>
    obtain ⟨before, rfl⟩ := ends
    exact ⟨before, rfl⟩

/-- **The input operator ends on a fresh stream as its outcome on the text says.** -/
theorem readTuple_ends {conversion : Conversion Value} (spaces : conversion [] = (none, []))
    (size : ℕ) (text : Text) :
    (tupleOutcome size conversion text).Ends some
      (readTuple size conversion (InputStream.ofText text)) := by
  cases text with
  | nil => exact ⟨_, _, rfl, rfl⟩
  | cons c rest =>
    have reached := @reached_skipBlanks c rest []
    have read : (InputStream.ofText (c :: rest)).get =
        (some c, ⟨[c], rest, false, false, false⟩) := rfl
    simp only [readTuple, tupleOutcome, read]
    rcases opening : (c :: rest).dropWhile isBlank with _ | ⟨c', rest'⟩
    · rw [opening] at reached
      rcases skipped : skipBlanks c ⟨[c], rest, false, false, false⟩ with ⟨found, after⟩
      rw [skipped] at reached
      obtain ⟨rfl, failed⟩ := reached
      exact ⟨_, _, rfl, failed⟩
    · rw [opening] at reached
      obtain ⟨before, skipped⟩ := reached
      simp only [skipped]
      by_cases bracket : (matchBracket c').isSome = true
      · rw [if_pos bracket, if_pos bracket]
        cases rest' with
        | nil => exact ⟨_, _, rfl, rfl⟩
        | cons inner rest' =>
          have reachedInner := @reached_skipBlanks inner rest' (c' :: before)
          have readInner : get ⟨c' :: before, inner :: rest', false, false, false⟩ =
              (some inner, ⟨inner :: c' :: before, rest', false, false, false⟩) := rfl
          simp only [readInner]
          rcases first : (inner :: rest').dropWhile isBlank with _ | ⟨c'', rest''⟩
          · rw [first] at reachedInner
            rcases skippedInner : skipBlanks inner
              ⟨inner :: c' :: before, rest', false, false, false⟩ with ⟨found, after⟩
            rw [skippedInner] at reachedInner
            obtain ⟨rfl, failed⟩ := reachedInner
            exact ⟨_, _, rfl, failed⟩
          · rw [first] at reachedInner
            obtain ⟨before', skippedInner⟩ := reachedInner
            rw [skippedInner]
            exact TupleOutcome.ends_some (readElements_ends spaces _ size c'' before' rest'')
      · rw [if_neg bracket, if_neg bracket, Option.not_isSome_iff_eq_none.mp bracket]
        exact TupleOutcome.ends_some (readElements_ends spaces none size c' before rest')

end TupleStream

end AthabascaRecon

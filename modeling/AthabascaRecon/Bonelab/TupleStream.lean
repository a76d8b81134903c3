import AthabascaRecon.Foundation.InputStream

/-!
# Tuples as text

The stream operators of `bonelab::Tuple`. The input operator accepts a tuple with or
without brackets, and reads one character past each element, which it puts back before the
next one. It asserts that a bracket was opened when there is text left after the last
element.
-/

set_option autoImplicit false

namespace AthabascaRecon

/-- What a stream operator can throw: `bonelab_assert`. -/
inductive StreamException where
  | assertionFailed
  deriving DecidableEq, Repr

namespace TupleStream

open InputStream

/-- `while (c == ' ') { c = s.get(); ... }`: the first character that is not a blank. A
failed `get` has set the failbit, and the operator returns. -/
def skipBlanks (c : Char) (stream : InputStream) : Option Char × InputStream :=
  if c = ' ' then
    match _read : stream.get with
    | (none, stream) => (none, stream)
    | (some c, stream) => skipBlanks c stream
  else (some c, stream)
termination_by stream.after.length
decreasing_by exact get_after_lt _read

/-- The bracket that has to match an opening bracket. -/
def matchBracket (c : Char) : Option Char :=
  if c = '(' then some ')' else if c = '[' then some ']' else none

/-- The end of the stream after an element: there must be no bracket to match, and no
element left to read. -/
def atEnd (bracket : Option Char) (left : ℕ) (stream : InputStream) : InputStream :=
  if bracket.isSome ∨ left ≠ 0 then stream.setFail else stream

/-- What follows an element when `left` elements are still to come: blanks, a comma unless
it was the last element, and blanks. -/
def skipSeparator (left : ℕ) (stream : InputStream) : Option Char × InputStream :=
  match stream.get with
  | (none, stream) => (none, stream)
  | (some c, stream) =>
    match skipBlanks c stream with
    | (none, stream) => (none, stream)
    | (some c, stream) =>
      if c = ',' ∧ left ≠ 0 then
        match stream.get with
        | (none, stream) => (none, stream)
        | (some c, stream) => skipBlanks c stream
      else skipBlanks c stream

/-- What follows the last element: the closing bracket. -/
def closeBracket (bracket : Option Char) (c : Char) (stream : InputStream) :
    Except StreamException InputStream :=
  match bracket with
  | none => .error .assertionFailed
  | some closing =>
    match skipBlanks c stream with
    | (none, stream) => .ok stream.setFail
    | (some c, stream) => .ok (if c = closing then stream else stream.setFail).peek

variable {Value : Type}

/-- The loop over the elements, after the first character of an element was read. -/
def readElements (conversion : Conversion Value) (bracket : Option Char) :
    ℕ → Char → InputStream → Except StreamException (List Value × InputStream)
  | 0, c, stream => do
    let stream ← closeBracket bracket c stream
    return ([], stream)
  | left + 1, _, stream =>
    match stream.unget.extract conversion with
    | (none, stream) => .ok ([], stream)
    | (some value, stream) =>
      if stream.fail then .ok ([], stream)
      else if stream.eofbit then .ok ([value], atEnd bracket left stream)
      else match skipSeparator left stream with
        | (none, stream) => .ok ([value], stream)
        | (some c, stream) => do
          let (values, stream) ← readElements conversion bracket left c stream
          return (value :: values, stream)

/-- `operator>>`. The values are those of the elements when the stream has not failed. -/
def readTuple (size : ℕ) (conversion : Conversion Value) :
    Reader StreamException (List Value) := fun stream =>
  match stream.get with
  | (none, stream) => .ok (none, stream)
  | (some c, stream) =>
    match skipBlanks c stream with
    | (none, stream) => .ok (none, stream)
    | (some c, stream) =>
      let bracket := matchBracket c
      -- The first character after a bracket and the blanks that follow it.
      let (first, stream) := if bracket.isSome then
          match stream.get with
          | (none, stream) => (none, stream)
          | (some c, stream) => skipBlanks c stream
        else (some c, stream)
      match first with
      | none => .ok (none, stream)
      | some c => do
        let (values, stream) ← readElements conversion bracket size c stream
        return (if stream.fail then none else some values, stream)

/-! ## Tuples of a narrower type -/

/-- What the loop does after an element, with the loop over the elements that are left. -/
def afterElement (rest : Char → InputStream → Except StreamException (List Value × InputStream))
    (bracket : Option Char) (left : ℕ) (value : Value) (stream : InputStream) :
    Except StreamException (List Value × InputStream) :=
  if stream.fail then .ok ([], stream)
  else if stream.eofbit then .ok ([value], atEnd bracket left stream)
  else match skipSeparator left stream with
    | (none, stream) => .ok ([value], stream)
    | (some c, stream) => do
      let (values, stream) ← rest c stream
      return (value :: values, stream)

theorem readElements_succ (conversion : Conversion Value) (bracket : Option Char) (left : ℕ)
    (c : Char) (stream : InputStream) :
    readElements conversion bracket (left + 1) c stream =
      match stream.unget.extract conversion with
      | (none, stream) => .ok ([], stream)
      | (some value, stream) =>
        afterElement (readElements conversion bracket left) bracket left value stream :=
  rfl

/-- Unless the stream has failed, the values are the element and those of the elements that
are left, if the loop gets to them. -/
theorem afterElement_eq_ok_iff
    {rest : Char → InputStream → Except StreamException (List Value × InputStream)}
    {bracket : Option Char} {left : ℕ} {value : Value} {stream after : InputStream}
    {values : List Value} (intact : after.fail = false) :
    afterElement rest bracket left value stream = .ok (values, after) ↔
      stream.fail = false ∧ ∃ others, values = value :: others ∧
        if stream.eofbit then others = [] ∧ atEnd bracket left stream = after
        else match skipSeparator left stream with
          | (none, next) => others = [] ∧ next = after
          | (some c, next) => rest c next = .ok (others, after) := by
  unfold afterElement
  by_cases failed : stream.fail = true
  · rw [if_pos failed]
    refine iff_of_false ?_ fun read => ?_
    · intro read
      cases read
      exact absurd failed (by simp [intact])
    · exact absurd failed (by simp [read.1])
  rw [if_neg failed]
  rw [Bool.not_eq_true] at failed
  split_ifs with ended
  · simp only [Except.ok.injEq, Prod.mk.injEq, failed, true_and]
    constructor
    · rintro ⟨rfl, rfl⟩
      exact ⟨[], rfl, rfl, rfl⟩
    · rintro ⟨_, rfl, rfl, rfl⟩
      exact ⟨rfl, rfl⟩
  · rcases skipSeparator left stream with ⟨_ | c, next⟩
    · simp only [Except.ok.injEq, Prod.mk.injEq, failed, true_and]
      constructor
      · rintro ⟨rfl, rfl⟩
        exact ⟨[], rfl, rfl, rfl⟩
      · rintro ⟨_, rfl, rfl, rfl⟩
        exact ⟨rfl, rfl⟩
    · dsimp only
      rcases rest c next with failure | ⟨others, last⟩
      · simp [bind, Except.bind]
      · simp only [bind, Except.bind, pure, Except.pure, Except.ok.injEq, Prod.mk.injEq, failed,
          true_and]
        constructor
        · rintro ⟨rfl, rfl⟩
          exact ⟨others, rfl, rfl, rfl⟩
        · rintro ⟨_, rfl, rfl, rfl⟩
          exact ⟨rfl, rfl⟩

/-- After an element that fits, a loop that only accepts what fits does the same as one that
accepts more, as long as everything fits. -/
theorem afterElement_restricted_iff
    {rest whole : Char → InputStream → Except StreamException (List Value × InputStream)}
    {bracket : Option Char} {left : ℕ} {value : Value} {stream after : InputStream}
    {fits : Value → Bool} {values : List Value} (intact : after.fail = false)
    (inside : fits value = true)
    (restricted : ∀ c next others, rest c next = .ok (others, after) ↔
      whole c next = .ok (others, after) ∧ ∀ value ∈ others, fits value = true) :
    afterElement rest bracket left value stream = .ok (values, after) ↔
      afterElement whole bracket left value stream = .ok (values, after) ∧
        ∀ value ∈ values, fits value = true := by
  rw [afterElement_eq_ok_iff intact, afterElement_eq_ok_iff intact, and_assoc]
  apply and_congr_right
  intro _
  constructor
  · rintro ⟨others, rfl, read⟩
    rw [List.forall_mem_cons]
    split_ifs at read with ended
    · obtain ⟨rfl, last⟩ := read
      exact ⟨⟨[], rfl, by simp [ended, last]⟩, inside, List.forall_mem_nil _⟩
    · rcases separator : skipSeparator left stream with ⟨_ | c, next⟩
      · rw [separator] at read
        obtain ⟨rfl, last⟩ := read
        exact ⟨⟨[], rfl, by simp [ended, last]⟩, inside, List.forall_mem_nil _⟩
      · rw [separator] at read
        obtain ⟨read, all⟩ := (restricted c next others).mp read
        exact ⟨⟨others, rfl, by simp [ended, read]⟩, inside, all⟩
  · rintro ⟨⟨others, rfl, read⟩, all⟩
    refine ⟨others, rfl, ?_⟩
    split_ifs at read ⊢ with ended
    · exact read
    · rcases separator : skipSeparator left stream with ⟨_ | c, next⟩
      · rw [separator] at read
        exact read
      · rw [separator] at read
        exact (restricted c next others).mpr ⟨read, (List.forall_mem_cons.mp all).2⟩

/-- An element that does not fit makes the stream fail. Up to there the two runs are the
same. -/
theorem readElements_fitting_iff {conversion : Conversion Value} {bracket : Option Char}
    (fits : Value → Bool) {left : ℕ} {c : Char} {stream after : InputStream}
    {values : List Value} (intact : after.fail = false) :
    readElements (conversion.fitting fits) bracket left c stream = .ok (values, after) ↔
      readElements conversion bracket left c stream = .ok (values, after) ∧
        ∀ value ∈ values, fits value = true := by
  induction left generalizing c stream values with
  | zero =>
    rw [readElements, readElements]
    rcases closeBracket bracket c stream with failure | closed
    · simp [bind, Except.bind]
    · simp only [bind, Except.bind, pure, Except.pure, Except.ok.injEq, Prod.mk.injEq]
      constructor
      · rintro ⟨rfl, rfl⟩
        exact ⟨⟨rfl, rfl⟩, List.forall_mem_nil _⟩
      · exact And.left
  | succ left ih =>
    rw [readElements_succ, readElements_succ, extract_fitting]
    rcases stream.unget.extract conversion with ⟨_ | value, next⟩
    · simp only [Except.ok.injEq, Prod.mk.injEq]
      constructor
      · rintro ⟨rfl, rfl⟩
        exact ⟨⟨rfl, rfl⟩, List.forall_mem_nil _⟩
      · exact And.left
    · dsimp only
      by_cases inside : fits value = true
      · rw [if_pos inside]
        exact afterElement_restricted_iff intact inside fun c next others => ih
      · rw [if_neg inside, afterElement_eq_ok_iff intact]
        refine iff_of_false ?_ ?_
        · intro read
          cases read
          cases intact
        · rintro ⟨⟨_, others, rfl, _⟩, all⟩
          exact inside (all value List.mem_cons_self)

/-- What the operator returns after the loop. -/
def valuesUnlessFailed (read : List Value × InputStream) : Option (List Value) × InputStream :=
  (if read.2.fail then none else some read.1, read.2)

/-- The values of a loop that has not failed are those of the tuple. -/
theorem valuesUnlessFailed_iff {loop : Except StreamException (List Value × InputStream)}
    {values : List Value} {after : InputStream} (intact : after.fail = false) :
    loop.map valuesUnlessFailed = .ok (some values, after) ↔ loop = .ok (values, after) := by
  rcases loop with failure | ⟨found, last⟩
  · simp [Except.map]
  · simp only [Except.map, valuesUnlessFailed, Except.ok.injEq, Prod.mk.injEq]
    constructor
    · rintro ⟨some_eq, rfl⟩
      rw [if_neg (by simp [intact]), Option.some.injEq] at some_eq
      exact ⟨some_eq, rfl⟩
    · rintro ⟨rfl, rfl⟩
      exact ⟨if_neg (by simp [intact]), rfl⟩

/-- What stands before the first element is read alike for elements of every type. -/
theorem readTuple_opening (stream : InputStream) :
    (∃ failed, ∀ (Element : Type) (size : ℕ) (conversion : Conversion Element),
      readTuple size conversion stream = .ok (none, failed)) ∨
    ∃ bracket c next, ∀ (Element : Type) (size : ℕ) (conversion : Conversion Element),
      readTuple size conversion stream =
        (readElements conversion bracket size c next).map valuesUnlessFailed := by
  unfold readTuple
  rcases stream.get with ⟨_ | c, next⟩
  · exact Or.inl ⟨next, fun _ _ _ => rfl⟩
  dsimp only
  rcases skipBlanks c next with ⟨_ | c, next⟩
  · exact Or.inl ⟨next, fun _ _ _ => rfl⟩
  dsimp only
  generalize (if (matchBracket c).isSome = true then
    match next.get with
    | (none, stream) => (none, stream)
    | (some c, stream) => skipBlanks c stream
    else (some c, next)) = first
  rcases first with ⟨_ | c', next⟩
  · exact Or.inl ⟨next, fun _ _ _ => rfl⟩
  · refine Or.inr ⟨matchBracket c, c', next, fun Element size conversion => ?_⟩
    dsimp only
    cases readElements conversion (matchBracket c) size c' next with
    | error failure => rfl
    | ok read => rfl

theorem restricts_readTuple (fits : Value → Bool) (conversion : Conversion Value) (size : ℕ) :
    Restricts (readTuple size (conversion.fitting fits)) (readTuple size conversion)
      fun values => ∀ value ∈ values, fits value = true := by
  intro stream values after intact
  rcases readTuple_opening stream with ⟨failed, stops⟩ | ⟨bracket, c, next, loops⟩
  · simp [stops]
  · rw [loops, loops, valuesUnlessFailed_iff intact, valuesUnlessFailed_iff intact]
    exact readElements_fitting_iff fits intact

theorem readElements_map {Result : Type} (f : Value → Result) (conversion : Conversion Value)
    (bracket : Option Char) (left : ℕ) (c : Char) (stream : InputStream) :
    readElements (conversion.map f) bracket left c stream =
      (readElements conversion bracket left c stream).map fun read =>
        (read.1.map f, read.2) := by
  induction left generalizing c stream with
  | zero =>
    rw [readElements, readElements]
    cases closeBracket bracket c stream with
    | error failure => rfl
    | ok closed => rfl
  | succ left ih =>
    rw [readElements_succ, readElements_succ, extract_map]
    rcases stream.unget.extract conversion with ⟨_ | value, next⟩
    · rfl
    · simp only [Option.map_some, afterElement]
      split_ifs with failed ended
      · rfl
      · rfl
      · rcases skipSeparator left next with ⟨_ | c', next'⟩
        · rfl
        · dsimp only
          rw [ih]
          cases readElements conversion bracket left c' next' with
          | error failure => rfl
          | ok read => rfl

theorem maps_readTuple {Result : Type} (f : Value → Result) (conversion : Conversion Value)
    (size : ℕ) :
    Maps (readTuple size conversion) (List.map f) (readTuple size (conversion.map f)) := by
  intro stream
  rcases readTuple_opening stream with ⟨failed, stops⟩ | ⟨bracket, c, next, loops⟩
  · rw [stops, stops]
    rfl
  · rw [loops, loops, readElements_map]
    rcases readElements conversion bracket size c next with failure | ⟨values, last⟩
    · rfl
    · simp only [Except.map, valuesUnlessFailed]
      split_ifs with failed
      · rfl
      · rfl

/-- `operator<<`. -/
def showTuple (showValue : Value → Text) (values : List Value) : Text :=
  '(' :: ((values.map showValue).intersperse [',']).flatten ++ [')']

end TupleStream

end AthabascaRecon

import Mathlib.Data.List.TakeWhile
import Mathlib.Data.Rat.Init
import Mathlib.Algebra.Order.Ring.Rat

/-!
# Reading values from a text stream

A text stream with its position and its state bits, the unformatted and the formatted input
functions on it, and the conversions of numbers. A conversion takes what it can use from
the front of the text and leaves the rest, and it gives no value when what it took is not
a number that it accepts. `valueOfText` reads a text with one value and nothing else.
-/

set_option autoImplicit false

namespace AthabascaRecon

/-- A string, as the sequence of its characters. -/
abbrev Text := List Char

/-- `isspace` in the C locale. -/
def isSpace (c : Char) : Bool := [9, 10, 11, 12, 13, 32].contains c.toNat

/-- An input stream: the characters that were read, the last one first, the characters
that are left, and the state bits. -/
structure InputStream where
  before : Text
  after : Text
  eofbit : Bool
  failbit : Bool
  badbit : Bool
  deriving DecidableEq, Repr

namespace InputStream

/-- A fresh stream on a text. -/
def ofText (text : Text) : InputStream where
  before := []
  after := text
  eofbit := false
  failbit := false
  badbit := false

/-- `good()`. -/
def good (stream : InputStream) : Bool := !stream.eofbit && !stream.failbit && !stream.badbit

/-- `fail()`, which is also true for a bad stream. -/
def fail (stream : InputStream) : Bool := stream.failbit || stream.badbit

/-- `setstate(failbit)`. -/
def setFail (stream : InputStream) : InputStream := { stream with failbit := true }

/-! ## Unformatted input -/

/-- `get()`. At the end of the stream both the eofbit and the failbit are set. -/
def get (stream : InputStream) : Option Char × InputStream :=
  if stream.good then
    match stream.after with
    | [] => (none, { stream with eofbit := true, failbit := true })
    | c :: rest => (some c, { stream with before := c :: stream.before, after := rest })
  else (none, stream.setFail)

/-- `unget()`, which clears the eofbit first. -/
def unget (stream : InputStream) : InputStream :=
  let stream := { stream with eofbit := false }
  if stream.good then
    match stream.before with
    | [] => { stream with badbit := true }
    | c :: rest => { stream with before := rest, after := c :: stream.after }
  else stream.setFail

/-- The effect of `peek()` on the stream. -/
def peek (stream : InputStream) : InputStream :=
  if stream.good then { stream with eofbit := stream.after.isEmpty } else stream.setFail

/-- The stream without the white space in front. -/
def dropSpaces (stream : InputStream) : InputStream :=
  { stream with
    before := (stream.after.takeWhile isSpace).reverse ++ stream.before
    after := stream.after.dropWhile isSpace }

/-- `ws`. -/
def ws (stream : InputStream) : InputStream :=
  if stream.good then { stream.dropSpaces with eofbit := stream.dropSpaces.after.isEmpty }
  else stream.setFail

theorem get_after_lt {stream next : InputStream} {c : Char} (read : stream.get = (some c, next)) :
    next.after.length < stream.after.length := by
  unfold get at read
  split at read
  · split at read
    · cases read
    · rename_i c' rest left
      cases read
      rw [left]
      exact Nat.lt_succ_self _
  · cases read

end InputStream

/-! ## Conversions -/

/-- What a conversion makes of the front of a text, and the rest of the text. -/
abbrev Conversion (Value : Type) := Text → Option Value × Text

/-- A conversion whose values have to fit a type. -/
def Conversion.fitting {Value : Type} (fits : Value → Bool) (conversion : Conversion Value) :
    Conversion Value :=
  fun text => ((conversion text).1.filter fits, (conversion text).2)

/-- A conversion whose values are converted further. -/
def Conversion.map {Value Result : Type} (f : Value → Result) (conversion : Conversion Value) :
    Conversion Result :=
  fun text => ((conversion text).1.map f, (conversion text).2)

/-- The number that a sequence of decimal digits stands for. -/
def ofDigits (digits : Text) : ℕ :=
  digits.foldl (fun number c => 10 * number + (c.toNat - 48)) 0

/-- An optional sign: whether it is a minus, and the rest of the text. -/
def convertSign : Text → Bool × Text
  | [] => (false, [])
  | c :: rest => if c = '-' then (true, rest) else if c = '+' then (false, rest)
      else (false, c :: rest)

/-- An integer: an optional sign and decimal digits. -/
def convertInteger : Conversion ℤ := fun text =>
  let (negative, unsigned) := convertSign text
  let digits := unsigned.takeWhile Char.isDigit
  let rest := unsigned.dropWhile Char.isDigit
  if digits.isEmpty then (none, rest)
  else (some (if negative then -(ofDigits digits : ℤ) else ofDigits digits), rest)

/-- How an integer is written. -/
def showInteger (number : ℤ) : Text :=
  if number < 0 then '-' :: Nat.toDigits 10 number.natAbs else Nat.toDigits 10 number.natAbs

/-- The fraction of a decimal number: the digits after a point, if there is one. -/
def convertFraction : Text → Text × Text
  | [] => ([], [])
  | c :: rest => if c = '.' then (rest.takeWhile Char.isDigit, rest.dropWhile Char.isDigit)
      else ([], c :: rest)

/-- The exponent of a decimal number. An e that no digits follow is taken and makes the
number invalid. -/
def convertExponent : Conversion ℤ
  | [] => (some 0, [])
  | c :: rest => if c = 'e' ∨ c = 'E' then convertInteger rest else (some 0, c :: rest)

/-- A decimal number: an optional sign, digits with at most one point among them, and an
optional exponent. -/
def convertDecimal : Conversion ℚ := fun text =>
  let (negative, unsigned) := convertSign text
  let whole := unsigned.takeWhile Char.isDigit
  let (fraction, afterFraction) := convertFraction (unsigned.dropWhile Char.isDigit)
  let digits := whole ++ fraction
  if digits.isEmpty then (none, afterFraction)
  else
    let (exponent, rest) := convertExponent afterFraction
    let number (power : ℤ) : ℚ := ofDigits digits * (10 : ℚ) ^ (power - fraction.length)
    (exponent.map fun power => if negative then -number power else number power, rest)

/-- The integers of a signed type. -/
def fitsSigned (bits : ℕ) (number : ℤ) : Bool :=
  -(2 : ℤ) ^ (bits - 1) ≤ number ∧ number < (2 : ℤ) ^ (bits - 1)

/-- The integers that are read into an unsigned type. A minus sign is allowed, and the
magnitude has to fit. -/
def fitsUnsigned (bits : ℕ) (number : ℤ) : Bool := number.natAbs < 2 ^ bits

/-- The conversion to a signed type, which wraps around. -/
def toSigned (bits : ℕ) (number : ℤ) : ℤ := number.bmod (2 ^ bits)

/-- The numbers that do not round to an infinite value of a binary floating-point type
with this precision and this bound on the exponent. -/
def fitsFloating (precision exponent : ℕ) (number : ℚ) : Bool :=
  |number| < (2 : ℚ) ^ exponent - (2 : ℚ) ^ (exponent - precision - 1 : ℤ)

/-! ## Formatted input -/

/-- A function that reads a value from a stream. It may throw. -/
abbrev Reader (Failure Value : Type) :=
  InputStream → Except Failure (Option Value × InputStream)

namespace InputStream

/-- The input operator of a number: skip white space and convert. -/
def extract {Value : Type} (conversion : Conversion Value) (stream : InputStream) :
    Option Value × InputStream :=
  if stream.good then
    let stream := stream.dropSpaces
    if stream.after.isEmpty then (none, { stream with eofbit := true, failbit := true })
    else
      let (value, rest) := conversion stream.after
      (value, { stream with
        before := (stream.after.take (stream.after.length - rest.length)).reverse ++ stream.before
        after := rest
        eofbit := rest.isEmpty
        failbit := value.isNone })
  else (none, stream.setFail)

/-- The input operator of a character: skip white space and get. -/
def extractCharacter (stream : InputStream) : Option Char × InputStream :=
  if stream.good then
    let stream := stream.dropSpaces
    if stream.after.isEmpty then (none, { stream with eofbit := true, failbit := true })
    else stream.get
  else (none, stream.setFail)

/-- The characters up to the next white space. -/
def convertWord : Conversion Text := fun text =>
  (some (text.takeWhile fun c => !isSpace c), text.dropWhile fun c => !isSpace c)

end InputStream

/-- The reader of a number. -/
def readNumber {Failure Value : Type} (conversion : Conversion Value) : Reader Failure Value :=
  fun stream => .ok (stream.extract conversion)

/-- The reader of a character. -/
def readCharacter {Failure : Type} : Reader Failure Char :=
  fun stream => .ok stream.extractCharacter

/-- A reader of values that are converted further, as far as they can be. -/
def Reader.filterMap {Failure Value Result : Type} (f : Value → Option Result)
    (reader : Reader Failure Value) : Reader Failure Result := fun stream =>
  (reader stream).map fun read => (read.1.bind f, read.2)

/-- The stream translator of a property tree: the value of a text that holds one value,
with white space around it at most. -/
def valueOfText {Failure Value : Type} (reader : Reader Failure Value) (text : Text) :
    Except Failure (Option Value) :=
  match reader (InputStream.ofText text) with
  | .error failure => .error failure
  | .ok (value, stream) =>
    let stream := if stream.eofbit then stream else stream.ws
    if stream.fail then .ok none
    else match stream.get with
      | (some _, _) => .ok none
      | (none, _) => .ok value

/-! ## Readers of a narrower type -/

section Narrower

variable {Failure Value Result : Type} {stream : InputStream}

namespace InputStream

theorem extract_fitting (fits : Value → Bool) (conversion : Conversion Value)
    (stream : InputStream) :
    stream.extract (conversion.fitting fits) = match stream.extract conversion with
      | (none, after) => (none, after)
      | (some value, after) =>
        if fits value then (some value, after) else (none, after.setFail) := by
  unfold extract Conversion.fitting
  split
  · dsimp only
    split
    · rfl
    · cases (conversion stream.dropSpaces.after).1 with
      | none => rfl
      | some value =>
        by_cases inside : fits value = true
        · simp [inside]
        · simp [inside, setFail]
  · rfl

theorem extract_map (f : Value → Result) (conversion : Conversion Value)
    (stream : InputStream) :
    stream.extract (conversion.map f) =
      ((stream.extract conversion).1.map f, (stream.extract conversion).2) := by
  unfold extract Conversion.map
  split
  · dsimp only
    split
    · rfl
    · rw [Option.isNone_map]
  · rfl

/-- A stream that failed stays so when white space is skipped. -/
theorem fail_of_fail_ws (intact : stream.ws.fail = false) : stream.fail = false := by
  unfold ws at intact
  split at intact
  · exact intact
  · cases intact

end InputStream

/-- The first reader reads what the second one reads and what has a property. -/
def Restricts (narrow wide : Reader Failure Value) (fits : Value → Prop) : Prop :=
  ∀ stream value after, after.fail = false →
    (narrow stream = .ok (some value, after) ↔ wide stream = .ok (some value, after) ∧ fits value)

theorem restricts_readNumber (fits : Value → Bool) (conversion : Conversion Value) :
    Restricts (readNumber (conversion.fitting fits) : Reader Failure Value)
      (readNumber conversion) fun value => fits value = true := by
  intro stream value after _
  unfold readNumber
  rw [InputStream.extract_fitting]
  rcases stream.extract conversion with ⟨none | found, next⟩
  · simp
  · by_cases inside : fits found = true
    · simp only [inside, if_true, Except.ok.injEq, Prod.mk.injEq, Option.some.injEq]
      constructor
      · rintro ⟨rfl, rfl⟩
        exact ⟨⟨rfl, rfl⟩, inside⟩
      · exact And.left
    · simp only [inside, Except.ok.injEq, Prod.mk.injEq, Option.some.injEq]
      constructor
      · rintro ⟨⟩
      · rintro ⟨⟨rfl, _⟩, inside'⟩
        exact absurd inside' inside

theorem Restricts.filterMap {narrow wide : Reader Failure Value} {fits : Value → Prop}
    (restricts : Restricts narrow wide fits) {f : Value → Option Result} {fits' : Result → Prop}
    (same : ∀ value result, f value = some result → (fits value ↔ fits' result)) :
    Restricts (narrow.filterMap f) (wide.filterMap f) fits' := by
  intro stream result after intact
  have converted : ∀ reader : Reader Failure Value,
      reader.filterMap f stream = .ok (some result, after) ↔
        ∃ value, reader stream = .ok (some value, after) ∧ f value = some result := by
    intro reader
    unfold Reader.filterMap
    rcases reader stream with failure | ⟨_ | value, last⟩
    · simp [Except.map]
    · simp [Except.map]
    · simp [Except.map, and_comm]
  rw [converted, converted]
  constructor
  · rintro ⟨value, read, found⟩
    have both := (restricts _ _ _ intact).mp read
    exact ⟨⟨value, both.1, found⟩, (same value result found).mp both.2⟩
  · rintro ⟨⟨value, read, found⟩, inside⟩
    exact ⟨value, (restricts _ _ _ intact).mpr ⟨read, (same value result found).mpr inside⟩,
      found⟩

/-- There is only white space left of a stream that has not failed. -/
def InputStream.Ended (stream : InputStream) : Prop :=
  let rest := if stream.eofbit then stream else stream.ws
  rest.fail = false ∧ rest.get.1 = none

theorem InputStream.Ended.intact {stream : InputStream} (ended : stream.Ended) :
    stream.fail = false := by
  unfold Ended at ended
  dsimp only at ended
  split at ended
  · exact ended.1
  · exact fail_of_fail_ws ended.1

theorem valueOfText_eq_some_iff {reader : Reader Failure Value} {text : Text} {value : Value} :
    valueOfText reader text = .ok (some value) ↔
      ∃ after, reader (InputStream.ofText text) = .ok (some value, after) ∧ after.Ended := by
  unfold valueOfText InputStream.Ended
  rcases reader (InputStream.ofText text) with failure | ⟨found, after⟩
  · simp
  · dsimp only
    simp only [Except.ok.injEq, Prod.mk.injEq]
    generalize rest_eq : (if after.eofbit = true then after else after.ws) = rest
    constructor
    · intro read
      by_cases failed : rest.fail = true
      · simp [failed] at read
      · rw [if_neg failed] at read
        rcases next : rest.get with ⟨_ | c, _⟩
        · rw [next] at read
          refine ⟨after, ⟨Except.ok.inj read, rfl⟩, ?_⟩
          rw [rest_eq, next]
          exact ⟨by simpa using failed, rfl⟩
        · simp [next] at read
    · rintro ⟨_, ⟨rfl, rfl⟩, intact, left⟩
      rw [rest_eq] at intact left
      rcases next : rest.get with ⟨_ | c, _⟩
      · simp [intact]
      · simp [next] at left

theorem Restricts.valueOfText_iff {narrow wide : Reader Failure Value} {fits : Value → Prop}
    (restricts : Restricts narrow wide fits) {text : Text} {value : Value} :
    valueOfText narrow text = .ok (some value) ↔
      valueOfText wide text = .ok (some value) ∧ fits value := by
  rw [valueOfText_eq_some_iff, valueOfText_eq_some_iff]
  constructor
  · rintro ⟨after, read, ended⟩
    have both := (restricts _ _ _ ended.intact).mp read
    exact ⟨⟨after, both.1, ended⟩, both.2⟩
  · rintro ⟨⟨after, read, ended⟩, inside⟩
    exact ⟨after, (restricts _ _ _ ended.intact).mpr ⟨read, inside⟩, ended⟩

/-- The second reader converts what the first one reads. -/
def Maps (reader : Reader Failure Value) (f : Value → Result) (mapped : Reader Failure Result) :
    Prop :=
  ∀ stream, mapped stream = (reader stream).map fun read => (read.1.map f, read.2)

theorem maps_readNumber (f : Value → Result) (conversion : Conversion Value) :
    Maps (readNumber conversion : Reader Failure Value) f (readNumber (conversion.map f)) := by
  intro stream
  unfold readNumber
  rw [InputStream.extract_map]
  rfl

theorem maps_filterMap (f : Value → Result) (reader : Reader Failure Value) :
    Maps reader f (reader.filterMap fun value => some (f value)) := by
  intro stream
  unfold Reader.filterMap
  rcases reader stream with failure | ⟨_ | value, after⟩
  · rfl
  · rfl
  · rfl

theorem Maps.filterMap {reader : Reader Failure Value} {f : Value → Result}
    {mapped : Reader Failure Result} (maps : Maps reader f mapped) {Value' Result' : Type}
    {g : Value → Option Value'} {g' : Result → Option Result'} {f' : Value' → Result'}
    (same : ∀ value, g' (f value) = (g value).map f') :
    Maps (reader.filterMap g) f' (mapped.filterMap g') := by
  intro stream
  unfold Reader.filterMap
  rw [maps]
  rcases reader stream with failure | ⟨_ | value, last⟩
  · rfl
  · rfl
  · exact congrArg (fun found => Except.ok (found, last)) (same value)

theorem Maps.valueOfText_eq {reader : Reader Failure Value} {f : Value → Result}
    {mapped : Reader Failure Result} (maps : Maps reader f mapped) (text : Text) :
    valueOfText mapped text = (valueOfText reader text).map (Option.map f) := by
  unfold valueOfText
  rw [maps]
  rcases reader (InputStream.ofText text) with failure | ⟨value, after⟩
  · rfl
  · dsimp only [Except.map]
    generalize (if after.eofbit = true then after else after.ws) = rest
    split_ifs with failed
    · rfl
    · rcases rest.get with ⟨_ | c, last⟩
      · rfl
      · rfl

end Narrower

/-! ## Texts with one value -/

section OneValue

variable {Failure Value : Type} {text : Text}

/-- A stream that did not fail has ended when white space is all that is left. -/
theorem InputStream.ended_iff {stream : InputStream} (intact : stream.fail = false)
    (atEnd : stream.eofbit = true → stream.after = []) :
    stream.Ended ↔ ∀ c ∈ stream.after, isSpace c = true := by
  obtain ⟨before, after, eofbit, failbit, badbit⟩ := stream
  simp only [fail, Bool.or_eq_false_iff] at intact
  obtain ⟨rfl, rfl⟩ := intact
  cases eofbit with
  | true =>
    obtain rfl := atEnd rfl
    simp [Ended, fail, get, good]
  | false =>
    rw [← List.dropWhile_eq_nil_iff]
    rcases left : after.dropWhile isSpace with _ | ⟨c, rest⟩
    · simp [Ended, ws, dropSpaces, left, fail, get, good]
    · simp [Ended, ws, dropSpaces, left, fail, get, good]

theorem valueOfText_readNumber_iff {conversion : Conversion Value} {value : Value} :
    (valueOfText (readNumber conversion) text : Except Failure _) = .ok (some value) ↔
      text.dropWhile isSpace ≠ [] ∧
        ∃ rest, conversion (text.dropWhile isSpace) = (some value, rest) ∧
          ∀ c ∈ rest, isSpace c = true := by
  rw [valueOfText_eq_some_iff]
  unfold readNumber InputStream.extract InputStream.ofText InputStream.dropSpaces
  rcases text.dropWhile isSpace with _ | ⟨first, others⟩
  · simp [InputStream.good]
  rcases converted : conversion (first :: others) with ⟨_ | found, rest⟩
  · simp [InputStream.good, converted]
  · simp only [converted, InputStream.good, Bool.not_false, Bool.and_true, if_true,
      List.isEmpty_cons, Bool.false_eq_true, if_false, Except.ok.injEq, Prod.mk.injEq,
      Option.some.injEq, ne_eq, reduceCtorEq, not_false_eq_true, true_and]
    constructor
    · rintro ⟨_, ⟨rfl, rfl⟩, ended⟩
      rw [InputStream.ended_iff rfl List.isEmpty_iff.mp] at ended
      exact ⟨rest, ⟨rfl, rfl⟩, ended⟩
    · rintro ⟨_, ⟨rfl, rfl⟩, spaces⟩
      exact ⟨_, ⟨rfl, rfl⟩, (InputStream.ended_iff rfl List.isEmpty_iff.mp).mpr spaces⟩

theorem valueOfText_character_iff {c : Char} :
    (valueOfText readCharacter text : Except Failure _) = .ok (some c) ↔
      ∃ rest, text.dropWhile isSpace = c :: rest ∧ ∀ c ∈ rest, isSpace c = true := by
  rw [valueOfText_eq_some_iff]
  unfold readCharacter InputStream.extractCharacter InputStream.ofText InputStream.dropSpaces
  rcases text.dropWhile isSpace with _ | ⟨first, others⟩
  · simp [InputStream.good]
  · simp only [InputStream.good, Bool.not_false, Bool.and_true, if_true, List.isEmpty_cons,
      Bool.false_eq_true, if_false, InputStream.get, Except.ok.injEq, Prod.mk.injEq,
      Option.some.injEq, List.cons.injEq]
    constructor
    · rintro ⟨_, ⟨rfl, rfl⟩, ended⟩
      rw [InputStream.ended_iff rfl (fun eof => by cases eof)] at ended
      exact ⟨others, ⟨rfl, rfl⟩, ended⟩
    · rintro ⟨_, ⟨rfl, rfl⟩, spaces⟩
      exact ⟨_, ⟨rfl, rfl⟩,
        (InputStream.ended_iff rfl (fun eof => by cases eof)).mpr spaces⟩

/-- A text that has one character besides white space. -/
def OneCharacter (text : Text) : Prop := text.countP (fun c => !isSpace c) = 1

theorem valueOfText_character_exists_iff :
    (∃ c, (valueOfText readCharacter text : Except Failure _) = .ok (some c)) ↔
      OneCharacter text := by
  simp only [valueOfText_character_iff]
  unfold OneCharacter
  induction text with
  | nil => simp
  | cons first others ih =>
    by_cases space : isSpace first = true
    · rw [List.dropWhile_cons_of_pos space, List.countP_cons_of_neg (by simp [space])]
      exact ih
    · rw [List.dropWhile_cons_of_neg space, List.countP_cons_of_pos (by simp [space])]
      have spaces : (∀ c ∈ others, isSpace c = true) ↔
          others.countP (fun c => !isSpace c) = 0 := by
        simp [List.countP_eq_zero]
      constructor
      · rintro ⟨c, rest, same, rest_spaces⟩
        cases same
        rw [spaces.mp rest_spaces]
      · intro one
        exact ⟨first, others, rfl, spaces.mpr (by omega)⟩

/-- A text that is read as an integer is read as the same decimal number. -/
theorem convertDecimal_of_convertInteger {number : ℤ} {rest : Text}
    (read : convertInteger text = (some number, rest))
    (spaces : ∀ c ∈ rest, isSpace c = true) :
    convertDecimal text = (some (number : ℚ), rest) := by
  unfold convertInteger at read
  unfold convertDecimal
  rcases signed : convertSign text with ⟨negative, unsigned⟩
  rw [signed] at read
  dsimp only at read ⊢
  by_cases noDigits : (unsigned.takeWhile Char.isDigit).isEmpty = true
  · rw [if_pos noDigits] at read
    cases read
  rw [if_neg noDigits, Prod.mk.injEq, Option.some.injEq] at read
  obtain ⟨rfl, rfl⟩ := read
  have fraction : convertFraction (unsigned.dropWhile Char.isDigit) =
      ([], unsigned.dropWhile Char.isDigit) := by
    unfold convertFraction
    split
    · simp_all
    · rename_i c more left
      have space := spaces c (by rw [left]; exact List.mem_cons_self)
      rw [if_neg (by rintro rfl; cases space), left]
  have exponent : convertExponent (unsigned.dropWhile Char.isDigit) =
      (some 0, unsigned.dropWhile Char.isDigit) := by
    unfold convertExponent
    split
    · simp_all
    · rename_i c more left
      have space := spaces c (by rw [left]; exact List.mem_cons_self)
      rw [if_neg (by rintro (rfl | rfl) <;> cases space), left]
  rw [fraction]
  simp only [List.append_nil, noDigits, exponent]
  cases negative with
  | true => simp
  | false => simp

end OneValue

/-- A text with one number, read as a type that the number fits. -/
example : (valueOfText (readNumber (convertInteger.fitting (fitsSigned 32))) " -12 ".toList :
    Except Empty (Option ℤ)) = .ok (some (-12)) := by
  decide

end AthabascaRecon

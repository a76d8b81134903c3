import AthabascaRecon.Bonelab.TupleText
import AthabascaRecon.Foundation.Strings
import Mathlib.Data.List.Chain
import Mathlib.Data.List.DropRight

/-!
# The texts that the input operator of a tuple accepts

Elements are integers with any white space in front of them and separators between them
(`Elements`). The operator takes the elements of a tuple from the front of a text, or from
behind an opening bracket, and what it does then depends on the rest of the text
(`tailOutcome`). So it uses up exactly the texts that are `Accepted`, and throws exactly on
those that are `Asserted`.
-/

set_option autoImplicit false

namespace AthabascaRecon

namespace TupleStream

open InputStream

/-! ## Integers in a text -/

/-- An integer as it is written: digits, and a sign in front of them or none. -/
inductive Numeral : Text → ℤ → Prop
  | unsigned {digits : Text} (some : digits ≠ []) (digit : ∀ c ∈ digits, c.isDigit = true) :
      Numeral digits (ofDigits digits)
  | plus {digits : Text} (some : digits ≠ []) (digit : ∀ c ∈ digits, c.isDigit = true) :
      Numeral ('+' :: digits) (ofDigits digits)
  | minus {digits : Text} (some : digits ≠ []) (digit : ∀ c ∈ digits, c.isDigit = true) :
      Numeral ('-' :: digits) (-ofDigits digits)

/-- No digit stands in front of a text. -/
def NoDigit (text : Text) : Prop := ∀ c ∈ text.head?, c.isDigit = false

theorem convertSign_of_digit {text : Text} (digit : ∀ c ∈ text.head?, c.isDigit = true) :
    convertSign text = (false, text) := by
  cases text with
  | nil => rfl
  | cons c rest =>
    have isDigit := digit c rfl
    rw [convertSign, if_neg (by rintro rfl; cases isDigit), if_neg (by rintro rfl; cases isDigit)]

/-- The digits behind the sign are converted up to the first other character. -/
theorem convertInteger_of_sign {text digits rest : Text} {negative : Bool}
    (signed : convertSign text = (negative, digits ++ rest)) (some_digits : digits ≠ [])
    (digit : ∀ c ∈ digits, c.isDigit = true) (stops : NoDigit rest) :
    convertInteger text =
      (some (if negative then -(ofDigits digits : ℤ) else ofDigits digits), rest) := by
  unfold convertInteger
  rw [signed]
  simp only [takeWhile_append_of_stops digit stops, dropWhile_append_of_stops digit stops,
    List.isEmpty_iff, some_digits, if_false]

/-- The integer in front of a text is converted when no digit follows it. -/
theorem convertInteger_numeral {numeral rest : Text} {value : ℤ} (spelled : Numeral numeral value)
    (stops : NoDigit rest) : convertInteger (numeral ++ rest) = (some value, rest) := by
  cases spelled with
  | unsigned some digit =>
    refine convertInteger_of_sign (convertSign_of_digit ?_) some digit stops
    rw [List.head?_append_of_ne_nil _ some]
    intro c first
    exact digit c (List.mem_of_head? first)
  | @plus digits some digit =>
    have signed : convertSign ('+' :: (digits ++ rest)) = (false, digits ++ rest) := rfl
    exact convertInteger_of_sign signed some digit stops
  | @minus digits some digit =>
    have signed : convertSign ('-' :: (digits ++ rest)) = (true, digits ++ rest) := rfl
    exact convertInteger_of_sign signed some digit stops

/-- What is converted is an integer that no digit follows. -/
theorem exists_numeral {text rest : Text} {value : ℤ}
    (converted : convertInteger text = (some value, rest)) :
    ∃ numeral, Numeral numeral value ∧ text = numeral ++ rest ∧ NoDigit rest := by
  unfold convertInteger at converted
  rcases signed : convertSign text with ⟨negative, unsigned⟩
  rw [signed] at converted
  dsimp only at converted
  by_cases noDigits : (unsigned.takeWhile Char.isDigit).isEmpty = true
  · rw [if_pos noDigits] at converted
    cases converted
  rw [if_neg noDigits] at converted
  cases converted
  have some : unsigned.takeWhile Char.isDigit ≠ [] := by simpa using noDigits
  have digit : ∀ c ∈ unsigned.takeWhile Char.isDigit, c.isDigit = true :=
    fun c member => List.mem_takeWhile_imp member
  have stops : NoDigit (unsigned.dropWhile Char.isDigit) := by
    intro c first
    have head := List.head?_dropWhile_not Char.isDigit unsigned
    rw [Option.mem_def.mp first] at head
    simpa using head
  cases text with
  | nil =>
    cases signed
    exact absurd rfl some
  | cons c others =>
    rw [convertSign] at signed
    split_ifs at signed with isMinus isPlus
    · cases signed
      subst isMinus
      exact ⟨_, .minus some digit, by rw [List.cons_append, List.takeWhile_append_dropWhile],
        stops⟩
    · cases signed
      subst isPlus
      exact ⟨_, .plus some digit, by rw [List.cons_append, List.takeWhile_append_dropWhile],
        stops⟩
    · cases signed
      exact ⟨_, .unsigned some digit, List.takeWhile_append_dropWhile.symm, stops⟩

/-- An integer ends with a digit and begins with a digit or a sign. -/
theorem Numeral.ends {numeral : Text} {value : ℤ} (spelled : Numeral numeral value) :
    ∃ front last, numeral = front ++ [last] ∧ last.isDigit = true := by
  have digits : ∀ {digits : Text}, digits ≠ [] → (∀ c ∈ digits, c.isDigit = true) →
      ∃ front last, digits = front ++ [last] ∧ last.isDigit = true := by
    intro digits some digit
    exact ⟨_, _, (List.dropLast_append_getLast some).symm, digit _ (List.getLast_mem some)⟩
  cases spelled with
  | unsigned some digit => exact digits some digit
  | plus some digit =>
    obtain ⟨front, last, rfl, isDigit⟩ := digits some digit
    exact ⟨'+' :: front, last, rfl, isDigit⟩
  | minus some digit =>
    obtain ⟨front, last, rfl, isDigit⟩ := digits some digit
    exact ⟨'-' :: front, last, rfl, isDigit⟩

theorem Numeral.begins {numeral : Text} {value : ℤ} (spelled : Numeral numeral value) :
    ∃ first others, numeral = first :: others ∧
      (first = '+' ∨ first = '-' ∨ first.isDigit = true) := by
  cases spelled with
  | @unsigned digits some digit =>
    obtain ⟨first, others, rfl⟩ := List.exists_cons_of_ne_nil some
    exact ⟨first, others, rfl, .inr (.inr (digit first List.mem_cons_self))⟩
  | @plus digits some digit => exact ⟨'+', digits, rfl, .inl rfl⟩
  | @minus digits some digit => exact ⟨'-', digits, rfl, .inr (.inl rfl)⟩

/-! ## The lists that the operator reads -/

/-- White space only. -/
def Spaces (text : Text) : Prop := ∀ c ∈ text, isSpace c = true

/-- Blanks only. -/
def Blanks (text : Text) : Prop := ∀ c ∈ text, isBlank c = true

/-- What the operator takes for a separator: blanks, and a comma behind them or none. -/
def Separator (text : Text) : Prop :=
  ∃ blanks, Blanks blanks ∧ (text = blanks ∨ text = blanks ++ [','])

section Lists

variable (fits : ℤ → Bool)

/-- An element in front of a text: white space, and an integer of the type of the elements
that no digit follows. -/
def Element (text : Text) (value : ℤ) (rest : Text) : Prop :=
  ∃ lead numeral, text = lead ++ (numeral ++ rest) ∧ Spaces lead ∧ Numeral numeral value ∧
    NoDigit rest ∧ fits value = true

/-- Elements with separators between them in front of a text. -/
inductive Elements : List ℤ → Text → Text → Prop
  | last {text rest : Text} {value : ℤ} (element : Element fits text value rest) :
      Elements [value] text rest
  | more {text separator next rest : Text} {value : ℤ} {values : List ℤ}
      (element : Element fits text value (separator ++ next)) (separates : Separator separator)
      (others : Elements values next rest) : Elements (value :: values) text rest

end Lists

variable {fits : ℤ → Bool} {text rest : Text} {value : ℤ} {values : List ℤ}

theorem isSpace_of_isBlank {c : Char} (blank : isBlank c = true) : isSpace c = true := by
  rw [isBlank, decide_eq_true_eq] at blank
  subst blank
  decide

theorem not_isSpace_of_numeral {c : Char} (first : c = '+' ∨ c = '-' ∨ c.isDigit = true) :
    isSpace c = false := by
  rcases first with rfl | rfl | digit
  · decide
  · decide
  · exact not_isSpace_of_isDigit digit

/-- An element is what the input operator of the integers reads. -/
theorem element_iff :
    Element fits text value rest ↔
      convertInteger.fitting fits (text.dropWhile isSpace) = (some value, rest) := by
  unfold Conversion.fitting
  constructor
  · rintro ⟨lead, numeral, rfl, spaces, spelled, stops, inside⟩
    obtain ⟨first, others, rfl, sign⟩ := spelled.begins
    rw [List.dropWhile_append_of_pos spaces, List.cons_append,
      List.dropWhile_cons_of_neg (by simp [not_isSpace_of_numeral sign]), ← List.cons_append,
      convertInteger_numeral spelled stops, Option.filter_some, if_pos inside]
  · intro converted
    rw [Prod.mk.injEq, Option.filter_eq_some_iff] at converted
    obtain ⟨⟨found, inside⟩, left⟩ := converted
    obtain ⟨numeral, spelled, same, stops⟩ := exists_numeral (Prod.ext found left)
    refine ⟨text.takeWhile isSpace, numeral, ?_, fun c member => List.mem_takeWhile_imp member,
      spelled, stops, inside⟩
    rw [← same, List.takeWhile_append_dropWhile]

theorem dropWhile_isSpace_dropWhile_isBlank (text : Text) :
    (text.dropWhile isBlank).dropWhile isSpace = text.dropWhile isSpace := by
  induction text with
  | nil => rfl
  | cons c rest ih =>
    by_cases blank : isBlank c = true
    · rw [List.dropWhile_cons_of_pos blank, List.dropWhile_cons_of_pos (isSpace_of_isBlank blank),
        ih]
    · rw [List.dropWhile_cons_of_neg blank]

theorem dropWhile_isBlank_append {blanks : Text} (blank : Blanks blanks) (text : Text) :
    (blanks ++ text).dropWhile isBlank = text.dropWhile isBlank :=
  List.dropWhile_append_of_pos blank

/-- Blanks in front of the elements make no difference. -/
theorem elements_dropWhile : Elements fits values (text.dropWhile isBlank) rest ↔
    Elements fits values text rest := by
  have same : ∀ {value rest}, Element fits (text.dropWhile isBlank) value rest ↔
      Element fits text value rest := by
    intro value rest
    rw [element_iff, element_iff, dropWhile_isSpace_dropWhile_isBlank]
  constructor
  · intro elements
    cases elements with
    | last element => exact .last (same.mp element)
    | more element separates others => exact .more (same.mp element) separates others
  · intro elements
    cases elements with
    | last element => exact .last (same.mpr element)
    | more element separates others => exact .more (same.mpr element) separates others

theorem elements_blanks_append {blanks : Text} (blank : Blanks blanks) :
    Elements fits values (blanks ++ text) rest ↔ Elements fits values text rest := by
  rw [← elements_dropWhile, dropWhile_isBlank_append blank, elements_dropWhile]

/-- What elements begin with. -/
theorem Elements.begins (elements : Elements fits values text rest) :
    ∃ first others, text = first :: others ∧
      (isSpace first = true ∨ first = '+' ∨ first = '-' ∨ first.isDigit = true) := by
  have begins : ∀ {value rest}, Element fits text value rest → ∃ first others,
      text = first :: others ∧
        (isSpace first = true ∨ first = '+' ∨ first = '-' ∨ first.isDigit = true) := by
    rintro value rest ⟨lead, numeral, rfl, spaces, spelled, _⟩
    cases lead with
    | nil =>
      obtain ⟨first, others, rfl, sign⟩ := spelled.begins
      exact ⟨first, others ++ rest, rfl, .inr sign⟩
    | cons first others =>
      exact ⟨first, others ++ (numeral ++ rest), rfl, .inl (spaces first List.mem_cons_self)⟩
  cases elements with
  | last element => exact begins element
  | more element _ _ => exact begins element

/-- What is left behind a separator has the elements that are left, and nothing else has. -/
theorem elements_afterSeparator {left : ℕ} (more : left ≠ 0) :
    Elements fits values (afterSeparator left text) rest ↔
      ∃ separator next, Separator separator ∧ text = separator ++ next ∧
        Elements fits values next rest := by
  unfold afterSeparator
  dsimp only
  constructor
  · intro elements
    have parts : text = text.takeWhile isBlank ++ text.dropWhile isBlank :=
      List.takeWhile_append_dropWhile.symm
    have blank : Blanks (text.takeWhile isBlank) :=
      fun c member => List.mem_takeWhile_imp member
    split_ifs at elements with comma
    · rcases left_over : text.dropWhile isBlank with _ | ⟨c, next⟩
      · rw [left_over] at comma
        cases comma.1
      · rw [left_over] at comma elements parts
        obtain rfl := Option.some.inj comma.1
        refine ⟨text.takeWhile isBlank ++ [','], next, ⟨_, blank, .inr rfl⟩, ?_,
          elements_dropWhile.mp elements⟩
        rw [List.append_assoc]
        exact parts
    · exact ⟨_, _, ⟨_, blank, .inl rfl⟩, parts, elements⟩
  · rintro ⟨separator, next, ⟨blanks, blank, rfl | rfl⟩, rfl, elements⟩
    · rw [dropWhile_isBlank_append blank]
      have first := (elements_dropWhile.mpr elements).begins
      obtain ⟨c, others, same, begins⟩ := first
      rw [same, if_neg, ← same]
      · exact elements_dropWhile.mpr elements
      · rintro ⟨comma, _⟩
        obtain rfl := Option.some.inj comma
        revert begins
        decide
    · rw [List.append_assoc, dropWhile_isBlank_append blank, List.singleton_append,
        List.dropWhile_cons_of_neg (by decide), if_pos ⟨rfl, more⟩]
      exact elements_dropWhile.mpr elements

/-! ## The outcome on a list -/

/-- The outcome for a loop that has more values. -/
def TupleOutcome.prepend (values : List ℤ) : TupleOutcome ℤ → TupleOutcome ℤ
  | .thrown => .thrown
  | .failed => .failed
  | .ended others rest => .ended (values ++ others) rest

/-- The outcome when the elements are followed by a text. -/
def tailOutcome (bracket : Option Char) (values : List ℤ) (rest : Text) : TupleOutcome ℤ :=
  if rest.isEmpty then if bracket.isSome then .failed else .ended values []
  else if (rest.dropWhile isBlank).isEmpty then .failed
  else (closingOutcome bracket rest).prepend values

theorem cons_tailOutcome (bracket : Option Char) (value : ℤ) (values : List ℤ) (rest : Text) :
    (tailOutcome bracket values rest).cons value =
      tailOutcome bracket (value :: values) rest := by
  unfold tailOutcome
  split_ifs
  · rfl
  · rfl
  · rfl
  · cases closingOutcome bracket rest with
    | thrown => rfl
    | failed => rfl
    | ended others rest => rfl

theorem closingOutcome_dropWhile (bracket : Option Char) (rest : Text) :
    (closingOutcome bracket (rest.dropWhile isBlank) : TupleOutcome ℤ) =
      closingOutcome bracket rest := by
  have same : (rest.dropWhile isBlank).dropWhile isBlank = rest.dropWhile isBlank :=
    List.dropWhile_idempotent isBlank rest
  unfold closingOutcome
  rw [same]

/-- The loop over one element. -/
theorem elementsOutcome_last (bracket : Option Char) (element : Element fits text value rest) :
    elementsOutcome (convertInteger.fitting fits) bracket 1 text =
      tailOutcome bracket [value] rest := by
  rw [elementsOutcome, element_iff.mp element]
  dsimp only
  unfold tailOutcome
  by_cases finished : rest.isEmpty = true
  · rw [if_pos finished, if_pos finished]
    simp
  · have next : afterSeparator 0 rest = rest.dropWhile isBlank := by
      unfold afterSeparator
      exact if_neg (by simp)
    rw [if_neg finished, if_neg finished, next]
    split_ifs
    · rfl
    · rw [elementsOutcome, closingOutcome_dropWhile]
      cases closingOutcome bracket rest with
      | thrown => rfl
      | failed => rfl
      | ended others rest => rfl

/-- The loop over elements, of which one is read. -/
theorem elementsOutcome_more (bracket : Option Char) {left : ℕ} {more : Text}
    (element : Element fits text value more) (nonempty : afterSeparator left more ≠ []) :
    elementsOutcome (convertInteger.fitting fits) bracket (left + 1) text =
      (elementsOutcome (convertInteger.fitting fits) bracket left
        (afterSeparator left more)).cons value := by
  have some_text : more ≠ [] := by
    rintro rfl
    exact nonempty rfl
  rw [elementsOutcome, element_iff.mp element]
  dsimp only
  rw [if_neg (by simpa using some_text), if_neg (by simpa using nonempty)]

/-- **The loop reads the elements in front of a text.** -/
theorem elementsOutcome_of_elements (bracket : Option Char)
    (elements : Elements fits values text rest) :
    elementsOutcome (convertInteger.fitting fits) bracket values.length text =
      tailOutcome bracket values rest := by
  induction values generalizing text with
  | nil => cases elements
  | cons value values ih =>
    cases elements with
    | last element => exact elementsOutcome_last bracket element
    | @more _ separator next _ _ _ element separates others =>
      have some_values : values.length ≠ 0 := by
        rintro none
        rw [List.eq_nil_of_length_eq_zero none] at others
        cases others
      have left : Elements fits values (afterSeparator values.length (separator ++ next)) rest :=
        (elements_afterSeparator some_values).mpr ⟨_, _, separates, rfl, others⟩
      obtain ⟨first, following, same, _⟩ := left.begins
      rw [List.length_cons, elementsOutcome_more bracket element (by rw [same]; simp), ih left,
        cons_tailOutcome]

/-- The loop fails when there are too few elements in front of the text. -/
theorem elementsOutcome_of_not (bracket : Option Char) (left : ℕ)
    (none : ∀ values rest, values.length = left + 1 → ¬ Elements fits values text rest) :
    elementsOutcome (convertInteger.fitting fits) bracket (left + 1) text = .failed := by
  induction left generalizing text with
  | zero =>
    rw [elementsOutcome]
    rcases converted : convertInteger.fitting fits (text.dropWhile isSpace) with ⟨_ | value, rest⟩
    · rfl
    · exact absurd (.last (element_iff.mpr converted)) (none [value] rest rfl)
  | succ left ih =>
    rcases converted : convertInteger.fitting fits (text.dropWhile isSpace) with ⟨_ | value, more⟩
    · rw [elementsOutcome, converted]
    · have element : Element fits text value more := element_iff.mpr converted
      by_cases nonempty : afterSeparator (left + 1) more = []
      · rw [elementsOutcome, converted]
        dsimp only
        split_ifs with finished bracketed empty
        · rfl
        · exact absurd (.inr (Nat.succ_ne_zero left)) bracketed
        · rfl
        · exact absurd nonempty (by simpa using empty)
      · rw [elementsOutcome_more bracket element nonempty, ih]
        · rfl
        · intro values rest count elements
          obtain ⟨separator, next, separates, rfl, others⟩ :=
            (elements_afterSeparator (Nat.succ_ne_zero left)).mp elements
          exact none (value :: values) rest (by rw [List.length_cons, count])
            (.more element separates others)

/-! ## The outcome on a text -/

/-- Elements in front of a text, behind blanks and an opening bracket. -/
def BracketedElements (fits : ℤ → Bool) (closing : Char) (values : List ℤ) (text rest : Text) :
    Prop :=
  ∃ lead opening inner, Blanks lead ∧ matchBracket opening = some closing ∧
    text = lead ++ opening :: inner ∧ Elements fits values inner rest

theorem matchBracket_eq_some_iff {opening closing : Char} :
    matchBracket opening = some closing ↔
      opening = '(' ∧ closing = ')' ∨ opening = '[' ∧ closing = ']' := by
  unfold matchBracket
  split_ifs with round square
  · subst round
    simp [eq_comm]
  · subst square
    simp [eq_comm]
  · simp [round, square]

/-- Elements do not begin with a bracket. -/
theorem Elements.no_bracket {c : Char} (elements : Elements fits values (c :: text) rest) :
    matchBracket c = none := by
  rw [Option.eq_none_iff_forall_ne_some]
  intro closing bracket
  obtain ⟨first, others, same, begins⟩ := elements.begins
  cases same
  rcases matchBracket_eq_some_iff.mp bracket with ⟨rfl, _⟩ | ⟨rfl, _⟩
  · revert begins
    decide
  · revert begins
    decide

theorem tupleOutcome_of_elements (elements : Elements fits values text rest) :
    tupleOutcome values.length (convertInteger.fitting fits) text =
      tailOutcome none values rest := by
  have skipped := elements_dropWhile.mpr elements
  unfold tupleOutcome
  rcases first : text.dropWhile isBlank with _ | ⟨c, others⟩
  · rw [first] at skipped
    obtain ⟨_, _, empty, _⟩ := skipped.begins
    cases empty
  · rw [first] at skipped
    dsimp only
    rw [skipped.no_bracket, if_neg (by simp), elementsOutcome_of_elements none skipped]

theorem tupleOutcome_bracket {lead inner : Text} {opening closing : Char} (blank : Blanks lead)
    (bracket : matchBracket opening = some closing) (size : ℕ) :
    tupleOutcome size (convertInteger.fitting fits) (lead ++ opening :: inner) =
      if (inner.dropWhile isBlank).isEmpty then .failed
      else elementsOutcome (convertInteger.fitting fits) (some closing) size
        (inner.dropWhile isBlank) := by
  have notBlank : ¬ isBlank opening = true := by
    rcases matchBracket_eq_some_iff.mp bracket with ⟨rfl, _⟩ | ⟨rfl, _⟩
    · decide
    · decide
  unfold tupleOutcome
  rw [dropWhile_isBlank_append blank, List.dropWhile_cons_of_neg notBlank]
  dsimp only
  rw [bracket, if_pos (Option.isSome_some)]

theorem tupleOutcome_of_bracketed {closing : Char}
    (bracketed : BracketedElements fits closing values text rest) :
    tupleOutcome values.length (convertInteger.fitting fits) text =
      tailOutcome (some closing) values rest := by
  obtain ⟨lead, opening, inner, blank, bracket, rfl, elements⟩ := bracketed
  have skipped := elements_dropWhile.mpr elements
  obtain ⟨first, others, same, _⟩ := skipped.begins
  rw [tupleOutcome_bracket blank bracket, if_neg (by rw [same]; simp),
    elementsOutcome_of_elements _ skipped]

/-- Without enough elements the operator sets the failbit. -/
theorem tupleOutcome_of_not {size : ℕ} (positive : 1 ≤ size)
    (none : ∀ values rest, values.length = size → ¬ Elements fits values text rest)
    (noneBracketed : ∀ closing values rest, values.length = size →
      ¬ BracketedElements fits closing values text rest) :
    tupleOutcome size (convertInteger.fitting fits) text = .failed := by
  obtain ⟨left, rfl⟩ : ∃ left, size = left + 1 := ⟨size - 1, by omega⟩
  have parts : text = text.takeWhile isBlank ++ text.dropWhile isBlank :=
    List.takeWhile_append_dropWhile.symm
  have blank : Blanks (text.takeWhile isBlank) := fun c member => List.mem_takeWhile_imp member
  rcases first : text.dropWhile isBlank with _ | ⟨c, inner⟩
  · rw [tupleOutcome, first]
  · rw [first] at parts
    rcases bracket : matchBracket c with _ | closing
    · rw [tupleOutcome, first]
      dsimp only
      rw [bracket, if_neg (by simp), elementsOutcome_of_not]
      intro values rest count elements
      rw [← first, elements_dropWhile] at elements
      exact none values rest count elements
    · rw [parts, tupleOutcome_bracket blank bracket]
      split_ifs with empty
      · rfl
      · rw [elementsOutcome_of_not]
        intro values rest count elements
        exact noneBracketed closing values rest count
          ⟨_, c, inner, blank, bracket, parts, elements_dropWhile.mp elements⟩

theorem dropWhile_isBlank_eq_nil_iff : text.dropWhile isBlank = [] ↔ Blanks text :=
  List.dropWhile_eq_nil_iff

theorem tailOutcome_none_eq_thrown_iff :
    tailOutcome none values rest = .thrown ↔ ¬ Blanks rest := by
  rw [← dropWhile_isBlank_eq_nil_iff]
  unfold tailOutcome
  split_ifs with finished bracketed empty
  · cases bracketed
  · simp [List.isEmpty_iff.mp finished]
  · simp [List.isEmpty_iff.mp empty]
  · refine iff_of_true rfl (by simpa using empty)

theorem tailOutcome_none_eq_ended_iff {others : List ℤ} :
    tailOutcome none values rest = .ended others [] ↔ values = others ∧ rest = [] := by
  unfold tailOutcome
  split_ifs with finished bracketed empty
  · cases bracketed
  · simp [List.isEmpty_iff.mp finished]
  · refine iff_of_false (fun same => by cases same) ?_
    rintro ⟨-, rfl⟩
    exact finished rfl
  · refine iff_of_false (fun same => by cases same) ?_
    rintro ⟨-, rfl⟩
    exact finished rfl

theorem tailOutcome_some_ne_thrown {closing : Char} :
    tailOutcome (some closing) values rest ≠ .thrown := by
  unfold tailOutcome closingOutcome
  split_ifs with finished bracketed empty
  · exact nofun
  · exact nofun
  · exact nofun
  · rcases rest.dropWhile isBlank with _ | ⟨c, left⟩
    · exact nofun
    · dsimp only
      split_ifs
      · exact nofun
      · exact nofun

theorem tailOutcome_some_eq_ended_iff {closing : Char} (notBlank : ¬ isBlank closing = true)
    {others : List ℤ} :
    tailOutcome (some closing) values rest = .ended others [] ↔
      values = others ∧ ∃ blanks, Blanks blanks ∧ rest = blanks ++ [closing] := by
  constructor
  · intro ended
    unfold tailOutcome closingOutcome at ended
    split_ifs at ended with finished bracketed empty
    · exact absurd rfl bracketed
    · have parts : rest = rest.takeWhile isBlank ++ rest.dropWhile isBlank :=
        List.takeWhile_append_dropWhile.symm
      rcases first : rest.dropWhile isBlank with _ | ⟨c, left⟩
      · rw [first] at empty
        exact absurd rfl empty
      · rw [first] at ended parts
        dsimp only at ended
        split_ifs at ended with closed
        · rw [TupleOutcome.prepend, TupleOutcome.ended.injEq, List.append_nil] at ended
          obtain ⟨same, rfl⟩ := ended
          subst closed
          exact ⟨same, _, fun c member => List.mem_takeWhile_imp member, parts⟩
        · cases ended
  · rintro ⟨rfl, blanks, blank, rfl⟩
    have left : (blanks ++ [closing]).dropWhile isBlank = [closing] := by
      rw [dropWhile_isBlank_append blank, List.dropWhile_cons_of_neg notBlank]
    unfold tailOutcome closingOutcome
    rw [left, if_neg (by simp), if_neg (by simp)]
    dsimp only
    rw [if_pos rfl, TupleOutcome.prepend, List.append_nil]

/-- The texts that the operator uses up without setting the failbit. -/
def Accepted (fits : ℤ → Bool) (values : List ℤ) (text : Text) : Prop :=
  Elements fits values text [] ∨
    ∃ closing blanks, Blanks blanks ∧
      BracketedElements fits closing values text (blanks ++ [closing])

/-- The texts for which the assertion fails: there are all elements without a bracket, and
more than blanks behind them. -/
def Asserted (fits : ℤ → Bool) (size : ℕ) (text : Text) : Prop :=
  ∃ values rest, values.length = size ∧ Elements fits values text rest ∧ ¬ Blanks rest

theorem BracketedElements.closing_not_blank {closing : Char}
    (bracketed : BracketedElements fits closing values text rest) :
    ¬ isBlank closing = true := by
  obtain ⟨lead, opening, inner, blank, bracket, -, -⟩ := bracketed
  rcases matchBracket_eq_some_iff.mp bracket with ⟨-, rfl⟩ | ⟨-, rfl⟩
  · decide
  · decide

/-- A text has elements in front, or they are in a bracket, or there are too few. -/
theorem tupleOutcome_cases (fits : ℤ → Bool) {size : ℕ} (positive : 1 ≤ size) (text : Text) :
    (∃ values rest, values.length = size ∧ Elements fits values text rest) ∨
      (∃ closing values rest, values.length = size ∧
        BracketedElements fits closing values text rest) ∨
      tupleOutcome size (convertInteger.fitting fits) text = .failed := by
  by_contra others
  rw [not_or, not_or] at others
  obtain ⟨none, noneBracketed, notFailed⟩ := others
  refine notFailed (tupleOutcome_of_not positive ?_ ?_)
  · intro values rest count elements
    exact none ⟨values, rest, count, elements⟩
  · intro closing values rest count bracketed
    exact noneBracketed ⟨closing, values, rest, count, bracketed⟩

/-- **The operator ends at the end of a text with exactly the lists that it accepts.** -/
theorem tupleOutcome_eq_ended_iff {size : ℕ} (positive : 1 ≤ size) :
    tupleOutcome size (convertInteger.fitting fits) text = .ended values [] ↔
      values.length = size ∧ Accepted fits values text := by
  constructor
  · intro ended
    rcases tupleOutcome_cases fits positive text with
      ⟨found, rest, rfl, elements⟩ | ⟨closing, found, rest, rfl, bracketed⟩ | failed
    · rw [tupleOutcome_of_elements elements, tailOutcome_none_eq_ended_iff] at ended
      obtain ⟨rfl, rfl⟩ := ended
      exact ⟨rfl, .inl elements⟩
    · rw [tupleOutcome_of_bracketed bracketed,
        tailOutcome_some_eq_ended_iff bracketed.closing_not_blank] at ended
      obtain ⟨rfl, blanks, blank, rfl⟩ := ended
      exact ⟨rfl, .inr ⟨closing, blanks, blank, bracketed⟩⟩
    · rw [failed] at ended
      cases ended
  · rintro ⟨rfl, elements | ⟨closing, blanks, blank, bracketed⟩⟩
    · rw [tupleOutcome_of_elements elements, tailOutcome_none_eq_ended_iff]
      exact ⟨rfl, rfl⟩
    · rw [tupleOutcome_of_bracketed bracketed,
        tailOutcome_some_eq_ended_iff bracketed.closing_not_blank]
      exact ⟨rfl, blanks, blank, rfl⟩

/-- **The operator throws exactly when the assertion fails.** -/
theorem tupleOutcome_eq_thrown_iff {size : ℕ} (positive : 1 ≤ size) :
    tupleOutcome size (convertInteger.fitting fits) text = .thrown ↔
      Asserted fits size text := by
  constructor
  · intro thrown
    rcases tupleOutcome_cases fits positive text with
      ⟨found, rest, rfl, elements⟩ | ⟨closing, found, rest, rfl, bracketed⟩ | failed
    · rw [tupleOutcome_of_elements elements, tailOutcome_none_eq_thrown_iff] at thrown
      exact ⟨found, rest, rfl, elements, thrown⟩
    · rw [tupleOutcome_of_bracketed bracketed] at thrown
      exact absurd thrown tailOutcome_some_ne_thrown
    · rw [failed] at thrown
      cases thrown
  · rintro ⟨values, rest, rfl, elements, more⟩
    rw [tupleOutcome_of_elements elements, tailOutcome_none_eq_thrown_iff]
    exact more

end TupleStream

end AthabascaRecon

import AthabascaRecon.Bonelab.TupleGrammar

/-!
# The documented forms of a tuple

A tuple is documented to be a list of integers that are separated by commas or blanks, with
or without brackets around it, and blanks may stand before, between and behind these items.
The output operator writes one of these forms, and the input operator reads it again
(`readTuple_showTuple`). Of the other texts the input operator accepts some that are not of
a documented form, does not use up some that are, and throws on some
(`readsDocumentedForms_iff`).
-/

set_option autoImplicit false

namespace AthabascaRecon

namespace TupleStream

open InputStream

/-! ## The forms -/

/-- What separates two integers: blanks, or a comma with blanks around it. -/
def Gap (gap : Text) : Prop :=
  Blanks gap ∧ gap ≠ [] ∨
    ∃ before after, Blanks before ∧ Blanks after ∧ gap = before ++ ',' :: after

/-- Integers of the type of the elements with gaps between them. -/
inductive IntegerList (fits : ℤ → Bool) : List ℤ → Text → Prop
  | last {numeral : Text} {value : ℤ} (spelled : Numeral numeral value)
      (inside : fits value = true) : IntegerList fits [value] numeral
  | more {numeral gap others : Text} {value : ℤ} {values : List ℤ}
      (spelled : Numeral numeral value) (inside : fits value = true) (separates : Gap gap)
      (list : IntegerList fits values others) :
      IntegerList fits (value :: values) (numeral ++ (gap ++ others))

/-- A list of integers, which may be enclosed in a pair of brackets, with blanks before,
between and behind these items. -/
inductive Documented (fits : ℤ → Bool) (values : List ℤ) : Text → Prop
  | plain {lead list trail : Text} (leading : Blanks lead) (integers : IntegerList fits values list)
      (trailing : Blanks trail) : Documented fits values (lead ++ (list ++ trail))
  | bracketed {lead inner list after trail : Text} {opening closing : Char}
      (leading : Blanks lead) (bracket : matchBracket opening = some closing)
      (inside : Blanks inner) (integers : IntegerList fits values list) (behind : Blanks after)
      (trailing : Blanks trail) :
      Documented fits values (lead ++ opening :: (inner ++ (list ++ (after ++ closing :: trail))))

variable {fits : ℤ → Bool} {text rest : Text} {value : ℤ} {values : List ℤ}

theorem noDigit_of_blanks (blank : Blanks text) : NoDigit text := by
  intro c first
  have isBlank := blank c (List.mem_of_head? first)
  rw [TupleStream.isBlank, decide_eq_true_eq] at isBlank
  subst isBlank
  decide

theorem noDigit_blanks_append {blanks : Text} (blank : Blanks blanks) (noDigit : NoDigit text) :
    NoDigit (blanks ++ text) := by
  cases blanks with
  | nil => exact noDigit
  | cons c blanks =>
    intro first here
    exact noDigit_of_blanks blank first here

theorem Gap.noDigit {gap : Text} (separates : Gap gap) (next : Text) : NoDigit (gap ++ next) := by
  rcases separates with ⟨blank, some⟩ | ⟨before, after, blank, -, rfl⟩
  · obtain ⟨c, blanks, rfl⟩ := List.exists_cons_of_ne_nil some
    intro first here
    exact noDigit_of_blanks blank first here
  · rw [List.append_assoc, List.cons_append]
    refine noDigit_blanks_append blank ?_
    rintro c ⟨⟩
    decide

/-- Integers of a list are elements that the operator reads. -/
theorem IntegerList.elements {list : Text} (integers : IntegerList fits values list)
    (stops : NoDigit rest) : Elements fits values (list ++ rest) rest := by
  induction integers with
  | @last numeral value spelled inside =>
    exact .last ⟨[], numeral, rfl, fun c none => absurd none List.not_mem_nil, spelled, stops,
      inside⟩
  | @more numeral gap others value values spelled inside separates list ih =>
    have stopsNumeral := separates.noDigit (others ++ rest)
    have element : Element fits (numeral ++ (gap ++ (others ++ rest))) value
        (gap ++ (others ++ rest)) :=
      ⟨[], numeral, rfl, fun c none => absurd none List.not_mem_nil, spelled, stopsNumeral, inside⟩
    rw [List.append_assoc, List.append_assoc]
    rcases separates with ⟨blank, -⟩ | ⟨before, after, blank, blankAfter, rfl⟩
    · exact .more element ⟨gap, blank, .inl rfl⟩ ih
    · have split : before ++ ',' :: after ++ (others ++ rest) =
          (before ++ [',']) ++ (after ++ (others ++ rest)) := by simp
      rw [split] at element ⊢
      exact .more element ⟨before, blank, .inr rfl⟩ ((elements_blanks_append blankAfter).mpr ih)

theorem noDigit_of_bracket {opening closing : Char} (bracket : matchBracket opening = some closing)
    (text : Text) : NoDigit (closing :: text) := by
  rintro c ⟨⟩
  rcases matchBracket_eq_some_iff.mp bracket with ⟨-, rfl⟩ | ⟨-, rfl⟩
  · decide
  · decide

/-- A text with a blank at its end. -/
def EndsWithBlank (text : Text) : Prop := ∃ front, text = front ++ [' ']

theorem eq_nil_of_not_endsWithBlank {front trail : Text} (trailing : Blanks trail)
    (other : ¬ EndsWithBlank (front ++ trail)) : trail = [] := by
  rcases List.eq_nil_or_concat trail with rfl | ⟨others, last, rfl⟩
  · rfl
  · rw [List.concat_eq_append] at trailing other
    have blank := trailing last (by simp)
    rw [isBlank, decide_eq_true_eq] at blank
    subst blank
    exact absurd ⟨front ++ others, (List.append_assoc ..).symm⟩ other

/-- A documented form without blanks at its end is accepted. -/
theorem Documented.accepted (documented : Documented fits values text)
    (other : ¬ EndsWithBlank text) : Accepted fits values text := by
  cases documented with
  | @plain lead list trail leading integers trailing =>
    rw [← List.append_assoc] at other
    obtain rfl := eq_nil_of_not_endsWithBlank trailing other
    exact .inl ((elements_blanks_append leading).mpr
      (integers.elements (noDigit_of_blanks trailing)))
  | @bracketed lead inner list after trail opening closing leading bracket inside integers behind
      trailing =>
    have split : lead ++ opening :: (inner ++ (list ++ (after ++ closing :: trail))) =
        (lead ++ opening :: (inner ++ (list ++ (after ++ [closing])))) ++ trail := by simp
    rw [split] at other
    obtain rfl := eq_nil_of_not_endsWithBlank trailing other
    refine .inr ⟨closing, after, behind, lead, opening, _, leading, bracket, rfl, ?_⟩
    rw [elements_blanks_append inside]
    exact integers.elements (noDigit_blanks_append behind (noDigit_of_bracket bracket []))

/-! ## What the operator writes -/

theorem numeral_showInteger (number : ℤ) : Numeral (showInteger number) number := by
  have some : Nat.toDigits 10 number.natAbs ≠ [] := Nat.toDigits_ne_nil
  have digit : ∀ c ∈ Nat.toDigits 10 number.natAbs, c.isDigit = true :=
    fun c member => Nat.isDigit_of_mem_toDigits (by decide) (by decide) member
  unfold showInteger
  split_ifs with negative
  · have spelled := Numeral.minus some digit
    rwa [ofDigits_toDigits, Int.ofNat_natAbs_of_nonpos negative.le, neg_neg] at spelled
  · have spelled := Numeral.unsigned some digit
    rwa [ofDigits_toDigits, Int.natAbs_of_nonneg (by omega)] at spelled

theorem integerList_intersperse (nonempty : values ≠ [])
    (inside : ∀ value ∈ values, fits value = true) :
    IntegerList fits values ((values.map showInteger).intersperse [',']).flatten := by
  induction values with
  | nil => exact absurd rfl nonempty
  | cons value values ih =>
    rw [List.forall_mem_cons] at inside
    cases values with
    | nil =>
      rw [List.map_singleton, List.intersperse_singleton, List.flatten_singleton]
      exact .last (numeral_showInteger value) inside.1
    | cons next values =>
      rw [List.map_cons, List.map_cons, List.intersperse_cons_cons, List.flatten_cons,
        List.flatten_cons]
      have gap : Gap [','] := .inr ⟨[], [], fun c none => absurd none List.not_mem_nil,
        fun c none => absurd none List.not_mem_nil, rfl⟩
      exact .more (numeral_showInteger value) inside.1 gap (ih (by simp) inside.2)

theorem documented_showTuple (nonempty : values ≠ [])
    (inside : ∀ value ∈ values, fits value = true) :
    Documented fits values (showTuple showInteger values) := by
  have nothing : Blanks [] := fun c none => absurd none List.not_mem_nil
  exact .bracketed nothing (by decide : matchBracket '(' = some ')') nothing
    (integerList_intersperse nonempty inside) nothing nothing

theorem convertInteger_fitting_nil (fits : ℤ → Bool) :
    convertInteger.fitting fits [] = (none, []) :=
  rfl

/-- The operator on an accepted text. -/
theorem readTuple_of_accepted (nonempty : values ≠ []) (accepted : Accepted fits values text) :
    ∃ before, readTuple values.length (convertInteger.fitting fits) (InputStream.ofText text) =
      .ok (some values, ⟨before, [], true, false, false⟩) := by
  have positive : 1 ≤ values.length := List.length_pos_of_ne_nil nonempty
  have ends := readTuple_ends (convertInteger_fitting_nil fits) values.length text
  rw [(tupleOutcome_eq_ended_iff positive).mpr ⟨rfl, accepted⟩] at ends
  exact ends

/-- **What the output operator writes is read again**, and the stream is at its end. -/
theorem readTuple_showTuple (size : ℕ) (positive : 1 ≤ size) (values : List ℤ)
    (count : values.length = size) (inside : ∀ value ∈ values, fitsSigned 32 value = true) :
    (∃ after, readTuple size (convertInteger.fitting (fitsSigned 32))
        (InputStream.ofText (showTuple showInteger values)) = .ok (some values, after) ∧
      after.failbit = false ∧ after.badbit = false ∧ after.eofbit = true) ∧
    valueOfText (readTuple size (convertInteger.fitting (fitsSigned 32)))
      (showTuple showInteger values) = .ok (some values) := by
  have nonempty : values ≠ [] := List.ne_nil_of_length_pos (by omega)
  have noBlank : ¬ EndsWithBlank (showTuple showInteger values) := by
    rintro ⟨front, same⟩
    exact absurd (List.append_inj' same rfl).2 (by decide)
  obtain ⟨before, read⟩ := readTuple_of_accepted nonempty
    ((documented_showTuple nonempty inside).accepted noBlank)
  rw [count] at read
  refine ⟨⟨_, read, rfl, rfl, rfl⟩, valueOfText_eq_some_iff.mpr ⟨_, read, ?_⟩⟩
  exact (InputStream.ended_iff rfl fun _ => rfl).mpr fun c none => absurd none List.not_mem_nil

/-- The tuple (4,-24,1). -/
theorem readTuple_showTuple_three :
    (∃ after, readTuple 3 (convertInteger.fitting (fitsSigned 32))
        (InputStream.ofText (showTuple showInteger [4, -24, 1])) = .ok (some [4, -24, 1], after) ∧
      after.failbit = false ∧ after.badbit = false ∧ after.eofbit = true) ∧
    valueOfText (readTuple 3 (convertInteger.fitting (fitsSigned 32)))
      (showTuple showInteger [4, -24, 1]) = .ok (some [4, -24, 1]) :=
  readTuple_showTuple 3 (by decide) [4, -24, 1] rfl (by decide)

/-! ## Texts that the operator accepts without being documented -/

/-- No white space but blanks. -/
def OnlyBlanks (text : Text) : Prop := ∀ c ∈ text, isSpace c = true → isBlank c = true

/-- No sign stands directly behind a digit. -/
def SignsApart (text : Text) : Prop :=
  text.IsChain fun before c => before.isDigit = true → c ≠ '+' ∧ c ≠ '-'

theorem signsApart_append {first second : Text} (left : SignsApart first)
    (right : SignsApart second) (apart : ∀ c ∈ second.head?, c ≠ '+' ∧ c ≠ '-') :
    SignsApart (first ++ second) :=
  List.IsChain.append left right fun _ _ c here _ => apart c here

theorem signsApart_of_noDigits {first second : Text} (others : ∀ c ∈ first, c.isDigit = false)
    (right : SignsApart second) : SignsApart (first ++ second) := by
  induction first with
  | nil => exact right
  | cons c first ih =>
    rw [List.forall_mem_cons] at others
    refine List.IsChain.cons (ih others.2) fun next _ digit => ?_
    rw [others.1] at digit
    cases digit

theorem signsApart_of_digits {digits : Text} (digit : ∀ c ∈ digits, c.isDigit = true) :
    SignsApart digits := by
  induction digits with
  | nil => exact .nil
  | cons c digits ih =>
    rw [List.forall_mem_cons] at digit
    refine List.IsChain.cons (ih digit.2) fun next here _ => ?_
    have isDigit := digit.2 next (List.mem_of_head? here)
    constructor
    · rintro rfl
      cases isDigit
    · rintro rfl
      cases isDigit

theorem Numeral.signsApart {numeral : Text} (spelled : Numeral numeral value) :
    SignsApart numeral := by
  cases spelled with
  | unsigned some digit => exact signsApart_of_digits digit
  | @plus digits some digit =>
    have apart : SignsApart (['+'] ++ digits) :=
      signsApart_of_noDigits (List.forall_mem_singleton.mpr rfl) (signsApart_of_digits digit)
    exact apart
  | @minus digits some digit =>
    have apart : SignsApart (['-'] ++ digits) :=
      signsApart_of_noDigits (List.forall_mem_singleton.mpr rfl) (signsApart_of_digits digit)
    exact apart

theorem Numeral.not_isSpace {numeral : Text} (spelled : Numeral numeral value) {c : Char}
    (member : c ∈ numeral) : isSpace c = false := by
  cases spelled with
  | unsigned some digit => exact not_isSpace_of_isDigit (digit c member)
  | plus some digit =>
    rcases List.mem_cons.mp member with rfl | member
    · decide
    · exact not_isSpace_of_isDigit (digit c member)
  | minus some digit =>
    rcases List.mem_cons.mp member with rfl | member
    · decide
    · exact not_isSpace_of_isDigit (digit c member)

/-- The characters of a gap are blanks and a comma. -/
theorem Gap.character {gap : Text} (separates : Gap gap) {c : Char} (member : c ∈ gap) :
    c = ' ' ∨ c = ',' := by
  have ofBlanks : ∀ {blanks : Text}, Blanks blanks → c ∈ blanks → c = ' ' :=
    fun blank member => of_decide_eq_true (blank c member)
  rcases separates with ⟨blank, -⟩ | ⟨before, after, blank, blankAfter, rfl⟩
  · exact .inl (ofBlanks blank member)
  · rw [List.mem_append, List.mem_cons] at member
    rcases member with member | comma | member
    · exact .inl (ofBlanks blank member)
    · exact .inr comma
    · exact .inl (ofBlanks blankAfter member)

theorem Gap.not_digit {gap : Text} (separates : Gap gap) {c : Char} (member : c ∈ gap) :
    c.isDigit = false := by
  rcases separates.character member with rfl | rfl
  · decide
  · decide

theorem Gap.onlyBlanks {gap : Text} (separates : Gap gap) : OnlyBlanks gap := by
  intro c member space
  rcases separates.character member with rfl | rfl
  · decide
  · cases space

theorem Gap.ne_nil {gap : Text} (separates : Gap gap) : gap ≠ [] := by
  rcases separates with ⟨-, nonempty⟩ | ⟨before, after, -, -, rfl⟩
  · exact nonempty
  · simp

/-- A gap does not begin with a sign. -/
theorem Gap.begins {gap : Text} (separates : Gap gap) (next : Text) :
    ∀ c ∈ (gap ++ next).head?, c ≠ '+' ∧ c ≠ '-' := by
  intro c here
  rw [List.head?_append_of_ne_nil _ separates.ne_nil] at here
  rcases separates.character (List.mem_of_head? here) with rfl | rfl
  · decide
  · decide

theorem onlyBlanks_append {first second : Text} :
    OnlyBlanks (first ++ second) ↔ OnlyBlanks first ∧ OnlyBlanks second :=
  List.forall_mem_append

theorem onlyBlanks_of_blanks (blank : Blanks text) : OnlyBlanks text :=
  fun c member _ => blank c member

/-- The integers of a list stand apart. -/
theorem IntegerList.signsApart {list : Text} (integers : IntegerList fits values list) :
    SignsApart list := by
  induction integers with
  | last spelled inside => exact spelled.signsApart
  | more spelled inside separates list ih =>
    exact signsApart_append spelled.signsApart
      (signsApart_of_noDigits (fun c member => separates.not_digit member) ih)
      (separates.begins _)

theorem IntegerList.onlyBlanks {list : Text} (integers : IntegerList fits values list) :
    OnlyBlanks list := by
  have numeral : ∀ {numeral : Text} {value : ℤ}, Numeral numeral value → OnlyBlanks numeral := by
    intro numeral value spelled c member space
    rw [spelled.not_isSpace member] at space
    cases space
  induction integers with
  | last spelled inside => exact numeral spelled
  | more spelled inside separates list ih =>
    exact onlyBlanks_append.mpr ⟨numeral spelled,
      onlyBlanks_append.mpr ⟨separates.onlyBlanks, ih⟩⟩

/-- The end of a plain form, or of a list in brackets. -/
theorem IntegerList.signsApart_append {list : Text} (integers : IntegerList fits values list)
    {behind : Text} (others : ∀ c ∈ behind, c.isDigit = false ∧ c ≠ '+' ∧ c ≠ '-') :
    SignsApart (list ++ behind) := by
  refine TupleStream.signsApart_append integers.signsApart ?_ ?_
  · have apart := signsApart_of_noDigits (fun c member => (others c member).1) .nil
    rwa [List.append_nil] at apart
  · exact fun c here => (others c (List.mem_of_head? here)).2

theorem blanks_other (blank : Blanks text) :
    ∀ c ∈ text, c.isDigit = false ∧ c ≠ '+' ∧ c ≠ '-' := by
  intro c member
  obtain rfl := of_decide_eq_true (blank c member)
  decide

/-- **Documented forms have no white space but blanks, and no sign behind a digit.** -/
theorem Documented.regular (documented : Documented fits values text) :
    OnlyBlanks text ∧ SignsApart text := by
  cases documented with
  | plain leading integers trailing =>
    constructor
    · exact onlyBlanks_append.mpr ⟨onlyBlanks_of_blanks leading,
        onlyBlanks_append.mpr ⟨integers.onlyBlanks, onlyBlanks_of_blanks trailing⟩⟩
    · exact signsApart_of_noDigits (fun c member => (blanks_other leading c member).1)
        (integers.signsApart_append (blanks_other trailing))
  | @bracketed lead inner list after trail opening closing leading bracket inside integers behind
      trailing =>
    have brackets : (isSpace opening = false ∧ opening.isDigit = false) ∧
        isSpace closing = false ∧ closing.isDigit = false ∧ closing ≠ '+' ∧ closing ≠ '-' := by
      rcases matchBracket_eq_some_iff.mp bracket with ⟨rfl, rfl⟩ | ⟨rfl, rfl⟩
      · decide
      · decide
    constructor
    · intro c member space
      simp only [List.mem_append, List.mem_cons] at member
      rcases member with member | rfl | member | member | member | rfl | member
      · exact leading c member
      · rw [brackets.1.1] at space
        cases space
      · exact inside c member
      · exact integers.onlyBlanks c member space
      · exact behind c member
      · rw [brackets.2.1] at space
        cases space
      · exact trailing c member
    · refine signsApart_of_noDigits (fun c member => (blanks_other leading c member).1) ?_
      have opened : SignsApart ([opening] ++ (inner ++ (list ++ (after ++ closing :: trail)))) := by
        refine signsApart_of_noDigits ?_ (signsApart_of_noDigits
          (fun c member => (blanks_other inside c member).1) (integers.signsApart_append ?_))
        · intro c member
          rw [List.mem_singleton.mp member]
          exact brackets.1.2
        · intro c member
          rw [List.mem_append, List.mem_cons] at member
          rcases member with member | rfl | member
          · exact blanks_other behind c member
          · exact brackets.2.2
          · exact blanks_other trailing c member
      exact opened

theorem IntegerList.begins {list : Text} (integers : IntegerList fits values list) :
    ∃ first others, list = first :: others ∧
      (first = '+' ∨ first = '-' ∨ first.isDigit = true) := by
  cases integers with
  | last spelled inside => exact spelled.begins
  | more spelled inside separates list =>
    obtain ⟨first, others, rfl, begins⟩ := spelled.begins
    exact ⟨first, _, rfl, begins⟩

/-- Integers that a sign behind a digit does not separate have a gap between them. -/
theorem gap_of_separator {numeral separator blanks list : Text}
    (spelled : Numeral numeral value) (integers : IntegerList fits values list)
    (separates : Separator separator) (blank : Blanks blanks)
    (stops : NoDigit (separator ++ (blanks ++ (list ++ rest))))
    (apart : SignsApart (numeral ++ (separator ++ (blanks ++ (list ++ rest))))) :
    Gap (separator ++ blanks) := by
  obtain ⟨before, blankBefore, rfl | rfl⟩ := separates
  · refine .inl ⟨List.forall_mem_append.mpr ⟨blankBefore, blank⟩, ?_⟩
    intro nothing
    obtain ⟨rfl, rfl⟩ := List.append_eq_nil_iff.mp nothing
    obtain ⟨first, others, rfl, begins⟩ := integers.begins
    obtain ⟨front, last, rfl, digit⟩ := spelled.ends
    have junction := (List.isChain_append.mp apart).2.2 last (by simp) first (by simp) digit
    have noDigit := stops first rfl
    rcases begins with sign | sign | isDigit
    · exact junction.1 sign
    · exact junction.2 sign
    · rw [noDigit] at isDigit
      cases isDigit
  · exact .inr ⟨before, blanks, blankBefore, blank, by simp⟩

/-- **Elements that are read are a list of integers** when there is no white space but blanks
and no sign behind a digit. -/
theorem Elements.integerList (elements : Elements fits values text rest)
    (only : OnlyBlanks text) (apart : SignsApart text) :
    ∃ lead list, Blanks lead ∧ IntegerList fits values list ∧ text = lead ++ (list ++ rest) := by
  induction elements with
  | last element =>
    obtain ⟨lead, numeral, rfl, spaces, spelled, -, inside⟩ := element
    have leading : Blanks lead :=
      fun c member => (onlyBlanks_append.mp only).1 c member (spaces c member)
    exact ⟨lead, numeral, leading, .last spelled inside, rfl⟩
  | @more text separator next rest value values element separates others ih =>
    obtain ⟨lead, numeral, rfl, spaces, spelled, stops, inside⟩ := element
    have onlyParts := onlyBlanks_append.mp only
    have leading : Blanks lead := fun c member => onlyParts.1 c member (spaces c member)
    have apartNumeral : SignsApart (numeral ++ (separator ++ next)) :=
      List.IsChain.right_of_append apart
    obtain ⟨blanks, list, blank, integers, rfl⟩ := ih
      (onlyBlanks_append.mp (onlyBlanks_append.mp onlyParts.2).2).2
      (List.IsChain.right_of_append (List.IsChain.right_of_append apartNumeral))
    have gap := gap_of_separator spelled integers separates blank stops apartNumeral
    refine ⟨lead, _, leading, .more spelled inside gap integers, ?_⟩
    simp only [List.append_assoc]

/-- An accepted text without these two things is documented. -/
theorem Accepted.documented (accepted : Accepted fits values text) (only : OnlyBlanks text)
    (apart : SignsApart text) : Documented fits values text := by
  have nothing : Blanks [] := fun c none => absurd none List.not_mem_nil
  rcases accepted with elements | ⟨closing, behind, blank, lead, opening, inner, leading, bracket,
    rfl, elements⟩
  · obtain ⟨lead, list, leading, integers, rfl⟩ := elements.integerList only apart
    exact .plain leading integers nothing
  · have onlyInner : OnlyBlanks inner :=
      fun c member => only c (List.mem_append_right _ (List.mem_cons_of_mem _ member))
    have apartInner : SignsApart inner :=
      List.IsChain.tail (List.IsChain.right_of_append apart)
    obtain ⟨blanks, list, inside, integers, rfl⟩ := elements.integerList onlyInner apartInner
    exact .bracketed leading bracket inside integers blank nothing

/-- A digit stands in front of what is left behind elements. -/
theorem Elements.ends (elements : Elements fits values text rest) :
    ∃ front last, text = front ++ last :: rest ∧ last.isDigit = true := by
  induction elements with
  | last element =>
    obtain ⟨lead, numeral, rfl, -, spelled, -, -⟩ := element
    obtain ⟨front, last, rfl, digit⟩ := spelled.ends
    exact ⟨lead ++ front, last, by simp, digit⟩
  | @more _ separator next rest _ _ element separates others ih =>
    obtain ⟨lead, numeral, rfl, -⟩ := element
    obtain ⟨front, last, rfl, digit⟩ := ih
    exact ⟨lead ++ (numeral ++ (separator ++ front)), last, by simp, digit⟩

/-- An accepted text ends with a digit or a bracket. -/
theorem Accepted.not_endsWithBlank (accepted : Accepted fits values text) :
    ¬ EndsWithBlank text := by
  rintro ⟨shorter, same⟩
  rcases accepted with elements | ⟨closing, blanks, -, bracketed⟩
  · obtain ⟨front, last, rfl, digit⟩ := elements.ends
    obtain rfl : last = ' ' := by simpa using (List.append_inj' same rfl).2
    cases digit
  · have notBlank := bracketed.closing_not_blank
    obtain ⟨lead, opening, inner, -, -, rfl, elements⟩ := bracketed
    obtain ⟨front, last, rfl, -⟩ := elements.ends
    have regrouped : (lead ++ opening :: (front ++ last :: blanks)) ++ [closing] =
        shorter ++ [' '] := by
      rw [← same]
      simp
    obtain rfl : closing = ' ' := by simpa using (List.append_inj' regrouped rfl).2
    exact notBlank rfl

/-! ## Reading exactly the documented forms -/

/-- What the input operator of `Tuple<N,int>` is documented to do with a text: it does not
throw, and it uses up the text without setting the failbit exactly when the text is a
documented form, whose integers are then the elements. -/
structure ReadsDocumentedForms (size : ℕ) (text : Text) : Prop where
  returns : ∀ failure, readTuple size (convertInteger.fitting (fitsSigned 32))
    (InputStream.ofText text) ≠ .error failure
  accepts : ∀ values,
    (∃ after, readTuple size (convertInteger.fitting (fitsSigned 32))
        (InputStream.ofText text) = .ok (some values, after) ∧
      after.failbit = false ∧ after.after = []) ↔
    values.length = size ∧ Documented (fitsSigned 32) values text

/-- The operator throws on the texts for which the assertion fails. -/
theorem readTuple_throws_iff {size : ℕ} (positive : 1 ≤ size) :
    (∃ failure, readTuple size (convertInteger.fitting fits) (InputStream.ofText text) =
      .error failure) ↔ Asserted fits size text := by
  rw [← tupleOutcome_eq_thrown_iff positive]
  have ends := readTuple_ends (convertInteger_fitting_nil fits) size text
  rcases outcome : tupleOutcome size (convertInteger.fitting fits) text with _ | _ | ⟨values, rest⟩
  · rw [outcome] at ends
    exact iff_of_true ends rfl
  · rw [outcome] at ends
    obtain ⟨found, after, read, -⟩ := ends
    exact iff_of_false (fun ⟨_, thrown⟩ => by rw [read] at thrown; cases thrown) nofun
  · rw [outcome] at ends
    obtain ⟨before, read⟩ := ends
    exact iff_of_false (fun ⟨_, thrown⟩ => by rw [read] at thrown; cases thrown) nofun

/-- The operator uses up the accepted texts. -/
theorem readTuple_accepts_iff {size : ℕ} (positive : 1 ≤ size) :
    (∃ after, readTuple size (convertInteger.fitting fits) (InputStream.ofText text) =
        .ok (some values, after) ∧ after.failbit = false ∧ after.after = []) ↔
      values.length = size ∧ Accepted fits values text := by
  rw [← tupleOutcome_eq_ended_iff positive]
  have ends := readTuple_ends (convertInteger_fitting_nil fits) size text
  rcases outcome : tupleOutcome size (convertInteger.fitting fits) text with _ | _ | ⟨found, rest⟩
  · rw [outcome] at ends
    obtain ⟨failure, read⟩ := ends
    exact iff_of_false (fun ⟨_, same, _⟩ => by rw [read] at same; cases same) nofun
  · rw [outcome] at ends
    obtain ⟨found, after, read, failed⟩ := ends
    refine iff_of_false ?_ nofun
    rintro ⟨after', same, intact, -⟩
    rw [read] at same
    cases same
    rw [failed] at intact
    cases intact
  · rw [outcome] at ends
    obtain ⟨before, read⟩ := ends
    constructor
    · rintro ⟨after', same, -, used⟩
      rw [read] at same
      cases same
      rw [show rest = [] from used]
    · intro same
      cases same
      exact ⟨_, read, rfl, rfl⟩

/-- **The operator reads exactly the documented forms but for three kinds of texts**: those
on which the assertion fails, those with a documented form that ends with a blank, and the
accepted ones with other white space than blanks or a sign directly behind a digit. -/
theorem readsDocumentedForms_iff (size : ℕ) (positive : 1 ≤ size) (text : Text) :
    ReadsDocumentedForms size text ↔
      ¬ Asserted (fitsSigned 32) size text ∧
      (∀ values, values.length = size → Documented (fitsSigned 32) values text →
        ¬ EndsWithBlank text) ∧
      (∀ values, values.length = size → Accepted (fitsSigned 32) values text →
        OnlyBlanks text ∧ SignsApart text) := by
  constructor
  · intro reads
    refine ⟨?_, ?_, ?_⟩
    · intro asserted
      obtain ⟨failure, thrown⟩ := (readTuple_throws_iff positive).mpr asserted
      exact reads.returns failure thrown
    · intro values count documented
      have accepted := (readTuple_accepts_iff positive).mp
        ((reads.accepts values).mpr ⟨count, documented⟩)
      exact accepted.2.not_endsWithBlank
    · intro values count accepted
      have documented := (reads.accepts values).mp
        ((readTuple_accepts_iff positive).mpr ⟨count, accepted⟩)
      exact documented.2.regular
  · rintro ⟨notAsserted, noTrail, regular⟩
    refine ⟨fun failure thrown => notAsserted ?_, fun values => ?_⟩
    · exact (readTuple_throws_iff positive).mp ⟨failure, thrown⟩
    · rw [readTuple_accepts_iff positive]
      constructor
      · rintro ⟨count, accepted⟩
        obtain ⟨only, apart⟩ := regular values count accepted
        exact ⟨count, accepted.documented only apart⟩
      · rintro ⟨count, documented⟩
        exact ⟨count, documented.accepted (noTrail values count documented)⟩

/-- A form from the manual is none of these texts. -/
theorem readsDocumentedForms_manual :
    1 ≤ 3 ∧ ReadsDocumentedForms 3 "(100,100,50)".toList := by
  refine ⟨by decide, (readsDocumentedForms_iff 3 (by decide) _).mpr ⟨?_, ?_, ?_⟩⟩
  · rw [← tupleOutcome_eq_thrown_iff (by decide)]
    decide
  · rintro values - - ⟨front, ends⟩
    have last := congrArg List.getLast? ends
    rw [List.getLast?_concat] at last
    exact absurd last (by decide)
  · intro values _ _
    have noSpaces : "(100,100,50)".toList.all (fun c => !isSpace c) = true := by decide
    refine ⟨fun c member space => ?_, by unfold SignsApart; decide⟩
    exact absurd space (by simpa using List.all_eq_true.mp noSpaces c member)

/-- A fourth integer makes the assertion fail. -/
theorem not_readsDocumentedForms_fourth : ¬ ReadsDocumentedForms 3 "1 2 3 4".toList := by
  intro reads
  have ends := readTuple_ends (convertInteger_fitting_nil (fitsSigned 32)) 3 "1 2 3 4".toList
  rw [show tupleOutcome 3 (convertInteger.fitting (fitsSigned 32)) "1 2 3 4".toList = .thrown
    by decide] at ends
  obtain ⟨failure, thrown⟩ := ends
  exact reads.returns failure thrown

end TupleStream

end AthabascaRecon

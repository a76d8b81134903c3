import AthabascaRecon.Foundation.InputStream

/-!
# Pieces of a text

Trimming, splitting a text at separators, reading its lines, and the conversion of a whole
text to an integer. The lemmas say what happens to texts that were put together from parts
without separators.
-/

set_option autoImplicit false

namespace AthabascaRecon

/-! ## Trimming -/

/-- `boost::trim`. -/
def trim (text : Text) : Text :=
  ((text.dropWhile isSpace).reverse.dropWhile isSpace).reverse

theorem trim_cons_of_isSpace {c : Char} (space : isSpace c = true) (text : Text) :
    trim (c :: text) = trim text := by
  rw [trim, List.dropWhile_cons_of_pos space]
  rfl

/-- What trimming leaves is part of the text. -/
theorem mem_of_mem_trim {c : Char} {text : Text} (inside : c ∈ trim text) : c ∈ text := by
  unfold trim at inside
  rw [List.mem_reverse] at inside
  have kept := (List.dropWhile_sublist _).mem inside
  rw [List.mem_reverse] at kept
  exact (List.dropWhile_sublist _).mem kept

theorem dropWhile_isSpace_eq_self {text : Text} (first : ∀ c ∈ text.head?, isSpace c = false) :
    text.dropWhile isSpace = text := by
  cases text with
  | nil => rfl
  | cons c rest => exact List.dropWhile_cons_of_neg (by simp [first c rfl])

/-- There is nothing to trim with white space at neither end. -/
theorem trim_eq_self {text : Text} (first : ∀ c ∈ text.head?, isSpace c = false)
    (last : ∀ c ∈ text.getLast?, isSpace c = false) : trim text = text := by
  rw [trim, dropWhile_isSpace_eq_self first,
    dropWhile_isSpace_eq_self (by rwa [List.head?_reverse]), List.reverse_reverse]

/-- A text with white space at neither end. -/
structure Trimmed (text : Text) : Prop where
  first : ∀ c ∈ text.head?, isSpace c = false
  last : ∀ c ∈ text.getLast?, isSpace c = false

theorem Trimmed.trim_eq {text : Text} (trimmed : Trimmed text) : trim text = text :=
  trim_eq_self trimmed.first trimmed.last

theorem Trimmed.nil : Trimmed [] :=
  ⟨nofun, nofun⟩

/-- A text whose ends are two characters that are no white space. -/
theorem Trimmed.of_ends {first last : Char} (body : Text) (start : isSpace first = false)
    (stop : isSpace last = false) : Trimmed (first :: (body ++ [last])) := by
  constructor
  · intro c head
    cases head
    exact start
  · intro c ended
    rw [← List.cons_append, List.getLast?_concat] at ended
    cases ended
    exact stop

/-- Trimming cuts white space off both ends. -/
theorem exists_trim (text : Text) : ∃ lead trail, text = lead ++ (trim text ++ trail) ∧
    (∀ c ∈ lead, isSpace c = true) ∧ ∀ c ∈ trail, isSpace c = true := by
  refine ⟨text.takeWhile isSpace, ((text.dropWhile isSpace).reverse.takeWhile isSpace).reverse,
    ?_, fun c => List.mem_takeWhile_imp, fun c inside => ?_⟩
  · rw [trim, ← List.reverse_append, List.takeWhile_append_dropWhile, List.reverse_reverse,
      List.takeWhile_append_dropWhile]
  · exact List.mem_takeWhile_imp (List.mem_reverse.mp inside)

theorem trimmed_trim (text : Text) : Trimmed (trim text) := by
  constructor
  · intro c head
    obtain ⟨body, same⟩ := List.head?_eq_some_iff.mp head
    have start : (text.dropWhile isSpace).head? = some c := by
      rw [trim] at same
      rw [← List.reverse_reverse (text.dropWhile isSpace),
        ← List.takeWhile_append_dropWhile (p := isSpace) (l := (text.dropWhile isSpace).reverse),
        List.reverse_append, same]
      rfl
    have stopped := List.head?_dropWhile_not isSpace text
    rw [start] at stopped
    simpa using stopped
  · intro c ended
    rw [trim, List.getLast?_reverse] at ended
    have stopped := List.head?_dropWhile_not isSpace (text.dropWhile isSpace).reverse
    rw [ended] at stopped
    simpa using stopped

/-- White space at the end is trimmed, and nothing else. -/
theorem Trimmed.trim_append {text trail : Text} (trimmed : Trimmed text)
    (after : ∀ c ∈ trail, isSpace c = true) : trim (text ++ trail) = text := by
  cases text with
  | nil =>
    rw [trim, List.nil_append, List.dropWhile_eq_nil_iff.mpr after]
    rfl
  | cons c text =>
    have backwards : ∀ c ∈ trail.reverse, isSpace c = true :=
      fun c inside => after c (List.mem_reverse.mp inside)
    have first : ∀ c' ∈ (c :: text ++ trail).head?, isSpace c' = false := trimmed.first
    rw [trim, dropWhile_isSpace_eq_self first, List.reverse_append,
      List.dropWhile_append_of_pos backwards,
      dropWhile_isSpace_eq_self (by rw [List.head?_reverse]; exact trimmed.last),
      List.reverse_reverse]

/-- White space after a text without white space is trimmed. -/
theorem trim_append_singleton {text : Text} (plain : ∀ c ∈ text, isSpace c = false) {blank : Char}
    (space : isSpace blank = true) : trim (text ++ [blank]) = text := by
  have trimmed : Trimmed text :=
    ⟨fun c head => plain c (List.mem_of_mem_head? head),
      fun c ended => plain c (List.mem_of_mem_getLast? ended)⟩
  exact trimmed.trim_append (List.forall_mem_singleton.mpr space)

/-- Trimming keeps a first character that is no white space. -/
theorem head?_trim {c : Char} (plain : isSpace c = false) (text : Text) :
    (trim (c :: text)).head? = some c := by
  obtain ⟨lead, trail, same, before, after⟩ := exists_trim (c :: text)
  have blank : isSpace c ≠ true := by simp [plain]
  cases lead with
  | cons first lead =>
    obtain ⟨rfl, -⟩ := List.cons_eq_cons.mp same
    exact absurd (before c List.mem_cons_self) blank
  | nil =>
    cases kept : trim (c :: text) with
    | nil =>
      rw [kept, List.nil_append, List.nil_append] at same
      have inside : c ∈ trail := by
        rw [← same]
        exact List.mem_cons_self
      exact absurd (after c inside) blank
    | cons first body =>
      rw [kept] at same
      obtain ⟨rfl, -⟩ := List.cons_eq_cons.mp same
      rfl

/-! ## What stands before a character -/

section Stop

variable {stop : Char} {text rest : Text} {passes : Char → Bool}

theorem takeWhile_append_of_stops (inside : ∀ c ∈ text, passes c = true)
    (stops : ∀ c ∈ rest.head?, passes c = false) : (text ++ rest).takeWhile passes = text := by
  rw [List.takeWhile_append_of_pos inside]
  cases rest with
  | nil => rw [List.takeWhile_nil, List.append_nil]
  | cons c rest =>
    rw [List.takeWhile_cons_of_neg (by simp [stops c rfl]), List.append_nil]

theorem dropWhile_append_of_stops (inside : ∀ c ∈ text, passes c = true)
    (stops : ∀ c ∈ rest.head?, passes c = false) : (text ++ rest).dropWhile passes = rest := by
  rw [List.dropWhile_append_of_pos inside]
  cases rest with
  | nil => rfl
  | cons c rest => rw [List.dropWhile_cons_of_neg (by simp [stops c rfl])]

theorem forall_ne_of_not_mem (absent : stop ∉ text) : ∀ c ∈ text, decide (c ≠ stop) = true := by
  intro c member
  rw [decide_eq_true_eq]
  rintro rfl
  exact absent member

theorem takeWhile_ne_append_cons (absent : stop ∉ text) (rest : Text) :
    (text ++ stop :: rest).takeWhile (· ≠ stop) = text :=
  takeWhile_append_of_stops (forall_ne_of_not_mem absent) (by simp)

theorem dropWhile_ne_append_cons (absent : stop ∉ text) (rest : Text) :
    (text ++ stop :: rest).dropWhile (· ≠ stop) = stop :: rest :=
  dropWhile_append_of_stops (forall_ne_of_not_mem absent) (by simp)

/-- What stands before a character does not have it, also when it is trimmed. -/
theorem not_mem_trim_takeWhile_ne (stop : Char) (text : Text) :
    stop ∉ trim (text.takeWhile (· ≠ stop)) := by
  intro inside
  simpa using List.mem_takeWhile_imp (mem_of_mem_trim inside)

end Stop

/-! ## Splitting -/

/-- `split_arguments`: the pieces between separators that are not empty. -/
def splitArguments (separators : Text) (text : Text) : List Text :=
  (text.splitOnP separators.contains).filter fun piece => !piece.isEmpty

section Split

variable {separators : Text}

/-- A text without separators is one piece. -/
theorem splitArguments_eq_singleton {text : Text} (some : text ≠ [])
    (plain : ∀ c ∈ text, c ∉ separators) : splitArguments separators text = [text] := by
  unfold splitArguments
  rw [List.splitOnP_eq_singleton (fun c inside => by simpa using plain c inside)]
  simp [some]

/-- The piece in front of a separator. -/
theorem splitArguments_append_cons {piece : Text} (some : piece ≠ [])
    (plain : ∀ c ∈ piece, c ∉ separators) {c : Char} (separates : c ∈ separators)
    (rest : Text) :
    splitArguments separators (piece ++ c :: rest) = piece :: splitArguments separators rest := by
  unfold splitArguments
  rw [List.splitOnP_append_cons_of_forall_mem (fun c inside => by simpa using plain c inside) c
    (by simpa using separates), List.filter_cons_of_pos (by simpa using some)]

theorem not_of_mem_splitOnP {separates : Char → Bool} {text piece : Text}
    (member : piece ∈ text.splitOnP separates) : ∀ c ∈ piece, separates c = false := by
  induction text generalizing piece with
  | nil =>
    rw [List.splitOnP_nil, List.mem_singleton] at member
    rw [member]
    exact List.forall_mem_nil _
  | cons first rest ih =>
    rw [List.splitOnP_cons_eq_if_modifyHead] at member
    split_ifs at member with cut
    · rcases List.mem_cons.mp member with rfl | later
      · exact List.forall_mem_nil _
      · exact ih later
    · cases pieces : rest.splitOnP separates with
      | nil => exact absurd pieces (List.splitOnP_ne_nil separates rest)
      | cons head tail =>
        rw [pieces] at member ih
        rcases List.mem_cons.mp member with rfl | later
        · exact List.forall_mem_cons.mpr ⟨by simpa using cut, ih List.mem_cons_self⟩
        · exact ih (List.mem_cons_of_mem _ later)

/-- Pieces have no separators. -/
theorem not_mem_of_mem_splitArguments {text piece : Text}
    (member : piece ∈ splitArguments separators text) : ∀ c ∈ piece, c ∉ separators := by
  intro c inside
  have plain := not_of_mem_splitOnP (List.mem_filter.mp member).1 c inside
  simpa using plain

/-- Pieces that are separated are the pieces of the text. -/
theorem splitArguments_separated {c : Char} (separates : c ∈ separators) {piece : Text}
    {pieces : List Text} (some : ∀ part ∈ piece :: pieces, part ≠ [])
    (plain : ∀ part ∈ piece :: pieces, ∀ c ∈ part, c ∉ separators) :
    splitArguments separators (piece ++ pieces.flatMap fun part => c :: part) =
      piece :: pieces := by
  induction pieces generalizing piece with
  | nil =>
    rw [List.flatMap_nil, List.append_nil]
    exact splitArguments_eq_singleton (some _ List.mem_cons_self) (plain _ List.mem_cons_self)
  | cons next pieces ih =>
    rw [List.flatMap_cons, List.cons_append,
      splitArguments_append_cons (some _ List.mem_cons_self) (plain _ List.mem_cons_self) separates,
      ih (fun part member => some part (List.mem_cons_of_mem _ member))
        (fun part member => plain part (List.mem_cons_of_mem _ member))]

/-- A separator in front gives no piece. -/
theorem splitArguments_cons_of_mem {c : Char} (separates : c ∈ separators) (text : Text) :
    splitArguments separators (c :: text) = splitArguments separators text := by
  rw [splitArguments, List.splitOnP_cons_eq_if_modifyHead, if_pos (by simpa using separates),
    List.filter_cons_of_neg (by simp)]
  rfl

theorem splitArguments_append_of_separators {lead : Text} (separate : ∀ c ∈ lead, c ∈ separators)
    (text : Text) : splitArguments separators (lead ++ text) = splitArguments separators text := by
  induction lead with
  | nil => rfl
  | cons c lead ih =>
    obtain ⟨first, later⟩ := List.forall_mem_cons.mp separate
    rw [List.cons_append, splitArguments_cons_of_mem first, ih later]

/-- The first separator of a text, if it has one. -/
theorem plain_or_append_cons (separators text : Text) :
    (∀ c ∈ text, c ∉ separators) ∨ ∃ body c rest, text = body ++ c :: rest ∧
      (∀ c ∈ body, c ∉ separators) ∧ c ∈ separators := by
  induction text with
  | nil => exact .inl (List.forall_mem_nil _)
  | cons c text ih =>
    by_cases separates : c ∈ separators
    · exact .inr ⟨[], c, text, rfl, List.forall_mem_nil _, separates⟩
    · rcases ih with plain | ⟨body, next, rest, rfl, plain, follows⟩
      · exact .inl (List.forall_mem_cons.mpr ⟨separates, plain⟩)
      · exact .inr ⟨c :: body, next, rest, rfl, List.forall_mem_cons.mpr ⟨separates, plain⟩,
          follows⟩

/-- What the first piece of a text is, if it has one. -/
theorem splitArguments_cases (separators text : Text) :
    ((∀ c ∈ text, c ∈ separators) ∧ splitArguments separators text = []) ∨
    ∃ before piece rest, text = before ++ (piece ++ rest) ∧ (∀ c ∈ before, c ∈ separators) ∧
      piece ≠ [] ∧ (∀ c ∈ piece, c ∉ separators) ∧ (∀ c ∈ rest.head?, c ∈ separators) ∧
      splitArguments separators text = piece :: splitArguments separators rest := by
  induction text with
  | nil => exact .inl ⟨List.forall_mem_nil _, rfl⟩
  | cons c text ih =>
    by_cases separates : c ∈ separators
    · rw [splitArguments_cons_of_mem separates]
      rcases ih with ⟨only, none⟩ | ⟨before, piece, rest, rfl, leads, piece_found⟩
      · exact .inl ⟨List.forall_mem_cons.mpr ⟨separates, only⟩, none⟩
      · exact .inr ⟨c :: before, piece, rest, rfl, List.forall_mem_cons.mpr ⟨separates, leads⟩,
          piece_found⟩
    · right
      rcases plain_or_append_cons separators (c :: text) with
        plain | ⟨body, next, rest, whole, plain, follows⟩
      · refine ⟨[], c :: text, [], (List.append_nil _).symm, List.forall_mem_nil _,
          List.cons_ne_nil _ _, plain, nofun, ?_⟩
        exact splitArguments_eq_singleton (List.cons_ne_nil _ _) plain
      · have some_text : body ≠ [] := by
          rintro rfl
          obtain ⟨rfl, -⟩ := List.cons_eq_cons.mp whole
          exact separates follows
        refine ⟨[], body, next :: rest, whole, List.forall_mem_nil _, some_text, plain,
          by simpa using follows, ?_⟩
        rw [whole, splitArguments_append_cons some_text plain follows,
          splitArguments_cons_of_mem follows]

/-- A text of two pieces without separators, between and around which only separators stand. -/
structure TwoPieces (separators text first second : Text) : Prop where
  first_ne_nil : first ≠ []
  second_ne_nil : second ≠ []
  first_plain : ∀ c ∈ first, c ∉ separators
  second_plain : ∀ c ∈ second, c ∉ separators
  whole : ∃ before between after, between ≠ [] ∧
    (∀ c ∈ before ++ between ++ after, c ∈ separators) ∧
    text = before ++ (first ++ (between ++ (second ++ after)))

theorem splitArguments_of_separators {text : Text} (separate : ∀ c ∈ text, c ∈ separators) :
    splitArguments separators text = [] := by
  rw [← List.append_nil text, splitArguments_append_of_separators separate]
  rfl

/-- A piece with only separators after it. -/
theorem splitArguments_append_separators {piece after : Text} (some_text : piece ≠ [])
    (plain : ∀ c ∈ piece, c ∉ separators) (separate : ∀ c ∈ after, c ∈ separators) :
    splitArguments separators (piece ++ after) = [piece] := by
  cases after with
  | nil =>
    rw [List.append_nil]
    exact splitArguments_eq_singleton some_text plain
  | cons c after =>
    obtain ⟨first, later⟩ := List.forall_mem_cons.mp separate
    rw [splitArguments_append_cons some_text plain first, splitArguments_of_separators later]

/-- **A text is split into two pieces if and only if it consists of them.** -/
theorem splitArguments_eq_pair_iff {text first second : Text} :
    splitArguments separators text = [first, second] ↔
      TwoPieces separators text first second := by
  constructor
  · intro split
    rcases splitArguments_cases separators text with
      ⟨-, none⟩ | ⟨before, piece, rest, whole, leads, some_text, plain, follows, pieces⟩
    · rw [none] at split
      cases split
    obtain ⟨rfl, later⟩ := List.cons_eq_cons.mp (pieces.symm.trans split)
    rcases splitArguments_cases separators rest with
      ⟨-, none⟩ | ⟨between, last, after, rfl, separate, some_last, last_plain, -, last_pieces⟩
    · rw [none] at later
      cases later
    obtain ⟨rfl, ended⟩ := List.cons_eq_cons.mp (last_pieces.symm.trans later)
    have trail : ∀ c ∈ after, c ∈ separators := by
      rcases splitArguments_cases separators after with ⟨only, -⟩ | ⟨_, _, _, -, -, -, -, -, more⟩
      · exact only
      · rw [more] at ended
        cases ended
    have apart : between ≠ [] := by
      rintro rfl
      rw [List.nil_append, List.head?_append, List.head?_eq_some_head some_last,
        Option.some_or] at follows
      exact last_plain _ (List.head_mem some_last) (follows _ rfl)
    refine ⟨some_text, some_last, plain, last_plain, before, between, after, apart, ?_, whole⟩
    intro c inside
    rcases List.mem_append.mp inside with inside | inside
    · rcases List.mem_append.mp inside with inside | inside
      · exact leads c inside
      · exact separate c inside
    · exact trail c inside
  · intro pieces
    obtain ⟨before, between, after, apart, separate, rfl⟩ := pieces.whole
    rw [List.forall_mem_append, List.forall_mem_append] at separate
    obtain ⟨⟨leads, separate⟩, trail⟩ := separate
    obtain ⟨c, between, rfl⟩ := List.exists_cons_of_ne_nil apart
    obtain ⟨follows, separate⟩ := List.forall_mem_cons.mp separate
    rw [splitArguments_append_of_separators leads, List.cons_append,
      splitArguments_append_cons pieces.first_ne_nil pieces.first_plain follows,
      splitArguments_append_of_separators separate,
      splitArguments_append_separators pieces.second_ne_nil pieces.second_plain trail]

end Split

/-! ## Lines -/

/-- `getline`: the characters before a newline, whether the end was reached instead of one,
and the text that is left. -/
def getLine (text : Text) : Text × Bool × Text :=
  match text.dropWhile (· ≠ '\n') with
  | [] => (text, true, [])
  | _ :: rest => (text.takeWhile (· ≠ '\n'), false, rest)

theorem getLine_append_cons {line : Text} (whole : '\n' ∉ line) (rest : Text) :
    getLine (line ++ '\n' :: rest) = (line, false, rest) := by
  unfold getLine
  rw [dropWhile_ne_append_cons whole, takeWhile_ne_append_cons whole]

theorem getLine_of_not_mem {text : Text} (whole : '\n' ∉ text) :
    getLine text = (text, true, []) := by
  unfold getLine
  rw [List.dropWhile_eq_nil_iff.mpr (forall_ne_of_not_mem whole)]

/-- The lines of a text that are ended by a newline. -/
def endedLines (text : Text) : List Text :=
  (text.splitOn '\n').dropLast

/-- What stands after the last newline of a text. -/
def openLine (text : Text) : Text :=
  (text.splitOn '\n').getLastD []

/-- The lines of a text. The last one need not be ended by a newline. -/
def textLines (text : Text) : List Text :=
  if openLine text = [] then endedLines text else endedLines text ++ [openLine text]

section Lines

variable {line text : Text}

theorem endedLines_of_not_mem (whole : '\n' ∉ text) : endedLines text = [] := by
  rw [endedLines, List.splitOn_eq_singleton whole]
  rfl

theorem openLine_of_not_mem (whole : '\n' ∉ text) : openLine text = text := by
  rw [openLine, List.splitOn_eq_singleton whole]
  rfl

theorem splitOn_append_cons (whole : '\n' ∉ line) (rest : Text) :
    (line ++ '\n' :: rest).splitOn '\n' = line :: rest.splitOn '\n' := by
  rw [List.splitOn_append_cons_of_beq _ _ (by simp), List.splitOn_eq_singleton whole]
  rfl

theorem endedLines_append_cons (whole : '\n' ∉ line) (rest : Text) :
    endedLines (line ++ '\n' :: rest) = line :: endedLines rest := by
  rw [endedLines, splitOn_append_cons whole, List.dropLast_cons_of_ne_nil (List.splitOn_ne_nil _ _)]
  rfl

theorem openLine_append_cons (whole : '\n' ∉ line) (rest : Text) :
    openLine (line ++ '\n' :: rest) = openLine rest := by
  rw [openLine, splitOn_append_cons whole]
  cases lines : rest.splitOn '\n' with
  | nil => exact absurd lines (List.splitOn_ne_nil _ _)
  | cons first lines =>
    rw [openLine, lines]
    rfl

/-- A text is what stands after the last newline, or a line in front of a text. -/
@[elab_as_elim]
theorem lines_induction {motive : Text → Prop}
    (last : ∀ text, '\n' ∉ text → motive text)
    (line : ∀ line rest, '\n' ∉ line → motive rest → motive (line ++ '\n' :: rest))
    (text : Text) : motive text := by
  induction size : text.length using Nat.strong_induction_on generalizing text with
  | _ size ih =>
    by_cases broken : '\n' ∈ text
    · obtain ⟨front, rest, rfl, whole⟩ := List.eq_append_cons_of_mem broken
      apply line front rest whole
      apply ih rest.length _ rest rfl
      rw [← size, List.length_append, List.length_cons]
      omega
    · exact last text broken

/-- A newline at the end ends the last line. -/
theorem endedLines_append_newline (text : Text) :
    endedLines (text ++ ['\n']) = endedLines text ++ [openLine text] := by
  induction text using lines_induction with
  | last text whole =>
    rw [endedLines_append_cons whole, endedLines_of_not_mem whole, openLine_of_not_mem whole]
    rfl
  | line line rest whole ih =>
    rw [List.append_assoc, List.cons_append, endedLines_append_cons whole, ih,
      endedLines_append_cons whole, openLine_append_cons whole]
    rfl

end Lines

/-! ## Integers -/

/-- A number that a signed type has is not changed by the conversion to it. -/
theorem toSigned_of_fitsSigned {bits : ℕ} {number : ℤ}
    (fits : fitsSigned (bits + 1) number = true) : toSigned (bits + 1) number = number := by
  rw [fitsSigned, decide_eq_true_eq, Nat.add_sub_cancel] at fits
  have double : (2 : ℤ) ^ (bits + 1) = 2 * 2 ^ bits := pow_succ' 2 bits
  unfold toSigned
  apply Int.bmod_eq_of_le
  · push_cast
    omega
  · push_cast
    omega

/-- `boost::lexical_cast`, to an integer type: it has to use the whole text. -/
def lexicalCast (bits : ℕ) (text : Text) : Option ℤ :=
  match convertInteger.fitting (fitsSigned bits) text with
  | (some value, []) => some value
  | _ => none

theorem not_isSpace_of_isDigit {c : Char} (digit : c.isDigit = true) : isSpace c = false := by
  have large : 48 ≤ c.toNat := (Char.isDigit_iff_toNat.mp digit).1
  have other : c.toNat ∉ [9, 10, 11, 12, 13, 32] := by
    simp only [List.mem_cons, List.not_mem_nil, or_false]
    omega
  simpa [isSpace] using other

theorem isDigit_of_mem_showInteger {number : ℤ} {c : Char} (member : c ∈ showInteger number) :
    c = '-' ∨ c.isDigit = true := by
  unfold showInteger at member
  split_ifs at member
  · rcases List.mem_cons.mp member with sign | digit
    · exact .inl sign
    · exact .inr (Nat.isDigit_of_mem_toDigits (by decide) (by decide) digit)
  · exact .inr (Nat.isDigit_of_mem_toDigits (by decide) (by decide) member)

theorem showInteger_ne_nil (number : ℤ) : showInteger number ≠ [] := by
  unfold showInteger
  split_ifs
  · exact List.cons_ne_nil _ _
  · exact Nat.toDigits_ne_nil

theorem ofDigits_toDigits (number : ℕ) : ofDigits (Nat.toDigits 10 number) = number :=
  Nat.ofDigitChars_ten_toDigits

theorem convertInteger_showInteger (number : ℤ) :
    convertInteger (showInteger number) = (some number, []) := by
  have digits : ∀ c ∈ Nat.toDigits 10 number.natAbs, c.isDigit = true :=
    fun c member => Nat.isDigit_of_mem_toDigits (by decide) (by decide) member
  have some_digits : (Nat.toDigits 10 number.natAbs).isEmpty = false := by simp
  have signed : convertSign (showInteger number) =
      (decide (number < 0), Nat.toDigits 10 number.natAbs) := by
    unfold showInteger
    split_ifs with negative
    · simp [convertSign, negative]
    · cases written : Nat.toDigits 10 number.natAbs with
      | nil => exact absurd written Nat.toDigits_ne_nil
      | cons c rest =>
        have digit := digits c (by rw [written]; exact List.mem_cons_self)
        rw [convertSign, if_neg (by rintro rfl; cases digit), if_neg (by rintro rfl; cases digit)]
        simp [negative]
  unfold convertInteger
  rw [signed]
  simp only [List.takeWhile_eq_self_iff.mpr digits, List.dropWhile_eq_nil_iff.mpr digits,
    some_digits, ofDigits_toDigits, decide_eq_true_eq, Bool.false_eq_true, if_false]
  split_ifs with negative
  · rw [Int.ofNat_natAbs_of_nonpos negative.le, neg_neg]
  · rw [Int.natAbs_of_nonneg (by omega)]

/-- An integer is read as it was written. -/
theorem lexicalCast_showInteger {bits : ℕ} {number : ℤ} (fits : fitsSigned bits number = true) :
    lexicalCast bits (showInteger number) = some number := by
  unfold lexicalCast Conversion.fitting
  rw [convertInteger_showInteger, Option.filter_some, if_pos fits]

end AthabascaRecon

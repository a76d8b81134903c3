import AthabascaRecon.IO.MetaImageReader
import Mathlib.Data.List.Induction

/-!
# Parsing a header

`ParseMeta` ends when no empty line comes before the first line that is no entry
(`parsesTo_iff_emptyLinesFollowError`). Without empty lines it gives the map of the lines that
a newline ends, so that the last line has to be ended by one
(`parsesAsDocumented_iff`).
-/

set_option autoImplicit false

namespace AthabascaRecon

/-! ## The loop over the lines -/

/-- More fuel does not change what the loop gives. -/
theorem parseLines_mono {fuel more : ℕ} {state : Text × Bool × Text} {entries : Meta}
    {outcome : Except MetaImageError Meta} (enough : fuel ≤ more)
    (parsed : parseLines fuel state entries = some outcome) :
    parseLines more state entries = some outcome := by
  induction fuel generalizing more state entries with
  | zero =>
    obtain ⟨line, ended, rest⟩ := state
    cases ended with
    | true =>
      cases parsed
      cases more with
      | zero => rfl
      | succ more => rfl
    | false => cases parsed
  | succ fuel ih =>
    obtain ⟨line, ended, rest⟩ := state
    obtain ⟨more, rfl⟩ := Nat.exists_eq_succ_of_ne_zero (by omega : more ≠ 0)
    cases ended with
    | true => exact parsed
    | false =>
      rw [parseLines] at parsed ⊢
      split_ifs at parsed ⊢ with empty
      · exact ih (by omega) parsed
      · cases line_parsed : parseLine entries line with
        | error error =>
          rw [line_parsed] at parsed
          exact parsed
        | ok entries =>
          rw [line_parsed] at parsed
          exact ih (by omega) parsed

/-- What the loop gives does not depend on the fuel. -/
theorem parseLines_unique {fuel other : ℕ} {state : Text × Bool × Text} {entries : Meta}
    {outcome found : Except MetaImageError Meta}
    (parsed : parseLines fuel state entries = some outcome)
    (again : parseLines other state entries = some found) : outcome = found := by
  rcases Nat.le_total fuel other with fewer | more
  · rw [parseLines_mono fewer parsed] at again
    exact Option.some.inj again
  · rw [parseLines_mono more again] at parsed
    exact (Option.some.inj parsed).symm

/-- Lines that are not empty are parsed one after the other. -/
theorem parseLines_lines {lines : List Text}
    (whole : ∀ line ∈ lines, line ≠ [] ∧ '\n' ∉ line) (entries : Meta) :
    parseLines lines.length (getLine (lines.flatMap fun line => line ++ ['\n'])) entries =
      some (lines.foldlM parseLine entries) := by
  induction lines generalizing entries with
  | nil => rfl
  | cons line lines ih =>
    obtain ⟨⟨some_text, whole⟩, later⟩ := List.forall_mem_cons.mp whole
    rw [List.flatMap_cons, List.append_assoc, List.singleton_append, getLine_append_cons whole,
      List.length_cons, parseLines, if_neg (by simpa using some_text), List.foldlM_cons]
    cases parseLine entries line with
    | error error => rfl
    | ok entries => exact ih later entries

/-- `ParseMeta` ends after finitely many steps, with an outcome. -/
def ParsesTo (text : Text) (outcome : Except MetaImageError Meta) : Prop :=
  ∃ fuel, parseMeta fuel text = some outcome

/-- The loop ends from a state in which the next line has just been read. -/
def LoopEnds (text : Text) (entries : Meta) (outcome : Except MetaImageError Meta) : Prop :=
  ∃ fuel, parseLines fuel (getLine text) entries = some outcome

section Loop

variable {line rest text : Text} {entries : Meta} {outcome found : Except MetaImageError Meta}

theorem ParsesTo.unique (parsed : ParsesTo text outcome) (again : ParsesTo text found) :
    outcome = found := by
  obtain ⟨fuel, parsed⟩ := parsed
  obtain ⟨other, again⟩ := again
  exact parseLines_unique parsed again

/-- What no newline ends is not parsed. -/
theorem loopEnds_last_iff (whole : '\n' ∉ text) :
    LoopEnds text entries outcome ↔ outcome = .ok entries := by
  have ended (fuel : ℕ) : parseLines fuel (getLine text) entries = some (.ok entries) := by
    rw [getLine_of_not_mem whole]
    cases fuel with
    | zero => rfl
    | succ fuel => rfl
  constructor
  · rintro ⟨fuel, parsed⟩
    rw [ended] at parsed
    exact (Option.some.inj parsed).symm
  · rintro rfl
    exact ⟨0, ended 0⟩

/-- The loop stays at an empty line. -/
theorem not_loopEnds_empty : ¬ LoopEnds ('\n' :: rest) entries outcome := by
  rintro ⟨fuel, parsed⟩
  have read : getLine ('\n' :: rest) = ([], false, rest) :=
    @getLine_append_cons [] List.not_mem_nil rest
  rw [read] at parsed
  induction fuel with
  | zero => cases parsed
  | succ fuel ih => exact ih parsed

/-- A line that is not empty ends the loop if it is no entry. -/
theorem loopEnds_iff_of_error {error : MetaImageError} (some_text : line ≠ [])
    (whole : '\n' ∉ line) (read : parseLine entries line = .error error) :
    LoopEnds (line ++ '\n' :: rest) entries outcome ↔ outcome = .error error := by
  have step (fuel : ℕ) : parseLines (fuel + 1) (getLine (line ++ '\n' :: rest)) entries =
      some (.error error) := by
    rw [getLine_append_cons whole, parseLines, if_neg (by simpa using some_text), read]
  constructor
  · rintro ⟨fuel, parsed⟩
    have more := parseLines_mono (Nat.le_succ fuel) parsed
    rw [step] at more
    exact (Option.some.inj more).symm
  · rintro rfl
    exact ⟨1, step 0⟩

/-- After an entry, the next line is read. -/
theorem loopEnds_iff_of_ok {next : Meta} (some_text : line ≠ []) (whole : '\n' ∉ line)
    (read : parseLine entries line = .ok next) :
    LoopEnds (line ++ '\n' :: rest) entries outcome ↔ LoopEnds rest next outcome := by
  have step (fuel : ℕ) : parseLines (fuel + 1) (getLine (line ++ '\n' :: rest)) entries =
      parseLines fuel (getLine rest) next := by
    rw [getLine_append_cons whole, parseLines, if_neg (by simpa using some_text), read]
  constructor
  · rintro ⟨fuel, parsed⟩
    have more := parseLines_mono (Nat.le_succ fuel) parsed
    rw [step] at more
    exact ⟨fuel, more⟩
  · rintro ⟨fuel, parsed⟩
    refine ⟨fuel + 1, ?_⟩
    rw [step]
    exact parsed

/-- Without empty lines, the lines that newlines end are parsed one after the other. -/
theorem loopEnds_iff_of_filled (filled : ∀ line ∈ endedLines text, line ≠ []) :
    LoopEnds text entries outcome ↔ outcome = (endedLines text).foldlM parseLine entries := by
  induction text using lines_induction generalizing entries with
  | last text whole =>
    rw [loopEnds_last_iff whole, endedLines_of_not_mem whole]
    rfl
  | line line rest whole ih =>
    rw [endedLines_append_cons whole, List.forall_mem_cons] at filled
    rw [endedLines_append_cons whole, List.foldlM_cons]
    cases read : parseLine entries line with
    | error error => exact loopEnds_iff_of_error filled.1 whole read
    | ok next => exact (loopEnds_iff_of_ok filled.1 whole read).trans (ih filled.2)

end Loop

/-! ## Entries -/

/-- A line that gives a tag a value: it consists of exactly two pieces without equals signs,
which are trimmed. -/
def Assigns (line : Text) (tag value : String) : Prop :=
  ∃ first second, TwoPieces ['='] line first second ∧
    String.ofList (trim first) = tag ∧ String.ofList (trim second) = value

/-- A line that consists of exactly two pieces without equals signs. -/
def IsEntry (line : Text) : Prop :=
  ∃ first second, TwoPieces ['='] line first second

theorem isEntry_iff_exists_assigns {line : Text} :
    IsEntry line ↔ ∃ tag value, Assigns line tag value := by
  constructor
  · rintro ⟨first, second, pieces⟩
    exact ⟨_, _, first, second, pieces, rfl, rfl⟩
  · rintro ⟨tag, value, first, second, pieces, -, -⟩
    exact ⟨first, second, pieces⟩

section Lines

variable {line : Text} {tag value other : String}

theorem Assigns.unique {otherTag : String} (assigns : Assigns line tag value)
    (again : Assigns line otherTag other) : tag = otherTag ∧ value = other := by
  obtain ⟨first, second, pieces, rfl, rfl⟩ := assigns
  obtain ⟨head, last, others, rfl, rfl⟩ := again
  have same := (splitArguments_eq_pair_iff.mpr pieces).symm.trans
    (splitArguments_eq_pair_iff.mpr others)
  cases same
  exact ⟨rfl, rfl⟩

theorem parseLine_of_assigns (assigns : Assigns line tag value) (entries : Meta) :
    parseLine entries line = .ok (Function.update entries tag (some value)) := by
  obtain ⟨first, second, pieces, rfl, rfl⟩ := assigns
  rw [parseLine, splitArguments_eq_pair_iff.mpr pieces]

theorem parseLine_of_not_isEntry (malformed : ¬ IsEntry line) (entries : Meta) :
    parseLine entries line = .error (.message "Error parsing meta data.") := by
  unfold parseLine
  split
  next first second pieces =>
    exact absurd ⟨first, second, splitArguments_eq_pair_iff.mp pieces⟩ malformed
  next => rfl

end Lines

/-! ## Termination -/

/-- Every empty line comes after a line that is no entry. -/
def EmptyLinesFollowError (lines : List Text) : Prop :=
  ∀ before after, lines = before ++ [] :: after → ∃ line ∈ before, ¬ IsEntry line

theorem emptyLinesFollowError_nil : EmptyLinesFollowError [] := by
  intro before after split
  exact absurd split.symm (by simp)

theorem not_emptyLinesFollowError_empty (lines : List Text) :
    ¬ EmptyLinesFollowError ([] :: lines) := by
  intro follow
  obtain ⟨line, member, -⟩ := follow [] lines rfl
  cases member

/-- Nothing is asked after a line that is no entry, and everything after one that is. -/
theorem emptyLinesFollowError_cons_iff {line : Text} (some_text : line ≠ [])
    (lines : List Text) :
    EmptyLinesFollowError (line :: lines) ↔ (IsEntry line → EmptyLinesFollowError lines) := by
  constructor
  · intro follow entry before after split
    obtain ⟨found, member, malformed⟩ := follow (line :: before) after (by rw [split]; rfl)
    rcases List.mem_cons.mp member with rfl | member
    · exact absurd entry malformed
    · exact ⟨found, member, malformed⟩
  · intro follow before after split
    cases before with
    | nil => exact absurd (List.cons_eq_cons.mp split).1 some_text
    | cons first before =>
      obtain ⟨rfl, later⟩ := List.cons_eq_cons.mp split
      by_cases entry : IsEntry line
      · obtain ⟨found, member, malformed⟩ := follow entry before after later
        exact ⟨found, List.mem_cons_of_mem _ member, malformed⟩
      · exact ⟨line, List.mem_cons_self, entry⟩

theorem loopEnds_iff_emptyLinesFollowError (text : Text) (entries : Meta) :
    (∃ outcome, LoopEnds text entries outcome) ↔ EmptyLinesFollowError (endedLines text) := by
  induction text using lines_induction generalizing entries with
  | last text whole =>
    rw [endedLines_of_not_mem whole]
    exact iff_of_true ⟨_, (loopEnds_last_iff whole).mpr rfl⟩ emptyLinesFollowError_nil
  | line line rest whole ih =>
    rw [endedLines_append_cons whole]
    by_cases empty : line = []
    · subst empty
      exact iff_of_false (fun ⟨_, ends⟩ => not_loopEnds_empty ends)
        (not_emptyLinesFollowError_empty _)
    · rw [emptyLinesFollowError_cons_iff empty]
      by_cases entry : IsEntry line
      · obtain ⟨tag, value, assigns⟩ := isEntry_iff_exists_assigns.mp entry
        have next (outcome : Except MetaImageError Meta) :
            LoopEnds (line ++ '\n' :: rest) entries outcome ↔
              LoopEnds rest (Function.update entries tag (some value)) outcome :=
          loopEnds_iff_of_ok empty whole (parseLine_of_assigns assigns entries)
        simp only [next, ih, entry, forall_const]
      · have stops : LoopEnds (line ++ '\n' :: rest) entries
            (.error (.message "Error parsing meta data.")) :=
          (loopEnds_iff_of_error empty whole (parseLine_of_not_isEntry entry entries)).mpr rfl
        exact iff_of_true ⟨_, stops⟩ fun known => absurd known entry

/-- **`ParseMeta` ends on a text if and only if no empty line that a newline ends comes before
the first line that is no entry.** -/
theorem parsesTo_iff_emptyLinesFollowError (text : Text) :
    (∃ outcome, ParsesTo text outcome) ↔ EmptyLinesFollowError (endedLines text) :=
  loopEnds_iff_emptyLinesFollowError text fun _ => none

/-- A header with an empty line after its first line is read for ever. -/
theorem not_parsesTo_empty_line :
    ¬ ∀ text, ∃ outcome, ParsesTo text outcome := by
  intro every
  obtain ⟨outcome, ends⟩ := every "ObjectType = Image\n\nNDims = 3\n".toList
  have first : LoopEnds ("ObjectType = Image".toList ++ '\n' :: "\nNDims = 3\n".toList)
      (fun _ => none) outcome := ends
  rw [loopEnds_iff_of_ok (by decide) (by decide) rfl] at first
  exact not_loopEnds_empty first

/-! ## The documented map -/

/-- The last line that gives the tag a value gives it this one. -/
def LastValue (lines : List Text) (tag value : String) : Prop :=
  ∃ before line after, lines = before ++ line :: after ∧ Assigns line tag value ∧
    ∀ later ∈ after, ∀ other, ¬ Assigns later tag other

/-- What lines should be parsed to: an error if one of them is no entry, and otherwise the map
that sends each tag to the value in the last line with the tag. -/
structure Documented (lines : List Text) (outcome : Except MetaImageError Meta) : Prop where
  throws : (∃ error, outcome = .error error) ↔ ∃ line ∈ lines, ¬ IsEntry line
  entries : ∀ found, outcome = .ok found →
    ∀ tag value, found tag = some value ↔ LastValue lines tag value

/-- A text is parsed to what its lines should be parsed to, and the same text with a newline
at its end is parsed to the same. -/
def ParsesAsDocumented (text : Text) : Prop :=
  ∃ outcome, ParsesTo text outcome ∧ Documented (textLines text) outcome ∧
    (openLine text ≠ [] → ParsesTo (text ++ ['\n']) outcome)

section Documented

variable {lines : List Text} {line text : Text} {tag value : String}

theorem not_lastValue_nil : ¬ LastValue [] tag value := by
  rintro ⟨before, line, after, split, -⟩
  exact absurd split.symm (by simp)

/-- The last line gives its tag a value, and the other tags have the values that they had. -/
theorem lastValue_append_singleton_iff :
    LastValue (lines ++ [line]) tag value ↔
      Assigns line tag value ∨ (∀ other, ¬ Assigns line tag other) ∧ LastValue lines tag value := by
  constructor
  · rintro ⟨before, found, after, split, assigns, none⟩
    rcases List.eq_nil_or_concat after with rfl | ⟨after, last, rfl⟩
    · obtain ⟨rfl, same⟩ := List.append_inj' split rfl
      cases same
      exact .inl assigns
    · rw [List.concat_eq_append, ← List.cons_append, ← List.append_assoc] at split
      obtain ⟨rfl, same⟩ := List.append_inj' split rfl
      cases same
      rw [List.concat_eq_append, List.forall_mem_append] at none
      exact .inr ⟨none.2 _ (List.mem_singleton_self _), before, found, after, rfl, assigns, none.1⟩
  · rintro (assigns | ⟨none, before, found, after, rfl, assigns, later⟩)
    · exact ⟨lines, line, [], rfl, assigns, List.forall_mem_nil _⟩
    · refine ⟨before, found, after ++ [line], by simp, assigns, ?_⟩
      exact List.forall_mem_append.mpr ⟨later, by simpa using none⟩

theorem foldlM_parseLine_append_singleton {entries found : Meta}
    (parsed : lines.foldlM parseLine entries = .ok found) (assigns : Assigns line tag value) :
    (lines ++ [line]).foldlM parseLine entries =
      .ok (Function.update found tag (some value)) := by
  rw [List.foldlM_append, parsed]
  show [line].foldlM parseLine found = _
  rw [List.foldlM_cons, parseLine_of_assigns assigns]
  rfl

/-- Entries are parsed to their map. -/
theorem foldlM_parseLine_of_isEntry (every : ∀ line ∈ lines, IsEntry line) :
    ∃ found, lines.foldlM parseLine (fun _ => none) = .ok found ∧
      ∀ tag value, found tag = some value ↔ LastValue lines tag value := by
  induction lines using List.reverseRecOn with
  | nil => exact ⟨_, rfl, fun _ _ => iff_of_false nofun not_lastValue_nil⟩
  | append_singleton lines line ih =>
    obtain ⟨earlier, last⟩ := List.forall_mem_append.mp every
    obtain ⟨found, parsed, values⟩ := ih earlier
    obtain ⟨tag, value, assigns⟩ :=
      isEntry_iff_exists_assigns.mp (last line (List.mem_singleton_self _))
    refine ⟨_, foldlM_parseLine_append_singleton parsed assigns, ?_⟩
    intro other wanted
    rw [lastValue_append_singleton_iff, ← values]
    by_cases same : other = tag
    · subst same
      rw [Function.update_self, Option.some_inj]
      constructor
      · rintro rfl
        exact .inl assigns
      · rintro (again | ⟨none, -⟩)
        · exact (assigns.unique again).2
        · exact absurd assigns (none value)
    · rw [Function.update_of_ne same]
      have none : ∀ wanted, ¬ Assigns line other wanted :=
        fun wanted again => same (again.unique assigns).1
      exact ⟨fun kept => .inr ⟨none, kept⟩, fun given => (given.resolve_left (none wanted)).2⟩

/-- The first line that is no entry ends the parsing. -/
theorem foldlM_parseLine_of_not_isEntry (malformed : ∃ line ∈ lines, ¬ IsEntry line)
    (entries : Meta) :
    lines.foldlM parseLine entries = .error (.message "Error parsing meta data.") := by
  induction lines generalizing entries with
  | nil =>
    obtain ⟨line, member, -⟩ := malformed
    cases member
  | cons first lines ih =>
    rw [List.foldlM_cons]
    by_cases entry : IsEntry first
    · obtain ⟨tag, value, assigns⟩ := isEntry_iff_exists_assigns.mp entry
      obtain ⟨line, member, malformed⟩ := malformed
      rw [parseLine_of_assigns assigns]
      apply ih
      rcases List.mem_cons.mp member with rfl | member
      · exact absurd entry malformed
      · exact ⟨line, member, malformed⟩
    · rw [parseLine_of_not_isEntry entry]
      rfl

/-- Line by line, lines are parsed to what they should be parsed to. -/
theorem documented_foldlM (lines : List Text) :
    Documented lines (lines.foldlM parseLine fun _ => none) := by
  by_cases malformed : ∃ line ∈ lines, ¬ IsEntry line
  · rw [foldlM_parseLine_of_not_isEntry malformed]
    exact ⟨iff_of_true ⟨_, rfl⟩ malformed, nofun⟩
  · have every : ∀ line ∈ lines, IsEntry line := by simpa using malformed
    obtain ⟨found, parsed, values⟩ := foldlM_parseLine_of_isEntry every
    rw [parsed]
    refine ⟨iff_of_false nofun malformed, ?_⟩
    rintro _ ⟨rfl⟩
    exact values

theorem endedLines_subset_textLines (text : Text) : endedLines text ⊆ textLines text := by
  unfold textLines
  split_ifs with ended
  · exact List.Subset.refl _
  · exact List.subset_append_left _ _

theorem textLines_of_unended (unended : openLine text ≠ []) :
    textLines text = endedLines text ++ [openLine text] :=
  if_neg unended

/-- What a text without empty lines is parsed to. -/
theorem parsesTo_iff_of_filled (filled : ∀ line ∈ textLines text, line ≠ [])
    {outcome : Except MetaImageError Meta} :
    ParsesTo text outcome ↔ outcome = (endedLines text).foldlM parseLine fun _ => none :=
  loopEnds_iff_of_filled fun line member => filled line (endedLines_subset_textLines text member)

/-- With a newline at its end, the last line is parsed as well. -/
theorem parsesTo_append_newline_iff (filled : ∀ line ∈ textLines text, line ≠ [])
    (unended : openLine text ≠ []) {outcome : Except MetaImageError Meta} :
    ParsesTo (text ++ ['\n']) outcome ↔
      outcome = (endedLines text ++ [openLine text]).foldlM parseLine fun _ => none := by
  rw [textLines_of_unended unended, ← endedLines_append_newline] at filled
  rw [← endedLines_append_newline]
  exact loopEnds_iff_of_filled filled

theorem parsesAsDocumented_of_ended (filled : ∀ line ∈ textLines text, line ≠ [])
    (ended : openLine text = []) : ParsesAsDocumented text := by
  refine ⟨_, (parsesTo_iff_of_filled filled).mpr rfl, ?_, fun unended => absurd ended unended⟩
  rw [textLines, if_pos ended]
  exact documented_foldlM (endedLines text)

/-- The last line does not matter behind a line that is no entry. -/
theorem parsesAsDocumented_of_not_isEntry (filled : ∀ line ∈ textLines text, line ≠ [])
    (unended : openLine text ≠ []) (malformed : ∃ line ∈ endedLines text, ¬ IsEntry line) :
    ParsesAsDocumented text := by
  have throws := foldlM_parseLine_of_not_isEntry malformed fun _ => none
  obtain ⟨line, member, wrong⟩ := malformed
  have still : ∃ line ∈ endedLines text ++ [openLine text], ¬ IsEntry line :=
    ⟨line, List.mem_append_left _ member, wrong⟩
  refine ⟨_, (parsesTo_iff_of_filled filled).mpr rfl, ?_, fun _ => ?_⟩
  · rw [textLines_of_unended unended, throws]
    exact ⟨iff_of_true ⟨_, rfl⟩ still, nofun⟩
  · rw [parsesTo_append_newline_iff filled unended, throws,
      foldlM_parseLine_of_not_isEntry still]

/-- The last line does not matter either if the map has its entry already. -/
theorem parsesAsDocumented_of_lastValue (filled : ∀ line ∈ textLines text, line ≠ [])
    (unended : openLine text ≠ []) (every : ∀ line ∈ endedLines text, IsEntry line)
    (assigns : Assigns (openLine text) tag value)
    (given : LastValue (endedLines text) tag value) : ParsesAsDocumented text := by
  obtain ⟨found, parsed, values⟩ := foldlM_parseLine_of_isEntry every
  have kept : Function.update found tag (some value) = found :=
    Function.update_eq_self_iff.mpr ((values tag value).mpr given).symm
  have all : (endedLines text ++ [openLine text]).foldlM parseLine (fun _ => none) =
      .ok found := by
    rw [foldlM_parseLine_append_singleton parsed assigns, kept]
  refine ⟨.ok found, (parsesTo_iff_of_filled filled).mpr parsed.symm, ?_, fun _ => ?_⟩
  · rw [textLines_of_unended unended, ← all]
    exact documented_foldlM _
  · exact (parsesTo_append_newline_iff filled unended).mpr all.symm

/-- No error is thrown for the last line, so it is an entry, and the map has it already. -/
theorem ParsesAsDocumented.exists_lastValue (documented : ParsesAsDocumented text)
    (filled : ∀ line ∈ textLines text, line ≠ []) (unended : openLine text ≠ [])
    (every : ∀ line ∈ endedLines text, IsEntry line) :
    ∃ tag value, Assigns (openLine text) tag value ∧ LastValue (endedLines text) tag value := by
  obtain ⟨outcome, parses, meets, -⟩ := documented
  obtain ⟨found, parsed, values⟩ := foldlM_parseLine_of_isEntry every
  rw [parsesTo_iff_of_filled filled, parsed] at parses
  subst parses
  rw [textLines_of_unended unended] at meets
  have last : IsEntry (openLine text) := by
    by_contra wrong
    obtain ⟨error, thrown⟩ := meets.throws.mpr
      ⟨_, List.mem_append_right _ (List.mem_singleton_self _), wrong⟩
    cases thrown
  obtain ⟨tag, value, assigns⟩ := isEntry_iff_exists_assigns.mp last
  refine ⟨tag, value, assigns, (values tag value).mp ?_⟩
  exact (meets.entries found rfl tag value).mpr
    (lastValue_append_singleton_iff.mpr (.inl assigns))

/-- **A text without empty lines is parsed as documented if and only if a newline ends it, or an
earlier line is no entry, or its last line only repeats what the lines before it say.** -/
theorem parsesAsDocumented_iff (filled : ∀ line ∈ textLines text, line ≠ []) :
    ParsesAsDocumented text ↔
      openLine text = [] ∨ (∃ line ∈ endedLines text, ¬ IsEntry line) ∨
        ∃ tag value, Assigns (openLine text) tag value ∧
          LastValue (endedLines text) tag value := by
  by_cases ended : openLine text = []
  · exact iff_of_true (parsesAsDocumented_of_ended filled ended) (.inl ended)
  by_cases malformed : ∃ line ∈ endedLines text, ¬ IsEntry line
  · exact iff_of_true (parsesAsDocumented_of_not_isEntry filled ended malformed)
      (.inr (.inl malformed))
  have every : ∀ line ∈ endedLines text, IsEntry line := by simpa using malformed
  constructor
  · intro documented
    exact .inr (.inr (documented.exists_lastValue filled ended every))
  · rintro (none | none | ⟨tag, value, assigns, given⟩)
    · exact absurd none ended
    · exact absurd none malformed
    · exact parsesAsDocumented_of_lastValue filled ended every assigns given

/-- What is parsed to a map has no empty lines. -/
theorem filled_of_loopEnds {entries found : Meta} (ends : LoopEnds text entries (.ok found)) :
    ∀ line ∈ endedLines text, line ≠ [] := by
  induction text using lines_induction generalizing entries with
  | last text whole =>
    rw [endedLines_of_not_mem whole]
    exact List.forall_mem_nil _
  | line line rest whole ih =>
    rw [endedLines_append_cons whole, List.forall_mem_cons]
    have some_text : line ≠ [] := by
      rintro rfl
      exact not_loopEnds_empty ends
    refine ⟨some_text, ?_⟩
    cases read : parseLine entries line with
    | error error =>
      rw [loopEnds_iff_of_error some_text whole read] at ends
      cases ends
    | ok next =>
      rw [loopEnds_iff_of_ok some_text whole read] at ends
      exact ih ends

/-- **The map of an accepted text has the values that the lines give last.** -/
theorem ParsesTo.entries_iff {entries : Meta} (parsed : ParsesTo text (.ok entries)) :
    entries tag = some value ↔ LastValue (endedLines text) tag value := by
  have filled := filled_of_loopEnds parsed
  have read := (loopEnds_iff_of_filled filled).mp parsed
  exact (documented_foldlM (endedLines text)).entries entries read.symm tag value

end Documented

theorem parsesAsDocumented_iff_ended :
    (∀ line ∈ textLines "NDims = 3\nElementDataFile = a.raw\n".toList, line ≠ []) ∧
      ParsesAsDocumented "NDims = 3\nElementDataFile = a.raw\n".toList := by
  have filled : ∀ line ∈ textLines "NDims = 3\nElementDataFile = a.raw\n".toList, line ≠ [] := by
    decide
  exact ⟨filled, (parsesAsDocumented_iff filled).mpr (.inl (by decide))⟩

/-- Without a newline at the end, the name of the raw file is lost. -/
theorem not_parsesAsDocumented_unended :
    (∀ line ∈ textLines "NDims = 3\nElementDataFile = a.raw".toList, line ≠ []) ∧
      ¬ ParsesAsDocumented "NDims = 3\nElementDataFile = a.raw".toList := by
  have filled : ∀ line ∈ textLines "NDims = 3\nElementDataFile = a.raw".toList, line ≠ [] := by
    decide
  refine ⟨filled, ?_⟩
  rintro ⟨outcome, parses, documented, -⟩
  have recorded : outcome = .ok (Function.update (fun _ => none) "NDims" (some "3")) :=
    (parsesTo_iff_of_filled filled).mp parses
  have last : LastValue (textLines "NDims = 3\nElementDataFile = a.raw".toList)
      "ElementDataFile" "a.raw" := by
    refine ⟨["NDims = 3".toList], "ElementDataFile = a.raw".toList, [], by decide, ?_,
      List.forall_mem_nil _⟩
    exact ⟨"ElementDataFile ".toList, " a.raw".toList,
      splitArguments_eq_pair_iff.mp (by decide), by decide, by decide⟩
  have lost := (documented.entries _ recorded "ElementDataFile" "a.raw").mpr last
  cases lost

/-- What `GetInformation` takes from a header has the shape of the map of its lines. -/
theorem exists_shaped_of_getInformation {Space : Type} {bits fuel : ℕ}
    {readSpace : Text → Option Space} {text : Text} {information : MetaImageInformation Space}
    (accepted : getInformation bits readSpace fuel text = some (.ok information)) :
    ∃ entries, ParsesTo text (.ok entries) ∧ information.Shaped entries := by
  obtain ⟨parsed, read, taken⟩ := Option.map_eq_some_iff.mp accepted
  cases parsed with
  | error error => cases taken
  | ok entries => exact ⟨entries, ⟨fuel, read⟩, shaped_of_readInformation taken⟩

end AthabascaRecon

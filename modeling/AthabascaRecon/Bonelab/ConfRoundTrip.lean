import AthabascaRecon.Bonelab.ConfParser
import Mathlib.Data.List.Sort
import Mathlib.Data.String.Basic

/-!
# Writing configurations

`writeConf` writes a tree of keys and sections, and fails for other trees. What it writes for
a tree that `readConf` gives is read as this tree again (`readConf_of_writeConf`): the keys,
texts and names of such a tree cannot be mistaken for other parts of a line, and no section of it
is empty.
-/

set_option autoImplicit false

namespace AthabascaRecon

namespace ConfParser

open PropertyTree

/-! ## `write_conf` -/

/-- Whether a key is the same as the one in front of it. -/
def repeatsKey (lastKey : String) : List String → Bool
  | [] => false
  | key :: rest => lastKey == key || repeatsKey key rest

/-- `check_dupes`, which goes through the keys in their order. -/
def checkDupes (pt : PropertyTree) : Except ConfParserError Unit :=
  if pt.children.length ≤ 1 then .ok ()
  else match (pt.children.map Prod.fst).insertionSort (· ≤ ·) with
    | [] => .ok ()
    | lastKey :: rest =>
      if repeatsKey lastKey rest then .error ⟨"duplicate key", "", 0⟩ else .ok ()

/-- A line with a key. -/
def keyLine (child : String × PropertyTree) : Text :=
  child.1.toList ++ ' ' :: '=' :: ' ' :: (child.2.data.toList ++ ['\n'])

/-- The line in front of a section. -/
def headerLine (name : String) : Text :=
  '[' :: (name.toList ++ [']', '\n'])

/-- The loop over the keys of a section. -/
def writeKeys : Children → Except ConfParserError Text
  | [] => .ok []
  | child :: rest => do
    if child.2.children ≠ [] then throw ⟨"ptree is too deep", "", 0⟩
    let later ← writeKeys rest
    return keyLine child ++ later

/-- The loop over the keys and sections. -/
def writeChildren (firstHeader : Bool) : Children → Except ConfParserError Text
  | [] => .ok []
  | child :: rest => do
    checkDupes child.2
    if child.2.children = [] then
      let later ← writeChildren false rest
      return keyLine child ++ later
    else
      if child.2.data ≠ "" then throw ⟨"mixed data and children", "", 0⟩
      let keys ← writeKeys child.2.children
      let later ← writeChildren false rest
      return (if firstHeader then [] else ['\n']) ++ headerLine child.1 ++ keys ++ later

/-- `write_conf`, without flags. What it wrote before it fails is left out. -/
def writeConf (pt : PropertyTree) : Except ConfParserError Text := do
  if pt.data ≠ "" then throw ⟨"ptree has data on root", "", 0⟩
  checkDupes pt
  writeChildren true pt.children

/-! ### What is written -/

theorem repeatsKey_eq_false_iff {lastKey : String} {rest : List String}
    (sorted : (lastKey :: rest).Pairwise (· ≤ ·)) :
    repeatsKey lastKey rest = false ↔ (lastKey :: rest).Nodup := by
  induction rest generalizing lastKey with
  | nil => simp [repeatsKey]
  | cons key rest ih =>
    obtain ⟨first, later⟩ := List.pairwise_cons.mp sorted
    rw [repeatsKey, Bool.or_eq_false_iff, ih later, List.nodup_cons (a := lastKey),
      beq_eq_false_iff_ne]
    refine and_congr_left fun _ => ⟨fun different inside => ?_, fun absent same => ?_⟩
    · rcases List.mem_cons.mp inside with same | behind
      · exact different same
      · have below : key ≤ lastKey := (List.pairwise_cons.mp later).1 lastKey behind
        exact different (le_antisymm (first key List.mem_cons_self) below)
    · exact absent (same ▸ List.mem_cons_self)

/-- **`check_dupes` finds every key that occurs twice**, although it compares neighbours only. -/
theorem checkDupes_eq_ok_iff {pt : PropertyTree} :
    checkDupes pt = .ok () ↔ DistinctKeys pt.children := by
  have keys := List.perm_insertionSort (· ≤ ·) (pt.children.map Prod.fst)
  have sorted := List.pairwise_insertionSort (· ≤ ·) (pt.children.map Prod.fst)
  unfold checkDupes
  split_ifs with few
  · refine iff_of_true rfl ?_
    match children : pt.children, few with
    | [], _ => exact List.nodup_nil
    | [child], _ => exact List.nodup_singleton _
  · rw [DistinctKeys, ← keys.nodup_iff]
    split
    · next none =>
      rw [none]
      exact iff_of_true rfl List.nodup_nil
    · next lastKey rest found =>
      rw [found] at sorted ⊢
      rw [← repeatsKey_eq_false_iff sorted]
      cases repeatsKey lastKey rest <;> simp

theorem writeKeys_eq {children : Children} (leaves : ∀ child ∈ children, child.2.children = []) :
    writeKeys children = .ok (children.flatMap keyLine) := by
  induction children with
  | nil => rfl
  | cons child rest ih =>
    obtain ⟨leaf, later⟩ := List.forall_mem_cons.mp leaves
    rw [writeKeys, if_neg (not_not_intro leaf), ih later]
    rfl

/-- The text of some sections. There is an empty line in front of all but the first one. -/
def sectionsText (firstHeader : Bool) : Children → Text
  | [] => []
  | child :: rest =>
    (if firstHeader then [] else ['\n']) ++ headerLine child.1 ++
      child.2.children.flatMap keyLine ++ sectionsText false rest

theorem writeChildren_sections {sections : Children}
    (named : ∀ child ∈ sections, Section child) (firstHeader : Bool) :
    writeChildren firstHeader sections = .ok (sectionsText firstHeader sections) := by
  induction sections generalizing firstHeader with
  | nil => rfl
  | cons child rest ih =>
    obtain ⟨isSection, later⟩ := List.forall_mem_cons.mp named
    rw [writeChildren, checkDupes_eq_ok_iff.mpr isSection.entries.distinct,
      if_neg isSection.ne_nil, if_neg (not_not_intro isSection.data),
      writeKeys_eq fun entry member => (isSection.entries.entry entry member).leaf, ih later]
    rfl

theorem writeChildren_append {keys : Children} (entries : ∀ child ∈ keys, Entry child)
    (firstHeader : Bool) {sections : Children} (named : ∀ child ∈ sections, Section child) :
    writeChildren firstHeader (keys ++ sections) =
      .ok (keys.flatMap keyLine ++ sectionsText (firstHeader && keys.isEmpty) sections) := by
  induction keys generalizing firstHeader with
  | nil =>
    rw [List.nil_append, writeChildren_sections named, List.isEmpty_nil, Bool.and_true]
    rfl
  | cons child rest ih =>
    obtain ⟨entry, later⟩ := List.forall_mem_cons.mp entries
    have single : DistinctKeys child.2.children := by
      rw [entry.leaf]
      exact List.nodup_nil
    rw [List.cons_append, writeChildren, checkDupes_eq_ok_iff.mpr single, if_pos entry.leaf,
      ih later, Bool.false_and, List.isEmpty_cons, Bool.and_false, List.flatMap_cons,
      List.append_assoc]
    rfl

/-! ## Reading what was written -/

theorem DistinctKeys.of_append_left {front back : Children}
    (distinct : DistinctKeys (front ++ back)) : DistinctKeys front :=
  List.Nodup.sublist ((List.sublist_append_left front back).map Prod.fst) distinct

section Lines

variable {reader : Reader} {lineNo : ℕ}

theorem readLine_nil : reader.readLine lineNo [] = .ok reader := rfl

/-- A key in front of the first `'='`, with a space after it. -/
theorem readKey_eq {key : String} (readable : ReadableKey key) (tail : Text)
    (new : ∀ child ∈ reader.container, child.1 ≠ key) :
    reader.readKey lineNo (key.toList ++ ' ' :: '=' :: tail) =
      .ok (reader.pushBack (key, node (String.ofList (trim tail)) [])) := by
  have absent : '=' ∉ key.toList ++ [' '] := by
    simpa using readable.plain
  have front : (key.toList ++ ' ' :: '=' :: tail).takeWhile (· ≠ '=') = key.toList ++ [' '] := by
    rw [List.append_cons, takeWhile_ne_append_cons absent]
  have back : (key.toList ++ ' ' :: '=' :: tail).dropWhile (· ≠ '=') = '=' :: tail := by
    rw [List.append_cons, dropWhile_ne_append_cons absent]
  have own : trim (key.toList ++ [' ']) = key.toList :=
    readable.trimmed.trim_append (List.forall_mem_singleton.mpr (by decide))
  have free : ¬ (find key reader.container).isSome = true := by
    rw [find_eq_none_iff.mpr new]
    nofun
  unfold Reader.readKey
  dsimp only
  rw [if_neg (by simp), front, back, if_neg (by simp), own, String.ofList_toList, if_neg free]
  rfl

/-- Trimming a line with a key leaves what is between the space in front of the `'='` and the
newline, without the space behind the `'='` when the text is empty. -/
theorem exists_trim_key {key data : String} (readable : ReadableKey key)
    (text : ReadableText data) :
    ∃ tail, trim (key.toList ++ ' ' :: '=' :: ' ' :: data.toList) =
      key.toList ++ ' ' :: '=' :: tail ∧ trim tail = data.toList := by
  obtain ⟨c, body, start⟩ := List.exists_cons_of_ne_nil readable.ne_nil
  have plain : isSpace c = false := readable.trimmed.first c (by rw [start]; rfl)
  rcases List.eq_nil_or_concat data.toList with empty | ⟨front, last, whole⟩
  · refine ⟨[], ?_, empty.symm⟩
    have ends : Trimmed (c :: (body ++ [' '] ++ ['='])) := .of_ends _ plain (by decide)
    have trimmed := ends.trim_append (List.forall_mem_singleton.mpr (by decide : isSpace ' '))
    rw [empty, start]
    simpa using trimmed
  · have stop : isSpace last = false := text.trimmed.last last (by rw [whole]; simp)
    refine ⟨' ' :: data.toList, ?_, ?_⟩
    · have ends : Trimmed (c :: (body ++ ' ' :: '=' :: ' ' :: front ++ [last])) :=
        .of_ends _ plain stop
      have trimmed := ends.trim_eq
      rw [whole, start]
      simpa using trimmed
    · exact (trim_cons_of_isSpace (by decide) _).trans text.trimmed.trim_eq

/-- **A key that was written is read.** -/
theorem readLine_key {key data : String} (readable : ReadableKey key) (text : ReadableText data)
    (new : ∀ child ∈ reader.container, child.1 ≠ key) :
    reader.readLine lineNo (key.toList ++ ' ' :: '=' :: ' ' :: data.toList) =
      .ok (reader.pushBack (key, node data [])) := by
  obtain ⟨tail, trimmed, own⟩ := exists_trim_key readable text
  obtain ⟨c, body, start⟩ := List.exists_cons_of_ne_nil readable.ne_nil
  obtain ⟨comment, bracket⟩ := readable.first c (by rw [start]; rfl)
  have read := @readKey_eq reader lineNo key readable tail new
  rw [own, String.ofList_toList] at read
  unfold Reader.readLine
  rw [trimmed, start]
  rw [start] at read
  dsimp only [List.cons_append] at read ⊢
  rw [if_neg comment, if_neg bracket]
  exact read

/-- **A section that was written is opened.** -/
theorem readLine_header {name : String} (readable : ReadableName name)
    (new : ∀ child ∈ reader.dropEmptySection, child.1 ≠ name) :
    reader.readLine lineNo ('[' :: (name.toList ++ [']'])) =
      .ok (inSection reader.dropEmptySection name []) := by
  have trimmed : trim ('[' :: (name.toList ++ [']'])) = '[' :: (name.toList ++ [']']) :=
    (Trimmed.of_ends name.toList (by decide) (by decide)).trim_eq
  have front : (name.toList ++ [']']).takeWhile (· ≠ ']') = name.toList :=
    takeWhile_ne_append_cons readable.plain []
  have absent : ¬ (find name reader.dropEmptySection).isSome = true := by
    rw [find_eq_none_iff.mpr new]
    nofun
  unfold Reader.readLine
  rw [trimmed]
  dsimp only
  rw [if_neg (by decide), if_pos rfl]
  unfold Reader.readSection
  dsimp only
  rw [if_neg (by simp), front, readable.trimmed.trim_eq, String.ofList_toList, if_neg absent]
  rfl

end Lines

section Runs

variable {reader : Reader} {lineNo : ℕ}

theorem readLines_nil : readLines lineNo reader [] = .ok reader := by
  rw [readLines_of_not_mem List.not_mem_nil, readLine_nil]

theorem readLines_keyLine {child : String × PropertyTree} (entry : Entry child)
    (new : ∀ other ∈ reader.container, other.1 ≠ child.1) (rest : Text) :
    readLines lineNo reader (keyLine child ++ rest) =
      readLines (lineNo + 1) (reader.pushBack child) rest := by
  obtain ⟨key, data, children⟩ := child
  obtain rfl : children = [] := entry.leaf
  have line : keyLine (key, node data []) ++ rest =
      (key.toList ++ ' ' :: '=' :: ' ' :: data.toList) ++ '\n' :: rest := by
    simp [keyLine, PropertyTree.data]
  have whole : '\n' ∉ key.toList ++ ' ' :: '=' :: ' ' :: data.toList := by
    have apart : '\n' ∉ key.toList ∧ '\n' ∉ data.toList := ⟨entry.key.whole, entry.text.whole⟩
    simpa using apart
  rw [line]
  exact readLines_line whole (readLine_key entry.key entry.text new) rest

theorem Reading.container_pushBack (reading : Reading reader)
    (added : String × PropertyTree) :
    (reader.pushBack added).container = reader.container ++ [added] := by
  cases reading with
  | keys entries => rfl
  | inSection conf readable new own => rw [pushBack_last, container_last, container_last]

/-- Several keys, one after another. -/
theorem exists_readLines_keys (lineNo : ℕ) (reading : Reading reader) {keys : Children}
    (entries : ∀ child ∈ keys, Entry child) (distinct : DistinctKeys (reader.container ++ keys))
    (rest : Text) :
    ∃ after, readLines lineNo reader (keys.flatMap keyLine ++ rest) =
      readLines after (keys.foldl Reader.pushBack reader) rest := by
  induction keys generalizing reader lineNo with
  | nil => exact ⟨lineNo, rfl⟩
  | cons child keys ih =>
    obtain ⟨entry, later⟩ := List.forall_mem_cons.mp entries
    rw [List.append_cons, ← reading.container_pushBack] at distinct
    have new : ∀ other ∈ reader.container, other.1 ≠ child.1 := by
      have front := distinct.of_append_left
      rw [reading.container_pushBack] at front
      exact (distinctKeys_append_singleton.mp front).2
    rw [List.flatMap_cons, List.append_assoc, readLines_keyLine entry new]
    exact ih (lineNo + 1) (reading.pushBack entry new) later distinct

theorem foldl_pushBack_keys (root keys : Children) :
    keys.foldl Reader.pushBack ⟨root, none⟩ = ⟨root ++ keys, none⟩ := by
  induction keys generalizing root with
  | nil => rw [List.append_nil, List.foldl_nil]
  | cons child keys ih => rw [List.foldl_cons, List.append_cons, ← ih]; rfl

theorem foldl_pushBack_last (before entries keys : Children) (name : String) :
    keys.foldl Reader.pushBack (inSection before name entries) =
      inSection before name (entries ++ keys) := by
  induction keys generalizing entries with
  | nil => rw [List.append_nil, List.foldl_nil]
  | cons child keys ih => rw [List.foldl_cons, pushBack_last, ih, ← List.append_cons]

/-- An empty line between sections. -/
theorem exists_readLines_blank (lineNo : ℕ) (reader : Reader) (firstHeader : Bool)
    (rest : Text) :
    ∃ after, readLines lineNo reader ((if firstHeader then [] else ['\n']) ++ rest) =
      readLines after reader rest := by
  cases firstHeader with
  | true => exact ⟨lineNo, rfl⟩
  | false =>
    exact ⟨lineNo + 1, readLines_line List.not_mem_nil readLine_nil rest⟩

theorem readLines_headerLine {name : String} (readable : ReadableName name)
    (new : ∀ child ∈ reader.dropEmptySection, child.1 ≠ name) (rest : Text) :
    readLines lineNo reader (headerLine name ++ rest) =
      readLines (lineNo + 1) (inSection reader.dropEmptySection name []) rest := by
  have line : headerLine name ++ rest = ('[' :: (name.toList ++ [']'])) ++ '\n' :: rest := by
    simp [headerLine]
  have whole : '\n' ∉ '[' :: (name.toList ++ [']']) := by
    simpa using readable.whole
  rw [line]
  exact readLines_line whole (readLine_header readable new) rest

/-- A section, with the empty line that may be in front of it. -/
theorem exists_readLines_section (lineNo : ℕ) (reading : Reading reader) {name : String}
    {keys : Children} (isSection : Section (name, node "" keys))
    (new : ∀ child ∈ reader.dropEmptySection, child.1 ≠ name) (firstHeader : Bool)
    (rest : Text) :
    ∃ after, readLines lineNo reader ((if firstHeader then [] else ['\n']) ++
        (headerLine name ++ (keys.flatMap keyLine ++ rest))) =
      readLines after (inSection reader.dropEmptySection name keys) rest := by
  have own : Entries keys := isSection.entries
  obtain ⟨header, blank⟩ := exists_readLines_blank lineNo reader firstHeader
    (headerLine name ++ (keys.flatMap keyLine ++ rest))
  have opened : Reading (inSection reader.dropEmptySection name []) :=
    .inSection reading.conf_dropEmptySection isSection.name new .nil
  have distinct :
      DistinctKeys ((inSection reader.dropEmptySection name []).container ++ keys) := by
    rw [container_last]
    exact own.distinct
  obtain ⟨after, read⟩ := exists_readLines_keys (header + 1) opened own.entry distinct rest
  rw [foldl_pushBack_last, List.nil_append] at read
  exact ⟨after, by rw [blank, readLines_headerLine isSection.name new, read]⟩

/-- **Sections that were written are read**, each after those in front of it. -/
theorem exists_readLines_sections (lineNo : ℕ) (reading : Reading reader) {sections : Children}
    (named : ∀ child ∈ sections, Section child)
    (distinct : DistinctKeys (reader.dropEmptySection ++ sections)) (firstHeader : Bool) :
    ∃ after, readLines lineNo reader (sectionsText firstHeader sections) = .ok after ∧
      after.dropEmptySection = reader.dropEmptySection ++ sections := by
  induction sections generalizing reader lineNo firstHeader with
  | nil => exact ⟨reader, readLines_nil, (List.append_nil _).symm⟩
  | cons child sections ih =>
    obtain ⟨isSection, later⟩ := List.forall_mem_cons.mp named
    obtain ⟨name, data, keys⟩ := child
    obtain rfl : data = "" := isSection.data
    rw [List.append_cons] at distinct
    have new : ∀ other ∈ reader.dropEmptySection, other.1 ≠ name :=
      (distinctKeys_append_singleton.mp distinct.of_append_left).2
    have kept : (inSection reader.dropEmptySection name keys).dropEmptySection =
        reader.dropEmptySection ++ [(name, node "" keys)] := by
      rw [dropEmptySection_last]
      exact if_neg isSection.ne_nil
    rw [← kept] at distinct
    have filled : Reading (inSection reader.dropEmptySection name keys) :=
      .inSection reading.conf_dropEmptySection isSection.name new isSection.entries
    obtain ⟨next, first⟩ := exists_readLines_section lineNo reading isSection new
      firstHeader (sectionsText false sections)
    obtain ⟨after, last, children⟩ := ih next filled later distinct false
    refine ⟨after, ?_, ?_⟩
    · rw [sectionsText, List.append_assoc, List.append_assoc, PropertyTree.children, first]
      exact last
    · rw [children, kept, ← List.append_cons]

end Runs

/-! ## The round trip -/

/-- **What is written for keys and sections is read as the same keys and sections.** -/
theorem readConf_of_writeConf {children : Children} (conf : Conf children) :
    ∃ written, writeConf (node "" children) = .ok written ∧
      readConf written = .ok (node "" children) := by
  obtain ⟨keys, sections, rfl, entries, named⟩ := conf.parts
  have written : writeConf (node "" (keys ++ sections)) =
      .ok (keys.flatMap keyLine ++ sectionsText (true && keys.isEmpty) sections) := by
    have checked : checkDupes (node "" (keys ++ sections)) = .ok () :=
      checkDupes_eq_ok_iff.mpr conf.distinct
    rw [writeConf, checked, ← writeChildren_append entries _ named]
    rfl
  have distinct : DistinctKeys keys := conf.distinct.of_append_left
  have filled : Reading ⟨keys, none⟩ := .keys ⟨entries, distinct⟩
  obtain ⟨lineNo, first⟩ := exists_readLines_keys 1 (.keys .nil) entries distinct
    (sectionsText (true && keys.isEmpty) sections)
  rw [foldl_pushBack_keys, List.nil_append] at first
  obtain ⟨after, later, same⟩ := exists_readLines_sections lineNo filled named conf.distinct
    (true && keys.isEmpty)
  refine ⟨_, written, ?_⟩
  rw [readConf, first, later]
  exact congrArg (fun children => Except.ok (node "" children)) same

/-- The trees that `read_conf` gives are these. -/
theorem exists_readConf_iff {children : Children} :
    (∃ stream, readConf stream = .ok (node "" children)) ↔ Conf children := by
  constructor
  · rintro ⟨stream, read⟩
    obtain ⟨found, conf, same⟩ := conf_of_readConf read
    cases same
    exact conf
  · intro conf
    obtain ⟨written, -, read⟩ := readConf_of_writeConf conf
    exact ⟨written, read⟩

/-- **Configurations survive being written out.** The tree of a text that is read can be
written, and what is written is read as the same tree. -/
theorem written_reads_back {stream : Text} {pt : PropertyTree} (read : readConf stream = .ok pt) :
    ∃ written, writeConf pt = .ok written ∧ readConf written = .ok pt := by
  obtain ⟨children, conf, rfl⟩ := conf_of_readConf read
  exact readConf_of_writeConf conf

theorem written_reads_back_input :
    let pt := node "" [("Size", node "3 4" []), ("Input", node "" [("Name", node "a = b" [])])]
    ∃ written, writeConf pt = .ok written ∧ readConf written = .ok pt := by
  refine @written_reads_back ("# Input".toList ++ '\n' :: ("Size=3 4".toList ++ '\n' ::
    ("[None]".toList ++ '\n' :: ("\t[ Input ]".toList ++ '\n' :: "Name =a = b ".toList)))) _ ?_
  refine bind_eq_ok_iff.mpr ⟨inSection [("Size", node "3 4" [])] "Input"
    [("Name", node "a = b" [])], ?_, rfl⟩
  -- A comment, a key, a section that stays empty, a section and its key.
  refine (readLines_line (by decide) rfl _).trans ?_
  refine (readLines_line (by decide) rfl _).trans ?_
  refine (readLines_line (by decide) rfl _).trans ?_
  refine (readLines_line (by decide) rfl _).trans ?_
  exact (readLines_of_not_mem (by decide) _ _).trans rfl

end ConfParser

end AthabascaRecon

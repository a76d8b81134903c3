import AthabascaRecon.Foundation.Ensures
import AthabascaRecon.Foundation.PropertyTree
import AthabascaRecon.Foundation.Strings

/-!
# Reading configurations

`readConf` goes through the lines of a text. It keeps the tree that it builds and which child
of it is the section that keys are added to. This section is the last child (`Reading`), so
that dropping an empty section removes that section and no other one. The trees that are read
have keys with texts, followed by sections with such keys (`Conf`).
-/

set_option autoImplicit false

namespace AthabascaRecon

namespace ConfParser

open PropertyTree

abbrev Children := List (String × PropertyTree)

/-- `conf_parser_error`. -/
structure ConfParserError where
  message : String
  filename : String
  line : ℕ
  deriving DecidableEq, Repr

/-! ## `read_conf` -/

/-- What `read_conf` keeps from line to line: the children of `local`, and to which of them
`section` points. -/
structure Reader where
  root : Children
  sectionAt : Option ℕ

namespace Reader

variable (reader : Reader)

/-- `*section`. -/
def sectionChild : Option (String × PropertyTree) :=
  reader.sectionAt.bind fun place => reader.root[place]?

/-- The children of `local`, after the `pop_back` of an empty section. -/
def dropEmptySection : Children :=
  if reader.sectionChild.any fun child => child.2.children.isEmpty then reader.root.dropLast
  else reader.root

/-- The children of `container`. -/
def container : Children :=
  match reader.sectionAt with
  | none => reader.root
  | some _ => reader.sectionChild.elim [] fun child => child.2.children

/-- `container.push_back`. -/
def pushBack (added : String × PropertyTree) : Reader :=
  match reader.sectionAt with
  | none => { reader with root := reader.root ++ [added] }
  | some place =>
    { reader with
      root := reader.root.modify place fun child =>
        (child.1, node child.2.data (child.2.children ++ [added])) }

/-- A section, with what stands behind its bracket. -/
def readSection (lineNo : ℕ) (rest : Text) : Except ConfParserError Reader :=
  let root := reader.dropEmptySection
  if ']' ∉ rest then .error ⟨"unmatched '['", "", lineNo⟩
  else
    let key := String.ofList (trim (rest.takeWhile (· ≠ ']')))
    if (find key root).isSome then .error ⟨"duplicate section name", "", lineNo⟩
    else .ok { root := root ++ [(key, .empty)], sectionAt := some root.length }

/-- A key. -/
def readKey (lineNo : ℕ) (line : Text) : Except ConfParserError Reader :=
  if '=' ∉ line then .error ⟨"'=' character not found in line", "", lineNo⟩
  else if line.takeWhile (· ≠ '=') = [] then .error ⟨"key expected", "", lineNo⟩
  else
    let key := String.ofList (trim (line.takeWhile (· ≠ '=')))
    let data := String.ofList (trim (line.dropWhile (· ≠ '=')).tail)
    if (find key reader.container).isSome then .error ⟨"duplicate key name", "", lineNo⟩
    else .ok (reader.pushBack (key, node data []))

/-- A line. -/
def readLine (lineNo : ℕ) (line : Text) : Except ConfParserError Reader :=
  match trim line with
  | [] => .ok reader
  | first :: rest =>
    if first = '#' then .ok reader
    else if first = '[' then reader.readSection lineNo rest
    else reader.readKey lineNo (first :: rest)

end Reader

theorem length_lt_of_getLine {stream line rest : Text}
    (got : getLine stream = (line, false, rest)) : rest.length < stream.length := by
  unfold getLine at got
  split at got
  · cases got
  · next first later left =>
    cases got
    have shorter := (List.dropWhile_sublist (l := stream) (· ≠ '\n')).length_le
    rw [left, List.length_cons] at shorter
    omega

/-- The loop over the lines. Reading a text does not fail before its end. -/
def readLines (lineNo : ℕ) (reader : Reader) (stream : Text) : Except ConfParserError Reader :=
  match got : getLine stream with
  | (line, true, _) => reader.readLine lineNo line
  | (line, false, rest) =>
    reader.readLine lineNo line >>= fun reader => readLines (lineNo + 1) reader rest
termination_by stream.length
decreasing_by exact length_lt_of_getLine got

/-- `read_conf`. -/
def readConf (stream : Text) : Except ConfParserError PropertyTree := do
  let reader ← readLines 1 { root := [], sectionAt := none } stream
  return node "" reader.dropEmptySection

/-- `read_conf`, of a file. -/
def readConfFile (files : String → Option Text) (filename : String) :
    Except ConfParserError PropertyTree :=
  match files filename with
  | none => .error ⟨"cannot open file", filename, 0⟩
  | some stream => (readConf stream).mapError fun e => ⟨e.message, filename, e.line⟩

theorem readLines_of_not_mem {line : Text} (whole : '\n' ∉ line) (lineNo : ℕ)
    (reader : Reader) : readLines lineNo reader line = reader.readLine lineNo line := by
  rw [readLines]
  split
  · next found rest got =>
    rw [getLine_of_not_mem whole] at got
    cases got
    rfl
  · next found rest got =>
    rw [getLine_of_not_mem whole] at got
    cases got

theorem readLines_append_cons {line : Text} (whole : '\n' ∉ line) (rest : Text) (lineNo : ℕ)
    (reader : Reader) :
    readLines lineNo reader (line ++ '\n' :: rest) =
      reader.readLine lineNo line >>= fun reader => readLines (lineNo + 1) reader rest := by
  rw [readLines]
  split
  · next found left got =>
    rw [getLine_append_cons whole] at got
    cases got
  · next found left got =>
    rw [getLine_append_cons whole] at got
    cases got
    rfl

theorem readLines_line {line : Text} {reader next : Reader} {lineNo : ℕ} (whole : '\n' ∉ line)
    (read : reader.readLine lineNo line = .ok next) (rest : Text) :
    readLines lineNo reader (line ++ '\n' :: rest) = readLines (lineNo + 1) next rest := by
  rw [readLines_append_cons whole, read]
  rfl

/-! ### Errors -/

section Errors

variable {reader : Reader} {lineNo : ℕ} {line stream : Text} {error : ConfParserError}

theorem line_of_readLine_error (failed : reader.readLine lineNo line = .error error) :
    error.line = lineNo := by
  unfold Reader.readLine at failed
  split at failed
  · cases failed
  · split_ifs at failed
    · unfold Reader.readSection at failed
      dsimp only at failed
      split_ifs at failed <;> cases failed <;> rfl
    · unfold Reader.readKey at failed
      dsimp only at failed
      split_ifs at failed <;> cases failed <;> rfl

theorem line_of_readLines_error (failed : readLines lineNo reader stream = .error error) :
    lineNo ≤ error.line ∧ error.line ≤ lineNo + stream.count '\n' := by
  induction stream using lines_induction generalizing lineNo reader with
  | last text whole =>
    rw [readLines_of_not_mem whole] at failed
    have here := line_of_readLine_error failed
    omega
  | line line rest whole ih =>
    rw [List.count_append, List.count_eq_zero_of_not_mem whole, List.count_cons_self]
    rw [readLines_append_cons whole] at failed
    rcases bind_eq_error_iff.mp failed with first | ⟨next, -, later⟩
    · have here := line_of_readLine_error first
      omega
    · have below := ih later
      omega

/-- **An error of `read_conf` names a line of the text.** -/
theorem line_of_readConf_error (failed : readConf stream = .error error) :
    1 ≤ error.line ∧ error.line ≤ 1 + stream.count '\n' := by
  rcases bind_eq_error_iff.mp failed with lines | ⟨reader, -, made⟩
  · exact line_of_readLines_error lines
  · cases made

/-- **An error of a file names the file.** -/
theorem filename_of_readConfFile_error {files : String → Option Text} {filename : String}
    (failed : readConfFile files filename = .error error) : error.filename = filename := by
  unfold readConfFile at failed
  split at failed
  · cases failed
    rfl
  · next stream _ =>
    cases read : readConf stream with
    | error inner =>
      rw [read] at failed
      cases failed
      rfl
    | ok pt =>
      rw [read] at failed
      cases failed

end Errors

/-! ## The trees that are read -/

/-- A key that is read back from the front of a line. -/
structure ReadableKey (key : String) : Prop where
  ne_nil : key.toList ≠ []
  trimmed : Trimmed key.toList
  first : ∀ c ∈ key.toList.head?, c ≠ '#' ∧ c ≠ '['
  plain : '=' ∉ key.toList
  whole : '\n' ∉ key.toList

/-- A text that is read back from the end of a line. -/
structure ReadableText (data : String) : Prop where
  trimmed : Trimmed data.toList
  whole : '\n' ∉ data.toList

/-- A name that is read back from between brackets. It may be empty. -/
structure ReadableName (name : String) : Prop where
  trimmed : Trimmed name.toList
  plain : ']' ∉ name.toList
  whole : '\n' ∉ name.toList

/-- A key with a text. -/
structure Entry (child : String × PropertyTree) : Prop where
  key : ReadableKey child.1
  leaf : child.2.children = []
  text : ReadableText child.2.data

def DistinctKeys (children : Children) : Prop :=
  (children.map Prod.fst).Nodup

/-- Different keys with texts. -/
structure Entries (children : Children) : Prop where
  entry : ∀ child ∈ children, Entry child
  distinct : DistinctKeys children

/-- A section. It has keys. -/
structure Section (child : String × PropertyTree) : Prop where
  name : ReadableName child.1
  data : child.2.data = ""
  ne_nil : child.2.children ≠ []
  entries : Entries child.2.children

/-- Keys with texts, and sections after them. -/
structure Conf (children : Children) : Prop where
  parts : ∃ keys sections, children = keys ++ sections ∧ (∀ child ∈ keys, Entry child) ∧
    ∀ child ∈ sections, Section child
  distinct : DistinctKeys children

/-- A reader whose section is the last child. -/
abbrev inSection (before : Children) (name : String) (entries : Children) : Reader :=
  { root := before ++ [(name, node "" entries)], sectionAt := some before.length }

/-- What is read so far: keys with texts, or a section that is the last child. -/
inductive Reading : Reader → Prop
  | keys {root : Children} (entries : Entries root) : Reading ⟨root, none⟩
  | inSection {before entries : Children} {name : String} (conf : Conf before)
      (readable : ReadableName name) (new : ∀ child ∈ before, child.1 ≠ name)
      (own : Entries entries) : Reading (ConfParser.inSection before name entries)

theorem distinctKeys_append_singleton {children : Children} {added : String × PropertyTree} :
    DistinctKeys (children ++ [added]) ↔
      DistinctKeys children ∧ ∀ child ∈ children, child.1 ≠ added.1 := by
  rw [DistinctKeys, List.map_append, List.map_singleton, List.nodup_append, List.forall_mem_map]
  simp [DistinctKeys]

theorem Entries.nil : Entries [] :=
  ⟨List.forall_mem_nil _, List.nodup_nil⟩

theorem Entries.append {children : Children} {added : String × PropertyTree}
    (entries : Entries children) (entry : Entry added)
    (new : ∀ child ∈ children, child.1 ≠ added.1) : Entries (children ++ [added]) := by
  refine ⟨?_, distinctKeys_append_singleton.mpr ⟨entries.distinct, new⟩⟩
  exact List.forall_mem_append.mpr ⟨entries.entry, List.forall_mem_singleton.mpr entry⟩

theorem Entries.conf {children : Children} (entries : Entries children) : Conf children :=
  ⟨⟨children, [], (List.append_nil _).symm, entries.entry, List.forall_mem_nil _⟩,
    entries.distinct⟩

theorem Conf.append {children : Children} {added : String × PropertyTree}
    (conf : Conf children) (isSection : Section added)
    (new : ∀ child ∈ children, child.1 ≠ added.1) : Conf (children ++ [added]) := by
  obtain ⟨keys, sections, rfl, entries, named⟩ := conf.parts
  refine ⟨⟨keys, sections ++ [added], List.append_assoc .., entries, ?_⟩,
    distinctKeys_append_singleton.mpr ⟨conf.distinct, new⟩⟩
  exact List.forall_mem_append.mpr ⟨named, List.forall_mem_singleton.mpr isSection⟩

/-! ### The section that is read -/

section LastChild

variable {before entries : Children} {name : String}

theorem sectionChild_last :
    (inSection before name entries).sectionChild = some (name, node "" entries) :=
  List.getElem?_concat_length

theorem container_last : (inSection before name entries).container = entries := by
  rw [Reader.container, sectionChild_last]
  rfl

theorem modify_append_singleton {Value : Type} (values : List Value) (last : Value)
    (change : Value → Value) :
    (values ++ [last]).modify values.length change = values ++ [change last] := by
  induction values with
  | nil => rfl
  | cons value values ih => exact congrArg (value :: ·) ih

theorem pushBack_last (added : String × PropertyTree) :
    (inSection before name entries).pushBack added =
      inSection before name (entries ++ [added]) := by
  rw [Reader.pushBack]
  exact congrArg (Reader.mk · _) (modify_append_singleton before _ _)

/-- Only the section itself is dropped. -/
theorem dropEmptySection_last :
    (inSection before name entries).dropEmptySection =
      if entries = [] then before else before ++ [(name, node "" entries)] := by
  rw [Reader.dropEmptySection, sectionChild_last]
  cases entries with
  | nil => exact List.dropLast_concat
  | cons entry entries => rfl

end LastChild

/-! ### The lines -/

section Steps

variable {reader after : Reader} {lineNo : ℕ} {line rest : Text}

theorem Reading.conf_dropEmptySection (reading : Reading reader) :
    Conf reader.dropEmptySection := by
  cases reading with
  | keys entries => exact entries.conf
  | inSection conf readable new own =>
    rw [dropEmptySection_last]
    split_ifs with empty
    · exact conf
    · exact conf.append ⟨readable, rfl, empty, own⟩ new

theorem Reading.of_readSection (reading : Reading reader) (whole : '\n' ∉ rest)
    (read : reader.readSection lineNo rest = .ok after) : Reading after := by
  unfold Reader.readSection at read
  dsimp only at read
  split_ifs at read with unmatched duplicate
  cases read
  rw [Option.not_isSome_iff_eq_none, find_eq_none_iff] at duplicate
  refine .inSection reading.conf_dropEmptySection ⟨?_, ?_, ?_⟩ duplicate .nil
  · rw [String.toList_ofList]
    exact trimmed_trim _
  · rw [String.toList_ofList]
    exact not_mem_trim_takeWhile_ne _ _
  · rw [String.toList_ofList]
    intro inside
    exact whole ((List.takeWhile_sublist _).mem (mem_of_mem_trim inside))

theorem Reading.pushBack {added : String × PropertyTree} (reading : Reading reader)
    (entry : Entry added) (new : ∀ child ∈ reader.container, child.1 ≠ added.1) :
    Reading (reader.pushBack added) := by
  cases reading with
  | keys entries => exact .keys (entries.append entry new)
  | inSection conf readable fresh own =>
    rw [container_last] at new
    rw [pushBack_last]
    exact .inSection conf readable fresh (own.append entry new)

/-- What a line with a `'='` says, which is no comment and no section. -/
theorem entry_of_line {first : Char} (plain : isSpace first = false)
    (other : first ≠ '#' ∧ first ≠ '[') (whole : '\n' ∉ first :: rest)
    (expected : (first :: rest).takeWhile (· ≠ '=') ≠ []) :
    Entry (String.ofList (trim ((first :: rest).takeWhile (· ≠ '='))),
      node (String.ofList (trim ((first :: rest).dropWhile (· ≠ '=')).tail)) []) := by
  have start : (first :: rest).takeWhile (· ≠ '=') = first :: rest.takeWhile (· ≠ '=') := by
    by_cases equals : first = '='
    · exact absurd (List.takeWhile_cons_of_neg (by simpa using equals)) expected
    · exact List.takeWhile_cons_of_pos (by simpa using equals)
  have head := head?_trim plain (rest.takeWhile (· ≠ '='))
  rw [← start] at head
  constructor
  · constructor
    · rw [String.toList_ofList]
      intro empty
      rw [empty] at head
      cases head
    · rw [String.toList_ofList]
      exact trimmed_trim _
    · rw [String.toList_ofList, head]
      rintro c ⟨⟩
      exact other
    · rw [String.toList_ofList]
      exact not_mem_trim_takeWhile_ne _ _
    · rw [String.toList_ofList]
      intro inside
      exact whole ((List.takeWhile_sublist _).mem (mem_of_mem_trim inside))
  · rfl
  · constructor
    · exact (String.toList_ofList ..).symm ▸ trimmed_trim _
    · rw [data, String.toList_ofList]
      intro inside
      have behind := List.mem_of_mem_tail (mem_of_mem_trim inside)
      exact whole ((List.dropWhile_sublist _).mem behind)

theorem Reading.of_readKey {first : Char} (reading : Reading reader) (plain : isSpace first = false)
    (other : first ≠ '#' ∧ first ≠ '[') (whole : '\n' ∉ first :: rest)
    (read : reader.readKey lineNo (first :: rest) = .ok after) : Reading after := by
  unfold Reader.readKey at read
  dsimp only at read
  split_ifs at read with absent unexpected duplicate
  cases read
  rw [Option.not_isSome_iff_eq_none, find_eq_none_iff] at duplicate
  exact reading.pushBack (entry_of_line plain other whole unexpected) duplicate

/-- A line keeps what is read so far in its form. -/
theorem Reading.of_readLine (reading : Reading reader) (whole : '\n' ∉ line)
    (read : reader.readLine lineNo line = .ok after) : Reading after := by
  unfold Reader.readLine at read
  split at read
  · cases read
    exact reading
  · next first rest trimmed =>
    have inside : '\n' ∉ first :: rest := by
      rw [← trimmed]
      exact fun member => whole (mem_of_mem_trim member)
    split_ifs at read with comment bracket
    · cases read
      exact reading
    · exact reading.of_readSection (fun member => inside (List.mem_cons_of_mem _ member)) read
    · have plain : isSpace first = false := by
        refine (trimmed_trim line).first first ?_
        rw [trimmed]
        rfl
      exact reading.of_readKey plain ⟨comment, bracket⟩ inside read

/-- **The section is the last child after every line.** -/
theorem Reading.of_readLines (reading : Reading reader) {stream : Text}
    (read : readLines lineNo reader stream = .ok after) : Reading after := by
  induction stream using lines_induction generalizing lineNo reader with
  | last text whole =>
    rw [readLines_of_not_mem whole] at read
    exact reading.of_readLine whole read
  | line line rest whole ih =>
    rw [readLines_append_cons whole] at read
    obtain ⟨next, first, later⟩ := bind_eq_ok_iff.mp read
    exact ih (reading.of_readLine whole first) later

end Steps

/-- **What `read_conf` gives**: keys with texts, and sections that have keys. -/
theorem conf_of_readConf {stream : Text} {pt : PropertyTree} (read : readConf stream = .ok pt) :
    ∃ children, Conf children ∧ pt = node "" children := by
  obtain ⟨reader, lines, made⟩ := bind_eq_ok_iff.mp read
  cases made
  exact ⟨_, (Reading.of_readLines (.keys .nil) lines).conf_dropEmptySection, rfl⟩

end ConfParser

end AthabascaRecon

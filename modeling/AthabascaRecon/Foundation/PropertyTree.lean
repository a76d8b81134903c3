import Mathlib.Data.List.Basic

/-!
# Property trees

A property tree has a text and children with keys at every node. Paths lead to a node by
the keys on the way, and of several children with one key to the first. `put` sets the
text of a node and makes the nodes on the way that are missing; it leaves the texts of all
other nodes as they are, apart from those that it makes (`dataAt_put_of_not_prefix`).
Several texts can be set one after another when none of their nodes lies below another one
(`dataAt_setTexts`).
-/

set_option autoImplicit false

namespace AthabascaRecon

inductive PropertyTree where
  | node (data : String) (children : List (String × PropertyTree))

namespace PropertyTree

def data : PropertyTree → String
  | node data _ => data

def children : PropertyTree → List (String × PropertyTree)
  | node _ children => children

/-- A tree without text and children. -/
def empty : PropertyTree := node "" []

/-- The first child with a key. -/
def find (key : String) (children : List (String × PropertyTree)) : Option PropertyTree :=
  (children.find? fun child => child.1 = key).map Prod.snd

/-- `get_child_optional`. -/
def childAt (tree : PropertyTree) : List String → Option PropertyTree
  | [] => some tree
  | key :: path => (find key tree.children).bind fun child => child.childAt path

/-- `get_optional<std::string>`. -/
def dataAt (tree : PropertyTree) (path : List String) : Option String :=
  (tree.childAt path).map data

/-- Changes the first child with a key, which is appended when there is none. -/
def changeFirst (key : String) (change : PropertyTree → PropertyTree) :
    List (String × PropertyTree) → List (String × PropertyTree)
  | [] => [(key, change empty)]
  | (other, child) :: rest =>
      if other = key then (other, change child) :: rest
      else (other, child) :: changeFirst key change rest

/-- `put`. -/
def put (value : String) : List String → PropertyTree → PropertyTree
  | [], tree => node value tree.children
  | key :: path, tree => node tree.data (changeFirst key (put value path) tree.children)

/-! ## Reading what was put -/

theorem find_nil (key : String) : find key [] = none := rfl

theorem find_cons (key other : String) (child : PropertyTree)
    (rest : List (String × PropertyTree)) :
    find key ((other, child) :: rest) = if other = key then some child else find key rest := by
  unfold find
  by_cases same : other = key
  · rw [List.find?_cons_of_pos (by simpa using same), if_pos same]
    rfl
  · rw [List.find?_cons_of_neg (by simpa using same), if_neg same]

theorem find_eq_none_iff {key : String} {children : List (String × PropertyTree)} :
    find key children = none ↔ ∀ child ∈ children, child.1 ≠ key := by
  rw [find, Option.map_eq_none_iff, List.find?_eq_none]
  simp

theorem find_changeFirst_self (key : String) (change : PropertyTree → PropertyTree)
    (children : List (String × PropertyTree)) :
    find key (changeFirst key change children) =
      some (change ((find key children).getD empty)) := by
  induction children with
  | nil =>
    rw [changeFirst, find_cons, if_pos rfl]
    rfl
  | cons child rest ih =>
    obtain ⟨other, child⟩ := child
    rw [changeFirst, find_cons]
    by_cases same : other = key
    · rw [if_pos same, if_pos same, find_cons, if_pos same]
      rfl
    · rw [if_neg same, if_neg same, find_cons, if_neg same, ih]

theorem find_changeFirst_of_ne {key asked : String} (different : asked ≠ key)
    (change : PropertyTree → PropertyTree) (children : List (String × PropertyTree)) :
    find asked (changeFirst key change children) = find asked children := by
  induction children with
  | nil =>
    rw [changeFirst, find_cons, if_neg different.symm, find_nil]
  | cons child rest ih =>
    obtain ⟨other, child⟩ := child
    rw [changeFirst]
    by_cases same : other = key
    · rw [if_pos same, find_cons, find_cons, same, if_neg different.symm, if_neg different.symm]
    · rw [if_neg same, find_cons, find_cons, ih]

@[simp]
theorem dataAt_put_self (value : String) (path : List String) (tree : PropertyTree) :
    (put value path tree).dataAt path = some value := by
  induction path generalizing tree with
  | nil => rfl
  | cons key path ih =>
    have below := ih ((find key tree.children).getD empty)
    unfold dataAt at below ⊢
    rw [put, childAt, children, find_changeFirst_self, Option.bind_some]
    exact below

/-- A node that is not there has no text and no children. -/
theorem dataAt_empty_of_ne_nil {path : List String} (nonempty : path ≠ []) :
    empty.dataAt path = none := by
  cases path with
  | nil => exact absurd rfl nonempty
  | cons key path => rfl

/-- **`put` leaves the text of a node alone that is not on its way.** -/
theorem dataAt_put_of_not_prefix {value : String} {path asked : List String}
    (elsewhere : ¬ asked <+: path) (tree : PropertyTree) :
    (put value path tree).dataAt asked = tree.dataAt asked := by
  induction path generalizing asked tree with
  | nil =>
    cases asked with
    | nil => exact absurd List.nil_prefix elsewhere
    | cons key asked => rfl
  | cons key path ih =>
    cases asked with
    | nil => exact absurd List.nil_prefix elsewhere
    | cons askedKey asked =>
      unfold dataAt
      rw [put, childAt, childAt, children]
      by_cases same : askedKey = key
      · subst same
        have below : ¬ asked <+: path := by
          intro inside
          exact elsewhere (List.cons_prefix_cons.mpr ⟨rfl, inside⟩)
        have nonempty : asked ≠ [] := by
          intro none
          subst none
          exact below List.nil_prefix
        rw [find_changeFirst_self, Option.bind_some]
        change (put value path _).dataAt asked = _
        rw [ih below]
        cases find askedKey tree.children with
        | none => exact dataAt_empty_of_ne_nil nonempty
        | some child => rfl
      · rw [find_changeFirst_of_ne same]

/-- **`put` leaves every other text alone that is there.** -/
theorem dataAt_put_of_ne {value found : String} {path asked : List String}
    (different : asked ≠ path) {tree : PropertyTree} (given : tree.dataAt asked = some found) :
    (put value path tree).dataAt asked = some found := by
  induction path generalizing asked tree with
  | nil =>
    cases asked with
    | nil => exact absurd rfl different
    | cons key asked => exact given
  | cons key path ih =>
    cases asked with
    | nil => exact given
    | cons askedKey asked =>
      unfold dataAt at given ⊢
      rw [put, childAt, children]
      rw [childAt] at given
      by_cases same : askedKey = key
      · subst same
        rw [find_changeFirst_self, Option.bind_some]
        cases first : find askedKey tree.children with
        | none =>
          rw [first] at given
          cases given
        | some child =>
          rw [first] at given
          exact ih (fun paths => different (congrArg _ paths)) given
      · rw [find_changeFirst_of_ne same]
        exact given

theorem changeFirst_eq_self {key : String} {change : PropertyTree → PropertyTree}
    {children : List (String × PropertyTree)} {child : PropertyTree}
    (first : find key children = some child) (unchanged : change child = child) :
    changeFirst key change children = children := by
  induction children with
  | nil =>
    rw [find_nil] at first
    cases first
  | cons head rest ih =>
    obtain ⟨other, head⟩ := head
    rw [find_cons] at first
    rw [changeFirst]
    by_cases same : other = key
    · rw [if_pos same] at first
      cases first
      rw [if_pos same, unchanged]
    · rw [if_neg same] at first
      rw [if_neg same, ih first]

/-- Nothing changes when a node is given the text that it has. -/
theorem put_eq_self {value : String} {path : List String} {tree : PropertyTree}
    (given : tree.dataAt path = some value) : put value path tree = tree := by
  induction path generalizing tree with
  | nil =>
    obtain ⟨data, children⟩ := tree
    cases given
    rfl
  | cons key path ih =>
    obtain ⟨data, children⟩ := tree
    unfold dataAt at given
    rw [childAt] at given
    cases first : find key children with
    | none =>
      rw [PropertyTree.children, first] at given
      cases given
    | some child =>
      rw [PropertyTree.children, first, Option.bind_some] at given
      rw [put, PropertyTree.children, changeFirst_eq_self first (ih given)]
      rfl

/-! ## Setting several texts -/

/-- Sets a text, if it is missing or texts are to be overwritten. -/
def setText (overwrite : Bool) (tree : PropertyTree) (write : List String × String) :
    PropertyTree :=
  if overwrite || (tree.dataAt write.1).isNone then tree.put write.2 write.1 else tree

def setTexts (overwrite : Bool) (writes : List (List String × String)) (tree : PropertyTree) :
    PropertyTree :=
  writes.foldl (setText overwrite) tree

/-- Which of two texts a node has in the end: the one that is set, or its own. -/
def prevailing (overwrite : Bool) (value : String) (own : Option String) : Option String :=
  if overwrite = true ∨ own = none then some value else own

theorem prevailing_prevailing (overwrite : Bool) (value : String) (own : Option String) :
    prevailing overwrite value (prevailing overwrite value own) =
      prevailing overwrite value own := by
  unfold prevailing
  split_ifs <;> rfl

/-- Of the nodes that are written none lies below another one. -/
def Apart (writes : List (List String × String)) : Prop :=
  ∀ write ∈ writes, ∀ other ∈ writes, write.1 <+: other.1 → write = other

section Writes

variable {overwrite : Bool} {path : List String} {value : String}
variable {writes : List (List String × String)}

theorem dataAt_setText_self (overwrite : Bool) (path : List String) (value : String)
    (tree : PropertyTree) :
    (setText overwrite tree (path, value)).dataAt path =
      prevailing overwrite value (tree.dataAt path) := by
  unfold setText prevailing
  cases own : tree.dataAt path <;> cases overwrite <;> simp [own]

theorem dataAt_setText_of_elsewhere {write : List String × String}
    (elsewhere : ¬ path <+: write.1) (tree : PropertyTree) :
    (setText overwrite tree write).dataAt path = tree.dataAt path := by
  unfold setText
  split_ifs
  · exact dataAt_put_of_not_prefix elsewhere tree
  · rfl

theorem dataAt_setText_of_ne {write : List String × String} (different : path ≠ write.1)
    {tree : PropertyTree} (given : tree.dataAt path = some value) :
    (setText overwrite tree write).dataAt path = some value := by
  unfold setText
  split_ifs
  · exact dataAt_put_of_ne different given
  · exact given

/-- A text stays that prevails already. -/
theorem setText_eq_self {write : List String × String} {tree : PropertyTree}
    (settled : tree.dataAt write.1 = prevailing overwrite write.2 (tree.dataAt write.1)) :
    setText overwrite tree write = tree := by
  unfold setText
  unfold prevailing at settled
  split_ifs with set
  · rw [Bool.or_eq_true, Option.isNone_iff_eq_none] at set
    rw [if_pos set] at settled
    exact put_eq_self settled
  · rfl

theorem dataAt_setTexts_of_elsewhere (elsewhere : ∀ write ∈ writes, ¬ path <+: write.1)
    (tree : PropertyTree) : (setTexts overwrite writes tree).dataAt path = tree.dataAt path := by
  induction writes generalizing tree with
  | nil => rfl
  | cons write writes ih =>
    obtain ⟨first, later⟩ := List.forall_mem_cons.mp elsewhere
    rw [setTexts, List.foldl_cons]
    exact (ih later _).trans (dataAt_setText_of_elsewhere first tree)

/-- **A text that is not one of those to be set stays.** -/
theorem dataAt_setTexts_of_ne (different : ∀ write ∈ writes, path ≠ write.1)
    {tree : PropertyTree} (given : tree.dataAt path = some value) :
    (setTexts overwrite writes tree).dataAt path = some value := by
  induction writes generalizing tree with
  | nil => exact given
  | cons write writes ih =>
    obtain ⟨first, later⟩ := List.forall_mem_cons.mp different
    exact ih later (dataAt_setText_of_ne first given)

theorem Apart.tail {write : List String × String} (apart : Apart (write :: writes)) :
    Apart writes :=
  fun first member second among =>
    apart first (List.mem_cons_of_mem _ member) second (List.mem_cons_of_mem _ among)

/-- **Of the texts to be set those prevail that are missing or overwritten.** What was set
before them makes nodes on the way to them, and none of them. -/
theorem dataAt_setTexts (apart : Apart writes) (member : (path, value) ∈ writes)
    (tree : PropertyTree) :
    (setTexts overwrite writes tree).dataAt path =
      prevailing overwrite value (tree.dataAt path) := by
  induction writes generalizing tree with
  | nil => cases member
  | cons write writes ih =>
    rw [setTexts, List.foldl_cons]
    change (setTexts overwrite writes _).dataAt path = _
    have below : ∀ other ∈ write :: writes, path <+: other.1 → (path, value) = other :=
      fun other among inside => apart _ member _ among inside
    by_cases same : (path, value) = write
    · subst same
      by_cases again : (path, value) ∈ writes
      · rw [ih apart.tail again, dataAt_setText_self, prevailing_prevailing]
      · have elsewhere : ∀ other ∈ writes, ¬ path <+: other.1 := by
          intro other among inside
          rw [below other (List.mem_cons_of_mem _ among) inside] at again
          exact again among
        rw [dataAt_setTexts_of_elsewhere elsewhere, dataAt_setText_self]
    · have among : (path, value) ∈ writes := List.mem_of_ne_of_mem same member
      have elsewhere : ¬ path <+: write.1 :=
        fun inside => same (below write List.mem_cons_self inside)
      rw [ih apart.tail among, dataAt_setText_of_elsewhere elsewhere]

theorem setTexts_eq_self {tree : PropertyTree}
    (settled : ∀ write ∈ writes, setText overwrite tree write = tree) :
    setTexts overwrite writes tree = tree := by
  induction writes with
  | nil => rfl
  | cons write writes ih =>
    obtain ⟨first, later⟩ := List.forall_mem_cons.mp settled
    rw [setTexts, List.foldl_cons, first]
    exact ih later

/-- **Nothing changes when the texts are set once more.** -/
theorem setTexts_setTexts (apart : Apart writes) (tree : PropertyTree) :
    setTexts overwrite writes (setTexts overwrite writes tree) =
      setTexts overwrite writes tree := by
  have settled : ∀ write ∈ writes,
      setText overwrite (setTexts overwrite writes tree) write =
        setTexts overwrite writes tree := by
    rintro ⟨path, value⟩ member
    apply setText_eq_self
    rw [dataAt_setTexts apart member, prevailing_prevailing]
  exact setTexts_eq_self settled

end Writes

end PropertyTree

end AthabascaRecon

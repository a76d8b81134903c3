import AthabascaRecon.Foundation.PropertyTree
import AthabascaRecon.Foundation.Strings

/-!
# Merging property trees

`merge` goes through the nodes of a tree and sets the texts of its leaves in another tree.
It carries the keys on the way as one text with a dot after every key, and each leaf is read
and put through such a text from the root. The leaves of a tree whose keys are apart do not
lie below each other, so that `merge` is a sequence of texts to set that do not get in each
other's way (`merge_eq_setTexts`).
-/

set_option autoImplicit false

namespace AthabascaRecon

namespace PropertyTree

/-! ## Paths -/

/-- `string_path::reduce`: the first key of a path, and what is left of the path. -/
def reduce (path : Text) : Text × Text :=
  (path.takeWhile (· ≠ '.'), (path.dropWhile (· ≠ '.')).tail)

theorem length_reduce_lt {path : Text} (some : path ≠ []) :
    (reduce path).2.length < path.length := by
  have shorter := (List.dropWhile_sublist (l := path) (· ≠ '.')).length_le
  have positive := List.length_pos_of_ne_nil some
  rw [reduce, List.length_tail]
  omega

/-- The keys to which a path is reduced. A dot at the end is not followed by a key. -/
def reducedKeys (path : Text) : List String :=
  if path = [] then [] else String.ofList (reduce path).1 :: reducedKeys (reduce path).2
termination_by path.length
decreasing_by exact length_reduce_lt ‹_›

/-- The keys of a path. -/
def pathKeys (path : String) : List String :=
  reducedKeys path.toList

/-- A key that is a piece of a path: it is not empty and has no dots. -/
def PlainKey (key : String) : Prop :=
  key ≠ "" ∧ '.' ∉ key.toList

instance (key : String) : Decidable (PlainKey key) :=
  inferInstanceAs (Decidable (_ ∧ _))

/-- `get_optional<std::string>`, at a path. -/
def getOptional (tree : PropertyTree) (path : String) : Option String :=
  tree.dataAt (pathKeys path)

theorem reducedKeys_of_plain {key : Text} (some : key ≠ []) (plain : '.' ∉ key) :
    reducedKeys key = [String.ofList key] := by
  have inside := forall_ne_of_not_mem plain
  have first : reduce key = (key, []) := by
    rw [reduce, List.takeWhile_eq_self_iff.mpr inside, List.dropWhile_eq_nil_iff.mpr inside]
    rfl
  rw [reducedKeys, if_neg some, first, reducedKeys, if_pos rfl]

theorem reducedKeys_append_dot {key : Text} (plain : '.' ∉ key) (rest : Text) :
    reducedKeys (key ++ '.' :: rest) = String.ofList key :: reducedKeys rest := by
  have first : reduce (key ++ '.' :: rest) = (key, rest) := by
    rw [reduce, takeWhile_ne_append_cons plain, dropWhile_ne_append_cons plain]
    rfl
  rw [reducedKeys, if_neg (by simp), first]

/-- A text that leads through some keys: what is appended to it is a path from there. -/
def LeadsThrough (parentKeys : String) (parents : List String) : Prop :=
  ∀ rest, pathKeys (parentKeys ++ rest) = parents ++ pathKeys rest

theorem leadsThrough_nil : LeadsThrough "" [] := by
  intro rest
  rw [String.empty_append, List.nil_append]

theorem LeadsThrough.append_dot {parentKeys key : String} {parents : List String}
    (leads : LeadsThrough parentKeys parents) (plain : PlainKey key) :
    LeadsThrough (parentKeys ++ key ++ ".") (parents ++ [key]) := by
  intro rest
  have dotted : (key ++ ("." ++ rest)).toList = key.toList ++ '.' :: rest.toList := by
    rw [String.toList_append, String.toList_append]
    rfl
  rw [String.append_assoc, String.append_assoc, leads, pathKeys, dotted,
    reducedKeys_append_dot plain.2, String.ofList_toList, List.append_assoc]
  rfl

theorem LeadsThrough.pathKeys_append {parentKeys key : String} {parents : List String}
    (leads : LeadsThrough parentKeys parents) (plain : PlainKey key) :
    pathKeys (parentKeys ++ key) = parents ++ [key] := by
  have some : key.toList ≠ [] := by
    intro none
    exact plain.1 (String.toList_eq_nil_iff.mp none)
  rw [leads, pathKeys, reducedKeys_of_plain some plain.2, String.ofList_toList]

/-! ## Merging -/

/-- `merge`, of the children of a tree that the parent keys lead to. -/
def mergeInto (overwrite : Bool) (parentKeys : String) :
    List (String × PropertyTree) → PropertyTree → PropertyTree
  | [], a => a
  | (key, .node value children) :: rest, a =>
    if children.isEmpty then
      let key := parentKeys ++ key
      let exist := a.getOptional key
      mergeInto overwrite parentKeys rest
        (if overwrite || exist.isNone then a.put value (pathKeys key) else a)
    else
      mergeInto overwrite parentKeys rest
        (mergeInto overwrite (parentKeys ++ key ++ ".") children a)

/-- `merge`, of the second tree into the first one. -/
def merge (a b : PropertyTree) (overwrite : Bool) : PropertyTree :=
  mergeInto overwrite "" b.children a

/-! ## Leaves -/

/-- Children whose keys are apart, not empty and without dots, at every depth. -/
inductive PlainChildren : List (String × PropertyTree) → Prop
  | nil : PlainChildren []
  | cons {key value : String} {children rest : List (String × PropertyTree)}
      (plainKey : PlainKey key) (apart : ∀ sibling ∈ rest, sibling.1 ≠ key)
      (below : PlainChildren children) (later : PlainChildren rest) :
      PlainChildren ((key, node value children) :: rest)

/-- A tree in which no two siblings have one key, and no key is empty or has a dot. -/
def Plain (tree : PropertyTree) : Prop :=
  PlainChildren tree.children

theorem sizeOf_siblings_lt (child : String × PropertyTree) (rest : List (String × PropertyTree)) :
    sizeOf rest < sizeOf (child :: rest) := by
  rw [List.cons.sizeOf_spec]
  omega

theorem sizeOf_children_lt (key value : String) (children rest : List (String × PropertyTree)) :
    sizeOf children < sizeOf ((key, node value children) :: rest) := by
  rw [List.cons.sizeOf_spec, Prod.mk.sizeOf_spec, node.sizeOf_spec]
  omega

/-- The leaves below some keys, with their texts. -/
def leaves (parents : List String) : List (String × PropertyTree) → List (List String × String)
  | [] => []
  | (key, .node value children) :: rest =>
    if children.isEmpty then (parents ++ [key], value) :: leaves parents rest
    else leaves (parents ++ [key]) children ++ leaves parents rest
termination_by children => sizeOf children
decreasing_by
  · exact sizeOf_siblings_lt _ rest
  · exact sizeOf_children_lt key value children rest
  · exact sizeOf_siblings_lt _ rest

/-- A path with a key leads to a node without children. -/
def LeafAt (tree : PropertyTree) (path : List String) (value : String) : Prop :=
  path ≠ [] ∧ tree.childAt path = some (node value [])

/-- A leaf of a tree, by its path. The root of the tree has no key, and is none. -/
def HasLeaf (tree : PropertyTree) (path value : String) : Prop :=
  tree.LeafAt (pathKeys path) value

/-- **`merge` sets the texts of the leaves, one after another.** -/
theorem mergeInto_eq_setTexts {overwrite : Bool} {parentKeys : String} {parents : List String}
    {children : List (String × PropertyTree)} (leads : LeadsThrough parentKeys parents)
    (plain : PlainChildren children) (a : PropertyTree) :
    mergeInto overwrite parentKeys children a =
      setTexts overwrite (leaves parents children) a := by
  induction plain generalizing parentKeys parents a with
  | nil =>
    rw [mergeInto, leaves]
    rfl
  | @cons key value children rest plainKey apart below later below_ih later_ih =>
    rw [mergeInto, leaves]
    split_ifs with leaf
    · rw [later_ih leads, getOptional, leads.pathKeys_append plainKey]
      rfl
    · rw [later_ih leads, below_ih (leads.append_dot plainKey)]
      exact (List.foldl_append ..).symm

theorem merge_eq_setTexts {overwrite : Bool} {a b : PropertyTree} (plain : b.Plain) :
    merge a b overwrite = setTexts overwrite (leaves [] b.children) a :=
  mergeInto_eq_setTexts leadsThrough_nil plain a

/-! ### Which nodes the leaves are -/

section Leaves

variable {key value data : String} {path below : List String}
variable {children rest : List (String × PropertyTree)} {tree child : PropertyTree}

theorem childAt_append (tree : PropertyTree) (path below : List String) :
    tree.childAt (path ++ below) = (tree.childAt path).bind fun node => node.childAt below := by
  induction path generalizing tree with
  | nil => rfl
  | cons key path ih =>
    rw [List.cons_append, childAt, childAt]
    cases find key tree.children with
    | none => rfl
    | some child => exact ih child

/-- There is no node below a leaf. -/
theorem eq_nil_of_childAt_leaf (found : (node data []).childAt path = some child) : path = [] := by
  cases path with
  | nil => rfl
  | cons key path => cases found

theorem childAt_cons_of_ne {other : String} (different : other ≠ key) :
    (node data ((key, child) :: rest)).childAt (other :: path) =
      (node data rest).childAt (other :: path) := by
  rw [childAt, childAt, PropertyTree.children, PropertyTree.children, find_cons,
    if_neg different.symm]

theorem childAt_cons_self :
    (node data ((key, child) :: rest)).childAt (key :: path) = child.childAt path := by
  rw [childAt, PropertyTree.children, find_cons, if_pos rfl, Option.bind_some]

/-- The first key of a path to a leaf is that of a child. -/
theorem LeafAt.exists_cons (leaf : (node data children).LeafAt path value) :
    ∃ child ∈ children, ∃ below, path = child.1 :: below := by
  obtain ⟨some, found⟩ := leaf
  cases path with
  | nil => exact absurd rfl some
  | cons key below =>
    obtain ⟨child, first, -⟩ := Option.bind_eq_some_iff.mp found
    obtain ⟨member, chosen, -⟩ := Option.map_eq_some_iff.mp first
    have same := List.find?_some chosen
    exact ⟨_, List.mem_of_find?_eq_some chosen, below,
      congrArg (· :: below) (of_decide_eq_true same).symm⟩

/-- The leaves of the first child and of the others. -/
theorem leafAt_cons_iff (apart : ∀ sibling ∈ rest, sibling.1 ≠ key) :
    (node data ((key, child) :: rest)).LeafAt path value ↔
      (∃ below, path = key :: below ∧ child.childAt below = some (node value [])) ∨
        (node data rest).LeafAt path value := by
  constructor
  · rintro ⟨some, found⟩
    cases path with
    | nil => exact absurd rfl some
    | cons first below =>
      by_cases same : first = key
      · subst same
        rw [childAt_cons_self] at found
        exact .inl ⟨below, rfl, found⟩
      · rw [childAt_cons_of_ne same] at found
        exact .inr ⟨some, found⟩
  · rintro (⟨below, rfl, found⟩ | leaf)
    · exact ⟨List.cons_ne_nil _ _, childAt_cons_self.trans found⟩
    · obtain ⟨sibling, member, below, rfl⟩ := leaf.exists_cons
      exact ⟨leaf.1, (childAt_cons_of_ne (apart sibling member)).trans leaf.2⟩

theorem mem_leaves_iff (plain : PlainChildren children) (data : String) (parents : List String) :
    (path, value) ∈ leaves parents children ↔
      ∃ below, path = parents ++ below ∧ (node data children).LeafAt below value := by
  induction plain generalizing parents data with
  | nil =>
    rw [leaves]
    constructor
    · exact fun member => absurd member List.not_mem_nil
    · rintro ⟨below, -, leaf⟩
      exact absurd (eq_nil_of_childAt_leaf leaf.2) leaf.1
  | @cons key found children rest plainKey apart below later below_ih later_ih =>
    simp only [leafAt_cons_iff apart, and_or_left, exists_or]
    rw [leaves]
    split_ifs with leaf
    · rw [List.mem_cons, later_ih data parents]
      refine or_congr_left ?_
      rw [List.isEmpty_iff] at leaf
      subst leaf
      constructor
      · rintro ⟨⟩
        exact ⟨[key], rfl, [], rfl, rfl⟩
      · rintro ⟨-, rfl, path, rfl, child⟩
        obtain rfl := eq_nil_of_childAt_leaf child
        cases child
        rfl
    · rw [List.mem_append, later_ih data parents,
        below_ih found (parents ++ [key])]
      refine or_congr_left ?_
      constructor
      · rintro ⟨path, rfl, child⟩
        exact ⟨key :: path, List.append_cons .. |>.symm, path, rfl, child.2⟩
      · rintro ⟨-, rfl, path, rfl, child⟩
        refine ⟨path, List.append_cons .., ?_, child⟩
        rintro rfl
        cases child
        exact leaf rfl

/-- The leaves of a plain tree are those that paths lead to. -/
theorem Plain.mem_leaves_iff (plain : tree.Plain) :
    (path, value) ∈ leaves [] tree.children ↔ tree.LeafAt path value := by
  obtain ⟨data, children⟩ := tree
  rw [PropertyTree.mem_leaves_iff plain data]
  simp [PropertyTree.children]

/-- No leaf lies below another one. -/
theorem Plain.apart_leaves (plain : tree.Plain) : Apart (leaves [] tree.children) := by
  rintro ⟨path, value⟩ member ⟨other, text⟩ among ⟨below, rfl⟩
  have first := (plain.mem_leaves_iff.mp member).2
  have second := (plain.mem_leaves_iff.mp among).2
  rw [childAt_append, first, Option.bind_some] at second
  obtain rfl := eq_nil_of_childAt_leaf second
  cases second
  rw [List.append_nil]

end Leaves

/-! ## Plain trees

Trees are plain that are made by putting texts at paths of plain keys.
-/

section Plain

variable {key : String} {change : PropertyTree → PropertyTree}
variable {children : List (String × PropertyTree)} {child tree : PropertyTree}

theorem plain_empty : empty.Plain := .nil

theorem PlainChildren.cons_of_plain (plainKey : PlainKey key)
    (apart : ∀ sibling ∈ children, sibling.1 ≠ key) (below : child.Plain)
    (later : PlainChildren children) : PlainChildren ((key, child) :: children) := by
  obtain ⟨data, grandchildren⟩ := child
  exact .cons plainKey apart below later

theorem key_of_mem_changeFirst {sibling : String × PropertyTree}
    (member : sibling ∈ changeFirst key change children) :
    sibling.1 = key ∨ ∃ other ∈ children, other.1 = sibling.1 := by
  induction children with
  | nil =>
    rw [changeFirst, List.mem_singleton] at member
    exact .inl (congrArg Prod.fst member)
  | cons head rest ih =>
    rw [changeFirst] at member
    split_ifs at member with same
    · rcases List.mem_cons.mp member with rfl | later
      · exact .inl same
      · exact .inr ⟨sibling, List.mem_cons_of_mem _ later, rfl⟩
    · rcases List.mem_cons.mp member with rfl | later
      · exact .inr ⟨_, List.mem_cons_self, rfl⟩
      · rcases ih later with own | ⟨other, among, same⟩
        · exact .inl own
        · exact .inr ⟨other, List.mem_cons_of_mem _ among, same⟩

theorem PlainChildren.changeFirst (changed : PlainKey key)
    (keeps : ∀ child : PropertyTree, child.Plain → (change child).Plain)
    (plain : PlainChildren children) :
    PlainChildren (PropertyTree.changeFirst key change children) := by
  induction plain with
  | nil =>
    exact .cons_of_plain changed (List.forall_mem_nil _) (keeps _ plain_empty) .nil
  | @cons other value grandchildren rest plainKey apart below later below_ih later_ih =>
    rw [PropertyTree.changeFirst]
    split_ifs with same
    · exact .cons_of_plain plainKey apart (keeps _ below) later
    · refine .cons plainKey ?_ below later_ih
      intro sibling member
      rcases key_of_mem_changeFirst member with own | ⟨sibling_before, among, same_key⟩
      · exact fun sibling_key => same (sibling_key.symm.trans own)
      · exact same_key ▸ apart sibling_before among

theorem Plain.put {path : List String} (keys : ∀ key ∈ path, PlainKey key) (value : String)
    (plain : tree.Plain) : (put value path tree).Plain := by
  induction path generalizing tree with
  | nil => exact plain
  | cons key path ih =>
    obtain ⟨first, later⟩ := List.forall_mem_cons.mp keys
    exact plain.changeFirst first fun child below => ih later below

end Plain

/-! ## Precedence -/

section Precedence

variable {a b : PropertyTree}

/-- **What a merge leaves at every path**: at a leaf of the second tree its text, where it
overwrites or the first tree has no node, and elsewhere the text of the first tree. Merging the
same tree again changes nothing. -/
theorem merge_precedence (overwrite : Bool) (plain : b.Plain) :
    (∀ path value, b.HasLeaf path value → (merge a b overwrite).getOptional path =
      if overwrite = true ∨ a.getOptional path = none then some value
      else a.getOptional path) ∧
    (∀ path data, (∀ value, ¬ b.HasLeaf path value) → a.getOptional path = some data →
      (merge a b overwrite).getOptional path = some data) ∧
    merge (merge a b overwrite) b overwrite = merge a b overwrite := by
  rw [merge_eq_setTexts plain, merge_eq_setTexts plain]
  refine ⟨?_, ?_, setTexts_setTexts plain.apart_leaves a⟩
  · intro path value leaf
    exact dataAt_setTexts plain.apart_leaves (plain.mem_leaves_iff.mpr leaf) a
  · intro path data other given
    refine dataAt_setTexts_of_ne ?_ given
    rintro ⟨leafPath, value⟩ member same
    apply other value
    rw [HasLeaf, same]
    exact plain.mem_leaves_iff.mp member

theorem merge_precedence_subtree :
    let a := node "" [("Some String", node "42 and a lot" []),
      ("A subtree", node "" [("Some Integer", node "41" [])])]
    let b := node "" [("Some String", node "42 and a bit" []),
      ("A subtree", node "" [("Some Integer", node "42" []),
        ("Some Other Integer", node "43" [])])]
    (∀ path value, b.HasLeaf path value → (merge a b false).getOptional path =
      if false = true ∨ a.getOptional path = none then some value
      else a.getOptional path) ∧
    (∀ path data, (∀ value, ¬ b.HasLeaf path value) → a.getOptional path = some data →
      (merge a b false).getOptional path = some data) ∧
    merge (merge a b false) b false = merge a b false := by
  refine merge_precedence false ?_
  exact .cons (by decide) (by decide) .nil
    (.cons (by decide) (List.forall_mem_nil _)
      (.cons (by decide) (by decide) .nil
        (.cons (by decide) (List.forall_mem_nil _) .nil .nil)) .nil)

end Precedence

end PropertyTree

end AthabascaRecon

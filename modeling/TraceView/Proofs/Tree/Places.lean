import Mathlib.Data.List.Find
import TraceView.Proofs.Tree.Building
import TraceView.Proofs.Tree.Shown
import TraceView.Tree.Edit

namespace TraceView.Node

/-!
# Places in a tree

A node is reached from above by a path of names.  Putting another node at the end of a path changes
only the nodes on the way, and of these only what hangs below the last child: each of them keeps its
face, which is all that it holds itself with the names and the marks of its children.
-/

/-! ## Induction on the children -/

/-- A property that a node has as soon as all its children have it. -/
abbrev Ascends (holds : Node -> Prop) : Prop :=
  forall node : Node, (forall child, child ∈ node.children -> holds child) -> holds node

mutual

theorem forall_of_children {holds : Node -> Prop} (step : Ascends holds) :
    forall node : Node, holds node
  | ⟨_, _, _, _, _, _, _, _, children⟩ => step _ (forall_of_siblings step children)

theorem forall_of_siblings {holds : Node -> Prop} (step : Ascends holds) :
    forall nodes : List Node, forall node, node ∈ nodes -> holds node
  | [] => fun _ impossible => nomatch impossible
  | node :: rest =>
      List.forall_mem_cons.mpr ⟨forall_of_children step node, forall_of_siblings step rest⟩

end

/-- Induction on the children of a node. -/
@[elab_as_elim] theorem induction_on_children {motive : Node -> Prop}
    (step : forall node : Node, (forall child, child ∈ node.children -> motive child) ->
      motive node) (node : Node) : motive node :=
  forall_of_children step node

/-! ## The nodes of a tree -/

/-- The node is in a tree, but not as its root. -/
def Below (node tree : Node) : Prop :=
  Exists fun child : Node => child ∈ tree.children ∧ node ∈ child.walk

/-- The nodes of a tree are its root and those below. -/
theorem mem_walk_iff {node tree : Node} :
    node ∈ tree.walk ↔ node = tree ∨ node.Below tree := by
  rcases tree with ⟨id, name, value, source, formatter, isRoot, rootId, mark, children⟩
  rw [walk, List.mem_cons, walkAll_eq_flatMap, List.mem_flatMap]
  rfl

theorem mem_walk_self (tree : Node) : tree ∈ tree.walk :=
  mem_walk_iff.mpr (.inl rfl)

theorem Below.mem_walk {node tree : Node} (below : node.Below tree) : node ∈ tree.walk :=
  mem_walk_iff.mpr (.inr below)

theorem mem_walk_of_mem {child tree : Node} (listed : child ∈ tree.children) :
    child ∈ tree.walk :=
  Below.mem_walk ⟨child, listed, mem_walk_self child⟩

/-- What is in a part of a tree is in the tree. -/
theorem mem_walk_trans {node part tree : Node} (inner : node ∈ part.walk)
    (outer : part ∈ tree.walk) : node ∈ tree.walk := by
  induction tree using induction_on_children with
  | step tree inductionHypothesis =>
      rcases mem_walk_iff.mp outer with same | ⟨child, listed, below⟩
      · rw [← same]
        exact inner
      · exact Below.mem_walk ⟨child, listed, inductionHypothesis child listed below⟩

/-- What is below a part of a tree is below its root. -/
theorem Below.trans {node part tree : Node} (inner : node.Below part) (outer : part ∈ tree.walk) :
    node.Below tree := by
  rcases mem_walk_iff.mp outer with same | ⟨child, listed, below⟩
  · rw [← same]
    exact inner
  · exact ⟨child, listed, mem_walk_trans inner.mem_walk below⟩

/-- A child has fewer nodes than its parent. -/
theorem length_walk_child {child tree : Node} (listed : child ∈ tree.children) :
    child.walk.length < tree.walk.length := by
  rcases tree with ⟨id, name, value, source, formatter, isRoot, rootId, mark, children⟩
  have within : child.walk.length ≤ (walkAll children).length := by
    rw [walkAll_eq_flatMap]
    exact (List.sublist_flatten_of_mem (List.mem_map_of_mem listed)).length_le
  rw [walk, List.length_cons]
  exact Nat.lt_succ_of_le within

/-- A part has no more nodes than the tree. -/
theorem length_walk_le {part tree : Node} (inside : part ∈ tree.walk) :
    part.walk.length ≤ tree.walk.length := by
  induction tree using induction_on_children with
  | step tree inductionHypothesis =>
      rcases mem_walk_iff.mp inside with same | ⟨child, listed, below⟩
      · exact Nat.le_of_eq (congrArg (fun node => node.walk.length) same)
      · exact Nat.le_trans (inductionHypothesis child listed below)
          (Nat.le_of_lt (length_walk_child listed))

/-- No tree is below itself. -/
theorem not_below_self (tree : Node) : ¬ tree.Below tree := by
  rintro ⟨child, listed, inside⟩
  exact Nat.lt_irrefl _ (Nat.lt_of_le_of_lt (length_walk_le inside) (length_walk_child listed))

theorem Everywhere.part {holds : Value -> Prop} {tree part : Node} (everywhere : tree.Everywhere holds)
    (inside : part ∈ tree.walk) : part.Everywhere holds :=
  fun _ member => everywhere _ (mem_walk_trans member inside)

/-- A mark is not a value. -/
theorem Everywhere.marked {holds : Value -> Prop} {tree : Node} (everywhere : tree.Everywhere holds)
    (mark : Option Nat) : ({ tree with mark := mark } : Node).Everywhere holds := by
  rcases everywhere_iff.mp everywhere with ⟨here, below⟩
  exact everywhere_iff.mpr ⟨here, below⟩

/-! ## Different names -/

/-- A tree in which no two children of a node have one name. -/
def Distinct (tree : Node) : Prop :=
  forall node, node ∈ tree.walk -> node.childNames.Nodup

theorem Distinct.here {tree : Node} (distinct : tree.Distinct) : tree.childNames.Nodup :=
  distinct tree (mem_walk_self tree)

theorem Distinct.part {part tree : Node} (distinct : tree.Distinct) (inside : part ∈ tree.walk) :
    part.Distinct :=
  fun _ member => distinct _ (mem_walk_trans member inside)

theorem name_of_stored? {node child : Node} {name : String}
    (found : node.stored? name = some child) : child.name = name := by
  unfold stored? at found
  have called := List.find?_some found
  exact beq_iff_eq.mp called

/-- What is stored under a name is a child of that name. -/
theorem stored?_eq_some_iff {node child : Node} {name : String} (distinct : node.childNames.Nodup) :
    node.stored? name = some child ↔ child ∈ node.children ∧ child.name = name := by
  constructor
  · intro found
    exact ⟨List.mem_of_find?_eq_some found, name_of_stored? found⟩
  · rintro ⟨listed, called⟩
    rw [← called]
    exact stored?_of_mem distinct listed

/-! ## The face of a node -/

/-- What a node holds itself, and the names and marks of its children. -/
def face (node : Node) : Node × List (String × Option Nat) :=
  ({ node with children := [] }, node.children.map fun child => (child.name, child.mark))

theorem childNames_eq_of_face {node other : Node} (same : node.face = other.face) :
    node.childNames = other.childNames := by
  have pairs := congrArg (List.map Prod.fst) (congrArg Prod.snd same)
  simp only [face, List.map_map] at pairs
  exact pairs

/-- Nodes with one face have children with one mark under each name. -/
theorem mark_stored?_of_face {node other : Node} (same : node.face = other.face) (name : String) :
    (node.stored? name).map Node.mark = (other.stored? name).map Node.mark := by
  have shown : forall shownNode : Node, (shownNode.stored? name).map Node.mark =
      (shownNode.face.2.find? fun pair => pair.1 == name).map Prod.snd := by
    intro shownNode
    rw [face, List.find?_map, Option.map_map]
    rfl
  rw [shown, shown, same]

/-! ## Paths without marks -/

/-- The node at the end of a path of names, if no node on the path but the first has a mark. -/
def own? (node : Node) : List String -> Option Node
  | [] => some node
  | name :: rest =>
    ((node.stored? name).filter fun child => child.mark.isNone).bind fun child => child.own? rest

theorem own?_cons_eq_some_iff {node last : Node} {name : String} {rest : List String} :
    node.own? (name :: rest) = some last ↔
      Exists fun child : Node =>
        node.stored? name = some child ∧ child.mark = none ∧ child.own? rest = some last := by
  simp only [own?, Option.bind_eq_some_iff, Option.filter_eq_some_iff, Option.isNone_iff_eq_none,
    and_assoc]

theorem own?_append (node : Node) (path rest : List String) :
    node.own? (path ++ rest) = (node.own? path).bind fun last => last.own? rest := by
  induction path generalizing node with
  | nil => rfl
  | cons name more inductionHypothesis =>
      simp only [List.cons_append, own?, Option.bind_assoc, inductionHypothesis]

theorem at?_append (node : Node) (path rest : List String) :
    node.at? (path ++ rest) = (node.at? path).bind fun last => last.at? rest := by
  induction path generalizing node with
  | nil => rfl
  | cons name more inductionHypothesis =>
      simp only [List.cons_append, at?, Option.bind_assoc, inductionHypothesis]

/-- A path without marks is a path. -/
theorem at?_of_own? {node last : Node} {path : List String}
    (reached : node.own? path = some last) : node.at? path = some last := by
  induction path generalizing node with
  | nil => exact reached
  | cons name rest inductionHypothesis =>
      rcases own?_cons_eq_some_iff.mp reached with ⟨child, found, _, further⟩
      rw [at?, found]
      exact inductionHypothesis further

/-- A node at the end of a path is in the tree. -/
theorem mem_walk_of_at? {tree last : Node} {path : List String}
    (found : tree.at? path = some last) : last ∈ tree.walk := by
  induction path generalizing tree with
  | nil =>
      cases found
      exact mem_walk_self _
  | cons name rest inductionHypothesis =>
      rw [at?] at found
      rcases Option.bind_eq_some_iff.mp found with ⟨child, stored, further⟩
      exact mem_walk_trans (inductionHypothesis further)
        (mem_walk_of_mem (List.mem_of_find?_eq_some stored))

theorem mem_walk_of_own? {tree last : Node} {path : List String}
    (reached : tree.own? path = some last) : last ∈ tree.walk :=
  mem_walk_of_at? (at?_of_own? reached)

theorem at?_append_of_own? {node last : Node} {path : List String}
    (reached : node.own? path = some last) (rest : List String) :
    node.at? (path ++ rest) = last.at? rest := by
  rw [at?_append, at?_of_own? reached, Option.bind_some]

/-! ## Look-ups -/

section Lookup

variable {node child : Node} {name : String}

theorem isAbsent_eq_false_iff : node.isAbsent = false ↔ node.value ≠ .null ∨ node.children ≠ [] := by
  unfold isAbsent
  rw [Bool.and_eq_false_iff, List.isEmpty_eq_false_iff]
  refine or_congr ?_ Iff.rfl
  cases node.value <;>
    simp only [Value.isNull, ne_eq, reduceCtorEq, not_false_eq_true, not_true_eq_false,
      Bool.true_eq_false, iff_self]

/-- A look-up finds the stored child that is not absent. -/
theorem child?_eq_some_iff :
    node.child? name = some child ↔ node.stored? name = some child ∧ child.isAbsent = false := by
  rw [child?, Option.filter_eq_some_iff, Bool.not_eq_true']

/-- To follow a path is to look up one name after the other. -/
theorem resolve?_eq_foldlM (node : Node) (way : List String) :
    node.resolve? way = way.foldlM child? node := by
  induction way generalizing node with
  | nil => rfl
  | cons name rest inductionHypothesis =>
      rw [resolve?, List.foldlM_cons]
      exact congrArg (Option.bind (node.child? name)) (funext inductionHypothesis)

/-- A path that has a name does not end on an absent node. -/
theorem isAbsent_of_resolve? {way : List String} {last : Node} (long : way ≠ [])
    (found : node.resolve? way = some last) : last.isAbsent = false := by
  induction way generalizing node with
  | nil => exact absurd rfl long
  | cons name rest inductionHypothesis =>
      rw [resolve?] at found
      rcases Option.bind_eq_some_iff.mp found with ⟨next, looked, further⟩
      cases rest with
      | nil =>
          cases further
          exact (child?_eq_some_iff.mp looked).2
      | cons second more => exact inductionHypothesis (List.cons_ne_nil second more) further

/-- What a look-up finds at the end of a path is there. -/
theorem at?_of_resolve? {path : List String} {last : Node}
    (found : node.resolve? path = some last) : node.at? path = some last := by
  induction path generalizing node with
  | nil => exact found
  | cons name rest inductionHypothesis =>
      rw [resolve?] at found
      rcases Option.bind_eq_some_iff.mp found with ⟨next, looked, further⟩
      rw [at?, (child?_eq_some_iff.mp looked).1]
      exact inductionHypothesis further

theorem mem_walk_of_resolve? {path : List String} {last : Node}
    (found : node.resolve? path = some last) : last ∈ node.walk :=
  mem_walk_of_at? (at?_of_resolve? found)

end Lookup

/-! ## Another node at the end of a path -/

/-- A node that takes the place of another one: it has the same name and the same mark. -/
structure Replaces (new old : Node) : Prop where
  name : new.name = old.name
  mark : new.mark = old.mark

section Replacement

variable {tree old new : Node} {path : List String}

/-- The children of a node on the way, after the replacement below the one that has the name. -/
theorem children_replaceAt (name : String) (rest : List String) :
    (tree.replaceAt new (name :: rest)).children =
      tree.children.map fun child =>
        if child.name == name then child.replaceAt new rest else child :=
  rfl

/-- The root of a changed tree takes the place of what it was. -/
theorem replaces_replaceAt (fits : new.Replaces old) (reached : tree.own? path = some old) :
    (tree.replaceAt new path).Replaces tree := by
  cases path with
  | nil =>
      cases reached
      exact fits
  | cons name rest => exact ⟨rfl, rfl⟩

/-- On the way to the replacement, the changed child takes the place of the child, and all other
children stay. -/
theorem replaces_child (fits : new.Replaces old) (distinct : tree.childNames.Nodup)
    {name : String} {rest : List String} (reached : tree.own? (name :: rest) = some old)
    {child : Node} (listed : child ∈ tree.children) :
    (if child.name == name then child.replaceAt new rest else child).Replaces child := by
  rcases own?_cons_eq_some_iff.mp reached with ⟨next, found, _, further⟩
  by_cases called : (child.name == name) = true
  · have same : child = next := by
      have stored := stored?_of_mem distinct listed
      rw [beq_iff_eq.mp called, found] at stored
      exact (Option.some.inj stored).symm
    rw [if_pos called, same]
    exact replaces_replaceAt fits further
  · rw [if_neg called]
    exact ⟨rfl, rfl⟩

/-- A node on the way to the replacement keeps its face. -/
theorem face_replaceAt (fits : new.Replaces old) (distinct : tree.childNames.Nodup)
    {name : String} {rest : List String} (reached : tree.own? (name :: rest) = some old) :
    (tree.replaceAt new (name :: rest)).face = tree.face := by
  unfold face
  rw [children_replaceAt, List.map_map]
  refine Prod.ext rfl (List.map_congr_left ?_)
  intro child listed
  have kept := replaces_child fits distinct reached listed
  exact Prod.ext kept.name kept.mark

/-- What is stored in a node on the way, after the replacement. -/
theorem stored?_replaceAt (fits : new.Replaces old) (distinct : tree.childNames.Nodup)
    {name : String} {rest : List String} (reached : tree.own? (name :: rest) = some old)
    (other : String) :
    (tree.replaceAt new (name :: rest)).stored? other =
      (tree.stored? other).map fun child =>
        if other = name then child.replaceAt new rest else child := by
  have asked : forall child, child ∈ tree.children ->
      ((if child.name == name then child.replaceAt new rest else child).name == other) =
        (child.name == other) :=
    fun child listed => congrArg (· == other) (replaces_child fits distinct reached listed).name
  rw [stored?, children_replaceAt, List.find?_map]
  have sameSearch : tree.children.find? ((fun child => child.name == other) ∘ fun child =>
      if child.name == name then child.replaceAt new rest else child) = tree.stored? other :=
    List.find?_congr asked
  rw [sameSearch]
  cases found : tree.stored? other with
  | none => rfl
  | some child =>
      have called := name_of_stored? found
      simp only [Option.map_some, called, beq_iff_eq]

/-- The replacement is found at the end of the path. -/
theorem own?_replaceAt_self (fits : new.Replaces old) (distinct : tree.Distinct)
    (reached : tree.own? path = some old) : (tree.replaceAt new path).own? path = some new := by
  induction path generalizing tree with
  | nil => rfl
  | cons name rest inductionHypothesis =>
      rcases own?_cons_eq_some_iff.mp reached with ⟨child, found, unmarked, further⟩
      have listed := List.mem_of_find?_eq_some found
      refine own?_cons_eq_some_iff.mpr ⟨child.replaceAt new rest, ?_, ?_, ?_⟩
      · rw [stored?_replaceAt fits distinct.here reached, found, Option.map_some, if_pos rfl]
      · rw [(replaces_replaceAt fits further).mark, unmarked]
      · exact inductionHypothesis (distinct.part (mem_walk_of_mem listed)) further

/-- A node that is found somewhere else after the replacement was there before with the same face,
if the replacement has no unmarked nodes below it that were not there before. -/
theorem own?_replaceAt_of_ne (fits : new.Replaces old) (distinct : tree.Distinct)
    (reached : tree.own? path = some old)
    (known : forall name rest last, new.own? (name :: rest) = some last ->
      old.own? (name :: rest) = some last)
    {other : List String} (elsewhere : other ≠ path) {shown : Node}
    (found : (tree.replaceAt new path).own? other = some shown) :
    Exists fun last : Node => tree.own? other = some last ∧ shown.face = last.face := by
  induction path generalizing tree other with
  | nil =>
      cases reached
      cases other with
      | nil => exact absurd rfl elsewhere
      | cons name rest => exact ⟨shown, known name rest shown found, rfl⟩
  | cons name rest inductionHypothesis =>
      cases other with
      | nil =>
          cases found
          exact ⟨tree, rfl, face_replaceAt fits distinct.here reached⟩
      | cons next more =>
          rcases own?_cons_eq_some_iff.mp found with ⟨child, stored, unmarked, further⟩
          rw [stored?_replaceAt fits distinct.here reached] at stored
          rcases Option.map_eq_some_iff.mp stored with ⟨before, storedBefore, same⟩
          by_cases called : next = name
          · rw [if_pos called] at same
            subst called
            rcases own?_cons_eq_some_iff.mp reached with
              ⟨onWay, storedOnWay, unmarkedBefore, reachedOn⟩
            cases storedBefore.symm.trans storedOnWay
            rw [← same] at further
            have inside := mem_walk_of_mem (List.mem_of_find?_eq_some storedBefore)
            have farther : more ≠ rest := fun equal => elsewhere (congrArg (next :: ·) equal)
            rcases inductionHypothesis (distinct.part inside) reachedOn farther further with
              ⟨last, foundBefore, sameFace⟩
            exact ⟨last, own?_cons_eq_some_iff.mpr
              ⟨before, storedBefore, unmarkedBefore, foundBefore⟩, sameFace⟩
          · rw [if_neg called] at same
            subst same
            exact ⟨shown, own?_cons_eq_some_iff.mpr ⟨before, storedBefore, unmarked, further⟩, rfl⟩

/-- The nodes of a changed tree: its root, what is below the old root or below the replacement, the
replacement itself, and nodes on the way. -/
theorem mem_walk_replaceAt (fits : new.Replaces old) (distinct : tree.Distinct)
    (reached : tree.own? path = some old) {node : Node}
    (inside : node ∈ (tree.replaceAt new path).walk) :
    node = tree.replaceAt new path ∨ node.Below tree ∨ node.Below new ∨
      (node.mark = none ∧ (node = new ∨
        Exists fun before : Node => before ∈ tree.walk ∧ node.face = before.face)) := by
  induction path generalizing tree with
  | nil =>
      rcases mem_walk_iff.mp inside with same | below
      · exact .inl same
      · exact .inr (.inr (.inl below))
  | cons name rest inductionHypothesis =>
      rcases mem_walk_iff.mp inside with same | ⟨child, listed, below⟩
      · exact .inl same
      rw [children_replaceAt] at listed
      rcases List.mem_map.mp listed with ⟨before, listedBefore, same⟩
      by_cases called : (before.name == name) = true
      · rw [if_pos called] at same
        subst same
        rcases own?_cons_eq_some_iff.mp reached with ⟨onWay, stored, unmarked, reachedOn⟩
        have storedBefore := stored?_of_mem distinct.here listedBefore
        rw [beq_iff_eq.mp called] at storedBefore
        cases storedBefore.symm.trans stored
        have inTree := mem_walk_of_mem listedBefore
        rcases inductionHypothesis (distinct.part inTree) reachedOn below with
          root | old | added | ⟨plain, way⟩
        · have plain : node.mark = none := by
            rw [root, (replaces_replaceAt fits reachedOn).mark, unmarked]
          cases rest with
          | nil => exact .inr (.inr (.inr ⟨plain, .inl root⟩))
          | cons next more =>
              have kept := face_replaceAt fits (distinct.part inTree).here reachedOn
              exact .inr (.inr (.inr ⟨plain, .inr ⟨before, inTree, root ▸ kept⟩⟩))
        · exact .inr (.inl (old.trans inTree))
        · exact .inr (.inr (.inl added))
        · refine .inr (.inr (.inr ⟨plain, way.imp_right ?_⟩))
          rintro ⟨other, member, sameFace⟩
          exact ⟨other, mem_walk_trans member inTree, sameFace⟩
      · rw [if_neg called] at same
        subst same
        exact .inr (.inl ⟨before, listedBefore, below⟩)

end Replacement

/-! ## One edit -/

section Change

variable {node child : Node} {name : String}

/-- A removal takes a child out from between the others. -/
theorem removeChild_of_split (distinct : node.childNames.Nodup) {before behind : List Node}
    (split : node.children = before ++ child :: behind) :
    node.removeChild child.name = { node with children := before ++ behind } := by
  rw [childNames, split, List.map_append, List.map_cons] at distinct
  have apart := List.nodup_middle.mp distinct
  rw [List.nodup_cons, ← List.map_append] at apart
  have others : forall other, other ∈ before ++ behind -> (other.name != child.name) = true := by
    intro other listed
    refine bne_iff_ne.mpr fun same => apart.1 ?_
    rw [← same]
    exact List.mem_map_of_mem listed
  have taken : (child :: behind).filter (fun other => other.name != child.name) =
      behind.filter fun other => other.name != child.name :=
    List.filter_cons_of_neg fun different => bne_iff_ne.mp different rfl
  rw [removeChild, split, List.filter_append, taken, ← List.filter_append,
    List.filter_eq_self.mpr others]

/-- A removal without a child of the name changes nothing. -/
theorem removeChild_of_missing (missing : node.stored? name = none) :
    node.removeChild name = node := by
  have others : forall child, child ∈ node.children -> (child.name != name) = true := by
    intro child listed
    refine bne_iff_ne.mpr fun same => stored?_eq_none_iff.mp missing ?_
    rw [← same]
    exact List.mem_map_of_mem listed
  rw [removeChild, List.filter_eq_self.mpr others]
  cases node
  rfl

/-- Exactly when a child is refused: it is a root, or its name is taken. -/
theorem addChild_refused_iff :
    (Exists fun cause : TreeError => node.addChild child = .error cause) ↔
      child.isRoot = true ∨ Exists fun taken : Node => node.stored? child.name = some taken := by
  unfold addChild
  cases child.isRoot with
  | true => exact iff_of_true ⟨_, rfl⟩ (.inl rfl)
  | false =>
      cases node.stored? child.name with
      | some taken => exact iff_of_true ⟨_, rfl⟩ (.inr ⟨taken, rfl⟩)
      | none =>
          refine iff_of_false ?_ ?_
          · rintro ⟨cause, impossible⟩
            cases impossible
          · rintro (impossible | ⟨taken, impossible⟩) <;> cases impossible

end Change

section Editing

variable {node changed : Node} {edit : Edit}

/-- An edited node takes the place of what it was. -/
theorem replaces_edit (done : node.edit edit = .ok changed) : changed.Replaces node := by
  cases edit with
  | addChild child =>
      rw [(addChild_eq_ok_iff.mp done).2.2]
      exact ⟨rfl, rfl⟩
  | _ =>
      cases done
      exact ⟨rfl, rfl⟩

/-- An edit gives a node no child but the one that it adds. -/
theorem mem_children_edit (done : node.edit edit = .ok changed) {child : Node}
    (listed : child ∈ changed.children) : child ∈ node.children ∨ edit = .addChild child := by
  cases edit with
  | addChild added =>
      rw [(addChild_eq_ok_iff.mp done).2.2] at listed
      exact (List.mem_append.mp listed).imp_right fun last =>
        congrArg Edit.addChild (List.mem_singleton.mp last).symm
  | removeChild name =>
      cases done
      exact .inl (List.mem_filter.mp listed).1
  | _ =>
      cases done
      exact .inl listed

/-- An edit puts nothing under a name but the child that it adds. -/
theorem stored?_edit (done : node.edit edit = .ok changed) {name : String} {child : Node}
    (stored : changed.stored? name = some child) :
    node.stored? name = some child ∨ edit = .addChild child := by
  cases edit with
  | addChild added =>
      rcases addChild_eq_ok_iff.mp done with ⟨_, free, grown⟩
      rw [grown, stored?_append free] at stored
      by_cases called : added.name = name
      · rw [if_pos called] at stored
        exact .inr (congrArg Edit.addChild (Option.some.inj stored))
      · rw [if_neg called] at stored
        exact .inl stored
  | removeChild gone =>
      cases done
      rw [stored?_removeChild] at stored
      by_cases same : name = gone
      · rw [if_pos same] at stored
        cases stored
      · rw [if_neg same] at stored
        exact .inl stored
  | _ =>
      cases done
      exact .inl stored

/-- Names that were different stay different. -/
theorem nodup_edit (distinct : node.childNames.Nodup) (done : node.edit edit = .ok changed) :
    changed.childNames.Nodup := by
  cases edit with
  | addChild child =>
      rcases addChild_eq_ok_iff.mp done with ⟨_, free, grown⟩
      rw [grown]
      exact nodup_append distinct free
  | removeChild name =>
      cases done
      exact distinct.sublist (List.filter_sublist.map Node.name)
  | _ =>
      cases done
      exact distinct

end Editing

end TraceView.Node

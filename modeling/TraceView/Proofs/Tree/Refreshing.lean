import TraceView.Proofs.Tree.Shelves

namespace TraceView

/-!
# All occurrences of a change

A change of a shelf puts another node at a home and refreshes all trees.  Where the changed tree
occurs it is put; a tree that does not contain it stays as it is; and a node above it gets the
refreshed children, so that its face stays.  The shelf is sound again, and no node but the one at
the home of the change has another face.
-/

namespace Node

theorem refreshAll_eq_map (parts nodes : List Node) :
    refreshAll parts nodes = nodes.map (refresh parts) := by
  induction nodes with
  | nil => rfl
  | cons node rest inductionHypothesis =>
      rw [refreshAll, inductionHypothesis, List.map_cons]

/-- A part with the mark of a node takes its place; a node for which there is none keeps its face,
and its children are refreshed. -/
theorem refresh_eq (parts : List Node) (node : Node) :
    node.refresh parts =
      (parts.find? fun part => node.mark.isSome && part.mark == node.mark).getD
        { node with children := node.children.map (refresh parts) } := by
  rcases node with ⟨id, name, value, source, formatter, isRoot, rootId, mark, children⟩
  rw [refresh, refreshAll_eq_map]
  cases parts.find? fun part => mark.isSome && part.mark == mark <;> rfl

theorem map_children_eq_self {node : Node} {change : Node -> Node}
    (stays : forall child, child ∈ node.children -> change child = child) :
    { node with children := node.children.map change } = node := by
  rw [(List.map_congr_left stays).trans (List.map_id' node.children)]
  cases node
  rfl

/-- A tree without a mark among its nodes. -/
def Free (mark : Nat) (tree : Node) : Prop :=
  forall node, node ∈ tree.walk -> node.mark ≠ some mark

theorem Free.child {mark : Nat} {tree child : Node} (free : tree.Free mark)
    (listed : child ∈ tree.children) : child.Free mark :=
  fun node member => free node (mem_walk_trans member (mem_walk_of_mem listed))

end Node

namespace Shelf

/-- A node of the shelf after a tree of it has been changed. -/
def refreshed (changed : Node) : Node -> Node :=
  Node.refresh (changed.walk.filter fun node => node.mark.isSome)

theorem tree?_commit (shelf : Shelf) (changed : Node) (position : Nat) :
    (shelf.commit changed).tree? position = (shelf.tree? position).map (refreshed changed) := by
  unfold commit tree?
  rw [List.getElem?_map]
  rfl

/-- For a node a marked part of the changed tree is put that has its mark; if there is none, its
children are refreshed. -/
theorem refreshed_cases (changed node : Node) :
    (Exists fun part : Node => Exists fun mark : Nat =>
      part ∈ changed.walk ∧ part.mark = some mark ∧ node.mark = some mark ∧
        refreshed changed node = part) ∨
      ((forall mark, node.mark = some mark -> changed.Free mark) ∧
        refreshed changed node =
          { node with children := node.children.map (refreshed changed) }) := by
  unfold refreshed
  rw [Node.refresh_eq]
  cases found : (changed.walk.filter fun part => part.mark.isSome).find?
      (fun part => node.mark.isSome && part.mark == node.mark) with
  | none =>
      refine .inr ⟨fun mark marked part inside same => ?_, rfl⟩
      have listed : part ∈ changed.walk.filter fun part => part.mark.isSome :=
        List.mem_filter.mpr ⟨inside, Option.isSome_iff_exists.mpr ⟨mark, same⟩⟩
      have refused := List.find?_eq_none.mp found part listed
      rw [same, marked] at refused
      exact refused (beq_self_eq_true (some mark))
  | some part =>
      have asked := List.find?_some found
      simp only [Bool.and_eq_true, beq_iff_eq] at asked
      rcases Option.isSome_iff_exists.mp asked.1 with ⟨mark, marked⟩
      exact .inl ⟨part, mark, (List.mem_filter.mp (List.mem_of_find?_eq_some found)).1,
        asked.2.trans marked, marked, rfl⟩

/-- A node of the shelf after another node has been put at a home. -/
def updated (home : Home) (owner new : Node) : Node -> Node :=
  refreshed (owner.replaceAt new home.2)

theorem tree?_commit_replaceAt (shelf : Shelf) (home : Home) (owner new : Node) (position : Nat) :
    (shelf.commit (owner.replaceAt new home.2)).tree? position =
      (shelf.tree? position).map (updated home owner new) :=
  shelf.tree?_commit _ position

/-- A node that can be put at a home of a shelf.  It has the name and the mark of the node that is
there; below it there are only nodes of the shelf, none of them the tree that it belongs to; and of
those that belong to this tree, only such as were there before. -/
structure Replacement (shelf : Shelf) (home : Home) (owner old new : Node) : Prop where
  stands : shelf.tree? home.1 = some owner
  reached : owner.own? home.2 = some old
  fits : new.Replaces old
  distinct : new.childNames.Nodup
  holds : forall node : Node, node.Below new -> shelf.Holds node
  acyclic : forall node : Node, node.Below new -> node.mark ≠ some home.1
  known : forall name rest last, new.own? (name :: rest) = some last ->
    old.own? (name :: rest) = some last

variable {shelf : Shelf} {home : Home} {owner old new node : Node}

namespace Replacement

/-- The changed tree has the mark and the name of the tree. -/
theorem replaces (change : shelf.Replacement home owner old new) :
    (owner.replaceAt new home.2).Replaces owner :=
  Node.replaces_replaceAt change.fits change.reached

theorem mark_replaceAt (sound : shelf.Sound) (change : shelf.Replacement home owner old new) :
    (owner.replaceAt new home.2).mark = some home.1 :=
  change.replaces.mark.trans (sound.marked change.stands)

/-- The nodes of the changed tree: its root, nodes of the shelf that do not contain the tree, and
nodes without marks, which are the replacement and nodes on the way to it. -/
theorem mem_walk_replaceAt (sound : shelf.Sound) (change : shelf.Replacement home owner old new)
    (inside : node ∈ (owner.replaceAt new home.2).walk) :
    node = owner.replaceAt new home.2 ∨
      (shelf.Holds node ∧ node.Free home.1) ∨
      (node.mark = none ∧ (node = new ∨
        Exists fun before : Node => shelf.Holds before ∧ node.face = before.face)) := by
  have standing := holds_of_tree? change.stands
  rcases Node.mem_walk_replaceAt change.fits (sound.distinct_tree standing) change.reached inside with
    root | below | below | ⟨unmarked, way⟩
  · exact .inl root
  · refine .inr (.inl ⟨standing.part below.mem_walk, fun other member => ?_⟩)
    rcases below with ⟨child, listed, within⟩
    exact sound.mark_of_below change.stands ⟨child, listed, Node.mem_walk_trans member within⟩
  · refine .inr (.inl ⟨change.holds node below, fun other member => ?_⟩)
    rcases below with ⟨child, listed, within⟩
    exact change.acyclic other ⟨child, listed, Node.mem_walk_trans member within⟩
  · refine .inr (.inr ⟨unmarked, way.imp_right ?_⟩)
    rintro ⟨before, member, sameFace⟩
    exact ⟨before, standing.part member, sameFace⟩

/-- The marked parts of the changed tree are the tree itself and trees of the shelf that do not
contain it. -/
theorem part_cases (sound : shelf.Sound) (change : shelf.Replacement home owner old new)
    {part : Node} {mark : Nat} (inside : part ∈ (owner.replaceAt new home.2).walk)
    (marked : part.mark = some mark) :
    (mark = home.1 ∧ part = owner.replaceAt new home.2) ∨
      (shelf.tree? mark = some part ∧ part.Free home.1) := by
  rcases change.mem_walk_replaceAt sound inside with root | ⟨holds, free⟩ | ⟨unmarked, _⟩
  · rw [root, change.mark_replaceAt sound] at marked
    exact .inl ⟨(Option.some.inj marked).symm, root⟩
  · exact .inr ⟨sound.alike holds marked, free⟩
  · rw [unmarked] at marked
    cases marked

/-! ## The three ways to refresh a node -/

/-- The part that is put for a node is the changed tree, or the node itself. -/
theorem updated_cases (sound : shelf.Sound) (change : shelf.Replacement home owner old new)
    (holds : shelf.Holds node) :
    (node.mark = some home.1 ∧ updated home owner new node = owner.replaceAt new home.2) ∨
      (node.mark ≠ some home.1 ∧ updated home owner new node = node ∧ node.Free home.1) ∨
      (node.mark ≠ some home.1 ∧ updated home owner new node =
        { node with children := node.children.map (updated home owner new) }) := by
  rcases refreshed_cases (owner.replaceAt new home.2) node with
    ⟨part, mark, inside, same, marked, put⟩ | ⟨missing, deeper⟩
  · rcases change.part_cases sound inside same with ⟨own, root⟩ | ⟨stands, free⟩
    · exact .inl ⟨own ▸ marked, put.trans root⟩
    · cases stands.symm.trans (sound.alike holds marked)
      exact .inr (.inl ⟨free node node.mem_walk_self, put, free⟩)
  · refine .inr (.inr ⟨fun marked => ?_, deeper⟩)
    exact missing home.1 marked _ (Node.mem_walk_self _) (change.mark_replaceAt sound)

/-- Where the changed tree occurs, it is put. -/
theorem updated_of_mark (sound : shelf.Sound) (change : shelf.Replacement home owner old new)
    (holds : shelf.Holds node) (marked : node.mark = some home.1) :
    updated home owner new node = owner.replaceAt new home.2 := by
  rcases change.updated_cases sound holds with ⟨_, root⟩ | ⟨other, _⟩ | ⟨other, _⟩
  · exact root
  · exact absurd marked other
  · exact absurd marked other

/-- A tree that does not contain the changed one stays. -/
theorem updated_of_free (sound : shelf.Sound) (change : shelf.Replacement home owner old new)
    (holds : shelf.Holds node) (free : node.Free home.1) : updated home owner new node = node := by
  induction node using Node.induction_on_children with
  | step node inductionHypothesis =>
      rcases change.updated_cases sound holds with ⟨marked, _⟩ | ⟨_, stays, _⟩ | ⟨_, deeper⟩
      · exact absurd marked (free node node.mem_walk_self)
      · exact stays
      · exact deeper.trans (Node.map_children_eq_self fun child listed =>
          inductionHypothesis child listed (holds.part (Node.mem_walk_of_mem listed))
            (free.child listed))

/-- Outside the changed tree a node gets the refreshed children. -/
theorem updated_of_ne (sound : shelf.Sound) (change : shelf.Replacement home owner old new)
    (holds : shelf.Holds node) (other : node.mark ≠ some home.1) :
    updated home owner new node =
      { node with children := node.children.map (updated home owner new) } := by
  rcases change.updated_cases sound holds with ⟨marked, _⟩ | ⟨_, stays, free⟩ | ⟨_, deeper⟩
  · exact absurd marked other
  · have below := Node.map_children_eq_self fun child listed => change.updated_of_free sound
      (holds.part (Node.mem_walk_of_mem listed)) (free.child listed)
    exact stays.trans below.symm
  · exact deeper

/-- A refreshed node takes the place of what it was. -/
theorem replaces_updated (sound : shelf.Sound) (change : shelf.Replacement home owner old new)
    (holds : shelf.Holds node) : (updated home owner new node).Replaces node := by
  by_cases marked : node.mark = some home.1
  · rw [change.updated_of_mark sound holds marked]
    cases change.stands.symm.trans (sound.alike holds marked)
    exact change.replaces
  · rw [change.updated_of_ne sound holds marked]
    exact ⟨rfl, rfl⟩

/-- Outside the changed tree a node keeps its face. -/
theorem face_updated (sound : shelf.Sound) (change : shelf.Replacement home owner old new)
    (holds : shelf.Holds node) (other : node.mark ≠ some home.1) :
    (updated home owner new node).face = node.face := by
  rw [change.updated_of_ne sound holds other]
  unfold Node.face
  rw [List.map_map]
  refine Prod.ext rfl (List.map_congr_left ?_)
  intro child listed
  have kept := change.replaces_updated sound (holds.part (Node.mem_walk_of_mem listed))
  exact Prod.ext kept.name kept.mark

/-- What is stored in a node outside the changed tree is refreshed. -/
theorem stored?_updated (sound : shelf.Sound) (change : shelf.Replacement home owner old new)
    (holds : shelf.Holds node) (other : node.mark ≠ some home.1) (name : String) :
    (updated home owner new node).stored? name =
      (node.stored? name).map (updated home owner new) := by
  rw [change.updated_of_ne sound holds other, Node.stored?, List.find?_map]
  refine congrArg (Option.map _) (List.find?_congr fun child listed => ?_)
  have kept := change.replaces_updated sound (holds.part (Node.mem_walk_of_mem listed))
  exact congrArg (· == name) kept.name

/-! ## The shelf after a change -/

/-- The nodes of a refreshed tree are refreshed nodes of the tree and nodes of the changed one. -/
theorem mem_walk_updated (sound : shelf.Sound) (change : shelf.Replacement home owner old new)
    {tree : Node} (holds : shelf.Holds tree) (inside : node ∈ (updated home owner new tree).walk) :
    node ∈ (owner.replaceAt new home.2).walk ∨
      Exists fun before : Node => before ∈ tree.walk ∧ before.mark ≠ some home.1 ∧
        node = updated home owner new before := by
  induction tree using Node.induction_on_children with
  | step tree inductionHypothesis =>
      by_cases marked : tree.mark = some home.1
      · rw [change.updated_of_mark sound holds marked] at inside
        exact .inl inside
      rcases Node.mem_walk_iff.mp inside with root | ⟨child, listed, below⟩
      · exact .inr ⟨tree, tree.mem_walk_self, marked, root⟩
      rw [change.updated_of_ne sound holds marked] at listed
      rcases List.mem_map.mp listed with ⟨before, listedBefore, same⟩
      have inTree := Node.mem_walk_of_mem listedBefore
      rw [← same] at below
      rcases inductionHypothesis before listedBefore (holds.part inTree) below with
        changed | ⟨other, member, outside, equal⟩
      · exact .inl changed
      · exact .inr ⟨other, Node.mem_walk_trans member inTree, outside, equal⟩

/-- The nodes that the shelf holds after a change. -/
theorem holds_commit (sound : shelf.Sound) (change : shelf.Replacement home owner old new)
    (holds : (shelf.commit (owner.replaceAt new home.2)).Holds node) :
    node ∈ (owner.replaceAt new home.2).walk ∨
      Exists fun before : Node => shelf.Holds before ∧ before.mark ≠ some home.1 ∧
        node = updated home owner new before := by
  rcases holds with ⟨position, tree, stands, inside⟩
  rw [tree?_commit_replaceAt] at stands
  rcases Option.map_eq_some_iff.mp stands with ⟨before, stood, same⟩
  rw [← same] at inside
  rcases change.mem_walk_updated sound (holds_of_tree? stood) inside with
    changed | ⟨other, member, outside, equal⟩
  · exact .inl changed
  · exact .inr ⟨other, (holds_of_tree? stood).part member, outside, equal⟩

theorem nodup_replaceAt (sound : shelf.Sound) (change : shelf.Replacement home owner old new) :
    (owner.replaceAt new home.2).childNames.Nodup := by
  have different := sound.distinct (holds_of_tree? change.stands)
  have reached := change.reached
  cases way : home.2 with
  | nil => exact change.distinct
  | cons name rest =>
      rw [way] at reached
      rw [Node.childNames_eq_of_face (Node.face_replaceAt change.fits different reached)]
      exact different

/-- A change keeps a shelf sound. -/
theorem sound_commit (sound : shelf.Sound) (change : shelf.Replacement home owner old new) :
    (shelf.commit (owner.replaceAt new home.2)).Sound where
  marked := by
    intro position tree stands
    rw [tree?_commit_replaceAt] at stands
    rcases Option.map_eq_some_iff.mp stands with ⟨before, stood, same⟩
    rw [← same, (change.replaces_updated sound (holds_of_tree? stood)).mark, sound.marked stood]
  alike := by
    intro node mark holds marked
    rw [tree?_commit_replaceAt]
    rcases change.holds_commit sound holds with inside | ⟨before, stood, _, same⟩
    · rcases change.part_cases sound inside marked with ⟨own, root⟩ | ⟨stands, free⟩
      · rw [own, change.stands, Option.map_some, root, change.updated_of_mark sound
          (holds_of_tree? change.stands) (sound.marked change.stands)]
      · rw [stands, Option.map_some, change.updated_of_free sound (holds_of_tree? stands) free]
    · rw [same, (change.replaces_updated sound stood).mark] at marked
      rw [sound.alike stood marked, Option.map_some, same]
  distinct := by
    intro node holds
    rcases change.holds_commit sound holds with inside | ⟨before, stood, outside, same⟩
    · rcases change.mem_walk_replaceAt sound inside with root | ⟨stood, _⟩ | ⟨_, added | way⟩
      · rw [root]
        exact change.nodup_replaceAt sound
      · exact sound.distinct stood
      · rw [added]
        exact change.distinct
      · rcases way with ⟨before, stood, sameFace⟩
        rw [Node.childNames_eq_of_face sameFace]
        exact sound.distinct stood
    · rw [same, Node.childNames_eq_of_face (change.face_updated sound stood outside)]
      exact sound.distinct stood

/-- The replacement is found at the home. -/
theorem node?_commit_self (sound : shelf.Sound) (change : shelf.Replacement home owner old new) :
    (shelf.commit (owner.replaceAt new home.2)).node? home = some new := by
  have standing := holds_of_tree? change.stands
  rw [node?, tree?_commit_replaceAt, change.stands, Option.map_some, Option.bind_some,
    change.updated_of_mark sound standing (sound.marked change.stands)]
  exact Node.own?_replaceAt_self change.fits (sound.distinct_tree standing) change.reached

/-- What is reached without marks in a refreshed tree was reached before, with the same face. -/
theorem own?_updated (sound : shelf.Sound) (change : shelf.Replacement home owner old new)
    {path : List String} {shown : Node} (holds : shelf.Holds node)
    (other : node.mark ≠ some home.1)
    (found : (updated home owner new node).own? path = some shown) :
    Exists fun last : Node => node.own? path = some last ∧ shown.face = last.face := by
  induction path generalizing node with
  | nil =>
      cases found
      exact ⟨node, rfl, change.face_updated sound holds other⟩
  | cons name rest inductionHypothesis =>
      rcases Node.own?_cons_eq_some_iff.mp found with ⟨child, stored, unmarked, further⟩
      rw [change.stored?_updated sound holds other] at stored
      rcases Option.map_eq_some_iff.mp stored with ⟨before, storedBefore, same⟩
      subst same
      have holdsBefore := holds.part (Node.mem_walk_of_mem (List.mem_of_find?_eq_some storedBefore))
      rw [(change.replaces_updated sound holdsBefore).mark] at unmarked
      have outside : before.mark ≠ some home.1 := by
        rw [unmarked]
        exact Option.some_ne_none _ ∘ Eq.symm
      rcases inductionHypothesis holdsBefore outside further with ⟨last, foundBefore, sameFace⟩
      exact ⟨last, Node.own?_cons_eq_some_iff.mpr ⟨before, storedBefore, unmarked, foundBefore⟩,
        sameFace⟩

/-- A node at another home was there before, with the same face. -/
theorem node?_commit_of_ne (sound : shelf.Sound) (change : shelf.Replacement home owner old new)
    {other : Home} (elsewhere : other ≠ home)
    (found : (shelf.commit (owner.replaceAt new home.2)).node? other = some node) :
    Exists fun before : Node => shelf.node? other = some before ∧ node.face = before.face := by
  rw [node?, tree?_commit_replaceAt] at found
  rcases Option.bind_eq_some_iff.mp found with ⟨tree, stands, reached⟩
  rcases Option.map_eq_some_iff.mp stands with ⟨before, stood, same⟩
  have standing := holds_of_tree? stood
  have marked := sound.marked stood
  subst same
  by_cases own : other.1 = home.1
  · rw [own] at stood marked
    cases stood.symm.trans change.stands
    rw [change.updated_of_mark sound standing marked] at reached
    have farther : other.2 ≠ home.2 := fun equal => elsewhere (Prod.ext own equal)
    rcases Node.own?_replaceAt_of_ne change.fits (sound.distinct_tree standing) change.reached
      change.known farther reached with ⟨last, reachedBefore, sameFace⟩
    refine ⟨last, ?_, sameFace⟩
    rw [node?, own, change.stands]
    exact reachedBefore
  · have outside : before.mark ≠ some home.1 := by
      rw [marked]
      exact fun equal => own (Option.some.inj equal)
    rcases change.own?_updated sound standing outside reached with ⟨last, reachedBefore, sameFace⟩
    refine ⟨last, ?_, sameFace⟩
    rw [node?, stood]
    exact reachedBefore

/-- The changed tree is found on every way to the tree. -/
theorem at?_updated (sound : shelf.Sound) (change : shelf.Replacement home owner old new)
    {path : List String} (holds : shelf.Holds node) (found : node.at? path = some owner) :
    (updated home owner new node).at? path = some (owner.replaceAt new home.2) := by
  have marked := sound.marked change.stands
  induction path generalizing node with
  | nil =>
      cases found
      rw [Node.at?, change.updated_of_mark sound holds marked]
  | cons name rest inductionHypothesis =>
      rw [Node.at?] at found
      rcases Option.bind_eq_some_iff.mp found with ⟨child, stored, further⟩
      have listed := List.mem_of_find?_eq_some stored
      have outside : node.mark ≠ some home.1 := by
        intro same
        cases change.stands.symm.trans (sound.alike holds same)
        exact Node.not_below_self owner ⟨child, listed, Node.mem_walk_of_at? further⟩
      rw [Node.at?, change.stored?_updated sound holds outside, stored]
      exact inductionHypothesis (holds.part (Node.mem_walk_of_mem listed)) further

end Replacement

end Shelf

end TraceView

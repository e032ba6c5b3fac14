import TraceView.Proofs.Tree.Places
import TraceView.Tree.Shelf

namespace TraceView

/-!
# Nodes that are shared

On a shelf a node may occur in several trees.  The shelf is sound if all occurrences of a mark are
the tree at that position, and then every node has one home: the last marked tree on the way to it,
and the path from there.  What is found at a place is what is found at its home.

A change puts another node at a home and refreshes all trees.  The refreshed trees differ from the
old ones only where the changed tree occurs: a tree that does not contain it stays, and every other
node outside it keeps its face.
-/

namespace Shelf

/-- The mark of a tree and a path from its root over nodes without marks. -/
abbrev Home := Nat × List String

/-- The node is in a tree of the shelf. -/
def Holds (shelf : Shelf) (node : Node) : Prop :=
  Exists fun position : Nat => Exists fun tree : Node =>
    shelf.tree? position = some tree ∧ node ∈ tree.walk

theorem holds_of_tree? {shelf : Shelf} {position : Nat} {tree : Node}
    (stands : shelf.tree? position = some tree) : shelf.Holds tree :=
  ⟨position, tree, stands, tree.mem_walk_self⟩

theorem Holds.part {shelf : Shelf} {node tree : Node} (holds : shelf.Holds tree)
    (inside : node ∈ tree.walk) : shelf.Holds node := by
  rcases holds with ⟨position, top, stands, member⟩
  exact ⟨position, top, stands, Node.mem_walk_trans inside member⟩

/-- A shelf on which every mark belongs to one tree, and names of siblings differ. -/
structure Sound (shelf : Shelf) : Prop where
  /-- A tree is marked with its position. -/
  marked : forall {position tree}, shelf.tree? position = some tree -> tree.mark = some position
  /-- Every occurrence of a mark is the tree at that position. -/
  alike : forall {node mark}, shelf.Holds node -> node.mark = some mark ->
    shelf.tree? mark = some node
  /-- No node has two children with one name. -/
  distinct : forall {node}, shelf.Holds node -> node.childNames.Nodup

/-- The node at the end of a path in the tree at a position. -/
def at? (shelf : Shelf) (position : Nat) (path : List String) : Option Node :=
  (shelf.tree? position).bind fun tree => tree.at? path

/-- The home of the node at a place. -/
def home (shelf : Shelf) (position : Nat) (path : List String) : Home :=
  ((shelf.tree? position).map fun tree => anchor tree position path path).getD (position, path)

def node? (shelf : Shelf) (home : Home) : Option Node :=
  (shelf.tree? home.1).bind fun tree => tree.own? home.2

variable {shelf : Shelf}

theorem Sound.distinct_tree (sound : shelf.Sound) {tree : Node} (holds : shelf.Holds tree) :
    tree.Distinct :=
  fun _ member => sound.distinct (holds.part member)

/-- No tree occurs below its own root. -/
theorem Sound.mark_of_below (sound : shelf.Sound) {position : Nat} {tree node : Node}
    (stands : shelf.tree? position = some tree) (below : node.Below tree) :
    node.mark ≠ some position := by
  intro marked
  have same := sound.alike ((holds_of_tree? stands).part below.mem_walk) marked
  cases stands.symm.trans same
  exact Node.not_below_self _ below

theorem sound_empty : Shelf.empty.Sound where
  marked impossible := nomatch impossible
  alike holds := by
    rcases holds with ⟨_, _, impossible, _⟩
    cases impossible
  distinct holds := by
    rcases holds with ⟨_, _, impossible, _⟩
    cases impossible

/-- Where the trees stand after another one has been put on the shelf. -/
theorem tree?_put_eq_some_iff {tree found : Node} {position : Nat} :
    (shelf.put tree).1.tree? position = some found ↔
      shelf.tree? position = some found ∨
        (position = shelf.trees.length ∧ found = { tree with mark := some position }) := by
  unfold put tree?
  rw [List.getElem?_append]
  by_cases before : position < shelf.trees.length
  · rw [if_pos before]
    exact ⟨.inl, fun either => either.resolve_right fun after => Nat.ne_of_lt before after.1⟩
  · rw [if_neg before, List.getElem?_singleton, List.getElem?_eq_none (Nat.le_of_not_lt before)]
    by_cases here : position = shelf.trees.length
    · rw [here, Nat.sub_self, if_pos rfl, Option.some.injEq]
      exact ⟨fun same => .inr ⟨rfl, same.symm⟩, fun either => (either.resolve_left nofun).2.symm⟩
    · have farther : position - shelf.trees.length ≠ 0 := by omega
      rw [if_neg farther]
      exact ⟨nofun, fun either => absurd (either.resolve_left nofun).1 here⟩

/-- A tree with different names and without marks leaves a shelf sound. -/
theorem Sound.put (sound : shelf.Sound) {tree : Node} (distinct : tree.Distinct)
    (unmarked : forall node : Node, node.Below tree -> node.mark = none) :
    (shelf.put tree).1.Sound := by
  have held : forall node, (shelf.put tree).1.Holds node -> shelf.Holds node ∨
      node = { tree with mark := some shelf.trees.length } ∨ node.Below tree := by
    rintro node ⟨position, found, stands, inside⟩
    rcases tree?_put_eq_some_iff.mp stands with before | ⟨here, same⟩
    · exact .inl ⟨position, found, before, inside⟩
    · rw [here] at same
      rw [same] at inside
      exact .inr (Node.mem_walk_iff.mp inside)
  refine ⟨?_, ?_, ?_⟩
  · intro position found stands
    rcases tree?_put_eq_some_iff.mp stands with before | ⟨_, same⟩
    · exact sound.marked before
    · rw [same]
  · intro node mark holds marked
    rcases held node holds with before | root | below
    · exact tree?_put_eq_some_iff.mpr (.inl (sound.alike before marked))
    · rw [root] at marked ⊢
      cases marked
      exact tree?_put_eq_some_iff.mpr (.inr ⟨rfl, rfl⟩)
    · rw [unmarked node below] at marked
      cases marked
  · intro node holds
    rcases held node holds with before | root | below
    · exact sound.distinct before
    · rw [root]
      exact distinct.here
    · exact distinct node below.mem_walk

/-! ## Homes -/

section Search

variable {node child : Node} {name : String} {position mark : Nat} {rest more : List String}

theorem anchor_of_missing (missing : node.stored? name = none) :
    anchor node position rest (name :: more) = (position, rest) := by
  rw [anchor, missing]

theorem anchor_of_marked (stored : node.stored? name = some child) (marked : child.mark = some mark) :
    anchor node position rest (name :: more) = anchor child mark more more := by
  rw [anchor, stored]
  simp only [marked]

theorem anchor_of_unmarked (stored : node.stored? name = some child) (unmarked : child.mark = none) :
    anchor node position rest (name :: more) = anchor child position rest more := by
  rw [anchor, stored]
  simp only [unmarked]

end Search

/-- A child of a node that is reached without marks is reached so as well, if it has no mark. -/
theorem own?_append_singleton {tree node child : Node} {path : List String} {name : String}
    (reached : tree.own? path = some node) (stored : node.stored? name = some child)
    (unmarked : child.mark = none) : tree.own? (path ++ [name]) = some child := by
  rw [Node.own?_append, reached, Option.bind_some]
  exact Node.own?_cons_eq_some_iff.mpr ⟨child, stored, unmarked, rfl⟩

/-- A child of a node that is reached from a tree of the shelf is itself a tree, if it has a mark. -/
theorem Sound.tree?_of_stored (sound : shelf.Sound) {position mark : Nat} {tree node child : Node}
    {path : List String} {name : String} (stands : shelf.tree? position = some tree)
    (reached : tree.own? path = some node) (stored : node.stored? name = some child)
    (marked : child.mark = some mark) : shelf.tree? mark = some child :=
  sound.alike ((holds_of_tree? stands).part (Node.mem_walk_trans
    (Node.mem_walk_of_mem (List.mem_of_find?_eq_some stored)) (Node.mem_walk_of_own? reached))) marked

/-- The search for the home of a place: from a node that has been reached from a tree without marks
on the way, it comes to the last marked tree, and the rest of the path from there has no marks. -/
theorem anchor_spec (sound : shelf.Sound) {position : Nat} {tree node last : Node}
    {done path : List String} (stands : shelf.tree? position = some tree)
    (reached : tree.own? done = some node) (found : node.at? path = some last) :
    Exists fun front : List String => Exists fun owner : Node =>
      done ++ path = front ++ (anchor node position (done ++ path) path).2 ∧
      tree.at? front = some owner ∧
      shelf.tree? (anchor node position (done ++ path) path).1 = some owner ∧
      owner.own? (anchor node position (done ++ path) path).2 = some last := by
  induction path generalizing position tree node done with
  | nil =>
      cases found
      rw [List.append_nil, anchor]
      exact ⟨[], tree, rfl, rfl, stands, reached⟩
  | cons name more inductionHypothesis =>
      rw [Node.at?] at found
      rcases Option.bind_eq_some_iff.mp found with ⟨child, stored, further⟩
      cases marked : child.mark with
      | some mark =>
          have standing := sound.tree?_of_stored stands reached stored marked
          have atRoot : child.own? [] = some child := rfl
          rcases inductionHypothesis standing atRoot further with
            ⟨front, owner, split, onWay, owns, rest⟩
          rw [anchor_of_marked stored marked]
          refine ⟨done ++ name :: front, owner, ?_, ?_, owns, rest⟩
          · rw [List.append_assoc, List.cons_append]
            exact congrArg (fun further => done ++ name :: further) split
          · rw [Node.at?_append_of_own? reached, Node.at?, stored]
            exact onWay
      | none =>
          have onward := own?_append_singleton reached stored marked
          have result := inductionHypothesis stands onward further
          rw [List.append_assoc, List.singleton_append] at result
          rw [anchor_of_unmarked stored marked]
          exact result

/-- The search for the home of a place loses no node and finds no other. -/
theorem anchor_at? (sound : shelf.Sound) {position : Nat} {tree node : Node}
    {done path : List String} (stands : shelf.tree? position = some tree)
    (reached : tree.own? done = some node) :
    ((shelf.tree? (anchor node position (done ++ path) path).1).bind fun owner =>
      owner.at? (anchor node position (done ++ path) path).2) = node.at? path := by
  induction path generalizing position tree node done with
  | nil =>
      rw [anchor, stands]
      exact Node.at?_append_of_own? reached []
  | cons name more inductionHypothesis =>
      cases stored : node.stored? name with
      | none =>
          rw [anchor_of_missing stored, stands]
          exact Node.at?_append_of_own? reached (name :: more)
      | some child =>
          rw [Node.at?, stored, Option.bind_some]
          cases marked : child.mark with
          | some mark =>
              have standing := sound.tree?_of_stored stands reached stored marked
              rw [anchor_of_marked stored marked]
              have atRoot : child.own? [] = some child := rfl
              exact inductionHypothesis standing atRoot
          | none =>
              have onward := own?_append_singleton reached stored marked
              have result := inductionHypothesis stands onward
              rw [List.append_assoc, List.singleton_append] at result
              rw [anchor_of_unmarked stored marked]
              exact result

/-- What is found at a place is found at its home. -/
theorem Sound.node?_home (sound : shelf.Sound) {position : Nat} {path : List String} {node : Node}
    (here : shelf.at? position path = some node) :
    shelf.node? (shelf.home position path) = some node := by
  rcases Option.bind_eq_some_iff.mp here with ⟨tree, stands, found⟩
  have atRoot : tree.own? [] = some tree := rfl
  rcases anchor_spec sound stands atRoot found with ⟨_, owner, _, _, owns, rest⟩
  rw [home, stands, Option.map_some, Option.getD_some, node?]
  exact Option.bind_eq_some_iff.mpr ⟨owner, owns, rest⟩

end Shelf

end TraceView

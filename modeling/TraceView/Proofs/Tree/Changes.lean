import TraceView.Proofs.Tree.Refreshing

namespace TraceView.Shelf

/-!
# One change of a shelf

A change is made at a place: a tree of the shelf becomes the last child of the node there, a child
is removed, or the value, the source or the formatter is set.  It is refused if the node refuses
it.  Otherwise the node at its home is the edited one, at this place and wherever else it occurs,
and every other node keeps its face.
-/

variable {shelf : Shelf} {position : Nat} {path : List String} {node changed : Node} {edit : Edit}

/-! ## Edits at a place -/

/-- An edit is made at the home of the place. -/
theorem edit_eq (shelf : Shelf) (position : Nat) (path : List String) (edit : Edit) :
    shelf.edit position path edit =
      ((shelf.tree? position).bind fun _ => shelf.tree? (shelf.home position path).1).elim
        (.error .nowhere) fun owner =>
          (owner.editAt (shelf.home position path).2 edit).map shelf.commit := by
  unfold Shelf.edit home
  cases shelf.tree? position with
  | none => rfl
  | some tree =>
      simp only [Option.map_some, Option.getD_some, Option.bind_some]
      cases shelf.tree? (anchor tree position path path).1 <;> rfl

/-- What is found at a place is what is found at its home. -/
theorem Sound.at?_eq (sound : shelf.Sound) (position : Nat) (path : List String) :
    shelf.at? position path =
      ((shelf.tree? position).bind fun _ => shelf.tree? (shelf.home position path).1).bind
        fun owner => owner.at? (shelf.home position path).2 := by
  unfold Shelf.at? home
  cases stands : shelf.tree? position with
  | none => rfl
  | some tree =>
      have atRoot : tree.own? [] = some tree := rfl
      exact (anchor_at? sound stands atRoot).symm

/-- An edit fails as the node at the place does. -/
theorem Sound.edit_of_error (sound : shelf.Sound) (here : shelf.at? position path = some node)
    {cause : TreeError} (refused : node.edit edit = .error cause) :
    shelf.edit position path edit = .error (.tree cause) := by
  rw [sound.at?_eq] at here
  rcases Option.bind_eq_some_iff.mp here with ⟨owner, stands, found⟩
  rw [edit_eq, stands, Option.elim_some, Node.editAt, found]
  simp only [refused]
  rfl

/-- The shelf after an edit that the node at the place takes. -/
theorem Sound.edit_of_ok (sound : shelf.Sound) (here : shelf.at? position path = some node)
    (done : node.edit edit = .ok changed) {owner : Node}
    (stands : shelf.tree? (shelf.home position path).1 = some owner) :
    shelf.edit position path edit =
      .ok (shelf.commit (owner.replaceAt changed (shelf.home position path).2)) := by
  have found := here
  rw [sound.at?_eq] at found
  rcases Option.bind_eq_some_iff.mp found with ⟨first, both, reached⟩
  rw [edit_eq, both, Option.elim_some]
  rcases Option.bind_eq_some_iff.mp both with ⟨_, _, standsToo⟩
  cases stands.symm.trans standsToo
  rw [Node.editAt, reached]
  simp only [done]
  rfl

/-- An edit that succeeds is taken by the node at the place. -/
theorem Sound.exists_of_edit (sound : shelf.Sound) {next : Shelf}
    (done : shelf.edit position path edit = .ok next) :
    Exists fun node : Node => Exists fun changed : Node =>
      shelf.at? position path = some node ∧ node.edit edit = .ok changed := by
  cases here : shelf.at? position path with
  | none =>
      have missing := here
      rw [sound.at?_eq] at missing
      rw [edit_eq] at done
      cases stands : (shelf.tree? position).bind fun _ =>
          shelf.tree? (shelf.home position path).1 with
      | none =>
          rw [stands] at done
          cases done
      | some owner =>
          rw [stands, Option.bind_some] at missing
          rw [stands, Option.elim_some, Node.editAt, missing] at done
          cases done
  | some node =>
      cases edited : node.edit edit with
      | error cause =>
          rw [sound.edit_of_error here edited] at done
          cases done
      | ok changed => exact ⟨node, changed, rfl, edited⟩

/-! ## What an edit leaves -/

/-- A shelf after a change at a home, where there is now another node. -/
structure Follows (shelf next : Shelf) (home : Home) (changed : Node) : Prop where
  sound : next.Sound
  /-- The changed node is at the home. -/
  here : next.node? home = some changed
  /-- Every other node was there before and keeps its face. -/
  elsewhere : forall other node, other ≠ home -> next.node? other = some node ->
    Exists fun before : Node => shelf.node? other = some before ∧ node.face = before.face

/-- A node that may be added at a home: a tree of the shelf that does not contain the node there. -/
def MayAdd (shelf : Shelf) (home : Home) (child : Node) : Prop :=
  (Exists fun place : Nat => shelf.tree? place = some child) ∧ child.Free home.1

/-- An edited node can be put at its home. -/
theorem Sound.replacement (sound : shelf.Sound) {home : Home} {owner : Node}
    (stands : shelf.tree? home.1 = some owner) (reached : owner.own? home.2 = some node)
    (allowed : forall child, edit = .addChild child -> shelf.MayAdd home child)
    (done : node.edit edit = .ok changed) : shelf.Replacement home owner node changed := by
  have standing := holds_of_tree? stands
  have inTree := Node.mem_walk_of_own? reached
  have holds := standing.part inTree
  refine ⟨stands, reached, Node.replaces_edit done, Node.nodup_edit (sound.distinct holds) done,
    ?_, ?_, ?_⟩
  · rintro below ⟨child, listed, inside⟩
    rcases Node.mem_children_edit done listed with old | added
    · exact holds.part (Node.Below.mem_walk ⟨child, old, inside⟩)
    · rcases (allowed child added).1 with ⟨place, place_stands⟩
      exact (holds_of_tree? place_stands).part inside
  · rintro below ⟨child, listed, inside⟩
    rcases Node.mem_children_edit done listed with old | added
    · exact sound.mark_of_below stands (Node.Below.trans ⟨child, old, inside⟩ inTree)
    · exact (allowed child added).2 below inside
  · intro name rest last found
    rcases Node.own?_cons_eq_some_iff.mp found with ⟨child, stored, unmarked, further⟩
    rcases Node.stored?_edit done stored with before | added
    · exact Node.own?_cons_eq_some_iff.mpr ⟨child, before, unmarked, further⟩
    · rcases (allowed child added).1 with ⟨place, place_stands⟩
      rw [sound.marked place_stands] at unmarked
      cases unmarked

/-- What an edit comes to that the node at a place takes: the edited node is found at the place and
at its home, and all other nodes keep their faces. -/
theorem Sound.edit_follows (sound : shelf.Sound) (here : shelf.at? position path = some node)
    (allowed : forall child, edit = .addChild child ->
      shelf.MayAdd (shelf.home position path) child)
    (done : node.edit edit = .ok changed) :
    Exists fun next : Shelf =>
      shelf.edit position path edit = .ok next ∧
      shelf.Follows next (shelf.home position path) changed ∧
      next.at? position path = some changed := by
  rcases Option.bind_eq_some_iff.mp here with ⟨tree, stands, found⟩
  have atRoot : tree.own? [] = some tree := rfl
  rcases anchor_spec sound stands atRoot found with
    ⟨front, owner, split, onWay, owns, reached⟩
  have searched : shelf.home position path = anchor tree position path path := by
    rw [home, stands]
    rfl
  simp only [List.nil_append, ← searched] at split owns reached
  have change := sound.replacement owns reached allowed done
  refine ⟨_, sound.edit_of_ok here done owns,
    ⟨change.sound_commit sound, change.node?_commit_self sound, fun other shown elsewhere there =>
      change.node?_commit_of_ne sound elsewhere there⟩, ?_⟩
  have again := Node.own?_replaceAt_self change.fits (sound.distinct_tree (holds_of_tree? owns)) reached
  have wholeWay := Node.at?_append (updated (shelf.home position path) owner changed tree) front
    (shelf.home position path).2
  rw [← split, change.at?_updated sound (holds_of_tree? stands) onWay, Option.bind_some,
    Node.at?_of_own? again] at wholeWay
  rw [at?, tree?_commit_replaceAt, stands]
  exact wholeWay

/-! ## Where children live -/

/-- The home of a child under a name of the node with a home. -/
def childHome (home : Home) (name : String) : Option Nat -> Home
  | some place => (place, [])
  | none => (home.1, home.2 ++ [name])

/-- The home of the child that is stored under a name. -/
def held? (shelf : Shelf) (home : Home) (name : String) : Option Home :=
  (shelf.node? home).bind fun node =>
    (node.stored? name).map fun child => childHome home name child.mark

/-- A child is found at its home. -/
theorem Sound.stored?_eq (sound : shelf.Sound) {home : Home} (here : shelf.node? home = some node)
    (name : String) : node.stored? name = (shelf.held? home name).bind shelf.node? := by
  rw [held?, here, Option.bind_some]
  rcases Option.bind_eq_some_iff.mp here with ⟨tree, stands, reached⟩
  cases stored : node.stored? name with
  | none => rfl
  | some child =>
      rw [Option.map_some, Option.bind_some, node?]
      cases marked : child.mark with
      | some place =>
          rw [childHome, sound.tree?_of_stored stands reached stored marked]
          rfl
      | none =>
          rw [childHome, stands]
          exact (own?_append_singleton reached stored marked).symm

/-- Nodes with one face at one home hold the same children. -/
theorem held?_of_face {next : Shelf} {home : Home} {before : Node}
    (here : shelf.node? home = some before) (there : next.node? home = some node)
    (same : node.face = before.face) (name : String) :
    next.held? home name = shelf.held? home name := by
  have marks := congrArg (Option.map (childHome home name)) (Node.mark_stored?_of_face same name)
  simp only [Option.map_map] at marks
  rw [held?, there, held?, here]
  exact marks

end TraceView.Shelf

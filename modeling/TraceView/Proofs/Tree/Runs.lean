import TraceView.Proofs.Tree.Changes

namespace TraceView

/-!
# The children of a node after a run of changes

Changes are made one after the other, and a refused one leaves the shelf as it is.  A run leaves a
history behind: which names of which nodes were given to a child, and which were taken away.  After
any run the children of a node are an ordered map.  Their names differ, the child under a name is
the one that the history names last, and whether a look-up shows it depends only on what it holds
at that moment.
-/

namespace Shelf

/-- What is done to a node: a tree of the shelf becomes its last child, a child is removed, or the
value, the source or the formatter is set. -/
inductive Action where
  | add (place : Nat)
  | remove (name : String)
  | setValue (value : Value)
  | setSource (source : Source)
  | setFormatter (formatter : Option Formatter)

/-- An action on the node at a place. -/
structure Change where
  position : Nat
  path : List String
  action : Action

/-- Under a name of the node with a home there is a new child from now on, or none. -/
structure Event where
  home : Home
  name : String
  child : Option Home

/-- The edit of a node that an action stands for. -/
def edit? (shelf : Shelf) : Action -> Option Edit
  | .add place => (shelf.tree? place).map .addChild
  | .remove name => some (.removeChild name)
  | .setValue value => some (.setValue value)
  | .setSource source => some (.setSource source)
  | .setFormatter formatter => some (.setFormatter formatter)

/-- Make a change. -/
def perform (shelf : Shelf) (change : Change) : Except EditError Shelf :=
  ((shelf.edit? change.action).map (shelf.edit change.position change.path)).getD (.error .nowhere)

/-- The shelf after a change, which is the same if the change is refused. -/
def after (shelf : Shelf) (change : Change) : Shelf :=
  (shelf.perform change).toOption.getD shelf

/-- The shelf after changes, one after the other. -/
def run (shelf : Shelf) (changes : List Change) : Shelf :=
  changes.foldl after shelf

/-- What an action does to the names of the node with a home. -/
def eventOf? (shelf : Shelf) (home : Home) : Action -> Option Event
  | .add place => (shelf.tree? place).map fun child => ⟨home, child.name, some (place, [])⟩
  | .remove name => some ⟨home, name, none⟩
  | _ => none

/-- What a change does to the names of a node, if it is not refused. -/
def event? (shelf : Shelf) (change : Change) : Option Event :=
  (shelf.perform change).toOption.bind fun _ =>
    shelf.eventOf? (shelf.home change.position change.path) change.action

/-- All that changes do to the names of nodes, in order. -/
def history (shelf : Shelf) : List Change -> List Event
  | [] => []
  | change :: rest => (shelf.event? change).toList ++ (shelf.after change).history rest

/-- Whether an event is about a name of the node with a home. -/
def Event.concerns (event : Event) (home : Home) (name : String) : Bool :=
  event.home == home && event.name == name

/-- The home of the child under a name as the history has it: the child that was added last and has
not been removed since, and before the first event the child that was there. -/
def latest? (shelf : Shelf) (changes : List Change) (home : Home) (name : String) : Option Home :=
  (((shelf.history changes).filter fun event => event.concerns home name).getLast?.map
    Event.child).getD (shelf.held? home name)

/-- A change that adds no tree below itself. -/
def Allows (shelf : Shelf) (change : Change) : Prop :=
  forall place child, change.action = .add place -> shelf.tree? place = some child ->
    child.Free (shelf.home change.position change.path).1

/-- Changes none of which adds a tree below itself. -/
def Legal (shelf : Shelf) : List Change -> Prop
  | [] => True
  | change :: rest => shelf.Allows change ∧ (shelf.after change).Legal rest

variable {shelf next : Shelf} {change : Change} {home : Home} {node : Node}

/-! ## One change -/

theorem after_of_ok (done : shelf.perform change = .ok next) : shelf.after change = next := by
  rw [after, done]
  rfl

theorem after_of_error {cause : EditError} (refused : shelf.perform change = .error cause) :
    shelf.after change = shelf := by
  rw [after, refused]
  rfl

theorem perform_of_edit? (change : Change) {edit : Edit} (meant : shelf.edit? change.action = some edit) :
    shelf.perform change = shelf.edit change.position change.path edit := by
  rw [perform, meant]
  rfl

/-- A tree that an allowed change adds may be added. -/
theorem Allows.mayAdd (allows : shelf.Allows change) {edit : Edit}
    (meant : shelf.edit? change.action = some edit) {child : Node} (adds : edit = .addChild child) :
    shelf.MayAdd (shelf.home change.position change.path) child := by
  rw [adds] at meant
  cases acts : change.action with
  | add place =>
      rw [acts] at meant
      rcases Option.map_eq_some_iff.mp meant with ⟨tree, stands, same⟩
      rw [Edit.addChild.inj same] at stands
      exact ⟨⟨place, stands⟩, allows place child acts stands⟩
  | _ =>
      rw [acts] at meant
      cases meant

/-- What a change comes to that is not refused: the node at its place takes the edit. -/
theorem Sound.exists_of_perform (sound : shelf.Sound) (allows : shelf.Allows change)
    (done : shelf.perform change = .ok next) :
    Exists fun edit : Edit => Exists fun node : Node => Exists fun changed : Node =>
      shelf.edit? change.action = some edit ∧
      shelf.at? change.position change.path = some node ∧ node.edit edit = .ok changed ∧
      shelf.Follows next (shelf.home change.position change.path) changed ∧
      next.at? change.position change.path = some changed := by
  cases meant : shelf.edit? change.action with
  | none =>
      rw [perform, meant] at done
      cases done
  | some edit =>
      rw [perform_of_edit? change meant] at done
      rcases sound.exists_of_edit done with ⟨node, changed, here, edited⟩
      rcases sound.edit_follows here (fun _ adds => allows.mayAdd meant adds) edited with
        ⟨other, doneToo, follows, there⟩
      cases done.symm.trans doneToo
      exact ⟨edit, node, changed, rfl, here, edited, follows, there⟩

/-- A change that adds no tree below itself keeps a shelf sound. -/
theorem Sound.after (sound : shelf.Sound) (allows : shelf.Allows change) :
    (shelf.after change).Sound := by
  cases done : shelf.perform change with
  | error cause =>
      rw [after_of_error done]
      exact sound
  | ok next =>
      rcases sound.exists_of_perform allows done with ⟨_, _, _, _, _, _, follows, _⟩
      rw [after_of_ok done]
      exact follows.sound

/-! ## The history -/

/-- What one event says of a name, after which nothing has been said of it. -/
def said? (event : Option Event) (home : Home) (name : String) (before : Option Home) :
    Option Home :=
  ((event.filter fun event => event.concerns home name).map Event.child).getD before

theorem said?_here (home : Home) (given name : String) (child before : Option Home) :
    said? (some ⟨home, given, child⟩) home name before = if given = name then child else before := by
  by_cases same : given = name
  · simp only [said?, Event.concerns, same, beq_self_eq_true, Bool.and_self, Option.filter_some,
      if_true, Option.map_some, Option.getD_some]
  · simp only [said?, Event.concerns, beq_self_eq_true, Bool.true_and, Option.filter_some, same,
      beq_iff_eq, if_false, Option.map_none, Option.getD_none]

theorem said?_elsewhere {event : Option Event} (home : Home) (name : String) (before : Option Home)
    (elsewhere : forall said, event = some said -> said.home ≠ home) :
    said? event home name before = before := by
  cases event with
  | none => rfl
  | some said =>
      have other : said.concerns home name = false := by
        rw [Event.concerns, beq_eq_false_iff_ne.mpr (elsewhere said rfl), Bool.false_and]
      rw [said?, Option.filter_some, other]
      rfl

theorem home_of_eventOf? {action : Action} {event : Event}
    (said : shelf.eventOf? home action = some event) : event.home = home := by
  cases action with
  | add place =>
      rcases Option.map_eq_some_iff.mp said with ⟨child, _, same⟩
      rw [← same]
  | remove name =>
      cases said
      rfl
  | _ => cases said

/-- The children of an edited node live where the event says, and the others where they did. -/
theorem held?_edit (sound : shelf.Sound) {action : Action} {edit : Edit} {before changed : Node}
    (meant : shelf.edit? action = some edit) (here : shelf.node? home = some before)
    (done : before.edit edit = .ok changed) (there : next.node? home = some changed)
    (name : String) :
    next.held? home name =
      said? (shelf.eventOf? home action) home name (shelf.held? home name) := by
  rw [held?, there, held?, here, Option.bind_some, Option.bind_some]
  cases action with
  | add place =>
      rcases Option.map_eq_some_iff.mp meant with ⟨child, stands, same⟩
      subst same
      rcases Node.addChild_eq_ok_iff.mp done with ⟨_, free, grown⟩
      rw [eventOf?, stands, Option.map_some, said?_here, grown, Node.stored?_append free]
      by_cases called : child.name = name
      · rw [if_pos called, if_pos called, Option.map_some, sound.marked stands]
        rfl
      · rw [if_neg called, if_neg called]
  | remove gone =>
      cases meant
      cases done
      rw [eventOf?, said?_here, Node.stored?_removeChild]
      by_cases same : name = gone
      · rw [if_pos same, if_pos same.symm]
        rfl
      · rw [if_neg same, if_neg (Ne.symm same)]
  | _ =>
      cases meant
      cases done
      rfl

/-- After a change a node that is still there was there before, and its children live where the
event says. -/
theorem Sound.held?_after (sound : shelf.Sound) (allows : shelf.Allows change)
    (there : (shelf.after change).node? home = some node) (name : String) :
    (Exists fun before : Node => shelf.node? home = some before) ∧
      (shelf.after change).held? home name =
        said? (shelf.event? change) home name (shelf.held? home name) := by
  cases done : shelf.perform change with
  | error cause =>
      rw [after_of_error done] at there ⊢
      rw [event?, done]
      exact ⟨⟨node, there⟩, rfl⟩
  | ok next =>
      rcases sound.exists_of_perform allows done with
        ⟨edit, before, changed, meant, here, edited, follows, _⟩
      have found := sound.node?_home here
      rw [after_of_ok done] at there ⊢
      have said : shelf.event? change =
          shelf.eventOf? (shelf.home change.position change.path) change.action := by
        rw [event?, done]
        rfl
      rw [said]
      by_cases same : home = shelf.home change.position change.path
      · subst same
        exact ⟨⟨before, found⟩, held?_edit sound meant found edited follows.here name⟩
      · rcases follows.elsewhere home node same there with ⟨old, known, sameFace⟩
        refine ⟨⟨old, known⟩, ?_⟩
        rw [held?_of_face known there sameFace]
        refine (said?_elsewhere home name _ fun event given => ?_).symm
        rw [home_of_eventOf? given]
        exact Ne.symm same

/-- The history of a longer run goes on from the first event. -/
theorem latest?_cons (shelf : Shelf) (change : Change) (rest : List Change) (home : Home)
    (name : String)
    (first : (shelf.after change).held? home name =
      said? (shelf.event? change) home name (shelf.held? home name)) :
    shelf.latest? (change :: rest) home name = (shelf.after change).latest? rest home name := by
  unfold latest?
  rw [history, List.filter_append, List.getLast?_append]
  cases ((shelf.after change).history rest).filter (fun event => event.concerns home name)
    |>.getLast? with
  | some event => rfl
  | none =>
      rw [Option.none_or, Option.map_none, Option.getD_none, first, said?]
      cases shelf.event? change with
      | none => rfl
      | some event =>
          cases concerned : event.concerns home name <;>
            simp only [Option.toList_some, List.filter_cons, concerned, List.filter_nil,
              Option.filter_some, if_true, Bool.false_eq_true, if_false, List.getLast?_nil,
              List.getLast?_singleton]

/-- After a run that adds no tree below itself the shelf is sound, and the children of a node live
where the history says. -/
theorem Sound.run (sound : shelf.Sound) {changes : List Change} (legal : shelf.Legal changes) :
    (shelf.run changes).Sound ∧ forall home node name,
      (shelf.run changes).node? home = some node ->
        (Exists fun before : Node => shelf.node? home = some before) ∧
          (shelf.run changes).held? home name = shelf.latest? changes home name := by
  induction changes generalizing shelf with
  | nil => exact ⟨sound, fun home node name there => ⟨⟨node, there⟩, rfl⟩⟩
  | cons change rest inductionHypothesis =>
      rcases legal with ⟨allows, further⟩
      rcases inductionHypothesis (sound.after allows) further with ⟨soundEnd, known⟩
      refine ⟨soundEnd, fun home node name there => ?_⟩
      rcases known home node name there with ⟨⟨between, present⟩, held⟩
      rcases sound.held?_after allows present name with ⟨before, first⟩
      exact ⟨before, held.trans (latest?_cons shelf change rest home name first).symm⟩

/-! ## The children after a run -/

/-- The children of a node at a place, as an ordered map, after a run of changes from a start. -/
structure IsOrderedMap (start : Shelf) (changes : List Change) (position : Nat)
    (path : List String) (node : Node) : Prop where
  /-- No two children have one name. -/
  distinct : node.childNames.Nodup
  /-- A child is refused exactly if it is a root or its name is taken, by whatever child. -/
  refused : forall place child, (start.run changes).tree? place = some child ->
    ((Exists fun cause : TreeError =>
        (start.run changes).perform ⟨position, path, .add place⟩ = .error (.tree cause)) ↔
      child.isRoot = true ∨ Exists fun taken : Node => node.stored? child.name = some taken)
  /-- What is refused changes nothing. -/
  unchanged : forall change cause, (start.run changes).perform change = .error cause ->
    start.run (changes ++ [change]) = start.run changes
  /-- Any other child becomes the last one. -/
  added : forall place child, (start.run changes).tree? place = some child ->
    (start.run changes).Allows ⟨position, path, .add place⟩ ->
    child.isRoot = false -> node.stored? child.name = none ->
    (start.run (changes ++ [⟨position, path, .add place⟩])).at? position path =
      some { node with children := node.children ++ [child] }
  /-- Under a name there is stored the child that has it, absent or not. -/
  stored : forall name child,
    node.stored? name = some child ↔ child ∈ node.children ∧ child.name = name
  /-- That child is taken out by a removal, and the order of the others stays. -/
  removed : forall name child, node.stored? name = some child ->
    Exists fun before : List Node => Exists fun behind : List Node =>
      node.children = before ++ child :: behind ∧
      (start.run (changes ++ [⟨position, path, .remove name⟩])).at? position path =
        some { node with children := before ++ behind }
  /-- Without such a child a removal changes nothing at the node. -/
  kept : forall name, node.stored? name = none ->
    (start.run (changes ++ [⟨position, path, .remove name⟩])).at? position path = some node
  /-- A look-up finds the child that was added last under the name and not removed since, unless it
  is absent now. -/
  found : forall name, node.child? name =
    ((start.latest? changes ((start.run changes).home position path) name).bind
      (start.run changes).node?).filter fun child => !child.isAbsent
  /-- A child is there again for look-ups as soon as a change of it leaves it a value or a child,
  and no longer as soon as a change takes the last of them. -/
  shown : forall name child action edit changed, node.stored? name = some child ->
    (start.run changes).edit? action = some edit ->
    (start.run changes).Allows ⟨position, path ++ [name], action⟩ ->
    child.edit edit = .ok changed ->
    Exists fun parent : Node =>
      (start.run (changes ++ [⟨position, path ++ [name], action⟩])).at? position path =
        some parent ∧
      parent.stored? name = some changed ∧
      (parent.child? name = some changed ↔ changed.value ≠ .null ∨ changed.children ≠ [])
  /-- A path is followed by one look-up after the other. -/
  resolved : forall way, node.resolve? way = way.foldlM Node.child? node
  /-- No path but the empty one ends on an absent node. -/
  present : forall way last, way ≠ [] -> node.resolve? way = some last -> last.isAbsent = false

theorem run_concat (start : Shelf) (changes : List Change) (change : Change) :
    start.run (changes ++ [change]) = (start.run changes).after change :=
  List.foldl_append

/-- The place of an allowed change has the edited node afterwards. -/
theorem Sound.at?_after (sound : shelf.Sound) (change : Change)
    (here : shelf.at? change.position change.path = some node) (allows : shelf.Allows change)
    {edit : Edit} {changed : Node} (meant : shelf.edit? change.action = some edit)
    (done : node.edit edit = .ok changed) :
    (shelf.after change).Sound ∧
      (shelf.after change).at? change.position change.path = some changed := by
  rcases sound.edit_follows here (fun _ adds => allows.mayAdd meant adds) done with
    ⟨next, edited, follows, there⟩
  rw [← perform_of_edit? change meant] at edited
  rw [after_of_ok edited]
  exact ⟨follows.sound, there⟩

/-- Only a tree that is added can be added below itself. -/
theorem allows_of_ne_add (forbids : forall place, change.action ≠ .add place) :
    shelf.Allows change :=
  fun place _ adds => absurd adds (forbids place)

/-- One name more on a path leads to the node that is stored under it. -/
theorem at?_concat_eq_some_iff {position : Nat} {path : List String} {name : String} :
    shelf.at? position (path ++ [name]) = some node ↔
      Exists fun parent : Node =>
        shelf.at? position path = some parent ∧ parent.stored? name = some node := by
  have last : forall parent : Node, parent.at? [name] = parent.stored? name :=
    fun parent => Option.bind_fun_some (parent.stored? name)
  unfold Shelf.at?
  simp only [Node.at?_append, ← Option.bind_assoc, last]
  exact Option.bind_eq_some_iff

variable {position : Nat} {path : List String}

/-- At a place the child of another place is refused exactly if the node there refuses it. -/
theorem Sound.refused_iff (sound : shelf.Sound) (here : shelf.at? position path = some node)
    {place : Nat} {child : Node} (stands : shelf.tree? place = some child) :
    (Exists fun cause : TreeError =>
        shelf.perform ⟨position, path, .add place⟩ = .error (.tree cause)) ↔
      child.isRoot = true ∨ Exists fun taken : Node => node.stored? child.name = some taken := by
  have meant : shelf.edit? (.add place) = some (.addChild child) := by
    rw [edit?, stands]
    rfl
  have asked : shelf.perform ⟨position, path, .add place⟩ =
      shelf.edit position path (.addChild child) :=
    perform_of_edit? ⟨position, path, .add place⟩ meant
  rw [← Node.addChild_refused_iff, asked]
  cases added : node.edit (.addChild child) with
  | error cause =>
      have refused : node.addChild child = .error cause := added
      rw [refused, sound.edit_of_error here added]
      exact iff_of_true ⟨cause, rfl⟩ ⟨cause, rfl⟩
  | ok grown =>
      rcases Option.bind_eq_some_iff.mp (sound.node?_home here) with ⟨owner, owns, _⟩
      have taken : node.addChild child = .ok grown := added
      rw [taken, sound.edit_of_ok here added owns]
      refine iff_of_false ?_ ?_ <;>
      · rintro ⟨cause, impossible⟩
        cases impossible

/-- A changed child is stored in its parent, and a look-up finds it there unless it is absent. -/
theorem Sound.child_shown (sound : shelf.Sound) (change : Change) {name : String}
    (place : change.path = path ++ [name]) {child changed : Node}
    (here : shelf.at? change.position change.path = some child) (allows : shelf.Allows change)
    {edit : Edit} (meant : shelf.edit? change.action = some edit)
    (done : child.edit edit = .ok changed) :
    Exists fun parent : Node =>
      (shelf.after change).at? change.position path = some parent ∧
      parent.stored? name = some changed ∧
      (parent.child? name = some changed ↔ changed.value ≠ .null ∨ changed.children ≠ []) := by
  have there := (sound.at?_after change here allows meant done).2
  rw [place] at there
  rcases at?_concat_eq_some_iff.mp there with ⟨parent, found, stored⟩
  refine ⟨parent, found, stored, ?_⟩
  rw [Node.child?_eq_some_iff, Node.isAbsent_eq_false_iff]
  exact and_iff_right stored

/-- After a run of changes that adds no tree below itself, the children of every node are an ordered
map: of what may be done to it next, and of what a look-up finds. -/
theorem run_isOrderedMap {start : Shelf} {changes : List Change} (sound : start.Sound)
    (legal : start.Legal changes) {position : Nat} {path : List String} {node : Node}
    (here : (start.run changes).at? position path = some node) :
    start.IsOrderedMap changes position path node := by
  rcases sound.run legal with ⟨soundNow, held⟩
  have found := soundNow.node?_home here
  have distinct : node.childNames.Nodup := by
    rcases Option.bind_eq_some_iff.mp here with ⟨tree, stands, reached⟩
    exact soundNow.distinct ((holds_of_tree? stands).part (Node.mem_walk_of_at? reached))
  have removal : forall name,
      (start.run (changes ++ [⟨position, path, .remove name⟩])).at? position path =
        some (node.removeChild name) := by
    intro name
    rw [run_concat]
    exact (soundNow.at?_after ⟨position, path, .remove name⟩ here (allows_of_ne_add nofun) rfl rfl).2
  refine
    { distinct := distinct
      refused := fun place child stands => soundNow.refused_iff here stands
      unchanged := ?unchanged
      added := ?added
      stored := fun name child => Node.stored?_eq_some_iff distinct
      removed := ?removed
      kept := ?kept
      found := ?found
      shown := ?shown
      resolved := node.resolve?_eq_foldlM
      present := fun way last => Node.isAbsent_of_resolve? }
  case unchanged =>
    intro change cause refused
    rw [run_concat, after_of_error refused]
  case added =>
    intro place child stands allows noRoot free
    have meant : (start.run changes).edit? (.add place) = some (.addChild child) := by
      rw [edit?, stands]
      rfl
    have appended : node.edit (.addChild child) =
        .ok { node with children := node.children ++ [child] } :=
      Node.addChild_eq_ok_iff.mpr ⟨noRoot, Node.stored?_eq_none_iff.mp free, rfl⟩
    rw [run_concat]
    exact (soundNow.at?_after ⟨position, path, .add place⟩ here allows meant appended).2
  case removed =>
    intro name child stored
    rcases List.append_of_mem (List.mem_of_find?_eq_some stored) with ⟨before, behind, split⟩
    refine ⟨before, behind, split, ?_⟩
    rw [removal, ← Node.name_of_stored? stored, Node.removeChild_of_split distinct split]
  case kept =>
    intro name missing
    rw [removal, Node.removeChild_of_missing missing]
  case found =>
    intro name
    rw [← (held _ _ name found).2, Node.child?, soundNow.stored?_eq found]
  case shown =>
    intro name child action edit changed stored meant allows done
    rw [run_concat]
    exact soundNow.child_shown ⟨position, path ++ [name], action⟩ rfl
      (at?_concat_eq_some_iff.mpr ⟨node, here, stored⟩) allows meant done

/-- An entry with a text and a placeholder, and a leaf that belongs nowhere yet. -/
def draft : Shelf :=
  ((Shelf.empty.put
    ⟨"LogMessage message", "message", .null, .raw, none, true, some "LogMessage", none,
      [.leaf "LogMessage message.text" "text" (.string "moved") .raw none,
        .leaf "LogMessage message.place" "place" .null .raw none]⟩).1.put
    (.leaf "LogMessage message.place.at" "at" .null .raw none)).1

/-- The leaf goes below the placeholder, once; it gets a value; and the text is removed. -/
def draftChanges : List Change :=
  [⟨0, ["place"], .add 1⟩, ⟨0, ["place"], .add 1⟩, ⟨1, [], .setValue (.int 7)⟩,
    ⟨0, [], .remove "text"⟩]

theorem sound_draft : draft.Sound := by
  refine (sound_empty.put ?_ ?_).put ?_ ?_
  · unfold Node.Distinct
    decide
  · rintro node ⟨child, listed, inside⟩
    rcases List.mem_pair.mp listed with same | same <;>
    · rw [same] at inside
      rw [List.mem_singleton.mp inside]
  · unfold Node.Distinct
    decide
  · rintro node ⟨child, listed, _⟩
    cases listed

theorem draft_isOrderedMap :
    draft.Sound ∧ draft.Legal draftChanges ∧
      Exists fun node : Node =>
        (draft.run draftChanges).at? 0 [] = some node ∧ node.childNames = ["place"] ∧
        (node.resolve? ["place", "at"]).bind Node.int? = some 7 ∧
        draft.IsOrderedMap draftChanges 0 [] node := by
  have legal : draft.Legal draftChanges := by
    refine ⟨?_, ?_, allows_of_ne_add nofun, allows_of_ne_add nofun, trivial⟩
    all_goals
      intro place child adds stands
      cases adds
      cases stands
      unfold Node.Free
      decide
  refine ⟨sound_draft, legal, _, rfl, ?_, ?_, run_isOrderedMap sound_draft legal rfl⟩
  · rfl
  · rfl

end Shelf

end TraceView

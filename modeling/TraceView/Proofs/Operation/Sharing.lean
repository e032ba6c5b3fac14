import TraceView.Proofs.Operation.Dressing
import TraceView.Proofs.Tree.Refreshing
import TraceView.Workbench

namespace TraceView

/-!
# Equality and pipelines

Equality of trees is an equivalence, and pipelines respect it.  They do so even if they are applied
in place to trees that share nodes.  Below the root a pipeline only sets formatters, and a formatter
that is set stays; so what the first application has done to a shared node is what the second one
would do to it, and what the second one does to it is nothing.
-/

namespace Shelf

variable {shelf : Shelf} {pipeline : Pipeline} {position place : Nat} {tree node : Node}

/-- The marked parts of a tree after a pipeline are the tree itself and nodes of it with their
formatters set, if the tree has a mark that no node below it has. -/
theorem marked_part_steps {own : Nat} (owned : tree.mark = some own)
    (acyclic : forall node : Node, node.Below tree -> node.mark ≠ some own) {part : Node} {mark : Nat}
    (inside : part ∈ (pipeline.steps tree).value.walk) (marked : part.mark = some mark) :
    (mark = own ∧ part = (pipeline.steps tree).value) ∨
      (mark ≠ own ∧ Exists fun before : Node =>
        before.Below tree ∧ before.mark = some mark ∧ part = pipeline.dress before) := by
  rcases Node.mem_walk_iff.mp inside with root | below
  · rw [root, Pipeline.mark_steps, owned] at marked
    exact .inl ⟨(Option.some.inj marked).symm, root⟩
  · rcases pipeline.below_steps below with plain | ⟨before, old, dressed⟩
    · rw [plain] at marked
      cases marked
    · rw [dressed, Pipeline.mark_dress] at marked
      exact .inr ⟨fun same => acyclic before old (same ▸ marked), before, old, marked, dressed⟩

/-- Such a tree becomes what the pipeline gives. -/
theorem refreshed_steps_self {own : Nat} (owned : tree.mark = some own)
    (acyclic : forall node : Node, node.Below tree -> node.mark ≠ some own) :
    refreshed (pipeline.steps tree).value tree = (pipeline.steps tree).value := by
  rcases refreshed_cases (pipeline.steps tree).value tree with
    ⟨part, mark, inside, same, marked, put⟩ | ⟨missing, _⟩
  · rcases marked_part_steps owned acyclic inside same with ⟨_, root⟩ | ⟨other, _⟩
    · exact put.trans root
    · exact absurd (Option.some.inj (marked.symm.trans owned)) other
  · exact absurd ((pipeline.mark_steps tree).trans owned) (missing own owned _ (Node.mem_walk_self _))

/-- On a sound shelf these parts are the tree itself and trees of the shelf with their formatters
set. -/
theorem Sound.part_steps (sound : shelf.Sound) (stands : shelf.tree? position = some tree)
    {part : Node} {mark : Nat} (inside : part ∈ (pipeline.steps tree).value.walk)
    (marked : part.mark = some mark) :
    (mark = position ∧ part = (pipeline.steps tree).value) ∨
      (mark ≠ position ∧ Exists fun before : Node => before.Below tree ∧
        shelf.tree? mark = some before ∧ part = pipeline.dress before) := by
  have acyclic := fun (node : Node) (below : node.Below tree) => sound.mark_of_below stands below
  refine (marked_part_steps (sound.marked stands) acyclic inside marked).imp_right ?_
  rintro ⟨other, before, below, known, dressed⟩
  exact ⟨other, before, below, sound.alike ((holds_of_tree? stands).part below.mem_walk) known, dressed⟩

/-- What a pipeline on one tree does to a node that does not contain this tree: a part of the tree
has its formatters set, and in the others the children are refreshed. -/
theorem Sound.refreshed_steps (sound : shelf.Sound) (stands : shelf.tree? position = some tree)
    (held : shelf.Holds node) (free : node.Free position) :
    refreshed (pipeline.steps tree).value node = pipeline.dress node ∨
      ((forall mark, node.mark = some mark -> (pipeline.steps tree).value.Free mark) ∧
        refreshed (pipeline.steps tree).value node =
          { node with
            children := node.children.map (refreshed (pipeline.steps tree).value) }) := by
  refine (refreshed_cases (pipeline.steps tree).value node).imp_left ?_
  rintro ⟨part, mark, inside, same, marked, put⟩
  rcases sound.part_steps stands inside same with ⟨own, _⟩ | ⟨_, before, _, alike, dressed⟩
  · rw [own] at marked
    exact absurd marked (free node node.mem_walk_self)
  · cases alike.symm.trans (sound.alike held marked)
    exact put.trans dressed

/-- A node that does not contain the tree looks as before to the pipeline. -/
theorem Sound.sameView_refreshed (sound : shelf.Sound) (stands : shelf.tree? position = some tree)
    (held : shelf.Holds node) (free : node.Free position) :
    (refreshed (pipeline.steps tree).value node).SameView pipeline.look node := by
  induction node using Node.induction_on_children with
  | step node inductionHypothesis =>
      rcases sound.refreshed_steps stands held free with dressed | ⟨_, deeper⟩
      · rw [dressed]
        exact pipeline.sameView_dress node
      · rw [deeper]
        refine Node.sameView_iff.mpr ⟨rfl, rfl, rfl, rfl, rfl, rfl, rfl, rfl, ?_⟩
        rw [List.map_map]
        exact List.map_congr_left fun child listed => inductionHypothesis child listed
          (held.part (Node.mem_walk_of_mem listed)) (free.child listed)

/-- The marked nodes in what a node becomes that does not contain the tree: each is there already,
and it is the part of the tree with its mark, if there is one. -/
theorem Sound.mem_walk_refreshed (sound : shelf.Sound) (stands : shelf.tree? position = some tree)
    (held : shelf.Holds node) (free : node.Free position) {found : Node} {mark : Nat}
    (inside : found ∈ (refreshed (pipeline.steps tree).value node).walk)
    (marked : found.mark = some mark) :
    (Exists fun before : Node => before ∈ node.walk ∧ before.mark = some mark) ∧
      forall part, part ∈ (pipeline.steps tree).value.walk -> part.mark = some mark ->
        found = part := by
  induction node using Node.induction_on_children with
  | step node inductionHypothesis =>
      rcases sound.refreshed_steps stands held free with dressed | ⟨missing, deeper⟩
      · rw [dressed, Pipeline.walk_dress] at inside
        rcases List.mem_map.mp inside with ⟨before, member, same⟩
        rw [← same, Pipeline.mark_dress] at marked
        refine ⟨⟨before, member, marked⟩, fun part partInside partMarked => ?_⟩
        rcases sound.part_steps stands partInside partMarked with
          ⟨own, _⟩ | ⟨_, twin, _, alike, dressedPart⟩
        · rw [own] at marked
          exact absurd marked (free before member)
        · cases alike.symm.trans (sound.alike (held.part member) marked)
          rw [← same, dressedPart]
      · rcases Node.mem_walk_iff.mp inside with root | ⟨child, listed, below⟩
        · have own : node.mark = some mark := by
            rw [← marked, root, deeper]
          exact ⟨⟨node, node.mem_walk_self, own⟩, fun part partInside partMarked =>
            absurd partMarked (missing mark own part partInside)⟩
        · rw [deeper] at listed
          rcases List.mem_map.mp listed with ⟨old, oldListed, same⟩
          rw [← same] at below
          have oldInside := Node.mem_walk_of_mem oldListed
          rcases inductionHypothesis old oldListed (held.part oldInside) (free.child oldListed)
            below with ⟨⟨before, member, beforeMarked⟩, known⟩
          exact ⟨⟨before, Node.mem_walk_trans member oldInside, beforeMarked⟩, known⟩

/-- The tree at the position is the one that the pipeline gives. -/
theorem Sound.refreshed_self (sound : shelf.Sound) (stands : shelf.tree? position = some tree) :
    refreshed (pipeline.steps tree).value tree = (pipeline.steps tree).value :=
  refreshed_steps_self (sound.marked stands) fun _ below => sound.mark_of_below stands below

/-- A tree once a pipeline has been applied to another one. -/
def meanwhile (pipeline : Pipeline) (other tree : Node) : Node :=
  refreshed (pipeline.steps other).value tree

/-- Two trees at different positions that equality does not tell apart. -/
structure Twins (shelf : Shelf) (first second : Nat) (a b : Node) : Prop where
  sound : shelf.Sound
  aStands : shelf.tree? first = some a
  bStands : shelf.tree? second = some b
  apart : first ≠ second
  same : a.SameView Node.exactly b

namespace Twins

variable {first second : Nat} {a b : Node}

/-- The second tree does not contain the first one. -/
theorem free (twins : shelf.Twins first second a b) : b.Free first := by
  intro node inside marked
  rcases Node.mem_walk_iff.mp inside with root | below
  · rw [root, twins.sound.marked twins.bStands] at marked
    exact twins.apart (Option.some.inj marked).symm
  · have held := (holds_of_tree? twins.bStands).part below.mem_walk
    cases twins.aStands.symm.trans (twins.sound.alike held marked)
    exact Node.not_below_of_view (Eq.symm twins.same) below

/-- Nor does the first one contain the second one after a pipeline. -/
theorem free_steps (twins : shelf.Twins first second a b) :
    (pipeline.steps a).value.Free second := by
  intro part inside marked
  rcases twins.sound.part_steps twins.aStands inside marked with
    ⟨own, _⟩ | ⟨_, before, below, alike, _⟩
  · exact twins.apart own.symm
  · cases twins.bStands.symm.trans alike
    exact Node.not_below_of_view twins.same below

/-- The second tree keeps what it holds itself when the first one is changed. -/
theorem meanwhile_eq (twins : shelf.Twins first second a b) (pipeline : Pipeline) :
    meanwhile pipeline a b =
      { b with children := b.children.map (refreshed (pipeline.steps a).value) } := by
  unfold meanwhile
  rcases refreshed_cases (pipeline.steps a).value b with
    ⟨part, mark, inside, same, marked, _⟩ | ⟨_, deeper⟩
  · rw [twins.sound.marked twins.bStands] at marked
    exact absurd (marked ▸ same) (twins.free_steps part inside)
  · exact deeper

theorem mark_meanwhile (twins : shelf.Twins first second a b) (pipeline : Pipeline) :
    (meanwhile pipeline a b).mark = some second := by
  have own := twins.sound.marked twins.bStands
  rw [twins.meanwhile_eq]
  exact own

/-- The second tree does not get below itself. -/
theorem mark_of_below (twins : shelf.Twins first second a b)
    (below : node.Below (meanwhile pipeline a b)) : node.mark ≠ some second := by
  intro marked
  rcases below with ⟨child, listed, inside⟩
  rw [twins.meanwhile_eq] at listed
  rcases List.mem_map.mp listed with ⟨old, oldListed, same⟩
  rw [← same] at inside
  have held := (holds_of_tree? twins.bStands).part (Node.mem_walk_of_mem oldListed)
  rcases (twins.sound.mem_walk_refreshed twins.aStands held (twins.free.child oldListed) inside
    marked).1 with ⟨before, member, own⟩
  exact twins.sound.mark_of_below twins.bStands ⟨old, oldListed, member⟩ own

/-- After the second application the second tree is what the pipeline gives. -/
theorem second_self (twins : shelf.Twins first second a b) (pipeline : Pipeline) :
    refreshed (pipeline.steps (meanwhile pipeline a b)).value (meanwhile pipeline a b) =
      (pipeline.steps (meanwhile pipeline a b)).value :=
  refreshed_steps_self (twins.mark_meanwhile pipeline) fun _ below => twins.mark_of_below below

/-- The second application does nothing to the first tree. -/
theorem first_stays (twins : shelf.Twins first second a b)
    (inside : node ∈ (pipeline.steps a).value.walk) :
    refreshed (pipeline.steps (meanwhile pipeline a b)).value node = node := by
  induction node using Node.induction_on_children with
  | step node inductionHypothesis =>
      rcases refreshed_cases (pipeline.steps (meanwhile pipeline a b)).value node with
        ⟨part, mark, partInside, same, marked, put⟩ | ⟨_, deeper⟩
      · rcases marked_part_steps (twins.mark_meanwhile pipeline)
          (fun _ below => twins.mark_of_below below) partInside same with
          ⟨own, _⟩ | ⟨_, before, below, known, dressed⟩
        · exact absurd (own ▸ marked) (twins.free_steps node inside)
        rcases twins.sound.mem_walk_refreshed twins.aStands (holds_of_tree? twins.bStands)
          twins.free below.mem_walk known with ⟨⟨old, oldInside, oldMarked⟩, unique⟩
        rw [put, dressed, unique node inside marked]
        rcases twins.sound.part_steps twins.aStands inside marked with
          ⟨own, _⟩ | ⟨_, source, _, _, set⟩
        · exact absurd (own ▸ oldMarked) (twins.free old oldInside)
        · rw [set, Pipeline.dress_dress]
      · exact deeper.trans (Node.map_children_eq_self fun child listed =>
          inductionHypothesis child listed
            (Node.mem_walk_trans (Node.mem_walk_of_mem listed) inside))

end Twins

/-- The shelf after a pipeline has been applied in place to the tree at a position. -/
def worked (shelf : Shelf) (position : Nat) (pipeline : Pipeline) : Shelf :=
  ((shelf.tree? position).map fun tree => shelf.commit (pipeline.apply tree).value).getD shelf

/-- This is what an application on a workbench leaves on its shelf. -/
theorem shelf_apply (bench : Workbench) (stands : bench.shelf.tree? position = some tree)
    (pipeline : Pipeline) :
    (bench.apply position pipeline).map (fun noted => noted.value.1.shelf) =
      some (bench.shelf.worked position pipeline) := by
  rw [Workbench.apply, worked, stands]
  rfl

theorem tree?_worked (stands : shelf.tree? position = some tree) (pipeline : Pipeline)
    (place : Nat) :
    (shelf.worked position pipeline).tree? place =
      (shelf.tree? place).map (refreshed (pipeline.steps tree).value) := by
  rw [worked, stands, Option.map_some, Option.getD_some]
  exact shelf.tree?_commit _ place

/-- Trees that equality does not tell apart are equal after a pipeline has been applied to one and
then to the other, whatever nodes they share. -/
theorem Twins.equal_worked {first second : Nat} {a b : Node}
    (twins : shelf.Twins first second a b) (ordinary : a.Everywhere Value.IsOrdinary)
    (pipeline : Pipeline) :
    ((shelf.worked first pipeline).worked second pipeline).equal first second = true := by
  have aThen := tree?_worked twins.aStands pipeline first
  rw [twins.aStands, Option.map_some, twins.sound.refreshed_self twins.aStands] at aThen
  have bThen : (shelf.worked first pipeline).tree? second = some (meanwhile pipeline a b) := by
    rw [tree?_worked twins.aStands, twins.bStands]
    rfl
  have aLast := tree?_worked bThen pipeline first
  rw [aThen, Option.map_some, twins.first_stays (Node.mem_walk_self _)] at aLast
  have bLast := tree?_worked bThen pipeline second
  rw [bThen, Option.map_some, twins.second_self] at bLast
  have seen : a.SameView pipeline.look (meanwhile pipeline a b) :=
    (Node.sameView_of_exactly pipeline.look_of_kind twins.same).trans
      (twins.sound.sameView_refreshed twins.aStands (holds_of_tree? twins.bStands) twins.free).symm
  have kept := pipeline.everywhere_steps (fun _ => trivial) (fun _ => trivial) ordinary
  rw [Shelf.equal, aLast, bLast]
  simp only [if_neg twins.apart]
  exact Node.equal_of_view kept (pipeline.steps_of_view seen)

/-! ## Equality on a shelf -/

theorem equalsItself_of_ordinary {value : Value} (ordinary : value.IsOrdinary) :
    value.equalsItself = true := by
  cases value with
  | double x =>
      cases x with
      | nan => exact absurd rfl ordinary
      | _ => rfl
  | decimal d =>
      cases d with
      | nan negative payload => exact ordinary.elim
      | _ => rfl
  | undefined => exact ordinary.elim
  | _ => rfl

variable {a b c : Node} {first second : Nat}

/-- On a sound shelf trees of ordinary values are equal exactly if they have one view. -/
theorem Sound.equal_iff (sound : shelf.Sound) (aHeld : shelf.Holds a) (bHeld : shelf.Holds b)
    (ordinary : a.Everywhere Value.IsOrdinary) :
    a.equal b = true ↔ a.SameView Node.exactly b := by
  refine ⟨Node.view_of_equal ordinary ?_, Node.equal_of_view ordinary⟩
  intro part inside twin twinInside one
  rw [Node.isSame, Bool.and_eq_true, beq_iff_eq] at one
  rcases Option.isSome_iff_exists.mp one.1 with ⟨mark, marked⟩
  have alike := sound.alike (aHeld.part inside) marked
  have twinAlike := sound.alike (bHeld.part twinInside) (one.2.symm.trans marked)
  exact Option.some.inj (alike.symm.trans twinAlike)

/-- Trees of ordinary values are compared as they are, also each with itself. -/
theorem equal_eq (aStands : shelf.tree? first = some a) (bStands : shelf.tree? second = some b)
    (ordinary : a.Everywhere Value.IsOrdinary) : shelf.equal first second = a.equal b := by
  rw [Shelf.equal, aStands, bStands]
  by_cases one : first = second
  · simp only [if_pos one]
    cases (one ▸ aStands).symm.trans bStands
    rw [equalsItself_of_ordinary (ordinary a a.mem_walk_self), Node.equal_of_view ordinary rfl]
  · simp only [if_neg one]

/-- A tree to which a pipeline has been applied in place, even twice, is equal to itself. -/
theorem Sound.equal_worked_self (sound : shelf.Sound) (aStands : shelf.tree? first = some a)
    (ordinary : a.Everywhere Value.IsOrdinary) (pipeline : Pipeline) :
    ((shelf.worked first pipeline).worked first pipeline).equal first first = true := by
  have between := tree?_worked aStands pipeline first
  rw [aStands, Option.map_some, sound.refreshed_self aStands] at between
  have last := tree?_worked between pipeline first
  rw [between, Option.map_some] at last
  have once := pipeline.everywhere_steps (fun _ => trivial) (fun _ => trivial) ordinary
  have twice := pipeline.everywhere_steps (fun _ => trivial) (fun _ => trivial) once
  rw [Shelf.equal, last]
  simp only [if_true]
  refine equalsItself_of_ordinary ?_
  rcases refreshed_cases (pipeline.steps (pipeline.steps a).value).value (pipeline.steps a).value with
    ⟨part, _, inside, _, _, put⟩ | ⟨_, deeper⟩
  · rw [put]
    exact twice part inside
  · have root := once _ (Node.mem_walk_self _)
    rw [deeper]
    exact root

/-- Equality of trees of ordinary values is an equivalence.  Pipelines make equal trees out of equal
ones, also if they are applied in place and the trees share nodes.  Along any path equal nodes are
found in equal trees, or none in either. -/
theorem equality_respected (sound : shelf.Sound) (aHeld : shelf.Holds a) (bHeld : shelf.Holds b)
    (cHeld : shelf.Holds c) (aOrdinary : a.Everywhere Value.IsOrdinary)
    (bOrdinary : b.Everywhere Value.IsOrdinary) :
    a.equal a = true ∧ (a.equal b = true -> b.equal a = true) ∧
      (a.equal b = true -> b.equal c = true -> a.equal c = true) ∧
      (forall first second, shelf.tree? first = some a -> shelf.tree? second = some b ->
        shelf.equal first second = a.equal b) ∧
      (a.equal b = true -> forall pipeline : Pipeline,
        (pipeline.apply a).value.equal (pipeline.apply b).value = true ∧
        forall first second, shelf.tree? first = some a -> shelf.tree? second = some b ->
          ((shelf.worked first pipeline).worked second pipeline).equal first second = true) ∧
      (a.equal b = true -> forall path : List String,
        Option.Rel (fun found twin : Node => found.equal twin = true)
          (a.resolve? path) (b.resolve? path)) := by
  have ab := sound.equal_iff aHeld bHeld aOrdinary
  have bc := sound.equal_iff bHeld cHeld bOrdinary
  refine ⟨Node.equal_of_view aOrdinary rfl, ?symmetric, ?transitive,
    fun first second aStands bStands => equal_eq aStands bStands aOrdinary, ?pipelines, ?paths⟩
  case symmetric =>
    intro equal
    exact Node.equal_of_view bOrdinary (ab.mp equal).symm
  case transitive =>
    intro one other
    exact Node.equal_of_view aOrdinary ((ab.mp one).trans (bc.mp other))
  case pipelines =>
    intro equal pipeline
    have kept := pipeline.everywhere_steps (fun _ => trivial) (fun _ => trivial) aOrdinary
    have seen := Node.sameView_of_exactly pipeline.look_of_kind (ab.mp equal)
    refine ⟨Node.equal_of_view kept (pipeline.steps_of_view seen), ?_⟩
    intro first second aStands bStands
    by_cases one : first = second
    · rw [← one]
      exact sound.equal_worked_self aStands aOrdinary pipeline
    · exact Twins.equal_worked ⟨sound, aStands, bStands, one, ab.mp equal⟩ aOrdinary pipeline
  case paths =>
    intro equal path
    have related := Node.resolve?_of_view (ab.mp equal) path
    have ordinary : forall found, a.resolve? path = some found ->
        found.Everywhere Value.IsOrdinary :=
      fun found reached => aOrdinary.part (Node.mem_walk_of_resolve? reached)
    generalize a.resolve? path = found at related ordinary ⊢
    generalize b.resolve? path = twin at related ⊢
    rcases related with views | _
    · exact .some (Node.equal_of_view (ordinary _ rfl) views)
    · exact .none

/-- A transition with a number and a decimal besides its times. -/
def numbered (number : Double) (decimal : Decimal) : Node :=
  ⟨"TransitionsTraceEntry transition", "transition", .null, .raw, none, true,
    some "TransitionsTraceEntry", none,
    [⟨"TransitionsTraceEntry transition.wmData", "wmData", .null, .raw, none, false, none, none,
        [.leaf "TransitionsTraceEntry transition.wmData.sendTimeNs" "sendTimeNs" (.int 7) .raw none,
          .leaf "TransitionsTraceEntry transition.wmData.finishTimeNs" "finishTimeNs" (.int 9)
            .raw none]⟩,
      .leaf "TransitionsTraceEntry transition.number" "number" (.double number) .raw none,
      .leaf "TransitionsTraceEntry transition.decimal" "decimal" (.decimal decimal) .raw none]⟩

/-- Three transitions that differ in the sign of a zero and in the spelling of a decimal. -/
def triplets : Shelf :=
  (((Shelf.empty.put (numbered (.zero false) (.finite false 10 (-1)))).1.put
    (numbered (.zero true) (.finite false 1 0))).1.put
    (numbered (.zero false) (.finite false 100 (-2)))).1

theorem forall_walk_numbered {number : Double} (defined : number ≠ .nan) {decimal : Decimal}
    (finite : decimal.IsFinite) :
    forall node, node ∈ (numbered number decimal).walk ->
      node.mark = none ∧ node.childNames.Nodup ∧ node.value.IsOrdinary := by
  intro node inside
  simp only [numbered, Node.leaf, Node.walk, Node.walkAll, List.append_nil, List.cons_append,
    List.nil_append, List.mem_cons, List.not_mem_nil, or_false] at inside
  have fields : ["wmData", "number", "decimal"].Nodup := by decide
  have times : ["sendTimeNs", "finishTimeNs"].Nodup := by decide
  rcases inside with same | same | same | same | same | same <;> rw [same]
  · exact ⟨rfl, fields, trivial⟩
  · exact ⟨rfl, times, trivial⟩
  · exact ⟨rfl, List.nodup_nil, trivial⟩
  · exact ⟨rfl, List.nodup_nil, trivial⟩
  · exact ⟨rfl, List.nodup_nil, defined⟩
  · exact ⟨rfl, List.nodup_nil, finite⟩

theorem sound_put_numbered (sound : shelf.Sound) {number : Double} (defined : number ≠ .nan)
    {decimal : Decimal} (finite : decimal.IsFinite) :
    (shelf.put (numbered number decimal)).1.Sound :=
  sound.put (fun node inside => (forall_walk_numbered defined finite node inside).2.1)
    fun node below => (forall_walk_numbered defined finite node below.mem_walk).1

theorem triplets_respect_equality :
    Exists fun a : Node => Exists fun b : Node => Exists fun c : Node =>
      triplets.tree? 0 = some a ∧ triplets.tree? 1 = some b ∧ triplets.tree? 2 = some c ∧
      a.equal b = true ∧ b.equal c = true ∧ a.equal c = true ∧ b.equal a = true ∧
      forall pipeline : Pipeline,
        ((triplets.worked 0 pipeline).worked 1 pipeline).equal 0 1 = true := by
  have zero : forall negative : Bool, Double.zero negative ≠ .nan := fun _ => nofun
  have sound : triplets.Sound := by
    refine sound_put_numbered (sound_put_numbered (sound_put_numbered sound_empty ?_ ?_) ?_ ?_) ?_ ?_
    · exact zero false
    · exact trivial
    · exact zero true
    · exact trivial
    · exact zero false
    · exact trivial
  have ordinary : forall (negative : Bool) (coefficient : Nat) (exponent : Int),
      (numbered (.zero negative) (.finite false coefficient exponent)).Everywhere
        Value.IsOrdinary := by
    intro negative coefficient exponent node inside
    have finite : (Decimal.finite false coefficient exponent).IsFinite := trivial
    exact (forall_walk_numbered (zero negative) finite node inside).2.2
  have a : triplets.tree? 0 = some _ := rfl
  have b : triplets.tree? 1 = some _ := rfl
  have c : triplets.tree? 2 = some _ := rfl
  rcases equality_respected sound (holds_of_tree? a) (holds_of_tree? b) (holds_of_tree? c)
    ((ordinary false 10 (-1)).marked (some 0)) ((ordinary true 1 0).marked (some 1)) with
    ⟨_, symmetric, transitive, _, pipelines, _⟩
  refine ⟨_, _, _, a, b, c, ?_, ?_, ?_, ?_, ?_⟩
  · decide +kernel
  · decide +kernel
  · exact transitive (by decide +kernel) (by decide +kernel)
  · exact symmetric (by decide +kernel)
  · exact fun pipeline => (pipelines (by decide +kernel) pipeline).2 0 1 a b

end Shelf

end TraceView

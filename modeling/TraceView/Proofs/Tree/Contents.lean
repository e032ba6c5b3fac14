import TraceView.Proofs.Operation.Lookup
import TraceView.Proofs.Tree.Building
import TraceView.Proofs.Tree.Shown

namespace TraceView

/-!
# What the nodes of a tree hold

A tree that is built from fields holds the scalars of these fields and nothing else.  What an entry
adds to it, its timestamp and the calculated properties, stands in leaves below the root, and no
operation reaches any other value.
-/

namespace Node

variable {holds : Value -> Prop} {tree : Node}

theorem everywhere_leaf {id name : String} {value : Value} {source : Source}
    {formatter : Option Formatter} (held : holds value) :
    (leaf id name value source formatter).Everywhere holds :=
  everywhere_iff.mpr ⟨held, fun _ impossible => absurd impossible List.not_mem_nil⟩

theorem Everywhere.append {child : Node} (everywhere : tree.Everywhere holds)
    (below : child.Everywhere holds) :
    ({ tree with children := tree.children ++ [child] } : Node).Everywhere holds := by
  rcases everywhere_iff.mp everywhere with ⟨here, children⟩
  exact everywhere_iff.mpr
    ⟨here, List.forall_mem_append.mpr ⟨children, List.forall_mem_singleton.mpr below⟩⟩

end Node

/-! ## Building -/

namespace Spec

variable {holds : Value -> Prop}

/-- What building may come to: a tree that holds only values of a kind, or an error of the tree.  A
name is not at fault, because it has a text. -/
def Yields (holds : Value -> Prop) : Except BuildError Node -> Prop
  | .ok tree => tree.Everywhere holds
  | .error (.tree _) => True
  | .error (.name _) => False

theorem yields_cons {spec : Spec} {rest : List Spec} {node : Node}
    (here : node.Everywhere holds) (first : Yields holds (build node.id spec))
    (others : forall grown : Node, grown.Everywhere holds -> Yields holds (buildInto rest grown)) :
    Yields holds (buildInto (spec :: rest) node) := by
  rw [buildInto]
  cases built : build node.id spec with
  | error cause =>
      rw [built] at first
      exact first
  | ok child =>
      rw [built] at first
      simp only
      cases attached : attach node child with
      | error cause =>
          unfold attach at attached
          cases added : node.addChild child with
          | error reason =>
              rw [added] at attached
              cases attached
              trivial
          | ok grown =>
              rw [added] at attached
              cases attached
      | ok grown =>
          rcases attach_eq_ok_iff.mp attached with ⟨_, _, same⟩
          simp only
          rw [same]
          exact others _ (here.append first)

/-- A description that is named by a text gives what its children give below the node. -/
theorem yields_build {parent name : String} {value : Value} {source : Source}
    {formatter : Option Formatter} {children : List Spec}
    (below : Yields holds
      (buildInto children (Node.leaf (parent ++ "." ++ name) name value source formatter))) :
    Yields holds (build parent ⟨.string name, value, source, formatter, false, children⟩) := by
  rw [build]
  cases isName (.string name) with
  | false => trivial
  | true => exact below

theorem yields_single {parent name : String} {value : Value} {spec : Spec}
    (held : forall item, item ∈ value.scalars -> holds (scalar item))
    (listed : value.scalars = [value])
    (described : some (leaf name (scalar value)) = some spec) :
    Yields holds (build parent spec) := by
  cases described
  apply yields_build
  exact Node.everywhere_leaf (held value (by rw [listed]; exact List.mem_singleton_self value))

mutual

/-- A field gives a node that holds its scalars only. -/
theorem yields_ofField (null : holds .null) (parent name : String) :
    forall value : Value, (forall item, item ∈ value.scalars -> holds (scalar item)) ->
      forall spec, ofField name value = some spec -> Yields holds (build parent spec)
  | .null, _, spec, described => nomatch described
  | .map fields, held, spec, described => by
      cases described
      exact yields_build (yields_ofFields null fields held _ (Node.everywhere_leaf null))
  | .list items, held, spec, described => by
      cases described
      exact yields_build (yields_ofItems null items held 0 _ (Node.everywhere_leaf null))
  | .bool flag, held, spec, described => yields_single held rfl described
  | .int n, held, spec, described => yields_single held rfl described
  | .double x, held, spec, described => yields_single held rfl described
  | .undefined, held, spec, described => yields_single held rfl described
  | .decimal d, held, spec, described => yields_single held rfl described
  | .string text, held, spec, described => yields_single held rfl described
  | .constant c, held, spec, described => yields_single held rfl described

theorem yields_ofFields (null : holds .null) :
    forall fields : List (String × Value),
      (forall item, item ∈ Value.fieldScalars fields -> holds (scalar item)) ->
        forall node : Node, node.Everywhere holds -> Yields holds (buildInto (ofFields fields) node)
  | [], _, node, here => here
  | (name, value) :: rest, held, node, here => by
      rcases List.forall_mem_append.mp held with ⟨first, others⟩
      rw [ofFields]
      cases described : ofField name value with
      | none => exact yields_ofFields null rest others node here
      | some spec =>
          exact yields_cons here (yields_ofField null node.id name value first spec described)
            (yields_ofFields null rest others)

theorem yields_ofItems (null : holds .null) :
    forall items : List Value,
      (forall item, item ∈ Value.itemScalars items -> holds (scalar item)) ->
        forall (position : Nat) (node : Node), node.Everywhere holds ->
          Yields holds (buildInto (ofItems position items) node)
  | [], _, position, node, here => here
  | value :: rest, held, position, node, here => by
      rcases List.forall_mem_append.mp held with ⟨first, others⟩
      rw [ofItems]
      cases described : ofField (toString position) value with
      | none => exact yields_ofItems null rest others (position + 1) node here
      | some spec =>
          exact yields_cons here
            (yields_ofField null node.id (toString position) value first spec described)
            (yields_ofItems null rest others (position + 1))

end

end Spec

/-- A tree that is built from fields holds null and the scalars of the fields only, and the names of
fields are never at fault. -/
theorem Node.yields_ofFields {holds : Value -> Prop} (null : holds .null)
    {fields : List (String × Value)}
    (held : forall item, item ∈ Value.fieldScalars fields -> holds (Spec.scalar item))
    (rootId name : String) : Spec.Yields holds (ofFields rootId name fields) := by
  unfold ofFields build
  by_cases incomplete : (rootId.isEmpty || name.isEmpty) = true
  · rw [if_pos incomplete]
    trivial
  · rw [if_neg incomplete]
    apply Spec.yields_ofFields null fields held
    exact everywhere_iff.mpr ⟨null, fun _ impossible => absurd impossible List.not_mem_nil⟩

/-! ## Entries -/

/-- A leaf that an entry adds to what its record holds: the timestamp or a calculated property. -/
structure Node.IsAdded (node : Node) : Prop where
  childless : node.children = []
  scalar : node.value.IsScalar
  added : node.name = "timestamp" ∨ node.source = .calculated

/-- A tree that holds only values of a kind, except in leaves below its root that have been added to
it. -/
structure Node.Contains (holds : Value -> Prop) (tree : Node) : Prop where
  root : holds tree.value
  children : forall child, child ∈ tree.children -> child.Everywhere holds ∨ child.IsAdded

variable {holds : Value -> Prop} {tree : Node}

theorem Node.Everywhere.contains (everywhere : tree.Everywhere holds) : tree.Contains holds := by
  rcases everywhere_iff.mp everywhere with ⟨here, below⟩
  exact ⟨here, fun child listed => Or.inl (below child listed)⟩

theorem Node.Contains.append {child : Node} (contains : tree.Contains holds)
    (added : child.IsAdded) :
    ({ tree with children := tree.children ++ [child] } : Node).Contains holds :=
  ⟨contains.root, List.forall_mem_append.mpr
    ⟨contains.children, List.forall_mem_singleton.mpr (Or.inr added)⟩⟩

/-- A value in such a tree is of the kind, unless it is that of an added leaf. -/
theorem Node.Contains.cases_value (contains : tree.Contains holds) {node : Node}
    (member : node ∈ tree.walk) :
    holds node.value ∨ (node ∈ tree.children ∧ node.IsAdded) := by
  rcases tree with ⟨id, name, value, source, formatter, isRoot, rootId, mark, children⟩
  rw [walk, walkAll_eq_flatMap] at member
  rcases List.mem_cons.mp member with root | below
  · rw [root]
    exact Or.inl contains.root
  · rcases List.mem_flatMap.mp below with ⟨child, listed, within⟩
    rcases contains.children child listed with everywhere | added
    · exact Or.inl (everywhere node within)
    · -- an added leaf has no nodes below it
      rcases child with ⟨_, _, _, _, _, _, _, _, grandchildren⟩
      have childless : grandchildren = [] := added.childless
      subst childless
      rw [walk, walkAll] at within
      rw [List.mem_singleton.mp within]
      exact Or.inr ⟨listed, added⟩

namespace Operation

mutual

theorem walk_setFormatters (rules : SuffixRules) :
    forall tree : Node, (setFormatters rules tree).walk = tree.walk.map (setFormatters rules)
  | ⟨id, name, value, source, formatter, isRoot, rootId, mark, children⟩ => by
      rw [setFormatters, Node.walk, Node.walk, List.map_cons, walkAll_setFormatters, setFormatters]

theorem walkAll_setFormatters (rules : SuffixRules) :
    forall trees : List Node, Node.walkAll (setAllFormatters rules trees) =
      (Node.walkAll trees).map (setFormatters rules)
  | [] => rfl
  | tree :: rest => by
      rw [setAllFormatters, Node.walkAll, Node.walkAll, List.map_append, walk_setFormatters,
        walkAll_setFormatters]

end

theorem everywhere_setFormatters (rules : SuffixRules) (everywhere : tree.Everywhere holds) :
    (setFormatters rules tree).Everywhere holds := by
  rw [Node.Everywhere, walk_setFormatters, List.forall_mem_map]
  intro node member
  rw [value_setFormatters]
  exact everywhere node member

/-- Something that holds of integers and of texts holds of what a calculated property adds. -/
theorem everywhere_apply (integers : forall n, holds (.int n)) (texts : forall text, holds (.string text))
    (operation : Operation) (everywhere : tree.Everywhere holds) :
    (operation.apply tree).value.Everywhere holds := by
  have grown : forall (name : String) (value : Value) (formatter : Option Formatter), holds value ->
      (addCalculated tree name value formatter).Everywhere holds := by
    intro name value formatter held
    rcases Node.everywhere_iff.mp everywhere with ⟨here, below⟩
    have cleared : (tree.removeChild name).Everywhere holds :=
      Node.everywhere_iff.mpr ⟨here, fun child kept => below child (List.mem_filter.mp kept).1⟩
    exact cleared.append (Node.everywhere_leaf held)
  cases operation with
  | duration rule =>
      change (addDuration rule tree).value.Everywhere holds
      rcases addDuration_cases rule tree with unchanged | ⟨_, ns, added⟩
      · rw [unchanged]
        exact everywhere
      · rw [added]
        exact grown _ _ _ (integers ns)
  | status name =>
      change (addStatus name tree).value.Everywhere holds
      rcases addStatus_cases name tree with unchanged | ⟨_, outcome, added⟩
      · rw [unchanged]
        exact everywhere
      · rw [added]
        exact grown _ _ _ (texts outcome.text)
  | formatters rules => exact everywhere_setFormatters rules everywhere

theorem isAdded_setFormatters (rules : SuffixRules) {node : Node} (added : node.IsAdded) :
    (setFormatters rules node).IsAdded := by
  rw [setFormatters_eq]
  refine ⟨?_, added.scalar, added.added⟩
  simp only [added.childless, List.map_nil]

theorem contains_setFormatters (rules : SuffixRules) (contains : tree.Contains holds) :
    (setFormatters rules tree).Contains holds := by
  rw [setFormatters_eq]
  refine ⟨contains.root, List.forall_mem_map.mpr ?_⟩
  intro child listed
  rcases contains.children child listed with everywhere | added
  · exact Or.inl (everywhere_setFormatters rules everywhere)
  · exact Or.inr (isAdded_setFormatters rules added)

theorem contains_addCalculated (contains : tree.Contains holds) (name : String) {value : Value}
    (scalar : value.IsScalar) (formatter : Option Formatter) :
    (addCalculated tree name value formatter).Contains holds := by
  have cleared : (tree.removeChild name).Contains holds :=
    ⟨contains.root, fun child kept => contains.children child (List.mem_filter.mp kept).1⟩
  exact cleared.append ⟨rfl, scalar, Or.inr rfl⟩

/-- One operation. -/
theorem contains_apply (operation : Operation) (contains : tree.Contains holds) :
    (operation.apply tree).value.Contains holds := by
  cases operation with
  | duration rule =>
      change (addDuration rule tree).value.Contains holds
      rcases addDuration_cases rule tree with unchanged | ⟨_, ns, grown⟩
      · rw [unchanged]
        exact contains
      · have scalar : (Value.int ns).IsScalar := trivial
        rw [grown]
        exact contains_addCalculated contains rule.name scalar _
  | status name =>
      change (addStatus name tree).value.Contains holds
      rcases addStatus_cases name tree with unchanged | ⟨_, outcome, grown⟩
      · rw [unchanged]
        exact contains
      · have scalar : (Value.string outcome.text).IsScalar := trivial
        rw [grown]
        exact contains_addCalculated contains name scalar _
  | formatters rules => exact contains_setFormatters rules contains

end Operation

/-- What no operation takes from the values of a tree, no pipeline does. -/
theorem Pipeline.everywhere_steps (integers : forall n, holds (.int n))
    (texts : forall text, holds (.string text)) (pipeline : Pipeline)
    (everywhere : tree.Everywhere holds) : (pipeline.steps tree).value.Everywhere holds := by
  induction pipeline generalizing tree with
  | nil => exact everywhere
  | cons operation rest inductionHypothesis =>
      exact inductionHypothesis (Operation.everywhere_apply integers texts operation everywhere)

/-- A whole pipeline. -/
theorem Pipeline.contains_steps (pipeline : Pipeline) (contains : tree.Contains holds) :
    (pipeline.steps tree).value.Contains holds := by
  induction pipeline generalizing tree with
  | nil => exact contains
  | cons operation rest inductionHypothesis =>
      exact inductionHypothesis (Operation.contains_apply operation contains)

end TraceView

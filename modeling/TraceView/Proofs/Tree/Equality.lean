import TraceView.Proofs.Number.Named
import TraceView.Proofs.Number.Quantities
import TraceView.Proofs.Tree.Places
import TraceView.Tree.Equality

namespace TraceView

/-!
# What equality compares

Values without undefined numbers, lists and mappings are equal exactly if they have one kind and one
content, which for a number is the quantity that it denotes.  So there is a view of a tree of such
values that leaves out all that equality does not see: the marks, the sign of a zero and the way in
which a decimal was written.  Two trees are equal exactly if they have one view.

A view may also take formatters for something else than what they are.  Trees that get formatters
later are compared by those that they will have.
-/

namespace Value

/-- A value that is null, a truth value, an integer, a text, a named constant, a finite decimal or a
defined double. -/
def IsOrdinary : Value -> Prop
  | .double x => x ≠ .nan
  | .decimal d => d.IsFinite
  | .undefined => False
  | .list _ => False
  | .map _ => False
  | _ => True

/-- What a value comes to besides its kind: a quantity if it is a number, and itself otherwise. -/
def content (value : Value) : Value × Option Quantity :=
  match value.quantity? with
  | some quantity => (.null, some quantity)
  | none => (value, none)

theorem quantity?_ne_undefined {value : Value} (ordinary : value.IsOrdinary) :
    value.quantity? ≠ some .undefined := by
  intro undefined
  cases value with
  | bool flag => exact Quantity.scaled_ne_undefined _ _ _ (Option.some.inj undefined)
  | int n => exact Quantity.scaled_ne_undefined _ _ _ (Option.some.inj undefined)
  | double x =>
      cases x with
      | finite negative significand exponent canonical =>
          have given := Option.some.inj undefined
          rw [Quantity.ofDouble] at given
          by_cases whole : 0 ≤ exponent
          · rw [if_pos whole] at given
            exact Quantity.scaled_ne_undefined _ _ _ given
          · rw [if_neg whole] at given
            exact Quantity.scaled_ne_undefined _ _ _ given
      | infinite negative => cases undefined
      | nan => exact ordinary rfl
  | decimal d =>
      cases d with
      | finite negative coefficient exponent =>
          exact Quantity.scaled_ne_undefined _ _ _ (Option.some.inj undefined)
      | infinite negative => exact ordinary
      | nan negative payload => exact ordinary
  | undefined => exact ordinary
  | _ => cases undefined

/-- Numbers are equal if their quantities are. -/
theorem same_of_numbers {value other : Value} {p q : Quantity} (first : value.quantity? = some p)
    (second : other.quantity? = some q) : value.same other = p.same q := by
  cases value <;> cases first <;> cases other <;> cases second <;> rfl

/-- The kind of a value says whether it is a number. -/
theorem isSome_quantity? (value : Value) :
    value.quantity?.isSome = decide (value.kind ∈ [.bool, .int, .double, .decimal]) := by
  cases value with
  | constant c => cases c <;> rfl
  | _ => rfl

/-- A value that is null, a text or a named constant is equal only to itself. -/
theorem same_of_none {value other : Value} (ordinary : value.IsOrdinary)
    (kinds : value.kind = other.kind) (plain : value.quantity? = none) :
    value.same other = true ↔ value = other := by
  cases value with
  | null =>
      cases other with
      | null => exact iff_of_true rfl rfl
      | constant c => cases c <;> cases kinds
      | _ => cases kinds
  | string text =>
      cases other with
      | string text' => rw [same, sameScalar, beq_iff_eq, Value.string.injEq] <;> exact nofun
      | constant c => cases c <;> cases kinds
      | _ => cases kinds
  | constant c =>
      cases other with
      | constant c' => rw [same, sameScalar, beq_iff_eq, Value.constant.injEq] <;> exact nofun
      | _ => cases c <;> cases kinds
  | list items => exact ordinary.elim
  | map fields => exact ordinary.elim
  | _ => cases plain

/-- Ordinary values are equal exactly if they have one kind and one content. -/
theorem sameValue_iff {value other : Value} (ordinary : value.IsOrdinary) :
    Node.sameValue value other = true ↔ value.kind = other.kind ∧ value.content = other.content := by
  unfold Node.sameValue
  rw [Bool.and_eq_true, beq_iff_eq]
  refine and_congr_right fun kinds => ?_
  have numbers : value.quantity?.isSome = other.quantity?.isSome := by
    rw [isSome_quantity?, isSome_quantity?, kinds]
  cases first : value.quantity? with
  | some p =>
      rw [first] at numbers
      rcases Option.isSome_iff_exists.mp numbers.symm with ⟨q, second⟩
      have defined : p ≠ .undefined := fun same => quantity?_ne_undefined ordinary (same ▸ first)
      simp only [same_of_numbers first second, Quantity.same_iff, content, first, second,
        Prod.mk.injEq, true_and, Option.some.injEq]
      exact and_iff_left defined
  | none =>
      rw [first] at numbers
      have second := Option.isSome_eq_false_iff.mp numbers.symm
      rw [Option.isNone_iff_eq_none] at second
      simp only [same_of_none ordinary kinds first, content, first, second, Prod.mk.injEq, and_true]

/-- Kind and content say which integer a value is, if it is one. -/
theorem asInt?_of_content {value other : Value} (kinds : value.kind = other.kind)
    (contents : value.content = other.content) : value.asInt? = other.asInt? := by
  have isInt : forall shown : Value, shown.kind = .int -> Exists fun n : Int => shown = .int n := by
    intro shown kind
    cases shown with
    | int n => exact ⟨n, rfl⟩
    | constant c => cases c <;> cases kind
    | _ => cases kind
  have noInt : forall shown : Value, shown.kind ≠ .int -> shown.asInt? = none := by
    intro shown kind
    cases shown with
    | int n => exact absurd rfl kind
    | _ => rfl
  by_cases whole : value.kind = .int
  · rcases isInt value whole with ⟨m, first⟩
    rcases isInt other (kinds ▸ whole) with ⟨n, second⟩
    subst first second
    have quantities := Option.some.inj (congrArg Prod.snd contents)
    rw [Quantity.ofInt_inj quantities]
  · rw [noInt value whole, noInt other (kinds ▸ whole)]

/-- The kind of a value says whether it is null. -/
theorem isNull_eq (value : Value) : value.isNull = decide (value.kind = .null) := by
  cases value with
  | constant c => cases c <;> rfl
  | _ => rfl

end Value

namespace Node

/-! ## Views of trees -/

/-- What is compared of the formatter of a node with a name and a value. -/
abbrev Look := String -> Value -> Option Formatter -> Option Formatter

/-- Equality compares the formatter itself. -/
def exactly : Look :=
  fun _ _ formatter => formatter

/-- What is compared of a tree. -/
structure View where
  id : String
  name : String
  kind : Kind
  content : Value × Option Quantity
  source : Source
  formatter : Option Formatter
  isRoot : Bool
  rootId : Option String
  children : List View

mutual

/-- The view of a tree under a look at its formatters. -/
def view (look : Look) : Node -> View
  | ⟨id, name, value, source, formatter, isRoot, rootId, _, children⟩ =>
    ⟨id, name, value.kind, value.content, source, look name value formatter, isRoot, rootId,
      viewAll look children⟩

def viewAll (look : Look) : List Node -> List View
  | [] => []
  | node :: rest => view look node :: viewAll look rest

end

/-- The trees have one view. -/
def SameView (look : Look) (tree other : Node) : Prop :=
  tree.view look = other.view look

/-- Nodes that agree in all that is compared of them, and children with one view. -/
structure Alike (look : Look) (node other : Node) : Prop where
  id : node.id = other.id
  name : node.name = other.name
  kind : node.value.kind = other.value.kind
  content : node.value.content = other.value.content
  source : node.source = other.source
  formatter : look node.name node.value node.formatter =
    look other.name other.value other.formatter
  isRoot : node.isRoot = other.isRoot
  rootId : node.rootId = other.rootId
  children : node.children.map (view look) = other.children.map (view look)

variable {look : Look} {node other : Node}

theorem viewAll_eq_map (look : Look) (nodes : List Node) :
    viewAll look nodes = nodes.map (view look) := by
  induction nodes with
  | nil => rfl
  | cons node rest inductionHypothesis => rw [viewAll, inductionHypothesis, List.map_cons]

theorem view_eq (look : Look) (node : Node) :
    node.view look =
      ⟨node.id, node.name, node.value.kind, node.value.content, node.source,
        look node.name node.value node.formatter, node.isRoot, node.rootId,
        node.children.map (view look)⟩ := by
  cases node
  rw [view, viewAll_eq_map]

theorem sameView_iff : node.SameView look other ↔ node.Alike look other := by
  rw [SameView, view_eq, view_eq, View.mk.injEq]
  constructor
  · rintro ⟨id, name, kind, content, source, formatter, isRoot, rootId, children⟩
    exact ⟨id, name, kind, content, source, formatter, isRoot, rootId, children⟩
  · rintro ⟨id, name, kind, content, source, formatter, isRoot, rootId, children⟩
    exact ⟨id, name, kind, content, source, formatter, isRoot, rootId, children⟩

/-- What is done to nodes by their views is done to lists of them. -/
theorem map_eq_of_view {β : Type} {nodes others : List Node} {change : Node -> β}
    (respects : forall node, node ∈ nodes -> forall other, node.SameView look other ->
      change node = change other)
    (same : nodes.map (view look) = others.map (view look)) :
    nodes.map change = others.map change := by
  induction nodes generalizing others with
  | nil =>
      rw [List.map_eq_nil_iff.mp same.symm, List.map_nil]
  | cons node rest inductionHypothesis =>
      cases others with
      | nil => cases same
      | cons other more =>
          rw [List.map_cons, List.map_cons, List.cons.injEq] at same
          rw [List.map_cons, List.map_cons, respects node List.mem_cons_self other same.1,
            inductionHypothesis (fun next later => respects next (List.mem_cons_of_mem _ later))
              same.2]

/-- Trees with one view have nodes with one view, in order. -/
theorem walk_of_view {tree : Node} (same : tree.SameView look other) :
    tree.walk.map (view look) = other.walk.map (view look) := by
  have nested : forall shown : Node, shown.walk.map (view look) =
      shown.view look :: (shown.children.map fun child => child.walk.map (view look)).flatten := by
    intro shown
    cases shown
    rw [walk, walkAll_eq_flatMap, List.map_cons, List.map_flatMap, List.flatMap_def]
  induction tree using induction_on_children generalizing other with
  | step tree inductionHypothesis =>
      rw [nested, nested, show tree.view look = other.view look from same,
        map_eq_of_view inductionHypothesis (sameView_iff.mp same).children]

/-- Of two trees with one view neither is below the other. -/
theorem not_below_of_view {tree : Node} (same : tree.SameView look other) :
    ¬ other.Below tree := by
  rintro ⟨child, listed, inside⟩
  have lengths := congrArg List.length (walk_of_view same)
  rw [List.length_map, List.length_map] at lengths
  have smaller := Nat.lt_of_le_of_lt (length_walk_le inside) (length_walk_child listed)
  rw [lengths] at smaller
  exact Nat.lt_irrefl _ smaller

/-! ## Equality of trees -/

theorem equal_iff :
    node.equal other = true ↔
      node.id = other.id ∧ node.name = other.name ∧ sameValue node.value other.value = true ∧
        node.source = other.source ∧ node.formatter = other.formatter ∧
        node.isRoot = other.isRoot ∧ node.rootId = other.rootId ∧
        equalAll node.children other.children = true := by
  cases node
  rw [equal]
  simp only [Bool.and_eq_true, beq_iff_eq, and_assoc]

theorem equalAll_of_view {nodes others : List Node}
    (each : forall node, node ∈ nodes -> forall other, node.SameView exactly other ->
      node.equal other = true)
    (same : nodes.map (view exactly) = others.map (view exactly)) :
    equalAll nodes others = true := by
  induction nodes generalizing others with
  | nil =>
      rw [List.map_eq_nil_iff.mp same.symm, equalAll]
  | cons node rest inductionHypothesis =>
      cases others with
      | nil => cases same
      | cons other more =>
          rw [List.map_cons, List.map_cons, List.cons.injEq] at same
          rw [equalAll, each node List.mem_cons_self other same.1, Bool.or_true, Bool.true_and]
          exact inductionHypothesis (fun next later => each next (List.mem_cons_of_mem _ later))
            same.2

/-- Trees with one view are equal. -/
theorem equal_of_view (ordinary : node.Everywhere Value.IsOrdinary)
    (same : node.SameView exactly other) : node.equal other = true := by
  induction node using induction_on_children generalizing other with
  | step node inductionHypothesis =>
      have alike := sameView_iff.mp same
      rcases everywhere_iff.mp ordinary with ⟨here, below⟩
      refine equal_iff.mpr ⟨alike.id, alike.name,
        (Value.sameValue_iff here).mpr ⟨alike.kind, alike.content⟩, alike.source, alike.formatter,
        alike.isRoot, alike.rootId, ?_⟩
      exact equalAll_of_view (fun child listed next sameChild =>
        inductionHypothesis child listed (below child listed) sameChild) alike.children

theorem view_of_equalAll {nodes others : List Node}
    (each : forall node, node ∈ nodes -> forall other, other ∈ others ->
      isSame node other = true ∨ node.equal other = true -> node.SameView exactly other)
    (same : equalAll nodes others = true) :
    nodes.map (view exactly) = others.map (view exactly) := by
  induction nodes generalizing others with
  | nil =>
      cases others with
      | nil => rfl
      | cons other more => cases same
  | cons node rest inductionHypothesis =>
      cases others with
      | nil => cases same
      | cons other more =>
          rw [equalAll, Bool.and_eq_true, Bool.or_eq_true] at same
          have first : node.view exactly = other.view exactly :=
            each node List.mem_cons_self other List.mem_cons_self same.1
          rw [List.map_cons, List.map_cons, first]
          refine congrArg _ (inductionHypothesis (fun next later last behind => ?_) same.2)
          exact each next (List.mem_cons_of_mem _ later) last (List.mem_cons_of_mem _ behind)

/-- Equal trees have one view, if nodes of them with one mark are one node. -/
theorem view_of_equal (ordinary : node.Everywhere Value.IsOrdinary)
    (shared : forall part, part ∈ node.walk -> forall twin, twin ∈ other.walk ->
      isSame part twin = true -> part = twin)
    (same : node.equal other = true) : node.SameView exactly other := by
  induction node using induction_on_children generalizing other with
  | step node inductionHypothesis =>
      rcases everywhere_iff.mp ordinary with ⟨here, below⟩
      rcases equal_iff.mp same with ⟨id, name, value, source, formatter, isRoot, rootId, children⟩
      rcases (Value.sameValue_iff here).mp value with ⟨kind, content⟩
      refine sameView_iff.mpr ⟨id, name, kind, content, source, formatter, isRoot, rootId, ?_⟩
      refine view_of_equalAll (fun child listed twin twinListed either => ?_) children
      have inside := mem_walk_of_mem listed
      have twinInside := mem_walk_of_mem twinListed
      rcases either with one | equal
      · rw [shared child inside twin twinInside one]
        rfl
      · refine inductionHypothesis child listed (below child listed) ?_ equal
        intro part partInside other otherInside
        exact shared part (mem_walk_trans partInside inside) other
          (mem_walk_trans otherInside twinInside)

end Node

end TraceView

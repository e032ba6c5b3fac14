import TraceView.Proofs.Number.Writable
import TraceView.Proofs.Value.Scalars
import TraceView.Web.Serve

namespace TraceView

/-!
# What can be shown of a tree

A tree is shown node by node.  Each node holds a scalar, and the only scalar that may have no text
is an integer with too many digits.  All formatters can write the integers that have a text, and
most of them write the others as well; but the served form of a node has the integer itself.  So a
tree can be shown and served exactly if all integers in it can be written.
-/

namespace Value

/-- A value that is no integer with too many digits. -/
def Fits (value : Value) : Prop :=
  forall n, value = .int n -> Numeral.Fits n

theorem fits_int_iff {n : Int} : (Value.int n).Fits ↔ Numeral.Fits n := by
  constructor
  · exact fun fits => fits n rfl
  · intro fits other same
    rw [← Value.int.inj same]
    exact fits

theorem succeeds_propertyText {value : Value} (scalar : value.IsScalar) (fits : value.Fits) :
    Succeeds value.propertyText := by
  cases value with
  | int n => exact Numeral.succeeds_write_iff.mpr (fits n rfl)
  | list items => exact scalar.elim
  | map fields => exact scalar.elim
  | _ => exact succeeds_ok _

end Value

namespace Formatter

theorem succeeds_text (formatter : Formatter) {value : Value} (scalar : value.IsScalar)
    (fits : value.Fits) : Succeeds (formatter.text value) := by
  cases formatter with
  | standard => exact Value.succeeds_propertyText scalar fits
  | elapsed =>
      cases value with
      | int ns => exact Time.elapsedText_of_fits (fits ns rfl)
      | _ => exact succeeds_ok _
  | real => cases value <;> exact succeeds_ok _
  | shifted label offset issue => cases value <;> exact succeeds_ok _

end Formatter

namespace Node

/-- Something holds of the values of all nodes. -/
def Everywhere (holds : Value -> Prop) (tree : Node) : Prop :=
  forall node, node ∈ tree.walk -> holds node.value

theorem walkAll_eq_flatMap (nodes : List Node) : walkAll nodes = nodes.flatMap walk := by
  induction nodes with
  | nil => rfl
  | cons node rest inductionHypothesis => rw [walkAll, inductionHypothesis, List.flatMap_cons]

theorem everywhere_iff {holds : Value -> Prop} {tree : Node} :
    tree.Everywhere holds ↔
      holds tree.value ∧ forall child, child ∈ tree.children -> child.Everywhere holds := by
  rcases tree with ⟨id, name, value, source, formatter, isRoot, rootId, mark, children⟩
  rw [Everywhere, walk, List.forall_mem_cons, walkAll_eq_flatMap]
  simp only [List.mem_flatMap, Everywhere]
  constructor
  · rintro ⟨here, below⟩
    exact ⟨here, fun child listed node member => below node ⟨child, listed, member⟩⟩
  · rintro ⟨here, below⟩
    refine ⟨here, ?_⟩
    rintro node ⟨child, listed, member⟩
    exact below child listed node member

theorem succeeds_text {node : Node} (scalar : node.value.IsScalar) (fits : node.value.Fits) :
    Succeeds node.text := by
  unfold text
  by_cases null : node.value.isNull = true
  · rw [if_pos null]
    exact succeeds_ok _
  · rw [if_neg null]
    cases node.formatter with
    | none => exact Value.succeeds_propertyText scalar fits
    | some formatter => exact formatter.succeeds_text scalar fits

end Node

namespace Web

theorem succeeds_servedValue_iff {value : Value} : Succeeds (servedValue value) ↔ value.Fits := by
  cases value with
  | int n =>
      rw [servedValue, succeeds_map_iff, Numeral.succeeds_write_iff, Value.fits_int_iff]
  | _ =>
      refine iff_of_true (succeeds_ok _) ?_
      intro n impossible
      cases impossible

mutual

/-- A tree is served if each of its nodes has a text and a served value. -/
theorem succeeds_servedTree_iff :
    forall tree : Node, Succeeds (servedTree tree) ↔
      forall node, node ∈ tree.walk -> Succeeds node.text ∧ node.value.Fits
  | ⟨id, name, value, source, formatter, isRoot, rootId, mark, children⟩ => by
      rw [servedTree, Node.walk, List.forall_mem_cons, ← succeeds_servedTrees_iff children,
        succeeds_bind_iff]
      constructor
      · rintro ⟨text, shown, others⟩
        rcases succeeds_bind_iff.mp others with ⟨served, given, below⟩
        rcases succeeds_bind_iff.mp below with ⟨trees, all, _⟩
        exact ⟨⟨⟨text, shown⟩, succeeds_servedValue_iff.mp ⟨served, given⟩⟩, trees, all⟩
      · rintro ⟨⟨⟨text, shown⟩, fits⟩, trees, all⟩
        rcases succeeds_servedValue_iff.mpr fits with ⟨served, given⟩
        exact ⟨text, shown, succeeds_bind_iff.mpr ⟨served, given,
          succeeds_bind_iff.mpr ⟨trees, all, succeeds_ok _⟩⟩⟩

theorem succeeds_servedTrees_iff :
    forall trees : List Node, Succeeds (servedTrees trees) ↔
      forall node, node ∈ Node.walkAll trees -> Succeeds node.text ∧ node.value.Fits
  | [] => iff_of_true (succeeds_ok _) fun node impossible => absurd impossible List.not_mem_nil
  | tree :: rest => by
      rw [servedTrees, Node.walkAll, List.forall_mem_append, ← succeeds_servedTree_iff tree,
        ← succeeds_servedTrees_iff rest, succeeds_bind_iff]
      constructor
      · rintro ⟨first, given, others⟩
        rcases succeeds_bind_iff.mp others with ⟨trees, all, _⟩
        exact ⟨⟨first, given⟩, trees, all⟩
      · rintro ⟨⟨first, given⟩, trees, all⟩
        exact ⟨first, given, succeeds_bind_iff.mpr ⟨trees, all, succeeds_ok _⟩⟩

end

/-- A tree of scalars can be shown and served exactly if all its integers can be written. -/
theorem shown_iff_fits {tree : Node} (scalars : tree.Everywhere Value.IsScalar) :
    ((forall node, node ∈ tree.walk -> Succeeds node.text) ∧ Succeeds (servedTree tree)) ↔
      tree.Everywhere Value.Fits := by
  rw [succeeds_servedTree_iff]
  constructor
  · rintro ⟨_, served⟩ node member
    exact (served node member).2
  · intro fits
    have shown : forall node, node ∈ tree.walk -> Succeeds node.text :=
      fun node member => Node.succeeds_text (scalars node member) (fits node member)
    exact ⟨shown, fun node member => ⟨shown node member, fits node member⟩⟩

/-! ## Timestamps -/

theorem succeeds_servedTimestamp_iff {stamp : Timestamp} :
    Succeeds (servedTimestamp stamp) ↔ Numeral.Fits stamp.nanoseconds := by
  rw [servedTimestamp, succeeds_bind_iff, ← Numeral.succeeds_write_iff]
  constructor
  · rintro ⟨digits, written, _⟩
    exact ⟨digits, written⟩
  · rintro ⟨digits, written⟩
    have fits := Numeral.succeeds_write_iff.mp ⟨digits, written⟩
    have scalar : (Value.int stamp.nanoseconds).IsScalar := trivial
    rcases stamp.domain.formatter.succeeds_text scalar (Value.fits_int_iff.mpr fits) with
      ⟨text, shown⟩
    exact ⟨digits, written, succeeds_bind_iff.mpr ⟨text, shown, succeeds_ok _⟩⟩

/-- Timestamps are served exactly if they can be written as integers. -/
theorem succeeds_servedTimestamps_iff {stamps : List Timestamp} :
    Succeeds (servedTimestamps (some stamps)) ↔
      forall stamp, stamp ∈ stamps -> Numeral.Fits stamp.nanoseconds := by
  rw [servedTimestamps, succeeds_map_iff, succeeds_mapM_iff]
  exact forall₂_congr fun stamp _ => succeeds_servedTimestamp_iff

end Web

end TraceView

import TraceView.Proofs.Operation.Completion
import TraceView.Proofs.Trace.Opened
import TraceView.Proofs.Tree.Identifiers

namespace TraceView

/-!
# Identifiers in entries

The tree of a record is routed, and so is a tree with a timestamp or a calculated property at the end.
So whatever the record and the pipeline are, two nodes of an entry have one identifier exactly if their
paths have one text, and this takes a name with a point in it.
-/

namespace Operation

variable {tree : Node}

theorem isRouted_setFormatters (rules : SuffixRules) (routed : tree.IsRouted) :
    (setFormatters rules tree).IsRouted := by
  induction routed with
  | @intro node distinct ids _ inductionHypothesis =>
      rw [← childNames_setFormatters rules] at distinct
      rw [setFormatters_eq] at distinct ⊢
      refine .intro distinct (List.forall_mem_map.mpr ?_) (List.forall_mem_map.mpr inductionHypothesis)
      intro child listed
      rw [name_setFormatters, setFormatters_eq]
      exact ids child listed

theorem isRouted_addCalculated (name : String) (value : Value) (formatter : Option Formatter)
    (routed : tree.IsRouted) : (addCalculated tree name value formatter).IsRouted :=
  @Node.IsRouted.append (tree.removeChild name)
    (Node.leaf (tree.id ++ "." ++ name) name value .calculated formatter) (routed.removeChild name)
    (Node.not_mem_childNames_removeChild tree name) rfl (.leaf _ _ _ _ _)

theorem isRouted_apply (operation : Operation) (routed : tree.IsRouted) :
    (operation.apply tree).value.IsRouted := by
  rcases apply_cases operation tree with same | ⟨rules, same⟩ | ⟨added, _, same⟩ <;> rw [same]
  · exact routed
  · exact isRouted_setFormatters rules routed
  · exact isRouted_addCalculated added.1 added.2.1 added.2.2 routed

end Operation

theorem Pipeline.isRouted_steps (pipeline : Pipeline) {tree : Node} (routed : tree.IsRouted) :
    (pipeline.steps tree).value.IsRouted := by
  induction pipeline generalizing tree with
  | nil => exact routed
  | cons operation rest inductionHypothesis =>
      exact inductionHypothesis (Operation.isRouted_apply operation routed)

namespace Trace

variable {trace : Trace} {decoder : Decoder} {index : Value} {domain : Domain} {tree : Node}

theorem isRouted_buildEntry {kind : TraceKind} {fields : List (String × Value)} {stamp : Timestamp}
    (built : buildEntry kind fields stamp = .ok tree) : tree.IsRouted := by
  rcases buildEntry_eq_ok built with ⟨bare, made, free, same⟩
  have id : bare.id ++ ".timestamp" = bare.id ++ "." ++ "timestamp" := by
    rw [String.append_assoc]
    rfl
  rw [same]
  exact (Node.isRouted_of_build made).append free id (.leaf _ _ _ _ _)

/-- Every entry is a routed tree. -/
theorem isRouted_entry (shown : (trace.entry decoder index domain).value = .ok tree) :
    tree.IsRouted := by
  rw [value_entry] at shown
  cases found : trace.rawEntry decoder index domain with
  | error cause =>
      rw [found] at shown
      cases shown
  | ok raw =>
      rw [found] at shown
      rcases rawEntry_eq_ok found with ⟨_, _, _, _, _, _, built⟩
      rw [← Except.ok.inj shown]
      exact Pipeline.isRouted_steps _ (isRouted_buildEntry built)

/-- The nodes of an entry in their order are those at the ends of its paths, which are all different,
and the identifier of each is that of the root with a point and the name for each step of its path.  So
two nodes have one identifier exactly if their paths have one text, which two paths without a point in
any name never have. -/
theorem entry_identified (shown : (trace.entry decoder index domain).value = .ok tree) :
    tree.paths.Nodup ∧
      List.Forall₂
        (fun path node => tree.at? path = some node ∧ node.id = Node.pathId tree.id path)
        tree.paths tree.walk ∧
      ((tree.walk.map Node.id).Nodup ↔ (tree.paths.map (Node.pathId "")).Nodup) ∧
      (forall first second, first ∈ tree.paths -> second ∈ tree.paths ->
        (forall name, name ∈ first ++ second -> '.' ∉ name.toList) ->
          Node.pathId tree.id first = Node.pathId tree.id second -> first = second) ∧
      ((forall path, path ∈ tree.paths -> forall name, name ∈ path -> '.' ∉ name.toList) ->
        (tree.walk.map Node.id).Nodup) := by
  have routed := isRouted_entry shown
  refine ⟨routed.paths.1, routed.paths.2, routed.nodup_ids_iff, ?_, routed.nodup_ids⟩
  intro first second _ _ pointless
  rcases List.forall_mem_append.mp pointless with ⟨one, other⟩
  exact Node.eq_of_pathId one other

/-- The names in the played transition have no points, and its nodes have different identifiers. -/
theorem played_entry_identified :
    Exists fun tree : Node => (playedTrace.entry .transition (.int 0) .elapsed).value = .ok tree ∧
      (forall path, path ∈ tree.paths -> forall name, name ∈ path -> '.' ∉ name.toList) ∧
      (tree.walk.map Node.id).Nodup := by
  have returned : Exists fun tree : Node =>
      (playedTrace.entry .transition (.int 0) .elapsed).value = .ok tree ∧
        tree.paths = [[], ["wmData"], ["wmData", "sendTimeNs"], ["wmData", "finishTimeNs"],
          ["timestamp"], ["duration"], ["status"]] := ⟨_, rfl, rfl⟩
  rcases returned with ⟨tree, returned, paths⟩
  have pointless : forall path, path ∈ tree.paths -> forall name, name ∈ path ->
      '.' ∉ name.toList := by
    rw [paths]
    decide
  exact ⟨tree, returned, pointless, (entry_identified returned).2.2.2.2 pointless⟩

/-- A capture of a transition with a point in the name of a property. -/
def dottedText : List UInt8 :=
  ("\x7b\"transitions\":[\x7b\"wmData\":\x7b\"sendTimeNs\":7\x7d," ++
    "\"a.b\":1,\"a\":\x7b\"b\":2\x7d\x7d]\x7d").toUTF8.toList

def dotted : Json :=
  .object [("transitions", .array [.object [("wmData", .object [("sendTimeNs", .integer 7)]),
    ("a.b", .integer 1), ("a", .object [("b", .integer 2)])]])]

def dottedFields : List (String × Value) :=
  [("wmData", .map [("sendTimeNs", .int 7)]), ("a.b", .int 1), ("a", .map [("b", .int 2)])]

/-- The trace of the capture, as it is opened without anything else being asked for. -/
def dottedTrace : Trace :=
  { playedTrace with records := [.map dottedFields] }

/-- Two nodes of its entry have one identifier. -/
theorem dotted_entry_ambiguous :
    (load Decoder.standard dottedText .standard .nowhere 0).value =
        .taken 1 .transition (.ok dottedTrace) ∧
      Exists fun tree : Node =>
        (dottedTrace.entry .transition (.int 0) .elapsed).value = .ok tree ∧
          (tree.at? ["a.b"]).map Node.id = some "TransitionsTraceEntry transition.a.b" ∧
          (tree.at? ["a", "b"]).map Node.id = some "TransitionsTraceEntry transition.a.b" ∧
          ¬ (tree.walk.map Node.id).Nodup := by
  have spelled : Json.read .trace dottedText = .whole dotted := by
    with_unfolding_all rfl
  have read : Json.readTrace dottedText = .ok (⟨["transitions"], []⟩, dotted) := by
    rw [Json.readTrace, spelled]
    rfl
  have loaded := @load_single dotted ⟨["transitions"], []⟩ dottedFields 7 rfl rfl rfl
    .standard .nowhere
  have opened : (load Decoder.standard dottedText .standard .nowhere 0).value =
      .taken 1 .transition (.ok dottedTrace) :=
    load_eq_opened_iff.mpr ⟨_, _, _, _, read, rfl, loaded, rfl⟩
  refine ⟨opened, _, rfl, rfl, rfl, ?_⟩
  decide

end Trace

end TraceView

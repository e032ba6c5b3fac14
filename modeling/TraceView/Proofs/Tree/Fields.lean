import TraceView.Proofs.Outcome
import TraceView.Proofs.Tree.Building
import TraceView.Proofs.Value.Members

namespace TraceView

/-!
# Trees of fields

A tree that is built from fields has a node for every value in them that is not null, nested and ordered
as the values are.  Only a field without a name can make the building fail: names are repeated neither in
a mapping nor among the positions of a list, and a field is never described as a root.
-/

/-- The fields that are not null, in order. -/
def Value.present (fields : List (String × Value)) : List (String × Value) :=
  fields.filter fun field => !field.2.isNull

theorem Value.mem_present {fields : List (String × Value)} {field : String × Value} :
    field ∈ present fields ↔ field ∈ fields ∧ field.2 ≠ .null := by
  rw [present, List.mem_filter, Bool.not_eq_true', Bool.eq_false_iff, ne_eq, Value.isNull_iff]

/-- An error that is a field without a name. -/
def BuildError.IsNameless (error : BuildError) : Prop :=
  Exists fun parent : String => error = .tree (.nameless parent)

namespace Spec

/-! ## Descriptions -/

/-- The value that the node of a value has itself. -/
def own : Value -> Value
  | .list _ => .null
  | .map _ => .null
  | value => scalar value

/-- The description of a field that is not null. -/
def describe (field : String × Value) : Spec :=
  ⟨.string field.1, own field.2, .raw, none, false, ofFields field.2.members⟩

theorem ofItems_eq (position : Nat) (items : List Value) :
    ofItems position items = ofFields (Value.numbered position items) := by
  induction items generalizing position with
  | nil => rfl
  | cons item rest inductionHypothesis =>
      rw [ofItems, Value.numbered, ofFields, inductionHypothesis]

theorem ofField_eq (field : String × Value) :
    ofField field.1 field.2 = if field.2.isNull then none else some (describe field) := by
  rcases field with ⟨name, value⟩
  cases value with
  | list items =>
      simp only [ofField, ofItems_eq]
      rfl
  | _ => rfl

theorem ofFields_eq (fields : List (String × Value)) :
    ofFields fields = (Value.present fields).map describe := by
  induction fields with
  | nil => rfl
  | cons field rest inductionHypothesis =>
      rcases field with ⟨name, value⟩
      have here := ofField_eq (name, value)
      rw [ofFields, inductionHypothesis, here, Value.present, Value.present, List.filter_cons]
      cases value.isNull <;> rfl

theorem mem_ofFields_iff {fields : List (String × Value)} {spec : Spec} :
    spec ∈ ofFields fields ↔
      Exists fun field : String × Value => field ∈ Value.present fields ∧ describe field = spec := by
  rw [ofFields_eq, List.mem_map]

/-- A field is built as its value is, if it has a name. -/
theorem build_describe (parent : String) (field : String × Value) :
    build parent (describe field) =
      if field.1 = "" then .error (.tree (.nameless parent))
      else buildInto (ofFields field.2.members)
        (Node.leaf (parent ++ "." ++ field.1) field.1 (own field.2) .raw none) := by
  rw [describe, build]
  by_cases empty : field.1 = ""
  · rw [if_pos empty, empty]
    rfl
  · have named : isName (.string field.1) = true := by
      rw [isName, Bool.not_eq_true', Bool.eq_false_iff, ne_eq, String.isEmpty_iff]
      exact empty
    rw [if_neg empty, named]
    rfl

/-! ## What building can come to -/

/-- Children with different names, none of which is taken, are built exactly if each of them is, and
building them fails only as building one of them does. -/
theorem buildInto_outcome {possible : BuildError -> Prop} {specs : List Spec} {node : Node}
    (different : (specs.map fun spec => spec.name.text).Nodup)
    (free : forall spec, spec ∈ specs -> forall name, spec.name.text = .ok name ->
      name ∉ node.childNames)
    (fails : forall spec, spec ∈ specs -> FailsOnly possible (build node.id spec)) :
    FailsOnly possible (buildInto specs node) ∧
      (Succeeds (buildInto specs node) ↔
        forall spec, spec ∈ specs -> Succeeds (build node.id spec)) := by
  induction specs generalizing node with
  | nil => exact ⟨failsOnly_ok _, iff_of_true (succeeds_ok _) fun _ impossible => nomatch impossible⟩
  | cons spec rest inductionHypothesis =>
      rcases List.nodup_cons.mp different with ⟨fresh, others⟩
      rcases List.forall_mem_cons.mp free with ⟨here, elsewhere⟩
      rcases List.forall_mem_cons.mp fails with ⟨first, later⟩
      rw [buildInto, List.forall_mem_cons]
      cases built : build node.id spec with
      | error cause =>
          refine ⟨failsOnly_error (first cause built), iff_of_false not_succeeds_error ?_⟩
          exact fun all => not_succeeds_error all.1
      | ok child =>
          rcases build_eq_ok built with ⟨called, noRoot, _⟩
          have attached : attach node child =
              .ok { node with children := node.children ++ [child] } :=
            attach_eq_ok_iff.mpr ⟨noRoot, here _ called, rfl⟩
          have stillFree : forall spec, spec ∈ rest -> forall name, spec.name.text = .ok name ->
              name ∉ ({ node with children := node.children ++ [child] } : Node).childNames := by
            intro other listed name named taken
            rw [Node.childNames, List.map_append, List.mem_append] at taken
            rcases taken with before | last
            · exact elsewhere other listed name named before
            · rw [List.map_singleton, List.mem_singleton] at last
              have same : spec.name.text = other.name.text :=
                called.trans ((congrArg Except.ok last.symm).trans named.symm)
              exact fresh (List.mem_map.mpr ⟨other, listed, same.symm⟩)
          rcases inductionHypothesis others stillFree later with ⟨failsLater, iffLater⟩
          simp only [attached]
          exact ⟨failsLater, iffLater.trans (and_iff_right (succeeds_ok child)).symm⟩

/-- Different fields have descriptions with different names. -/
theorem different_ofFields {fields : List (String × Value)} (distinct : Fields.Distinct fields) :
    ((ofFields fields).map fun spec => spec.name.text).Nodup := by
  have names : (ofFields fields).map (fun spec => spec.name.text) =
      ((Value.present fields).map Prod.fst).map Except.ok := by
    rw [ofFields_eq, List.map_map, List.map_map]
    rfl
  rw [names]
  exact (distinct.sublist (List.filter_sublist.map Prod.fst)).map fun _ _ => Except.ok.inj

/-- The members of a tidy value are built below a node without children exactly if none of them that is
not null is without a name, here or further down. -/
theorem buildInto_members {value : Value} (tidy : value.Tidy) : forall node : Node,
    node.children = [] ->
      FailsOnly BuildError.IsNameless (buildInto (ofFields value.members) node) ∧
        (Succeeds (buildInto (ofFields value.members) node) ↔ ¬ value.HasNameless) := by
  induction value using Value.induction_on_members with
  | step value inductionHypothesis =>
      intro node childless
      -- a field is built if it has a name and its own members are built
      have built : forall field, field ∈ Value.present value.members ->
          FailsOnly BuildError.IsNameless (build node.id (describe field)) ∧
            (Succeeds (build node.id (describe field)) ↔
              ¬ (field.1 = "" ∨ field.2.HasNameless)) := by
        intro field listed
        have held := (Value.mem_present.mp listed).1
        rw [build_describe]
        by_cases empty : field.1 = ""
        · rw [if_pos empty]
          refine ⟨@failsOnly_error _ _ BuildError.IsNameless _ ⟨node.id, rfl⟩, ?_⟩
          exact iff_of_false not_succeeds_error fun named => named (Or.inl empty)
        · rcases inductionHypothesis field held (tidy.member held)
            (Node.leaf (node.id ++ "." ++ field.1) field.1 (own field.2) .raw none) rfl with
            ⟨fails, succeeds⟩
          rw [if_neg empty, or_iff_right empty]
          exact ⟨fails, succeeds⟩
      have free : forall spec, spec ∈ ofFields value.members ->
          forall name, spec.name.text = .ok name -> name ∉ node.childNames := by
        intro _ _ _ _
        rw [Node.childNames, childless]
        exact List.not_mem_nil
      have fails : forall spec, spec ∈ ofFields value.members ->
          FailsOnly BuildError.IsNameless (build node.id spec) := by
        intro spec listed
        rcases mem_ofFields_iff.mp listed with ⟨field, held, rfl⟩
        exact (built field held).1
      rcases buildInto_outcome (different_ofFields tidy.distinct) free fails with ⟨only, each⟩
      refine ⟨only, each.trans ?_⟩
      rw [Value.hasNameless_iff]
      constructor
      · rintro all ⟨field, held, present, unnamed⟩
        have listed := Value.mem_present.mpr ⟨held, present⟩
        exact (built field listed).2.mp (all _ (mem_ofFields_iff.mpr ⟨field, listed, rfl⟩)) unnamed
      · intro named spec listed
        rcases mem_ofFields_iff.mp listed with ⟨field, held, rfl⟩
        rcases Value.mem_present.mp held with ⟨member, present⟩
        exact (built field held).2.mpr fun unnamed => named ⟨field, member, present, unnamed⟩

end Spec

/-- A tree is built from tidy fields exactly if none of them that is not null is without a name, at any
depth; otherwise the error is that a child has no name. -/
theorem Node.ofFields_outcome {fields : List (String × Value)} (tidy : (Value.map fields).Tidy)
    {rootId name : String} (root : rootId ≠ "") (named : name ≠ "") :
    FailsOnly BuildError.IsNameless (ofFields rootId name fields) ∧
      (Succeeds (ofFields rootId name fields) ↔ ¬ (Value.map fields).HasNameless) := by
  have complete : ¬ (rootId.isEmpty || name.isEmpty) = true := by
    rw [Bool.or_eq_true, String.isEmpty_iff, String.isEmpty_iff, not_or]
    exact ⟨root, named⟩
  rw [ofFields, build, if_neg complete]
  exact Spec.buildInto_members tidy
    ⟨rootId ++ " " ++ name, name, .null, .raw, none, true, some rootId, none, []⟩ rfl

end TraceView

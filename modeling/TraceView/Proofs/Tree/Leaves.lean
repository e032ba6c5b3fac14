import TraceView.Proofs.Fields.Names
import TraceView.Proofs.Operation.Lookup
import TraceView.Proofs.Tree.Building
import TraceView.Proofs.Value.Related

namespace TraceView

/-!
# Integers two steps below the root

The times of a transition lie two steps below the root of its tree: in a section, under a name.
An integer there can be followed from the fields that the tree is built from to the tree that a
pipeline leaves, because building gives each field a node of its name and an operation never
changes what it finds.

Absent nodes need no care on such a path.  A node with an integer is present, and a section that
is absent has no children.
-/

/-- The integer that a tree shows in a section, under a name. -/
def Node.timeAt? (tree : Node) (place : String × String) : Option Int :=
  (tree.resolve? [place.1, place.2]).bind Node.int?

namespace Node

variable {tree : Node}

theorem isAbsent_of_int? {node : Node} {n : Int} (shown : node.int? = some n) :
    node.isAbsent = false := by
  unfold int? at shown
  cases held : node.value with
  | int m =>
      rw [isAbsent, held]
      rfl
  | _ =>
      rw [held] at shown
      cases shown

/-- A child with an integer is never passed over. -/
theorem child?_bind_int? (tree : Node) (name : String) :
    (tree.child? name).bind int? = (tree.stored? name).bind int? := by
  unfold child?
  cases tree.stored? name with
  | none => rfl
  | some node =>
      cases absent : node.isAbsent with
      | false => simp only [Option.filter_some, absent, Bool.not_false, if_true]
      | true =>
          have noInteger : node.int? = none := by
            apply Option.eq_none_iff_forall_ne_some.mpr
            intro n shown
            rw [isAbsent_of_int? shown] at absent
            cases absent
          simp only [Option.filter_some, absent, Bool.not_true, Bool.false_eq_true, if_false,
            Option.bind_none, Option.bind_some, noInteger]

/-- The integer in a section is found among the stored children, absent or not. -/
theorem timeAt?_eq_stored (tree : Node) (place : String × String) :
    tree.timeAt? place =
      (tree.stored? place.1).bind fun part => (part.stored? place.2).bind int? := by
  have steps : tree.timeAt? place =
      (tree.child? place.1).bind fun part => (part.child? place.2).bind int? := by
    simp only [timeAt?, resolve?, Option.bind_assoc, Option.bind_fun_some]
  rw [steps, child?]
  simp only [child?_bind_int?]
  cases tree.stored? place.1 with
  | none => rfl
  | some part =>
      cases absent : part.isAbsent with
      | false => simp only [Option.filter_some, absent, Bool.not_false, if_true]
      | true =>
          have childless : part.children = [] := by
            rw [isAbsent, Bool.and_eq_true] at absent
            exact List.isEmpty_iff.mp absent.2
          simp only [Option.filter_some, absent, Bool.not_true, Bool.false_eq_true, if_false,
            Option.bind_none, Option.bind_some, stored?, childless, List.find?_nil]

/-- A child at the end hides nothing in a section of another name. -/
theorem timeAt?_append_of_ne {child : Node} {place : String × String}
    (different : place.1 ≠ child.name) :
    ({ tree with children := tree.children ++ [child] } : Node).timeAt? place =
      tree.timeAt? place := by
  have last : (child.name == place.1) = false := beq_eq_false_iff_ne.mpr different.symm
  simp only [timeAt?_eq_stored, stored?, List.find?_append, List.find?_cons, last, List.find?_nil,
    Option.or_none]

end Node

/-! ## Operations -/

namespace Operation

theorem int?_setFormatters (rules : SuffixRules) (node : Node) :
    (setFormatters rules node).int? = node.int? := by
  rw [Node.int?, Node.int?, value_setFormatters]

/-- An operation changes no integer in a section.  A section that it adds has no children, and there
was none of this name before. -/
theorem timeAt?_apply (operation : Operation) (tree : Node) (place : String × String) :
    (operation.apply tree).value.timeAt? place = tree.timeAt? place := by
  rcases apply_cases operation tree with unchanged | ⟨rules, dressed⟩ | ⟨added, missing, grown⟩
  · rw [unchanged]
  · rw [dressed, Node.timeAt?_eq_stored, Node.timeAt?_eq_stored, stored?_setFormatters]
    cases tree.stored? place.1 with
    | none => rfl
    | some part =>
        simp only [Option.map_some, Option.bind_some, stored?_setFormatters]
        cases part.stored? place.2 with
        | none => rfl
        | some node => exact int?_setFormatters rules node
  · rw [grown]
    by_cases here : place.1 = added.1
    · have before : tree.timeAt? place = none := by
        rw [Node.timeAt?, Node.resolve?, here, missing]
        rfl
      have after : forall part,
          (addCalculated tree added.1 added.2.1 added.2.2).stored? place.1 = some part ->
            part.children = [] := by
        intro part found
        have free : (tree.children.filter fun child => child.name != added.1).find?
            (fun child => child.name == added.1) = none := by
          rw [List.find?_eq_none]
          intro child kept
          have different := bne_iff_ne.mp (List.mem_filter.mp kept).2
          exact fun same => different (beq_iff_eq.mp same)
        rw [here, Node.stored?, addCalculated, Node.removeChild] at found
        rw [List.find?_append, free, Option.none_or] at found
        rw [List.mem_singleton.mp (List.mem_of_find?_eq_some found)]
        rfl
      rw [before, Node.timeAt?_eq_stored]
      cases found : (addCalculated tree added.1 added.2.1 added.2.2).stored? place.1 with
      | none => rfl
      | some part =>
          rw [Option.bind_some, Node.stored?, after part found]
          rfl
    · rw [Node.timeAt?_eq_stored, Node.timeAt?_eq_stored, stored?_addCalculated_of_ne here]

/-- The rule for durations finds its two times in the section of the window manager. -/
theorem times?_standard (tree : Node) (send finish : Int) :
    DurationRule.standard.times? tree = some (send, finish) ↔
      tree.timeAt? ("wmData", "sendTimeNs") = some send ∧
        tree.timeAt? ("wmData", "finishTimeNs") = some finish := by
  simp only [DurationRule.times?, DurationRule.standard, Node.timeAt?, Node.resolve?,
    Option.bind_eq_bind]
  cases tree.child? "wmData" with
  | none => simp only [Option.bind_none, reduceCtorEq, false_and]
  | some part =>
      simp only [Option.bind_some, Option.bind_fun_some]
      cases (part.child? "sendTimeNs").bind Node.int? with
      | none => simp only [Option.bind_none, reduceCtorEq, false_and]
      | some early =>
          cases (part.child? "finishTimeNs").bind Node.int? with
          | none => simp only [Option.bind_some, Option.bind_none, reduceCtorEq, and_false]
          | some late =>
              simp only [Option.bind_some, Option.some.injEq, Prod.mk.injEq]

end Operation

/-- A pipeline changes no integer in a section. -/
theorem Pipeline.timeAt?_steps (pipeline : Pipeline) (tree : Node) (place : String × String) :
    (pipeline.steps tree).value.timeAt? place = tree.timeAt? place := by
  induction pipeline generalizing tree with
  | nil => rfl
  | cons operation rest inductionHypothesis =>
      exact (inductionHypothesis _).trans (Operation.timeAt?_apply operation tree place)

/-! ## Building -/

/-- The integer that a mapping holds under a name. -/
def Value.intAt? (name : String) : Value -> Option Int
  | .map fields => (fields.lookup name).bind Value.asInt?
  | _ => none

namespace Spec

variable {parent name : String} {children : List Node}

/-- Among the children that are built from fields, a name has the node of its field, and none if the
field is not there or null. -/
theorem find_of_build {fields : List (String × Value)} (distinct : Fields.Distinct fields)
    (related : List.Forall₂ (fun spec child => build parent spec = .ok child) (ofFields fields)
      children) (name : String) :
    Option.Rel (fun spec child => build parent spec = .ok child)
      ((fields.lookup name).bind (ofField name)) (children.find? fun child => child.name == name) := by
  induction fields generalizing children with
  | nil =>
      cases related
      exact .none
  | cons field rest inductionHypothesis =>
      rcases field with ⟨key, value⟩
      rcases List.nodup_cons.mp distinct with ⟨fresh, others⟩
      rw [ofFields] at related
      cases described : ofField key value with
      | none =>
          rw [described] at related
          have later := inductionHypothesis others related
          by_cases here : name = key
          · have missing : rest.lookup name = none := by
              apply List.lookup_eq_none_iff.mpr
              intro field listed
              apply bne_iff_ne.mpr
              intro same
              exact fresh (List.mem_map.mpr ⟨field, listed, same.symm.trans here⟩)
            rw [missing] at later
            rw [here, List.lookup_cons_self, Option.bind_some, described, ← here]
            exact later
          · rw [List.lookup_cons, beq_eq_false_iff_ne.mpr here]
            exact later
      | some spec =>
          rw [described] at related
          cases related with
          | @cons _ child _ below built related =>
              have called : child.name = key := by
                have written := (build_eq_ok built).1
                rw [name_ofField described] at written
                exact (Except.ok.inj written).symm
              by_cases here : name = key
              · have first : (child.name == name) = true := beq_iff_eq.mpr (called.trans here.symm)
                rw [here, List.lookup_cons_self, Option.bind_some, described, List.find?_cons, ← here,
                  first]
                exact .some built
              · have first : (child.name == name) = false :=
                  beq_eq_false_iff_ne.mpr fun same => here (same.symm.trans called)
                rw [List.lookup_cons, beq_eq_false_iff_ne.mpr here, List.find?_cons, first]
                exact inductionHypothesis others related

/-- What is read from the node of a name is what the field of this name means, if a node that is
built from the field is read so and null means nothing. -/
theorem bind_find_of_build {read : Node -> Option Int} {meaning : Value -> Option Int}
    {fields : List (String × Value)} (distinct : Fields.Distinct fields)
    (related : List.Forall₂ (fun spec child => build parent spec = .ok child) (ofFields fields)
      children) (nothing : meaning .null = none)
    (agree : forall value spec node, fields.lookup name = some value ->
      ofField name value = some spec -> build parent spec = .ok node -> read node = meaning value) :
    (children.find? fun child => child.name == name).bind read =
      (fields.lookup name).bind meaning := by
  have found := find_of_build distinct related name
  generalize children.find? (fun child => child.name == name) = child at found ⊢
  cases held : fields.lookup name with
  | none =>
      rw [held, Option.bind_none] at found
      cases found
      rfl
  | some value =>
      rw [held, Option.bind_some] at found
      cases described : ofField name value with
      | none =>
          rw [described] at found
          cases found
          cases value with
          | null => exact nothing.symm
          | _ => cases described
      | some spec =>
          rw [described] at found
          cases found with
          | some built => exact agree value spec _ held described built

/-- The node of a field shows the integer of the field. -/
theorem int?_of_build {value : Value} {spec : Spec} {node : Node}
    (described : ofField name value = some spec) (built : build parent spec = .ok node) :
    node.int? = value.asInt? := by
  rcases buildInto_eq_ok (build_eq_ok built).2.2 with ⟨children, same, _, _⟩
  have held : node.value = spec.value := by
    rw [same]
    rfl
  rw [Node.int?, held]
  cases value with
  | null => cases described
  | _ =>
      cases described
      rfl

/-- The items of a list are named by their positions. -/
theorem mem_ofItems {position : Nat} {items : List Value} {spec : Spec}
    (member : spec ∈ ofItems position items) :
    Exists fun place : Nat => spec.name = .string (toString place) := by
  induction items generalizing position with
  | nil => cases member
  | cons value rest inductionHypothesis =>
      rcases List.mem_append.mp member with here | later
      · exact ⟨position, name_ofField (Option.mem_toList.mp here)⟩
      · exact inductionHypothesis later

/-- The node of a section shows the integers of its fields, if the section is a mapping; otherwise
it shows none under a name that is no position. -/
theorem stored?_int?_of_build {field : String} {value : Value} {spec : Spec} {node : Node}
    (described : ofField name value = some spec) (built : build parent spec = .ok node)
    (distinct : forall fields, value = .map fields -> Fields.Distinct fields)
    (unnumbered : forall place : Nat, field ≠ toString place) :
    (node.stored? field).bind Node.int? = value.intAt? field := by
  rcases buildInto_eq_ok (build_eq_ok built).2.2 with ⟨children, same, related, _⟩
  have below : node.children = children := by
    rw [same]
    rfl
  rw [Node.stored?, below]
  cases value with
  | null => cases described
  | map fields =>
      cases described
      exact bind_find_of_build (distinct fields rfl) related rfl
        fun _ _ _ _ described built => int?_of_build described built
  | list items =>
      cases described
      have missing : children.find? (fun child => child.name == field) = none := by
        rw [List.find?_eq_none]
        intro child member same
        have written : (Except.ok child.name : Except Fault String) ∈
            (ofItems 0 items).map fun spec => spec.name.text := by
          have names := names_of_build related
          rw [branch] at names
          rw [names]
          exact List.mem_map_of_mem member
        rcases List.mem_map.mp written with ⟨spec, listed, spelled⟩
        rcases mem_ofItems listed with ⟨place, numbered⟩
        rw [numbered] at spelled
        exact unnumbered place ((beq_iff_eq.mp same).symm.trans (Except.ok.inj spelled).symm)
      rw [missing]
      rfl
  | _ =>
      cases described
      cases related
      rfl

end Spec

/-- A tree that is built from fields shows the integers of its sections. -/
theorem Node.timeAt?_ofFields {rootId name : String} {fields : List (String × Value)} {tree : Node}
    {place : String × String} (built : ofFields rootId name fields = .ok tree)
    (distinct : Fields.Distinct fields)
    (inside : forall part, fields.lookup place.1 = some (.map part) -> Fields.Distinct part)
    (unnumbered : forall position : Nat, place.2 ≠ toString position) :
    tree.timeAt? place = (fields.lookup place.1).bind (Value.intAt? place.2) := by
  unfold ofFields Node.build at built
  split at built
  · cases built
  · rcases Spec.buildInto_eq_ok built with ⟨children, same, related, _⟩
    have below : tree.children = children := by
      rw [same]
      rfl
    rw [timeAt?_eq_stored, stored?, below]
    refine Spec.bind_find_of_build distinct related rfl ?_
    intro value spec node held described built
    exact Spec.stored?_int?_of_build described built
      (fun part same => inside part (same ▸ held)) unnumbered

end TraceView

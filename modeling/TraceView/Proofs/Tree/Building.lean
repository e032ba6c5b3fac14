import Mathlib.Data.List.Forall2
import Mathlib.Data.List.Nodup
import TraceView.Tree.Spec

namespace TraceView

/-!
# Trees that have been built

Building appends the children of a node one by one, and a child is appended only if no child has
its name.  A tree that has been built therefore has the children that its descriptions give, in
order, and no two of them have one name; whatever else the node holds is as it was.
-/

namespace Node

/-- The names of the children, in order. -/
def childNames (node : Node) : List String :=
  node.children.map Node.name

theorem stored?_eq_none_iff {node : Node} {name : String} :
    node.stored? name = none ↔ name ∉ node.childNames := by
  unfold stored? childNames
  rw [List.find?_eq_none]
  constructor
  · intro free listed
    rcases List.mem_map.mp listed with ⟨child, member, same⟩
    exact free child member (beq_iff_eq.mpr same)
  · intro missing child member same
    exact missing (List.mem_map.mpr ⟨child, member, beq_iff_eq.mp same⟩)

/-- A child that is appended under a free name leaves the names different. -/
theorem nodup_append {node child : Node} (distinct : node.childNames.Nodup)
    (free : child.name ∉ node.childNames) :
    ({ node with children := node.children ++ [child] } : Node).childNames.Nodup := by
  rw [childNames, List.map_append, List.map_singleton, ← List.concat_eq_append]
  exact distinct.concat free

/-- What is stored after a child has been appended under a free name. -/
theorem stored?_append {node child : Node} (free : child.name ∉ node.childNames) (name : String) :
    ({ node with children := node.children ++ [child] } : Node).stored? name =
      if child.name = name then some child else node.stored? name := by
  unfold stored?
  rw [List.find?_append]
  by_cases called : child.name = name
  · have missing : node.children.find? (fun other => other.name == name) = none :=
      stored?_eq_none_iff.mpr (called ▸ free)
    have here : [child].find? (fun other => other.name == name) = some child :=
      List.find?_cons_of_pos (beq_iff_eq.mpr called)
    rw [missing, Option.none_or, if_pos called, here]
  · have last : [child].find? (fun other => other.name == name) = none :=
      List.find?_cons_of_neg fun same => called (beq_iff_eq.mp same)
    rw [if_neg called, last, Option.or_none]

/-- What is stored after the child of a name has been removed. -/
theorem stored?_removeChild (node : Node) (gone name : String) :
    (node.removeChild gone).stored? name = if name = gone then none else node.stored? name := by
  unfold stored? removeChild
  rw [List.find?_filter]
  by_cases same : name = gone
  · rw [if_pos same, List.find?_eq_none]
    intro child _ both
    simp only [decide_eq_true_eq, bne_iff_ne, beq_iff_eq] at both
    exact both.1 (both.2.trans same)
  · rw [if_neg same]
    congr 1
    funext child
    apply Bool.eq_iff_iff.mpr
    simp only [decide_eq_true_eq, bne_iff_ne, beq_iff_eq]
    exact ⟨And.right, fun called => ⟨fun equal => same (called.symm.trans equal), called⟩⟩

/-- A child that is appended under a free name is found, unless it is absent. -/
theorem child?_append {node child : Node} (free : child.name ∉ node.childNames)
    (present : child.isAbsent = false) :
    ({ node with children := node.children ++ [child] } : Node).child? child.name = some child := by
  rw [child?, stored?_append free, if_pos rfl, Option.filter_some, present, Bool.not_false,
    if_pos rfl]

/-- A child is stored under its name. -/
theorem stored?_of_mem {node child : Node} (distinct : node.childNames.Nodup)
    (listed : child ∈ node.children) : node.stored? child.name = some child := by
  cases found : node.stored? child.name with
  | none => exact absurd (List.mem_map_of_mem listed) (stored?_eq_none_iff.mp found)
  | some other =>
      have searched := found
      unfold stored? at searched
      have called := List.find?_some searched
      exact congrArg some (List.inj_on_of_nodup_map distinct
        (List.mem_of_find?_eq_some searched) listed (beq_iff_eq.mp called))

/-- A child under whose name nothing is found is absent. -/
theorem isAbsent_of_missing {node child : Node} (distinct : node.childNames.Nodup)
    (listed : child ∈ node.children) (missing : node.child? child.name = none) :
    child.isAbsent = true := by
  rw [child?, stored?_of_mem distinct listed, Option.filter_some] at missing
  cases absent : child.isAbsent with
  | true => rfl
  | false =>
      rw [absent] at missing
      cases missing

/-- A name whose child has been removed is free. -/
theorem not_mem_childNames_removeChild (node : Node) (name : String) :
    name ∉ (node.removeChild name).childNames := by
  intro listed
  rcases List.mem_map.mp listed with ⟨child, member, called⟩
  exact bne_iff_ne.mp (List.mem_filter.mp member).2 called

/-- Exactly when a child is appended: it is no root, and its name is free. -/
theorem addChild_eq_ok_iff {node child grown : Node} :
    node.addChild child = .ok grown ↔
      child.isRoot = false ∧ child.name ∉ node.childNames ∧
        grown = { node with children := node.children ++ [child] } := by
  rw [← stored?_eq_none_iff]
  unfold addChild
  cases child.isRoot with
  | true =>
      constructor
      · intro impossible
        cases impossible
      · rintro ⟨impossible, _⟩
        cases impossible
  | false =>
      cases node.stored? child.name with
      | some other =>
          constructor
          · intro impossible
            cases impossible
          · rintro ⟨_, impossible, _⟩
            cases impossible
      | none =>
          constructor
          · intro built
            cases built
            exact ⟨rfl, rfl, rfl⟩
          · rintro ⟨_, _, same⟩
            rw [same]
            rfl

end Node

namespace Spec

/-- Exactly when a child is appended: it is no root, and its name is free. -/
theorem attach_eq_ok_iff {node child grown : Node} :
    attach node child = .ok grown ↔
      child.isRoot = false ∧ child.name ∉ node.childNames ∧
        grown = { node with children := node.children ++ [child] } := by
  rw [← Node.addChild_eq_ok_iff]
  unfold attach
  cases node.addChild child with
  | error cause => exact iff_of_false (fun impossible => nomatch impossible) fun impossible => nomatch impossible
  | ok next => rw [Except.ok.injEq, Except.ok.injEq]

/-- What building children comes to: they are appended in order, nothing else changes, and names
that were different stay different. -/
theorem buildInto_eq_ok {specs : List Spec} {node grown : Node}
    (built : buildInto specs node = .ok grown) :
    Exists fun children : List Node =>
      grown = { node with children := node.children ++ children } ∧
      List.Forall₂ (fun spec child => build node.id spec = .ok child) specs children ∧
      (node.childNames.Nodup -> grown.childNames.Nodup) := by
  induction specs generalizing node with
  | nil =>
      cases built
      refine ⟨[], ?_, .nil, id⟩
      rw [List.append_nil]
      cases grown
      rfl
  | cons spec rest inductionHypothesis =>
      rw [buildInto] at built
      cases first : build node.id spec with
      | error cause =>
          rw [first] at built
          cases built
      | ok child =>
          cases attached : attach node child with
          | error cause =>
              rw [first] at built
              simp only [attached, reduceCtorEq] at built
          | ok next =>
              rw [first] at built
              simp only [attached] at built
              rcases attach_eq_ok_iff.mp attached with ⟨_, free, same⟩
              subst same
              rcases inductionHypothesis built with ⟨children, result, related, distinct⟩
              refine ⟨child :: children, ?_, .cons first related, ?_⟩
              · rw [result]
                simp only [List.append_assoc, List.singleton_append]
              · exact fun different => distinct (Node.nodup_append different free)

/-- A node that is built has the text of its name and is no root; its children are those of its
description. -/
theorem build_eq_ok {parent : String} {spec : Spec} {node : Node}
    (built : build parent spec = .ok node) :
    spec.name.text = .ok node.name ∧ node.isRoot = false ∧
      buildInto spec.children (Node.leaf (parent ++ "." ++ node.name) node.name spec.value
        spec.source spec.formatter) = .ok node := by
  rcases spec with ⟨name, value, source, formatter, isRoot, children⟩
  rw [build] at built
  cases named : isName name with
  | false =>
      rw [named] at built
      cases built
  | true =>
      cases written : name.text with
      | error fault =>
          simp only [named, Bool.not_true, Bool.false_eq_true, if_false, written, reduceCtorEq] at built
      | ok text =>
          cases isRoot with
          | true =>
              simp only [named, Bool.not_true, Bool.false_eq_true, if_false, written, if_true,
                reduceCtorEq] at built
          | false =>
              simp only [named, Bool.not_true, Bool.false_eq_true, if_false, written] at built
              rcases buildInto_eq_ok built with ⟨below, result, _, _⟩
              have sameName : node.name = text := by
                rw [result]
                rfl
              have noRoot : node.isRoot = false := by
                rw [result]
                rfl
              rw [sameName]
              exact ⟨rfl, noRoot, built⟩

/-- Children that are built have the names of their descriptions, in order. -/
theorem names_of_build {parent : String} {specs : List Spec} {children : List Node}
    (related : List.Forall₂ (fun spec child => build parent spec = .ok child) specs children) :
    specs.map (fun spec => spec.name.text) = children.map fun child => .ok child.name := by
  induction related with
  | nil => rfl
  | cons built _ inductionHypothesis =>
      rw [List.map_cons, List.map_cons, (build_eq_ok built).1, inductionHypothesis]

/-! ## Descriptions of fields -/

theorem name_ofField {name : String} {value : Value} {spec : Spec}
    (described : ofField name value = some spec) : spec.name = .string name := by
  cases value with
  | null => cases described
  | _ =>
      cases described
      rfl

/-- A description of fields describes nothing else. -/
theorem mem_ofFields {fields : List (String × Value)} {spec : Spec}
    (member : spec ∈ ofFields fields) :
    Exists fun field : String × Value => field ∈ fields ∧ spec.name = .string field.1 := by
  induction fields with
  | nil => cases member
  | cons field rest inductionHypothesis =>
      rcases field with ⟨name, value⟩
      rcases List.mem_append.mp member with here | later
      · exact ⟨(name, value), List.mem_cons_self, name_ofField (Option.mem_toList.mp here)⟩
      · rcases inductionHypothesis later with ⟨field, listed, same⟩
        exact ⟨field, List.mem_cons_of_mem _ listed, same⟩

end Spec

/-- A tree that is built from fields has no value of its own, no two children with one name, and
no child with the name of no field. -/
theorem Node.ofFields_eq_ok {rootId name : String} {fields : List (String × Value)} {tree : Node}
    (built : ofFields rootId name fields = .ok tree) :
    tree.value = .null ∧ tree.childNames.Nodup ∧
      forall free, fields.lookup free = none -> free ∉ tree.childNames := by
  unfold ofFields Node.build at built
  by_cases incomplete : (rootId.isEmpty || name.isEmpty) = true
  · rw [if_pos incomplete] at built
    cases built
  · rw [if_neg incomplete] at built
    rcases Spec.buildInto_eq_ok built with ⟨children, same, related, distinct⟩
    refine ⟨?_, distinct List.nodup_nil, ?_⟩
    · rw [same]
    · intro free missing listed
      rw [same] at listed
      rcases List.mem_map.mp listed with ⟨child, member, named⟩
      have written : (Except.ok free : Except Fault String) ∈
          (Spec.ofFields fields).map fun spec => spec.name.text := by
        rw [Spec.names_of_build related]
        exact List.mem_map.mpr ⟨child, member, congrArg Except.ok named⟩
      rcases List.mem_map.mp written with ⟨spec, described, spelled⟩
      rcases Spec.mem_ofFields described with ⟨field, given, calls⟩
      rw [calls] at spelled
      have different : free ≠ field.1 :=
        bne_iff_ne.mp (List.lookup_eq_none_iff.mp missing field given)
      exact different (Except.ok.inj spelled).symm

/-! ## Trees as they are built -/

/-- A tree whose nodes all come from the record and have no formatter. -/
inductive Node.IsPlain : Node -> Prop where
  | intro {node : Node} (source : node.source = .raw) (formatter : node.formatter = none)
      (children : forall child, child ∈ node.children -> child.IsPlain) : IsPlain node

namespace Spec

/-- A description that only ever gives plain trees. -/
def GivesPlain (spec : Spec) : Prop :=
  forall parent node, build parent spec = .ok node -> node.IsPlain

theorem plain_of_buildInto {specs : List Spec} (all : forall spec, spec ∈ specs -> spec.GivesPlain)
    {node grown : Node} (plain : node.IsPlain) (built : buildInto specs node = .ok grown) :
    grown.IsPlain := by
  rcases plain with ⟨source, formatter, old⟩
  rcases buildInto_eq_ok built with ⟨children, same, related, _⟩
  have new : forall child, child ∈ children -> child.IsPlain := by
    intro child listed
    clear same built
    induction related with
    | nil => cases listed
    | @cons spec first _ _ here _ inductionHypothesis =>
        rcases List.mem_cons.mp listed with equal | later
        · rw [equal]
          exact all spec List.mem_cons_self _ _ here
        · exact inductionHypothesis
            (fun other member => all other (List.mem_cons_of_mem _ member)) later
  rw [same]
  exact .intro source formatter (List.forall_mem_append.mpr ⟨old, new⟩)

/-- A name and children that give plain trees, or a value without children. -/
theorem givesPlain_of_children {name : String} {value : Value} {children : List Spec}
    (all : forall spec, spec ∈ children -> spec.GivesPlain) :
    GivesPlain ⟨.string name, value, .raw, none, false, children⟩ := by
  intro parent node built
  have leaf : (Node.leaf (parent ++ "." ++ node.name) node.name value .raw none).IsPlain :=
    .intro rfl rfl fun _ impossible => absurd impossible List.not_mem_nil
  exact plain_of_buildInto all leaf (build_eq_ok built).2.2

theorem givesPlain_leaf (name : String) (value : Value) : (leaf name value).GivesPlain :=
  givesPlain_of_children fun _ impossible => absurd impossible List.not_mem_nil

mutual

theorem givesPlain_ofField (name : String) :
    forall (value : Value) (spec : Spec), ofField name value = some spec -> spec.GivesPlain
  | .null, spec, described => nomatch described
  | .map fields, spec, described => by
      cases described
      exact givesPlain_of_children (givesPlain_ofFields fields)
  | .list items, spec, described => by
      cases described
      exact givesPlain_of_children (givesPlain_ofItems items 0)
  | .bool flag, spec, described => Option.some.inj described ▸ givesPlain_leaf name _
  | .int n, spec, described => Option.some.inj described ▸ givesPlain_leaf name _
  | .double x, spec, described => Option.some.inj described ▸ givesPlain_leaf name _
  | .undefined, spec, described => Option.some.inj described ▸ givesPlain_leaf name _
  | .decimal d, spec, described => Option.some.inj described ▸ givesPlain_leaf name _
  | .string text, spec, described => Option.some.inj described ▸ givesPlain_leaf name _
  | .constant c, spec, described => Option.some.inj described ▸ givesPlain_leaf name _

theorem givesPlain_ofFields :
    forall (fields : List (String × Value)) (spec : Spec), spec ∈ ofFields fields -> spec.GivesPlain
  | [], spec, impossible => absurd impossible List.not_mem_nil
  | (name, value) :: rest, spec, member => by
      rcases List.mem_append.mp member with here | later
      · exact givesPlain_ofField name value spec (Option.mem_toList.mp here)
      · exact givesPlain_ofFields rest spec later

theorem givesPlain_ofItems :
    forall (items : List Value) (position : Nat) (spec : Spec), spec ∈ ofItems position items ->
      spec.GivesPlain
  | [], position, spec, impossible => absurd impossible List.not_mem_nil
  | value :: rest, position, spec, member => by
      rcases List.mem_append.mp member with here | later
      · exact givesPlain_ofField (toString position) value spec (Option.mem_toList.mp here)
      · exact givesPlain_ofItems rest (position + 1) spec later

end

end Spec

/-- A tree that is built from fields is plain. -/
theorem Node.isPlain_ofFields {rootId name : String} {fields : List (String × Value)} {tree : Node}
    (built : ofFields rootId name fields = .ok tree) : tree.IsPlain := by
  unfold ofFields Node.build at built
  by_cases incomplete : (rootId.isEmpty || name.isEmpty) = true
  · rw [if_pos incomplete] at built
    cases built
  · rw [if_neg incomplete] at built
    exact Spec.plain_of_buildInto (Spec.givesPlain_ofFields fields)
      (.intro rfl rfl fun _ impossible => absurd impossible List.not_mem_nil) built

end TraceView

import Mathlib.Data.List.Nodup
import TraceView.Proofs.Operation.Completion
import TraceView.Proofs.Trace.Containment

namespace TraceView

/-!
# Served entries

An entry is served as an object for each node of its tree, nested as the nodes are.  A reader that
keeps to the rules takes null, truth values, texts and finite numbers, and it may lose digits of an
integer, so integers are served by their texts.  Doubles are served as they are.

A tree holds exactly the scalars of its fields besides what an entry adds, and that is always an
integer or a text.  So an entry is taken by such a reader exactly if no field has a double that is
infinite or undefined.  The fields of a document have no doubles, but a decimal that is beyond the
largest double becomes an infinite one; and a configuration may have infinite and undefined
doubles of its own.
-/

/-- A scalar that every reader takes as it is. -/
def Value.IsStrict : Value -> Prop
  | .null => True
  | .bool _ => True
  | .string _ => True
  | .double (.finite _ _ _ _) => True
  | _ => False

namespace Web

/-- What is emitted for the value of a node. -/
def emitted : Value -> Value
  | .int n => .string (Numeral.full n)
  | value => value

theorem servedValue_eq_ok {value served : Value} (given : servedValue value = .ok served) :
    served = emitted value := by
  cases value with
  | int n =>
      rw [servedValue, Numeral.write] at given
      by_cases short : (Nat.toDigits 10 n.natAbs).length ≤ Numeral.digitLimit
      · rw [if_pos short] at given
        cases given
        rfl
      · rw [if_neg short] at given
        cases given
  | _ =>
      cases given
      rfl

theorem isScalar_emitted {value : Value} (scalar : value.IsScalar) : (emitted value).IsScalar := by
  cases value with
  | list items => exact scalar
  | map fields => exact scalar
  | _ => trivial

theorem asInt?_emitted (value : Value) : (emitted value).asInt? = none := by
  cases value <;> rfl

/-! ## One object for each node -/

/-- An object that shows a node, and in the same order and nesting the nodes below it. -/
inductive Depicts : Node -> Value -> Prop where
  | intro {node : Node} {fields : List (String × Value)} {objects : List Value}
      (id : fields.lookup "id" = some (.string node.id))
      (name : fields.lookup "name" = some (.string node.name))
      (value : fields.lookup "value" = some (emitted node.value))
      (source : fields.lookup "source" = some (.string node.source.word))
      (children : fields.lookup "children" = some (.list objects))
      (below : List.Forall₂ Depicts node.children objects) : Depicts node (.map fields)

mutual

theorem depicts_servedTree :
    forall (tree : Node) (served : Value), servedTree tree = .ok served -> Depicts tree served
  | ⟨_, _, _, _, _, _, _, _, children⟩, served, given => by
      rw [servedTree] at given
      rcases bind_eq_ok_iff.mp given with ⟨text, _, given⟩
      rcases bind_eq_ok_iff.mp given with ⟨value, shown, given⟩
      rcases bind_eq_ok_iff.mp given with ⟨objects, below, given⟩
      cases given
      rw [servedValue_eq_ok shown]
      exact .intro rfl rfl rfl rfl rfl (depicts_servedTrees children objects below)

theorem depicts_servedTrees :
    forall (trees : List Node) (objects : List Value), servedTrees trees = .ok objects ->
      List.Forall₂ Depicts trees objects
  | [], objects, given => by
      cases given
      exact .nil
  | tree :: rest, objects, given => by
      rw [servedTrees] at given
      rcases bind_eq_ok_iff.mp given with ⟨first, here, given⟩
      rcases bind_eq_ok_iff.mp given with ⟨others, later, given⟩
      cases given
      exact .cons (depicts_servedTree tree first here) (depicts_servedTrees rest others later)

end

/-! ## The scalars that are served -/

theorem scalars_of_isScalar {value : Value} (scalar : value.IsScalar) : value.scalars = [value] := by
  cases value with
  | list items => exact scalar.elim
  | map fields => exact scalar.elim
  | _ => rfl

/-- Apart from texts and null, the scalars of an object are that of its value and those below. -/
theorem forall_nodeFields {holds : Value -> Prop} (null : holds .null)
    (texts : forall text, holds (.string text)) {node : Node} {value : Value} {text : String}
    {children : List Value} (scalar : value.IsScalar) :
    (forall item, item ∈ Value.fieldScalars (nodeFields node value text children) -> holds item) ↔
      holds value ∧ forall item, item ∈ Value.itemScalars children -> holds item := by
  have own := scalars_of_isScalar scalar
  have root : forall shown : Value, shown.IsScalar -> holds shown -> forall item,
      item ∈ Value.fieldScalars (if node.isRoot then [("root_id", shown)] else []) ->
        holds item := by
    intro shown single here
    cases node.isRoot with
    | false => exact fun _ impossible => absurd impossible List.not_mem_nil
    | true =>
        rw [if_pos rfl, Value.fieldScalars, Value.fieldScalars, scalars_of_isScalar single]
        exact List.forall_mem_singleton.mpr here
  have split : forall front back : List (String × Value),
      Value.fieldScalars (front ++ back) = Value.fieldScalars front ++ Value.fieldScalars back := by
    intro front back
    induction front with
    | nil => rfl
    | cons field rest inductionHypothesis =>
        rw [List.cons_append, Value.fieldScalars, inductionHypothesis, Value.fieldScalars,
          List.append_assoc]
  rw [nodeFields, split]
  simp only [Value.fieldScalars, own, Value.scalars, List.forall_mem_append,
    List.forall_mem_singleton, List.append_nil, texts, true_and]
  constructor
  · rintro ⟨⟨here, below⟩, _⟩
    exact ⟨here, below⟩
  · rintro ⟨here, below⟩
    refine ⟨⟨here, below⟩, root _ ?_ ?_⟩
    · cases node.rootId <;> trivial
    · cases node.rootId with
      | none => exact null
      | some id => exact texts id

mutual

/-- Something that holds of null and of texts holds of all that is served exactly if it holds of what
is emitted for the nodes. -/
theorem forall_servedTree_iff {holds : Value -> Prop} (null : holds .null)
    (texts : forall text, holds (.string text)) :
    forall (tree : Node) (served : Value), tree.Everywhere Value.IsScalar ->
      servedTree tree = .ok served ->
        ((forall item, item ∈ served.scalars -> holds item) ↔
          tree.Everywhere fun value => holds (emitted value))
  | ⟨_, _, _, _, _, _, _, _, children⟩, served, scalars, given => by
      rcases List.forall_mem_cons.mp scalars with ⟨scalar, below⟩
      rw [servedTree] at given
      rcases bind_eq_ok_iff.mp given with ⟨text, _, given⟩
      rcases bind_eq_ok_iff.mp given with ⟨value, shown, given⟩
      rcases bind_eq_ok_iff.mp given with ⟨objects, inside, given⟩
      cases given
      rw [servedValue_eq_ok shown, Value.scalars,
        forall_nodeFields null texts (isScalar_emitted scalar),
        forall_servedTrees_iff null texts children objects below inside, Node.Everywhere, Node.walk,
        List.forall_mem_cons]

theorem forall_servedTrees_iff {holds : Value -> Prop} (null : holds .null)
    (texts : forall text, holds (.string text)) :
    forall (trees : List Node) (objects : List Value),
      (forall node, node ∈ Node.walkAll trees -> node.value.IsScalar) ->
      servedTrees trees = .ok objects ->
        ((forall item, item ∈ Value.itemScalars objects -> holds item) ↔
          forall node, node ∈ Node.walkAll trees -> holds (emitted node.value))
  | [], objects, _, given => by
      cases given
      exact iff_of_true (fun _ impossible => absurd impossible List.not_mem_nil)
        fun _ impossible => absurd impossible List.not_mem_nil
  | tree :: rest, objects, scalars, given => by
      rcases List.forall_mem_append.mp scalars with ⟨here, later⟩
      rw [servedTrees] at given
      rcases bind_eq_ok_iff.mp given with ⟨first, shown, given⟩
      rcases bind_eq_ok_iff.mp given with ⟨others, inside, given⟩
      cases given
      rw [Value.itemScalars, List.forall_mem_append,
        forall_servedTree_iff null texts tree first here shown,
        forall_servedTrees_iff null texts rest others later inside, Node.walkAll,
        List.forall_mem_append, Node.Everywhere]

end

end Web

/-! ## The scalars of a tree -/

/-- A tree that has a value at one of its nodes. -/
def Node.HasValue (tree : Node) (value : Value) : Prop :=
  Exists fun node : Node => node ∈ tree.walk ∧ node.value = value

theorem Node.hasValue_iff {tree : Node} {value : Value} :
    tree.HasValue value ↔
      tree.value = value ∨ Exists fun child : Node => child ∈ tree.children ∧ child.HasValue value := by
  rcases tree with ⟨id, name, own, source, formatter, isRoot, rootId, mark, children⟩
  rw [HasValue, walk, walkAll_eq_flatMap]
  constructor
  · rintro ⟨node, member, same⟩
    rcases List.mem_cons.mp member with root | below
    · rw [root] at same
      exact Or.inl same
    · rcases List.mem_flatMap.mp below with ⟨child, listed, within⟩
      exact Or.inr ⟨child, listed, node, within, same⟩
  · rintro (same | ⟨child, listed, node, within, same⟩)
    · exact ⟨_, List.mem_cons_self, same⟩
    · exact ⟨node, List.mem_cons_of_mem _ (List.mem_flatMap.mpr ⟨child, listed, within⟩), same⟩

namespace Spec

variable {parent : String} {item : Value}

theorem value_of_build {spec : Spec} {node : Node} (built : build parent spec = .ok node) :
    node.value = spec.value := by
  rcases buildInto_eq_ok (build_eq_ok built).2.2 with ⟨children, same, _, _⟩
  rw [same]
  rfl

theorem children_of_build {spec : Spec} {node : Node} (built : build parent spec = .ok node) :
    List.Forall₂ (fun spec child => build node.id spec = .ok child) spec.children node.children := by
  rcases buildInto_eq_ok (build_eq_ok built).2.2 with ⟨children, same, related, _⟩
  rw [same]
  exact related

/-- A description of a single value gives a node with it. -/
theorem hasValue_single {name : String} {value : Value} {spec : Spec} {node : Node}
    (listed : value.scalars = [value]) (member : item ∈ value.scalars)
    (described : some (leaf name (scalar value)) = some spec) (built : build parent spec = .ok node) :
    node.HasValue (scalar item) := by
  rw [listed] at member
  cases described
  rw [List.mem_singleton.mp member]
  exact Node.hasValue_iff.mpr (Or.inl (value_of_build built))

/-- The scalar of one of several fields is shown by a child, if it is in the first field, which is not
left out then, or in one of the others. -/
theorem hasValue_cons (present : item ≠ .null) {name : String} {value : Value} {specs : List Spec}
    {children : List Node} {later : Prop} (member : item ∈ value.scalars ∨ later)
    (first : item ∈ value.scalars -> forall (spec : Spec) (parent : String) (node : Node),
      ofField name value = some spec -> build parent spec = .ok node -> node.HasValue (scalar item))
    (others : later -> forall children : List Node,
      List.Forall₂ (fun spec child => build parent spec = .ok child) specs children ->
        Exists fun child : Node => child ∈ children ∧ child.HasValue (scalar item))
    (related : List.Forall₂ (fun spec child => build parent spec = .ok child)
      ((ofField name value).toList ++ specs) children) :
    Exists fun child : Node => child ∈ children ∧ child.HasValue (scalar item) := by
  cases described : ofField name value with
  | none =>
      rw [described] at related
      rcases member with here | there
      · cases value with
        | null => exact absurd (List.mem_singleton.mp here) present
        | _ => cases described
      · exact others there children related
  | some spec =>
      rw [described] at related
      cases related with
      | cons built rest =>
          rcases member with here | there
          · exact ⟨_, List.mem_cons_self, first here spec parent _ described built⟩
          · rcases others there _ rest with ⟨child, listed, shows⟩
            exact ⟨child, List.mem_cons_of_mem _ listed, shows⟩

mutual

/-- No scalar of a field is lost when the field becomes a node, except null. -/
theorem hasValue_ofField (present : item ≠ .null) (name : String) :
    forall value : Value, item ∈ value.scalars ->
      forall (spec : Spec) (parent : String) (node : Node), ofField name value = some spec ->
        build parent spec = .ok node -> node.HasValue (scalar item)
  | .null, _, _, _, _, described, _ => nomatch described
  | .map fields, member, _, _, node, described, built => by
      cases described
      exact Node.hasValue_iff.mpr (Or.inr
        (hasValue_ofFields present fields member node.id node.children (children_of_build built)))
  | .list items, member, _, _, node, described, built => by
      cases described
      exact Node.hasValue_iff.mpr (Or.inr
        (hasValue_ofItems present items member 0 node.id node.children (children_of_build built)))
  | .bool _, member, _, _, _, described, built => hasValue_single rfl member described built
  | .int _, member, _, _, _, described, built => hasValue_single rfl member described built
  | .double _, member, _, _, _, described, built => hasValue_single rfl member described built
  | .undefined, member, _, _, _, described, built => hasValue_single rfl member described built
  | .decimal _, member, _, _, _, described, built => hasValue_single rfl member described built
  | .string _, member, _, _, _, described, built => hasValue_single rfl member described built
  | .constant _, member, _, _, _, described, built => hasValue_single rfl member described built

theorem hasValue_ofFields (present : item ≠ .null) :
    forall fields : List (String × Value), item ∈ Value.fieldScalars fields ->
      forall (parent : String) (children : List Node),
        List.Forall₂ (fun spec child => build parent spec = .ok child) (ofFields fields) children ->
          Exists fun child : Node => child ∈ children ∧ child.HasValue (scalar item)
  | [], member, _, _, _ => absurd member List.not_mem_nil
  | (name, value) :: rest, member, parent, _, related =>
      hasValue_cons present (List.mem_append.mp member) (hasValue_ofField present name value)
        (fun later => hasValue_ofFields present rest later parent) related

theorem hasValue_ofItems (present : item ≠ .null) :
    forall items : List Value, item ∈ Value.itemScalars items ->
      forall (position : Nat) (parent : String) (children : List Node),
        List.Forall₂ (fun spec child => build parent spec = .ok child) (ofItems position items)
          children ->
          Exists fun child : Node => child ∈ children ∧ child.HasValue (scalar item)
  | [], member, _, _, _, _ => absurd member List.not_mem_nil
  | value :: rest, member, position, parent, _, related =>
      hasValue_cons present (List.mem_append.mp member)
        (hasValue_ofField present (toString position) value)
        (fun later => hasValue_ofItems present rest later (position + 1) parent) related

end

end Spec

/-- A tree that is built from fields shows each of their scalars that is not null. -/
theorem Node.hasValue_of_ofFields {rootId name : String} {fields : List (String × Value)} {tree : Node}
    (built : ofFields rootId name fields = .ok tree) {item : Value} (present : item ≠ .null)
    (member : item ∈ Value.fieldScalars fields) : tree.HasValue (Spec.scalar item) := by
  unfold ofFields Node.build at built
  by_cases incomplete : (rootId.isEmpty || name.isEmpty) = true
  · rw [if_pos incomplete] at built
    cases built
  · rw [if_neg incomplete] at built
    rcases Spec.buildInto_eq_ok built with ⟨children, same, related, _⟩
    apply Node.hasValue_iff.mpr
    rw [same]
    exact Or.inr (Spec.hasValue_ofFields present fields member _ _ related)

/-! ## Operations -/

namespace Operation

variable {holds : Value -> Prop} {tree : Node}

/-- A tree whose children have different names and that shows a value. -/
structure Displays (value : Value) (tree : Node) : Prop where
  distinct : tree.childNames.Nodup
  shows : tree.HasValue value

variable {value : Value}

/-- A child under whose name nothing is found shows nothing but null. -/
theorem eq_null_of_missing (distinct : tree.childNames.Nodup) {child : Node}
    (listed : child ∈ tree.children) (missing : tree.child? child.name = none)
    (shows : child.HasValue value) : value = .null := by
  have absent := Node.isAbsent_of_missing distinct listed missing
  rw [Node.isAbsent, Bool.and_eq_true] at absent
  rcases Node.hasValue_iff.mp shows with here | ⟨below, member, _⟩
  · rw [← here]
    exact Value.isNull_iff.mp absent.1
  · rw [List.isEmpty_iff.mp absent.2] at member
    cases member

/-- Only a child that is absent makes way for a calculated property, so no value is lost. -/
theorem displays_addCalculated (present : value ≠ .null) (displays : Displays value tree)
    {name : String} (missing : tree.child? name = none) (added : Value)
    (formatter : Option Formatter) : Displays value (addCalculated tree name added formatter) where
  distinct := by
    have kept : ((tree.removeChild name).childNames).Nodup :=
      displays.distinct.sublist (List.filter_sublist.map _)
    exact @Node.nodup_append (tree.removeChild name) _ kept
      (Node.not_mem_childNames_removeChild tree name)
  shows := by
    rcases Node.hasValue_iff.mp displays.shows with root | ⟨child, listed, shows⟩
    · exact Node.hasValue_iff.mpr (Or.inl root)
    · have elsewhere : child.name ≠ name := by
        intro called
        subst called
        exact present (eq_null_of_missing displays.distinct listed missing shows)
      exact Node.hasValue_iff.mpr (Or.inr ⟨child,
        List.mem_append_left _ (List.mem_filter.mpr ⟨listed, bne_iff_ne.mpr elsewhere⟩), shows⟩)

/-- One operation loses no value. -/
theorem displays_apply (present : value ≠ .null) (operation : Operation)
    (displays : Displays value tree) : Displays value (operation.apply tree).value := by
  rcases apply_cases operation tree with unchanged | ⟨rules, dressed⟩ | ⟨added, missing, grown⟩
  · rw [unchanged]
    exact displays
  · rw [dressed]
    refine ⟨?_, ?_⟩
    · rw [childNames_setFormatters]
      exact displays.distinct
    · rcases displays.shows with ⟨node, member, same⟩
      refine ⟨setFormatters rules node, ?_, ?_⟩
      · rw [walk_setFormatters]
        exact List.mem_map_of_mem member
      · rw [value_setFormatters, same]
  · rw [grown]
    exact displays_addCalculated present displays missing _ _

end Operation

namespace Pipeline

variable {holds : Value -> Prop} {tree : Node} {value : Value}

theorem displays_steps (present : value ≠ .null) (pipeline : Pipeline)
    (displays : Operation.Displays value tree) :
    Operation.Displays value (pipeline.steps tree).value := by
  induction pipeline generalizing tree with
  | nil => exact displays
  | cons operation rest inductionHypothesis =>
      exact inductionHypothesis (Operation.displays_apply present operation displays)

end Pipeline

/-! ## Doubles -/

/-- A finite decimal is at worst too large for a double. -/
theorem Double.ofDecimal_cases {d : Decimal} (finite : d.IsFinite) :
    (Value.double (ofDecimal d)).IsStrict ∨
      Exists fun negative : Bool => ofDecimal d = .infinite negative := by
  have packed : forall (negative : Bool) (significand : Nat) (exponent : Int),
      (Value.double (pack negative significand exponent)).IsStrict ∨
        Exists fun other : Bool => pack negative significand exponent = .infinite other := by
    intro negative significand exponent
    unfold pack
    split
    · exact Or.inl trivial
    · split
      · split
        · exact Or.inl trivial
        · exact Or.inr ⟨negative, rfl⟩
      · exact Or.inr ⟨negative, rfl⟩
  cases d with
  | finite negative coefficient exponent =>
      unfold ofDecimal ofScaled
      dsimp only
      split
      · exact Or.inl trivial
      · split
        · exact Or.inr ⟨negative, rfl⟩
        · unfold ofQuotient
          split
          · exact Or.inl trivial
          · exact packed _ _ _
  | infinite negative => exact finite.elim
  | nan negative payload => exact finite.elim

/-! ## Entries -/

namespace Trace

variable {trace : Trace} {decoder : Decoder} {place : Fin trace.length} {domain : Domain}
  {tree : Node}

/-- Something that holds of null, of integers and of texts holds of all values in the tree of an entry
exactly if it holds of what the nodes hold of the scalars of the fields. -/
theorem everywhere_entry_iff {holds : Value -> Prop} (null : holds .null)
    (integers : forall n, holds (.int n)) (texts : forall text, holds (.string text))
    {fields : List (String × Value)}
    (decoded : decoder.decode (trace.record place) = .ok (.map fields))
    (shown : (trace.entry decoder (.int place.val) domain).value = .ok tree) :
    tree.Everywhere holds ↔
      forall item, item ∈ Value.fieldScalars fields -> holds (Spec.scalar item) := by
  rcases entry_eq_ok shown with ⟨stamp, others, raw, _, again, built, same⟩
  cases decoded.symm.trans again
  rcases buildEntry_eq_ok built with ⟨bare, fromFields, free, grown⟩
  rcases Node.ofFields_eq_ok fromFields with ⟨_, distinct, _⟩
  constructor
  · intro everywhere item member
    by_cases present : item = .null
    · rw [present]
      exact null
    · have kept : Spec.scalar item ≠ .null := by
        cases item with
        | null => exact absurd rfl present
        | _ =>
            intro same
            cases same
      have early : Operation.Displays (Spec.scalar item) raw := by
        rw [grown]
        refine ⟨?_, ?_⟩
        · exact Node.nodup_append distinct free
        · rcases Node.hasValue_iff.mp (Node.hasValue_of_ofFields fromFields present member) with
            root | ⟨child, listed, shows⟩
          · exact Node.hasValue_iff.mpr (Or.inl root)
          · exact Node.hasValue_iff.mpr (Or.inr ⟨child, List.mem_append_left _ listed, shows⟩)
      have late := Pipeline.displays_steps kept (trace.pipeline domain) early
      rw [← same] at late
      rcases late.shows with ⟨node, listed, value⟩
      rw [← value]
      exact everywhere node listed
  · intro held
    have yields : Spec.Yields holds (.ok bare) := by
      rw [← fromFields]
      exact Node.yields_ofFields null held _ _
    rw [same]
    apply Pipeline.everywhere_steps integers texts
    rw [grown]
    exact Node.Everywhere.append yields (Node.everywhere_leaf (integers stamp.nanoseconds))

variable {bytes : List UInt8} {settings : Settings} {files : Files} {given : Option Pipeline}

/-- A field of an entry that is not emitted as a strict scalar is a decimal of the record that is
beyond the largest double, or it stands in the configuration. -/
theorem OpenedFrom.lax_cases (opened : OpenedFrom bytes settings files given trace)
    {fields : List (String × Value)}
    (decoded : decoder.decode (trace.record place) = .ok (.map fields)) {item : Value}
    (member : item ∈ Value.fieldScalars fields)
    (lax : ¬ (Web.emitted (Spec.scalar item)).IsStrict) :
    (Exists fun d : Decimal => Exists fun negative : Bool =>
        item = .decimal d ∧ d.IsFinite ∧ Double.ofDecimal d = .infinite negative) ∨
      item ∈ decoder.scalars := by
  rcases opened.spelled_record place with ⟨names, record, spelled⟩
  rw [record] at decoded
  have texts : forall text, (Value.string text).IsSpelled := fun _ => trivial
  have read : Transition.HasRead Value.IsSpelled := fun _ _ found => Numeral.fits_of_read found
  rcases Decoder.holds_of_decode texts read spelled decoded item member with known | configured
  · cases item with
    | decimal d =>
        rcases Double.ofDecimal_cases known with strict | ⟨negative, infinite⟩
        · exact absurd strict lax
        · exact Or.inl ⟨d, negative, rfl, known, infinite⟩
    | double x => exact known.elim
    | undefined => exact known.elim
    | constant c => exact known.elim
    | list items => exact known.elim
    | map fields => exact known.elim
    | _ => exact absurd trivial lax
  · exact Or.inr configured

/-- What is served for an entry of an opened trace, whatever the record and the configuration hold.

A tree is served exactly if its integers can be written.  What is served then has an object for each
node, nested as the nodes are, in which an integer is given by its text; no integer is left in it.
It has only strict scalars exactly if what is emitted for each scalar of the decoded fields is
strict, and the only scalars for which it is not are decimals of the record that are beyond the
largest double and doubles that stand in the configuration. -/
theorem served_entry (opened : OpenedFrom bytes settings files given trace)
    (shown : (trace.entry decoder (.int place.val) domain).value = .ok tree) :
    (Succeeds (Web.servedTree tree) ↔ tree.Everywhere Value.Fits) ∧
      Exists fun fields : List (String × Value) =>
        decoder.decode (trace.record place) = .ok (.map fields) ∧
        (forall served : Value, Web.servedTree tree = .ok served ->
          Web.Depicts tree served ∧
          (forall n : Int, .int n ∉ served.scalars) ∧
          ((forall item, item ∈ served.scalars -> item.IsStrict) ↔
            forall item, item ∈ Value.fieldScalars fields ->
              (Web.emitted (Spec.scalar item)).IsStrict)) ∧
        forall item, item ∈ Value.fieldScalars fields ->
          ¬ (Web.emitted (Spec.scalar item)).IsStrict ->
            (Exists fun d : Decimal => Exists fun negative : Bool =>
              item = .decimal d ∧ d.IsFinite ∧ Double.ofDecimal d = .infinite negative) ∨
            item ∈ decoder.scalars := by
  rcases entry_eq_ok shown with ⟨stamp, fields, raw, _, decoded, _, _⟩
  have single : tree.Everywhere Value.IsScalar := by
    refine (everywhere_entry_iff trivial (fun _ => trivial) (fun _ => trivial) decoded shown).mpr ?_
    intro item member
    have scalar := Value.isScalar_of_mem_fields fields item member
    cases item with
    | list items => exact scalar.elim
    | map fields => exact scalar.elim
    | _ => trivial
  refine ⟨?_, fields, decoded, ?_, fun item => opened.lax_cases decoded⟩
  · rw [← Web.shown_iff_fits single]
    refine ⟨fun served => ⟨fun node member => ?_, served⟩, And.right⟩
    exact ((Web.succeeds_servedTree_iff tree).mp served node member).1
  · intro served emits
    refine ⟨Web.depicts_servedTree tree served emits, ?_, ?_⟩
    · intro n member
      have none := (@Web.forall_servedTree_iff (fun item => item.asInt? = none) rfl (fun _ => rfl)
        tree served single emits).mpr fun node _ => Web.asInt?_emitted node.value
      cases none _ member
    · rw [Web.forall_servedTree_iff trivial (fun _ => trivial) tree served single emits]
      exact everywhere_entry_iff trivial (fun _ => trivial) (fun _ => trivial) decoded shown

/-- The entry of the played transition is served with strict scalars only. -/
theorem played_entry_served :
    Exists fun tree : Node => Exists fun served : Value =>
      (playedTrace.entry .transition (.int 0) .elapsed).value = .ok tree ∧
        Web.servedTree tree = .ok served ∧ Web.Depicts tree served ∧
        forall item, item ∈ served.scalars -> item.IsStrict := by
  have returned : Exists fun tree : Node => Exists fun served : Value =>
      (playedTrace.entry .transition (.int 0) .elapsed).value = .ok tree ∧
        Web.servedTree tree = .ok served := ⟨_, _, rfl, rfl⟩
  rcases returned with ⟨tree, served, returned, emits⟩
  rcases @served_entry playedTrace .transition ⟨0, Nat.zero_lt_one⟩ .elapsed tree _ _ _ _
    (openedFrom_of_load load_playedText) returned with ⟨_, fields, decoded, all, _⟩
  cases decoded
  rcases all served emits with ⟨depicts, _, strict⟩
  refine ⟨tree, served, returned, emits, depicts, strict.mpr ?_⟩
  intro item member
  rcases List.mem_pair.mp member with same | same <;> rw [same] <;> trivial

/-- A capture of a transition with a number that is beyond the largest double. -/
def vastText : List UInt8 :=
  ("\x7b\"transitions\":[\x7b\"wmData\":\x7b\"sendTimeNs\":7\x7d,\"x\":1e400\x7d]\x7d"
    ).toUTF8.toList

def vast : Json :=
  .object [("transitions", .array [.object
    [("wmData", .object [("sendTimeNs", .integer 7)]), ("x", .decimal (.finite false 1 400))]])]

def vastTrace : Trace :=
  { playedTrace with
    records := [.map [("wmData", .map [("sendTimeNs", .int 7)]),
      ("x", .decimal (.finite false 1 400))]] }

/-- The entry of the capture is served with an infinite number. -/
theorem vast_entry_served :
    (load Decoder.standard vastText .standard .nowhere 0).value =
        .taken 1 .transition (.ok vastTrace) ∧
      Exists fun tree : Node => Exists fun served : Value =>
        (vastTrace.entry .transition (.int 0) .elapsed).value = .ok tree ∧
          Web.servedTree tree = .ok served ∧
          .double (.infinite false) ∈ served.scalars ∧
          ¬ (Value.double (.infinite false)).IsStrict := by
  have spelled : Json.read .trace vastText = .whole vast := by
    with_unfolding_all rfl
  have read : Json.readTrace vastText = .ok (⟨["transitions"], []⟩, vast) := by
    rw [Json.readTrace, spelled]
    rfl
  have opened : (load Decoder.standard vastText .standard .nowhere 0).value =
      .taken 1 .transition (.ok vastTrace) :=
    load_eq_opened_iff.mpr
      ⟨_, _, _, _, read, rfl, load_single rfl rfl rfl .standard .nowhere, rfl⟩
  have returned : Exists fun tree : Node => Exists fun served : Value =>
      (vastTrace.entry .transition (.int 0) .elapsed).value = .ok tree ∧
        Web.servedTree tree = .ok served ∧
        served.scalars.filter (fun item => item.kind = .double) = [.double (.infinite false)] :=
    ⟨_, _, rfl, rfl, rfl⟩
  rcases returned with ⟨tree, served, returned, emits, doubles⟩
  have listed : .double (.infinite false) ∈
      served.scalars.filter fun item => item.kind = .double := by
    rw [doubles]
    exact List.mem_singleton_self _
  exact ⟨opened, tree, served, returned, emits, (List.mem_filter.mp listed).1, id⟩

end Trace

end TraceView

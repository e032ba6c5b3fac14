import TraceView.Proofs.Number.Nearest
import TraceView.Proofs.Tree.Fields

namespace TraceView

/-!
# Paths in trees of fields

A look-up in a tree that is built from fields finds what the fields hold at the end of the path, unless
this is null or has nothing but null in it.  Such a field has no node or an absent one, and nothing is
found below it in the fields either, so that no path is cut short by an absent node.
-/

/-! ## Trees that mirror values -/

/-- A tree of a value: the node holds the scalar that the value is, or nothing, and has a child for each
member that is not null, under its name and in its place. -/
inductive Node.Mirrors : Node -> Value -> Prop where
  | intro {value : Value} {node : Node} (own : node.value = Spec.own value)
      (source : node.source = .raw)
      (names : node.childNames = (Value.present value.members).map Prod.fst)
      (below : List.Forall₂ Mirrors node.children ((Value.present value.members).map Prod.snd)) :
      Mirrors node value

namespace Spec

variable {value : Value} {node grown : Node}

/-- Nodes that are built from fields have their names and are trees of their values, if each node that
is built from one of them is. -/
theorem mirrors_of_fields {fields : List (String × Value)} {children : List Node} {parent : String}
    (inside : forall field, field ∈ fields -> forall child,
      build parent (describe field) = .ok child -> child.Mirrors field.2)
    (related : List.Forall₂ (fun spec child => build parent spec = .ok child) (fields.map describe)
      children) :
    children.map Node.name = fields.map Prod.fst ∧
      List.Forall₂ Node.Mirrors children (fields.map Prod.snd) := by
  induction fields generalizing children with
  | nil =>
      cases related
      exact ⟨rfl, .nil⟩
  | cons field rest inductionHypothesis =>
      rcases List.forall_mem_cons.mp inside with ⟨first, others⟩
      cases related with
      | @cons _ child _ later built related =>
          have called : child.name = field.1 := (Except.ok.inj (build_eq_ok built).1).symm
          rcases inductionHypothesis others related with ⟨names, below⟩
          rw [List.map_cons, List.map_cons, List.map_cons, called, names]
          exact ⟨rfl, .cons (first child built) below⟩

/-- Building the members of a value below a node that holds what the value is gives a tree of it, if
building a member gives a tree of the member. -/
theorem mirrors_of_buildInto
    (inside : forall member, member ∈ value.members -> forall parent child,
      build parent (describe member) = .ok child -> child.Mirrors member.2)
    (childless : node.children = []) (held : node.value = own value) (source : node.source = .raw)
    (built : buildInto (ofFields value.members) node = .ok grown) : grown.Mirrors value := by
  rcases buildInto_eq_ok built with ⟨children, same, related, _⟩
  rw [ofFields_eq] at related
  rw [childless, List.nil_append] at same
  subst same
  rcases mirrors_of_fields
    (fun field listed => inside field (Value.mem_present.mp listed).1 node.id) related with
    ⟨names, below⟩
  exact .intro held source names below

/-- The node of a field is a tree of its value. -/
theorem mirrors_of_build (value : Value) : forall (name parent : String) (node : Node),
    build parent (describe (name, value)) = .ok node -> node.Mirrors value := by
  induction value using Value.induction_on_members with
  | step value inductionHypothesis =>
      intro name parent node built
      rw [build_describe] at built
      by_cases empty : name = ""
      · rw [if_pos empty] at built
        cases built
      · rw [if_neg empty] at built
        exact mirrors_of_buildInto
          (fun member held parent child => inductionHypothesis member held member.1 parent child)
          rfl rfl rfl built

end Spec

namespace Node

/-- A tree that is built from fields is a tree of them. -/
theorem mirrors_ofFields {rootId name : String} {fields : List (String × Value)} {tree : Node}
    (built : ofFields rootId name fields = .ok tree) : tree.Mirrors (.map fields) := by
  unfold ofFields build at built
  by_cases incomplete : (rootId.isEmpty || name.isEmpty) = true
  · rw [if_pos incomplete] at built
    cases built
  · rw [if_neg incomplete] at built
    exact @Spec.mirrors_of_buildInto (.map fields) _ _
      (fun member _ parent child => Spec.mirrors_of_build member.2 member.1 parent child)
      rfl rfl rfl built

end Node

/-! ## Look-ups -/

namespace Value

/-- Whether a value has a node that look-ups find: it is neither null nor a list or a mapping with
nothing but null in it. -/
def isVisible (value : Value) : Bool :=
  !(Spec.own value).isNull || !(present value.members).isEmpty

variable {value : Value}

theorem lookup_present {fields : List (String × Value)} (distinct : Fields.Distinct fields)
    (name : String) :
    (present fields).lookup name = (fields.lookup name).filter fun item => !item.isNull := by
  have stillDistinct : Fields.Distinct (present fields) :=
    distinct.sublist (List.filter_sublist.map Prod.fst)
  apply Option.ext
  intro item
  rw [Fields.lookup_eq_some_iff_mem stillDistinct, present, List.mem_filter, Option.filter_eq_some_iff,
    Fields.lookup_eq_some_iff_mem distinct]

/-- Nothing that look-ups find is in a value that they do not find. -/
theorem filter_look_of_hidden (hidden : value.isVisible = false) (path : List String) :
    (value.look? path).filter isVisible = none := by
  induction path generalizing value with
  | nil => rw [look?, Option.filter_some, hidden, if_neg Bool.false_ne_true]
  | cons name rest inductionHypothesis =>
      rw [look?]
      cases held : value.members.lookup name with
      | none => rfl
      | some item =>
          have null : item = .null := by
            refine Classical.byContradiction fun present => ?_
            have listed := mem_present.mpr ⟨Fields.mem_of_lookup held, present⟩
            rw [isVisible, Bool.or_eq_false_iff, Bool.not_eq_false', Bool.not_eq_false',
              List.isEmpty_iff] at hidden
            rw [hidden.2] at listed
            cases listed
          rw [null]
          exact inductionHypothesis rfl

end Value

namespace Node.Mirrors

variable {node : Node} {value : Value}

theorem value_eq (mirrors : node.Mirrors value) : node.value = Spec.own value := by
  rcases mirrors with ⟨own, _, _, _⟩
  exact own

theorem isAbsent_eq (mirrors : node.Mirrors value) : node.isAbsent = !value.isVisible := by
  rcases mirrors with ⟨own, _, names, _⟩
  have empty : node.children.isEmpty = (Value.present value.members).isEmpty := by
    rw [← @List.isEmpty_map _ _ node.children Node.name, ← @List.isEmpty_map _ _ _ Prod.fst, ← names,
      childNames]
  rw [isAbsent, own, empty, Value.isVisible, Bool.not_or, Bool.not_not, Bool.not_not]

theorem rel_find {fields : List (String × Value)} {children : List Node}
    (names : children.map Node.name = fields.map Prod.fst)
    (below : List.Forall₂ Mirrors children (fields.map Prod.snd)) (name : String) :
    Option.Rel Mirrors (children.find? fun child => child.name == name) (fields.lookup name) := by
  induction fields generalizing children with
  | nil =>
      cases below
      exact .none
  | cons field rest inductionHypothesis =>
      rcases field with ⟨key, item⟩
      cases below with
      | @cons child _ others _ first below =>
          rw [List.map_cons, List.map_cons] at names
          rcases List.cons.inj names with ⟨called, names⟩
          by_cases here : name = key
          · have found : (child.name == name) = true := beq_iff_eq.mpr (called.trans here.symm)
            rw [List.find?_cons, found, here, List.lookup_cons_self]
            exact .some first
          · have passed : (child.name == name) = false :=
              beq_eq_false_iff_ne.mpr fun same => here (same.symm.trans called)
            rw [List.find?_cons, passed, List.lookup_cons, beq_eq_false_iff_ne.mpr here]
            exact inductionHypothesis names below

/-- There is a child of a name, absent or not, exactly if there is a member of the name that is not
null. -/
theorem rel_stored? (mirrors : node.Mirrors value) (distinct : Fields.Distinct value.members)
    (name : String) :
    Option.Rel Mirrors (node.stored? name)
      ((value.members.lookup name).filter fun item => !item.isNull) := by
  rcases mirrors with ⟨_, _, names, below⟩
  rw [← Value.lookup_present distinct]
  exact rel_find names below name

/-- A child is found under a name exactly if there is a member of this name that look-ups find. -/
theorem rel_child? (mirrors : node.Mirrors value) (distinct : Fields.Distinct value.members)
    (name : String) :
    Option.Rel Mirrors (node.child? name) ((value.members.lookup name).filter Value.isVisible) := by
  have stored := mirrors.rel_stored? distinct name
  rw [child?]
  cases held : value.members.lookup name with
  | none =>
      rw [held] at stored
      generalize node.stored? name = found at stored ⊢
      cases stored
      exact .none
  | some item =>
      rw [held, Option.filter_some] at stored
      generalize node.stored? name = found at stored ⊢
      cases present : item.isNull with
      | true =>
          rw [present, if_neg (by decide)] at stored
          cases stored
          rw [Value.isNull_iff.mp present]
          exact .none
      | false =>
          rw [present, if_pos (by decide)] at stored
          cases stored with
          | @some child _ below =>
              rw [Option.filter_some, Option.filter_some, below.isAbsent_eq, Bool.not_not]
              cases item.isVisible with
              | true => exact .some below
              | false => exact .none

/-- A node and a value: following a path in both leads to a node and a value again, or to nothing in the
tree and to nothing that look-ups find in the value. -/
def Follows (path : List String) (node : Node) (value : Value) : Prop :=
  Option.Rel Mirrors (node.resolve? path) ((value.look? path).filter Value.isVisible)

theorem follows_cons {rest : List String}
    (step : forall child item, Mirrors child item -> item.Tidy -> item.isVisible = true ->
      Follows rest child item)
    (mirrors : node.Mirrors value) (tidy : value.Tidy) (name : String) :
    Follows (name :: rest) node value := by
  have here := mirrors.rel_child? tidy.distinct name
  rw [Follows, resolve?, Value.look?]
  generalize node.child? name = found at here ⊢
  cases held : value.members.lookup name with
  | none =>
      rw [held] at here
      cases here
      exact .none
  | some item =>
      rw [held, Option.filter_some] at here
      cases visible : item.isVisible with
      | false =>
          rw [visible] at here
          cases here
          rw [Option.bind_some, Value.filter_look_of_hidden visible]
          exact .none
      | true =>
          rw [visible] at here
          cases here with
          | some below =>
              exact step _ _ below (@Value.Tidy.member _ tidy _ (Fields.mem_of_lookup held)) visible

theorem follows_of_visible (path : List String) : forall (node : Node) (value : Value),
    node.Mirrors value -> value.Tidy -> value.isVisible = true -> Follows path node value := by
  induction path with
  | nil =>
      intro node value mirrors _ visible
      rw [Follows, Value.look?, Option.filter_some, visible]
      exact .some mirrors
  | cons name rest inductionHypothesis =>
      intro node value mirrors tidy _
      exact follows_cons inductionHypothesis mirrors tidy name

/-- The root need not be one that look-ups would find. -/
theorem follows (mirrors : node.Mirrors value) (tidy : value.Tidy) {path : List String}
    (nonempty : path ≠ []) : Follows path node value := by
  cases path with
  | nil => exact absurd rfl nonempty
  | cons name rest => exact follows_cons (follows_of_visible rest) mirrors tidy name

/-- The nodes of a tree, absent ones included, are trees of what is not null in the value. -/
theorem rel_at? (path : List String) : forall (node : Node) (value : Value),
    node.Mirrors value -> value.Tidy -> value.isNull = false ->
      Option.Rel Mirrors (node.at? path) ((value.look? path).filter fun item => !item.isNull) := by
  induction path with
  | nil =>
      intro node value mirrors _ present
      rw [Value.look?, Option.filter_some, present]
      exact .some mirrors
  | cons name rest inductionHypothesis =>
      intro node value mirrors tidy _
      have stored := mirrors.rel_stored? tidy.distinct name
      rw [at?, Value.look?]
      generalize node.stored? name = found at stored ⊢
      cases held : value.members.lookup name with
      | none =>
          rw [held] at stored
          cases stored
          exact .none
      | some item =>
          rw [held, Option.filter_some] at stored
          cases present : item.isNull with
          | true =>
              rw [present] at stored
              cases stored
              rw [Value.isNull_iff.mp present]
              cases rest <;> exact .none
          | false =>
              rw [present] at stored
              cases stored with
              | some below =>
                  exact inductionHypothesis _ _ below
                    (@Value.Tidy.member _ tidy _ (Fields.mem_of_lookup held)) present

end Node.Mirrors

/-! ## Answers -/

namespace Value

variable {value : Value}

theorem own_of_isScalar (scalar : value.IsScalar) : Spec.own value = Spec.scalar value := by
  cases value with
  | list items => exact scalar.elim
  | map fields => exact scalar.elim
  | _ => rfl

theorem own_of_not_isScalar (container : ¬ value.IsScalar) : Spec.own value = .null := by
  cases value with
  | list items => rfl
  | map fields => rfl
  | _ => exact absurd trivial container

theorem scalar_eq_null_iff : Spec.scalar value = .null ↔ value = .null := by
  cases value with
  | decimal d =>
      exact iff_of_false (fun impossible => nomatch impossible) fun impossible => nomatch impossible
  | _ => exact Iff.rfl

/-- What look-ups find: scalars that are not null, and lists and mappings with a member that is not. -/
theorem isVisible_iff :
    value.isVisible = true ↔
      (value.IsScalar ∧ value ≠ .null) ∨
        (¬ value.IsScalar ∧ Exists fun member : String × Value =>
          member ∈ value.members ∧ member.2 ≠ .null) := by
  by_cases scalar : value.IsScalar
  · rw [isVisible, own_of_isScalar scalar, members_of_isScalar scalar, present, List.filter_nil,
      List.isEmpty_nil, Bool.not_true, Bool.or_false, Bool.not_eq_true', Bool.eq_false_iff, ne_eq,
      isNull_iff, scalar_eq_null_iff]
    simp only [scalar, true_and, not_true, false_and, or_false, ne_eq]
  · rw [isVisible, own_of_not_isScalar scalar, isNull, Bool.not_true, Bool.false_or,
      Bool.not_eq_true', List.isEmpty_eq_false_iff_exists_mem]
    simp only [scalar, false_and, not_false_iff, true_and, false_or, mem_present]

theorem not_isVisible_iff :
    ¬ value.isVisible = true ↔ value = .null ∨
      (¬ value.IsScalar ∧ forall member, member ∈ value.members -> member.2 = .null) := by
  rw [isVisible_iff]
  by_cases scalar : value.IsScalar
  · simp only [scalar, true_and, not_true, false_and, or_false, ne_eq, not_not]
  · have present : value ≠ .null := fun null => scalar (null ▸ trivial)
    simp only [scalar, false_and, not_false_iff, true_and, false_or, present, not_exists, not_and,
      ne_eq, not_not]

end Value

namespace Node

/-- What a look-up in a tree says of what a value holds at the end of a path: its scalar, if it is one
and not null, where a decimal is the nearest double; that there are members, if there is one that is not
null; and otherwise that there is nothing. -/
structure Answers (root : Node) (value : Value) (path : List String) : Prop where
  scalar : forall item : Value,
    (Exists fun node : Node =>
        root.resolve? path = some node ∧ node.value = item ∧ item ≠ .null) ↔
      Exists fun held : Value => value.look? path = some held ∧ (held.IsScalar ∧ held ≠ .null) ∧
        item = Spec.scalar held
  decimal : forall d : Decimal, value.look? path = some (.decimal d) ->
    Exists fun node : Node => Exists fun x : Double =>
      root.resolve? path = some node ∧ node.value = .double x ∧ Double.Rounds d x
  container :
    (Exists fun node : Node => root.resolve? path = some node ∧ node.value = .null) ↔
      Exists fun held : Value => value.look? path = some held ∧ ¬ held.IsScalar ∧
        Exists fun member : String × Value => member ∈ held.members ∧ member.2 ≠ .null
  nothing : root.resolve? path = none ↔
    forall held, value.look? path = some held -> held = .null ∨
      (¬ held.IsScalar ∧ forall member, member ∈ held.members -> member.2 = .null)

namespace Mirrors.Follows

variable {root node : Node} {value held : Value} {path : List String}

/-- A node that is found is a tree of a visible value that the path leads to. -/
theorem exists_of_resolve (follows : Follows path root value)
    (found : root.resolve? path = some node) :
    Exists fun held : Value =>
      value.look? path = some held ∧ held.isVisible = true ∧ node.Mirrors held := by
  rw [Follows, found] at follows
  generalize looked : (value.look? path).filter Value.isVisible = shown at follows
  cases follows with
  | some below =>
      rcases Option.filter_eq_some_iff.mp looked with ⟨held, visible⟩
      exact ⟨_, held, visible, below⟩

/-- A visible value that the path leads to has a node that is found. -/
theorem exists_of_look (follows : Follows path root value) (looked : value.look? path = some held)
    (visible : held.isVisible = true) :
    Exists fun node : Node => root.resolve? path = some node ∧ node.Mirrors held := by
  rw [Follows, looked, Option.filter_some, visible] at follows
  generalize root.resolve? path = found at follows
  cases follows with
  | some below => exact ⟨_, rfl, below⟩

theorem scalar_iff (follows : Follows path root value) (item : Value) :
    (Exists fun node : Node =>
        root.resolve? path = some node ∧ node.value = item ∧ item ≠ .null) ↔
      Exists fun held : Value => value.look? path = some held ∧ (held.IsScalar ∧ held ≠ .null) ∧
        item = Spec.scalar held := by
  constructor
  · rintro ⟨node, found, rfl, present⟩
    rcases follows.exists_of_resolve found with ⟨held, looked, visible, below⟩
    rw [below.value_eq] at present ⊢
    rcases Value.isVisible_iff.mp visible with scalar | ⟨container, _⟩
    · exact ⟨held, looked, scalar, Value.own_of_isScalar scalar.1⟩
    · exact absurd (Value.own_of_not_isScalar container) present
  · rintro ⟨held, looked, scalar, rfl⟩
    rcases follows.exists_of_look looked (Value.isVisible_iff.mpr (Or.inl scalar)) with
      ⟨node, found, below⟩
    refine ⟨node, found, ?_, mt Value.scalar_eq_null_iff.mp scalar.2⟩
    rw [below.value_eq, Value.own_of_isScalar scalar.1]

theorem container_iff (follows : Follows path root value) :
    (Exists fun node : Node => root.resolve? path = some node ∧ node.value = .null) ↔
      Exists fun held : Value => value.look? path = some held ∧ ¬ held.IsScalar ∧
        Exists fun member : String × Value => member ∈ held.members ∧ member.2 ≠ .null := by
  constructor
  · rintro ⟨node, found, null⟩
    rcases follows.exists_of_resolve found with ⟨held, looked, visible, below⟩
    rw [below.value_eq] at null
    rcases Value.isVisible_iff.mp visible with scalar | container
    · rw [Value.own_of_isScalar scalar.1] at null
      exact absurd (Value.scalar_eq_null_iff.mp null) scalar.2
    · exact ⟨held, looked, container⟩
  · rintro ⟨held, looked, container⟩
    rcases follows.exists_of_look looked (Value.isVisible_iff.mpr (Or.inr container)) with
      ⟨node, found, below⟩
    refine ⟨node, found, ?_⟩
    rw [below.value_eq, Value.own_of_not_isScalar container.1]

theorem nothing_iff (follows : Follows path root value) :
    root.resolve? path = none ↔ forall held, value.look? path = some held -> held = .null ∨
      (¬ held.IsScalar ∧ forall member, member ∈ held.members -> member.2 = .null) := by
  constructor
  · intro nothing held looked
    refine Value.not_isVisible_iff.mp fun visible => ?_
    rcases follows.exists_of_look looked visible with ⟨node, found, _⟩
    rw [nothing] at found
    cases found
  · intro hidden
    cases found : root.resolve? path with
    | none => rfl
    | some node =>
        rcases follows.exists_of_resolve found with ⟨held, looked, visible, _⟩
        exact absurd visible (Value.not_isVisible_iff.mpr (hidden held looked))

theorem answers (follows : Follows path root value) : root.Answers value path where
  scalar := follows.scalar_iff
  decimal d looked := by
    rcases follows.exists_of_look looked rfl with ⟨node, found, below⟩
    exact ⟨node, _, found, below.value_eq, Double.rounds_ofDecimal d⟩
  container := follows.container_iff
  nothing := follows.nothing_iff

end Mirrors.Follows

/-- A tree is built from fields in which no name is repeated and none of a field that is not null is
missing.  For every path its look-ups answer what the fields hold there.  The children of every node,
absent nodes included, are the members that are not null, in their order and under their names, which
for the items of a list are their positions in the list. -/
theorem ofFields_answers {fields : List (String × Value)} {rootId name : String}
    (identified : rootId ≠ "") (called : name ≠ "") (tidy : (Value.map fields).Tidy)
    (named : ¬ (Value.map fields).HasNameless) :
    Exists fun root : Node => ofFields rootId name fields = .ok root ∧
      (forall path : List String, path ≠ [] -> root.Answers (.map fields) path) ∧
      forall (path : List String) (node : Node), root.at? path = some node ->
        node.source = .raw ∧ Exists fun held : Value =>
          (Value.map fields).look? path = some held ∧
            node.childNames = (Value.present held.members).map Prod.fst := by
  rcases (ofFields_outcome tidy identified called).2.mpr named with ⟨root, built⟩
  have mirrors := mirrors_ofFields built
  refine ⟨root, built, fun path nonempty => (mirrors.follows tidy nonempty).answers, ?_⟩
  intro path node found
  have stored := Mirrors.rel_at? path root (.map fields) mirrors tidy rfl
  rw [found] at stored
  generalize looked :
    ((Value.map fields).look? path).filter (fun item => !item.isNull) = shown at stored
  cases stored with
  | some below =>
      rcases below with ⟨_, source, names, _⟩
      exact ⟨source, _, (Option.filter_eq_some_iff.mp looked).1, names⟩

/-- Fields with a null item at the head of a list, and with a mapping in which all is null. -/
def gappedFields : List (String × Value) :=
  [("list", .list [.null, .decimal (.finite false 15 (-1)), .map [("flag", .bool false)]]),
    ("hollow", .map [("", .null), ("deep", .null)]), ("count", .int 3)]

/-- The items keep their positions, and the hollow mapping has a node that is not found. -/
theorem gappedFields_answered :
    Exists fun root : Node => ofFields "Root" "entry" gappedFields = .ok root ∧
      root.childNames = ["list", "hollow", "count"] ∧
      (forall node, root.at? ["list"] = some node -> node.childNames = ["1", "2"]) ∧
      (Exists fun node : Node => Exists fun x : Double => root.resolve? ["list", "1"] = some node ∧
        node.value = .double x ∧ Double.Rounds (.finite false 15 (-1)) x) ∧
      (Exists fun node : Node => root.resolve? ["list", "2", "flag"] = some node ∧
        node.value = .bool false ∧ node.value ≠ .null) ∧
      root.resolve? ["list", "0"] = none ∧ root.resolve? ["hollow"] = none := by
  have tidy : (Value.map gappedFields).Tidy := by decide
  have named : ¬ (Value.map gappedFields).HasNameless := by decide
  rcases ofFields_answers (by decide : "Root" ≠ "") (by decide : "entry" ≠ "") tidy named with
    ⟨root, built, answers, names⟩
  refine ⟨root, built, ?_, ?_, (answers _ (by decide)).decimal _ rfl, ?_, ?_, ?_⟩
  · rcases names [] root rfl with ⟨_, held, looked, same⟩
    cases looked
    exact same
  · intro node found
    rcases names ["list"] node found with ⟨_, held, looked, same⟩
    cases looked
    exact same
  · rcases ((answers ["list", "2", "flag"] (by decide)).scalar (.bool false)).mpr
      ⟨_, rfl, ⟨trivial, fun impossible => nomatch impossible⟩, rfl⟩ with ⟨node, found, held, some⟩
    exact ⟨node, found, held, by rwa [held]⟩
  · refine (answers ["list", "0"] (by decide)).nothing.mpr fun held looked => Or.inl ?_
    cases looked
    rfl
  · refine (answers ["hollow"] (by decide)).nothing.mpr fun held looked => Or.inr ?_
    cases looked
    refine ⟨fun scalar => scalar, fun member listed => ?_⟩
    rcases List.mem_pair.mp listed with here | here <;> rw [here]

end Node

end TraceView

import TraceView.Proofs.Tree.Building

namespace TraceView

/-!
# Identifiers and paths

The identifier of a node is the identifier of its parent, a point and its name.  No two children of a
node have one name, so a node is told from all others by its path, the names on the way to it.  It need
not be told from them by its identifier: a name may have points in it, and then the texts of two paths
may be one text.
-/

namespace Node

/-- The identifier at the end of a path of names: that of the node at the beginning, with a point and
the name for each step. -/
def pathId (id : String) (path : List String) : String :=
  path.foldl (fun above name => above ++ "." ++ name) id

mutual

/-- The paths of a node and of all nodes below it, in the order of the nodes. -/
def paths : Node -> List (List String)
  | ⟨_, _, _, _, _, _, _, _, children⟩ => [] :: pathsAll children

/-- The paths of the nodes below a node with these children. -/
def pathsAll : List Node -> List (List String)
  | [] => []
  | child :: rest => child.paths.map (child.name :: ·) ++ pathsAll rest

end

/-- A tree in which the identifier of each node is that of its parent, a point and its name, and in
which no two children of a node have one name. -/
inductive IsRouted : Node -> Prop where
  | intro {node : Node} (distinct : node.childNames.Nodup)
      (ids : forall child, child ∈ node.children -> child.id = node.id ++ "." ++ child.name)
      (children : forall child, child ∈ node.children -> child.IsRouted) : IsRouted node

/-! ## Identifiers of paths -/

theorem pathId_concat (id : String) (path : List String) (name : String) :
    pathId id (path ++ [name]) = pathId id path ++ "." ++ name := by
  rw [pathId, List.foldl_append, List.foldl_cons, List.foldl_nil, pathId]

/-- Of the beginning of a path nothing but its identifier matters. -/
theorem pathId_append (before id : String) (path : List String) :
    pathId (before ++ id) path = before ++ pathId id path := by
  induction path generalizing id with
  | nil => rfl
  | cons name rest inductionHypothesis =>
      simp only [pathId, List.foldl_cons] at inductionHypothesis ⊢
      rw [← inductionHypothesis, String.append_assoc, String.append_assoc, String.append_assoc]

theorem pathId_eq (id : String) (path : List String) : pathId id path = id ++ pathId "" path := by
  rw [← pathId_append, String.append_empty]

/-- Two paths from one node have one identifier exactly if they have one text. -/
theorem pathId_inj {id : String} {first second : List String} :
    pathId id first = pathId id second ↔ pathId "" first = pathId "" second := by
  rw [pathId_eq id first, pathId_eq id second, String.append_right_inj]

theorem toList_pathId (id : String) (path : List String) :
    (pathId id path).toList = ['.'].intercalate (id.toList :: path.map String.toList) := by
  induction path generalizing id with
  | nil => rw [List.map_nil, List.intercalate_singleton, pathId, List.foldl_nil]
  | cons name rest inductionHypothesis =>
      have step : pathId id (name :: rest) = id ++ "." ++ pathId name rest := by
        rw [← pathId_append]
        rfl
      rw [step, List.map_cons, List.intercalate_cons_cons, ← inductionHypothesis,
        String.toList_append, String.toList_append]
      rfl

/-- The names of a path have no points in them. -/
def Pointless (path : List String) : Prop :=
  forall name, name ∈ path -> '.' ∉ name.toList

/-- Such a path can be read off its text. -/
theorem splitOn_pathId {path : List String} (pointless : Pointless path) :
    (pathId "" path).toList.splitOn '.' = [] :: path.map String.toList := by
  rw [toList_pathId, String.toList_empty]
  refine List.splitOn_intercalate '.' ?_ (List.cons_ne_nil _ _)
  exact List.forall_mem_cons.mpr ⟨List.not_mem_nil, List.forall_mem_map.mpr pointless⟩

/-- Two such paths have one identifier only if they are one. -/
theorem eq_of_pathId {id : String} {first second : List String} (one : Pointless first)
    (other : Pointless second) (same : pathId id first = pathId id second) : first = second := by
  have split := congrArg (fun text : String => text.toList.splitOn '.') (pathId_inj.mp same)
  rw [splitOn_pathId one, splitOn_pathId other] at split
  exact List.map_injective_iff.mpr (fun _ _ => String.toList_injective) (List.cons.inj split).2

/-! ## Paths of nodes -/

/-- A path below a node with these children goes on from one of them. -/
theorem mem_pathsAll {children : List Node} {path : List String} :
    path ∈ pathsAll children ↔ Exists fun child : Node => Exists fun below : List String =>
      child ∈ children ∧ below ∈ child.paths ∧ path = child.name :: below := by
  induction children with
  | nil =>
      refine iff_of_false List.not_mem_nil ?_
      rintro ⟨_, _, impossible, _⟩
      cases impossible
  | cons first rest inductionHypothesis =>
      rw [pathsAll, List.mem_append, inductionHypothesis, List.mem_map]
      constructor
      · rintro (⟨below, within, same⟩ | ⟨child, below, listed, within, same⟩)
        · exact ⟨first, below, List.mem_cons_self, within, same.symm⟩
        · exact ⟨child, below, List.mem_cons_of_mem _ listed, within, same⟩
      · rintro ⟨child, below, listed, within, same⟩
        rcases List.mem_cons.mp listed with here | later
        · rw [here] at within same
          exact Or.inl ⟨below, within, same.symm⟩
        · exact Or.inr ⟨child, below, later, within, same⟩

/-- The paths below a node are different if those below each child are, and the children have different
names. -/
theorem nodup_pathsAll {children : List Node}
    (inside : forall child, child ∈ children -> child.paths.Nodup)
    (distinct : (children.map name).Nodup) : (pathsAll children).Nodup := by
  induction children with
  | nil => exact List.nodup_nil
  | cons first rest inductionHypothesis =>
      rcases List.forall_mem_cons.mp inside with ⟨here, later⟩
      rcases List.nodup_cons.mp distinct with ⟨free, others⟩
      rw [pathsAll]
      refine List.nodup_append.mpr ⟨here.map List.cons_injective,
        inductionHypothesis later others, ?_⟩
      intro path one other two same
      rcases List.mem_map.mp one with ⟨_, _, rfl⟩
      rcases mem_pathsAll.mp two with ⟨child, _, listed, _, rfl⟩
      rw [(List.cons.inj same).1] at free
      exact free (List.mem_map_of_mem listed)

/-- A node is at the end of a path, and its identifier shows the path. -/
def IsAt (root : Node) (path : List String) (node : Node) : Prop :=
  root.at? path = some node ∧ node.id = pathId root.id path

/-- What is at the end of a path below a child is at the end of the longer path from its parent. -/
theorem IsAt.of_child {node child below : Node} {path : List String}
    (stored : node.stored? child.name = some child) (id : child.id = node.id ++ "." ++ child.name)
    (inside : child.IsAt path below) : node.IsAt (child.name :: path) below := by
  refine ⟨?_, ?_⟩
  · rw [at?, stored]
    exact inside.1
  · rw [inside.2, id]
    rfl

theorem isAt_pathsAll {root : Node} {children : List Node}
    (inside : forall child, child ∈ children -> List.Forall₂ child.IsAt child.paths child.walk)
    (onward : forall child, child ∈ children -> root.stored? child.name = some child ∧
      child.id = root.id ++ "." ++ child.name) :
    List.Forall₂ root.IsAt (pathsAll children) (walkAll children) := by
  induction children with
  | nil => exact .nil
  | cons first rest inductionHypothesis =>
      rcases List.forall_mem_cons.mp inside with ⟨here, later⟩
      rcases List.forall_mem_cons.mp onward with ⟨⟨stored, id⟩, others⟩
      rw [pathsAll, walkAll]
      refine List.rel_append ?_ (inductionHypothesis later others)
      exact List.forall₂_map_left_iff.mpr (here.imp fun _ _ => IsAt.of_child stored id)

namespace IsRouted

variable {tree : Node}

/-- The nodes of a routed tree are at the ends of their paths, and the paths are different. -/
theorem paths (routed : tree.IsRouted) :
    tree.paths.Nodup ∧ List.Forall₂ tree.IsAt tree.paths tree.walk := by
  induction routed with
  | @intro node distinct ids _ inductionHypothesis =>
      have below := isAt_pathsAll (fun child listed => (inductionHypothesis child listed).2)
        fun child listed => ⟨stored?_of_mem distinct listed, ids child listed⟩
      have different := nodup_pathsAll (fun child listed => (inductionHypothesis child listed).1)
        distinct
      rcases node with ⟨id, name, value, source, formatter, isRoot, rootId, mark, children⟩
      rw [Node.paths, walk]
      refine ⟨List.nodup_cons.mpr ⟨?_, different⟩, .cons ⟨rfl, rfl⟩ below⟩
      intro empty
      rcases mem_pathsAll.mp empty with ⟨_, _, _, _, impossible⟩
      cases impossible

theorem walk_map_id (routed : tree.IsRouted) :
    tree.walk.map Node.id = tree.paths.map (pathId tree.id) := by
  have related := routed.paths.2
  generalize tree.walk = nodes at related ⊢
  generalize tree.paths = paths at related ⊢
  induction related with
  | nil => rfl
  | cons here _ inductionHypothesis => rw [List.map_cons, List.map_cons, here.2, inductionHypothesis]

/-- The identifiers of a routed tree are different exactly if its paths have different texts. -/
theorem nodup_ids_iff (routed : tree.IsRouted) :
    (tree.walk.map Node.id).Nodup ↔ (tree.paths.map (pathId "")).Nodup := by
  rw [routed.walk_map_id, List.nodup_map_iff_inj_on routed.paths.1,
    List.nodup_map_iff_inj_on routed.paths.1]
  simp only [pathId_inj]

/-- They are different if no name has a point in it. -/
theorem nodup_ids (routed : tree.IsRouted)
    (pointless : forall path, path ∈ tree.paths -> Pointless path) :
    (tree.walk.map Node.id).Nodup := by
  rw [routed.walk_map_id, List.nodup_map_iff_inj_on routed.paths.1]
  intro first one second other
  exact eq_of_pathId (pointless first one) (pointless second other)

/-! ## Changes -/

theorem leaf (id name : String) (value : Value) (source : Source) (formatter : Option Formatter) :
    (Node.leaf id name value source formatter).IsRouted :=
  .intro List.nodup_nil (fun _ impossible => absurd impossible List.not_mem_nil)
    fun _ impossible => absurd impossible List.not_mem_nil

/-- A routed tree stays routed if a routed one is appended whose identifier goes on from that of the
root. -/
theorem append {child : Node} (routed : tree.IsRouted) (free : child.name ∉ tree.childNames)
    (id : child.id = tree.id ++ "." ++ child.name) (below : child.IsRouted) :
    ({ tree with children := tree.children ++ [child] } : Node).IsRouted := by
  rcases routed with ⟨distinct, ids, children⟩
  refine .intro ?_ (List.forall_mem_append.mpr ⟨ids, List.forall_mem_singleton.mpr id⟩)
    (List.forall_mem_append.mpr ⟨children, List.forall_mem_singleton.mpr below⟩)
  rw [childNames, List.map_append, List.map_singleton, ← List.concat_eq_append]
  exact distinct.concat free

theorem removeChild (routed : tree.IsRouted) (name : String) : (tree.removeChild name).IsRouted := by
  rcases routed with ⟨distinct, ids, children⟩
  have kept : forall child, child ∈ (tree.removeChild name).children -> child ∈ tree.children :=
    fun child listed => (List.mem_filter.mp listed).1
  exact .intro (distinct.sublist (List.filter_sublist.map Node.name))
    (fun child listed => ids child (kept child listed))
    fun child listed => children child (kept child listed)

end IsRouted

end Node

/-! ## Trees that have been built -/

namespace Spec

open Node (IsRouted)

theorem routed_of_children {node grown : Node} {children : List Node} (childless : node.children = [])
    (same : grown = { node with children := node.children ++ children })
    (distinct : node.childNames.Nodup -> grown.childNames.Nodup)
    (below : forall child, child ∈ children ->
      child.id = node.id ++ "." ++ child.name ∧ child.IsRouted) : grown.IsRouted := by
  have different : grown.childNames.Nodup := by
    apply distinct
    rw [Node.childNames, childless]
    exact List.nodup_nil
  rw [childless, List.nil_append] at same
  subst same
  exact .intro different (fun child listed => (below child listed).1)
    fun child listed => (below child listed).2

mutual

/-- A node that is built is routed, and its identifier goes on from that of its parent. -/
theorem routed_of_build : forall (spec : Spec) (parent : String) (node : Node),
    build parent spec = .ok node -> node.id = parent ++ "." ++ node.name ∧ node.IsRouted
  | ⟨name, value, source, formatter, isRoot, children⟩, parent, node, built => by
      rcases build_eq_ok built with ⟨_, _, grown⟩
      rcases buildInto_eq_ok grown with ⟨below, same, related, distinct⟩
      refine ⟨congrArg Node.id same, routed_of_children rfl same distinct ?_⟩
      exact routed_of_all children _ below related

theorem routed_of_all : forall (specs : List Spec) (parent : String) (nodes : List Node),
    List.Forall₂ (fun spec node => build parent spec = .ok node) specs nodes ->
      forall node, node ∈ nodes -> node.id = parent ++ "." ++ node.name ∧ node.IsRouted
  | [], parent, [], _, node, listed => nomatch listed
  | spec :: rest, parent, first :: others, .cons built related, node, listed => by
      rcases List.mem_cons.mp listed with here | later
      · rw [here]
        exact routed_of_build spec parent first built
      · exact routed_of_all rest parent others related node later

end

end Spec

/-- Every tree that is built is routed. -/
theorem Node.isRouted_of_build {rootId name : String} {value : Value} {forest : List Spec}
    {tree : Node} (built : build rootId name value forest = .ok tree) : tree.IsRouted := by
  unfold build at built
  by_cases incomplete : (rootId.isEmpty || name.isEmpty) = true
  · rw [if_pos incomplete] at built
    cases built
  · rw [if_neg incomplete] at built
    rcases Spec.buildInto_eq_ok built with ⟨children, same, related, distinct⟩
    exact Spec.routed_of_children rfl same distinct (Spec.routed_of_all forest _ children related)

end TraceView

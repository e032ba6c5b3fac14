import TraceView.Proofs.Number.Writable
import TraceView.Proofs.Tree.Identifiers

namespace TraceView

/-!
# Trees and their descriptions

The rules on descriptions are checked where building comes upon them, some before the children of a
node are built and one after.  All the same a tree is built exactly if no description in the forest is
against a rule, and its nodes are then the descriptions, each before those of its children.

A name may be any value and is taken by its text, so a name without a text stands in the way of
building too.  It is against no rule on trees, and which of two obstacles is reported depends on which
is met first.
-/

namespace Spec

/-! ## Forests -/

/-- A description in a forest, with those that lead to it, the outermost first. -/
structure Placed where
  above : List Spec
  spec : Spec

/-- The descriptions on the way to one in a forest, up to itself. -/
def Placed.route (place : Placed) : List Spec :=
  place.above ++ [place.spec]

mutual

/-- A description and all below it, each before those of its children. -/
def placed (above : List Spec) : Spec -> List Placed
  | spec@⟨_, _, _, _, _, children⟩ => ⟨above, spec⟩ :: placedAll (above ++ [spec]) children

/-- The descriptions of a forest, one tree after the other. -/
def placedAll (above : List Spec) : List Spec -> List Placed
  | [] => []
  | spec :: rest => placed above spec ++ placedAll above rest

end

/-! ## Rules -/

/-- The names of two of several siblings have one text. -/
def Repeats (siblings : List Spec) : Prop :=
  Exists fun first : Spec => Exists fun second : Spec => Exists fun text : String =>
    [first, second].Sublist siblings ∧ first.name.text = .ok text ∧ second.name.text = .ok text

/-- What there may be against a description: it has no name, it is described as a root, or two of its
children have one name. -/
inductive IsFlawed (spec : Spec) : Prop where
  | nameless (missing : spec.name = .null ∨ spec.name = .string "")
  | secondRoot (flagged : spec.isRoot = true)
  | repeated (twice : Repeats spec.children)

/-- What there may be against a root with a forest of children. -/
inductive Breaks (rootId name : String) (forest : List Spec) : Prop where
  | unidentified (missing : rootId = "")
  | unnamed (missing : name = "")
  | repeated (twice : Repeats forest)
  | inside {place : Placed} (listed : place ∈ placedAll [] forest) (flawed : place.spec.IsFlawed)

/-- All names in a forest have a text. -/
def Printable (forest : List Spec) : Prop :=
  forall place, place ∈ placedAll [] forest -> Succeeds place.spec.name.text

variable {spec : Spec} {parent : String}

theorem isName_eq_false_iff {name : Value} :
    isName name = false ↔ name = .null ∨ name = .string "" := by
  cases name with
  | null => exact iff_of_true rfl (Or.inl rfl)
  | string text =>
      simp only [isName, Bool.not_eq_false', String.isEmpty_iff, Value.string.injEq, reduceCtorEq,
        false_or]
  | _ =>
      exact iff_of_false (fun impossible => nomatch impossible)
        (by simp only [reduceCtorEq, or_self, not_false_eq_true])

theorem Repeats.cons {siblings : List Spec} (repeats : Repeats siblings) (spec : Spec) :
    Repeats (spec :: siblings) := by
  rcases repeats with ⟨first, second, text, within, written, again⟩
  exact ⟨first, second, text, within.cons spec, written, again⟩

/-- Siblings with different names have no name twice. -/
theorem not_repeats_of_nodup {siblings : List Spec} {names : List String}
    (texts : siblings.map (fun spec => spec.name.text) = names.map Except.ok)
    (distinct : names.Nodup) : ¬ Repeats siblings := by
  rintro ⟨first, second, text, within, written, again⟩
  have twice : [text, text].Sublist names := by
    have mapped := within.map fun spec => spec.name.text
    rw [texts, List.map_cons, List.map_singleton, written, again] at mapped
    rcases List.sublist_map_iff.mp mapped with ⟨kept, within, same⟩
    have pair : kept = [text, text] :=
      List.map_injective_iff.mpr (fun _ _ => Except.ok.inj) same.symm
    rw [← pair]
    exact within
  have apart : text ∉ [text] := (List.nodup_cons.mp (distinct.sublist twice)).1
  exact apart (List.mem_singleton_self text)

/-! ## Obstacles -/

/-- What an error says of the descriptions at some places: that one of them is against a rule, or that
the name of one has no text. -/
def Explained (places : List Placed) : BuildError -> Prop
  | .tree _ => Exists fun place : Placed => place ∈ places ∧ place.spec.IsFlawed
  | .name fault => Exists fun place : Placed => place ∈ places ∧ place.spec.name.text = .error fault

theorem Explained.mono {places others : List Placed} {error : BuildError}
    (explained : Explained places error) (within : forall place, place ∈ places -> place ∈ others) :
    Explained others error := by
  cases error with
  | tree cause =>
      rcases explained with ⟨place, listed, flawed⟩
      exact ⟨place, within place listed, flawed⟩
  | name fault =>
      rcases explained with ⟨place, listed, unwritten⟩
      exact ⟨place, within place listed, unwritten⟩

/-- A child that is no root is refused for its name only. -/
theorem mem_childNames_of_refused {node child : Node} {error : BuildError}
    (noRoot : child.isRoot = false) (refused : attach node child = .error error) :
    child.name ∈ node.childNames ∧ Exists fun cause : TreeError => error = .tree cause := by
  constructor
  · refine Classical.byContradiction fun free => ?_
    have attached : attach node child =
        .ok { node with children := node.children ++ [child] } :=
      attach_eq_ok_iff.mpr ⟨noRoot, free, rfl⟩
    rw [attached] at refused
    cases refused
  · unfold attach at refused
    split at refused
    · cases refused
    · cases refused
      exact ⟨_, rfl⟩

/-- What an error says of siblings that are to become children of a node: something that is said of
one of them, or that a name is taken, by another sibling or by a child that is there already. -/
def Obstructs (above siblings : List Spec) (node : Node) (error : BuildError) : Prop :=
  Explained (placedAll above siblings) error ∨
    ((Exists fun cause : TreeError => error = .tree cause) ∧
      (Repeats siblings ∨ Exists fun spec : Spec => Exists fun name : String =>
        spec ∈ siblings ∧ spec.name.text = .ok name ∧ name ∈ node.childNames))

/-- The first sibling is built and appended, and a later one is met by an obstacle. -/
theorem Obstructs.cons {above rest : List Spec} {node child : Node} {error : BuildError}
    (called : spec.name.text = .ok child.name)
    (later : Obstructs above rest { node with children := node.children ++ [child] } error) :
    Obstructs above (spec :: rest) node error := by
  rcases later with explained | ⟨ofTree, repeats | ⟨other, name, listed, written, taken⟩⟩
  · exact Or.inl (explained.mono fun place => List.mem_append_right _)
  · exact Or.inr ⟨ofTree, Or.inl (repeats.cons spec)⟩
  · rw [Node.childNames, List.map_append, List.mem_append, List.map_singleton,
      List.mem_singleton] at taken
    rcases taken with before | last
    · exact Or.inr ⟨ofTree, Or.inr ⟨other, name, List.mem_cons_of_mem _ listed, written, before⟩⟩
    · rw [last] at written
      exact Or.inr ⟨ofTree, Or.inl ⟨spec, other, child.name,
        (List.singleton_sublist.mpr listed).cons_cons spec, called, written⟩⟩

mutual

/-- A description that is not built has an obstacle in it. -/
theorem explained_of_build : forall (spec : Spec) (above : List Spec) (parent : String),
    FailsOnly (Explained (placed above spec)) (build parent spec)
  | ⟨name, value, source, formatter, isRoot, children⟩, above, parent => by
      rw [build, placed]
      cases named : isName name with
      | false =>
          exact failsOnly_error
            ⟨_, List.mem_cons_self, .nameless (isName_eq_false_iff.mp named)⟩
      | true =>
          cases written : name.text with
          | error fault => exact failsOnly_error ⟨_, List.mem_cons_self, written⟩
          | ok text =>
              cases isRoot with
              | true => exact failsOnly_error ⟨_, List.mem_cons_self, .secondRoot rfl⟩
              | false =>
                  intro error failed
                  rcases obstructs_of_buildInto children
                      (above ++ [⟨name, value, source, formatter, false, children⟩])
                      (Node.leaf (parent ++ "." ++ text) text value source formatter) error failed with
                    explained | ⟨⟨cause, same⟩, twice | ⟨_, _, _, _, taken⟩⟩
                  · exact explained.mono fun place => List.mem_cons_of_mem _
                  · rw [same]
                    exact ⟨_, List.mem_cons_self, .repeated twice⟩
                  · cases taken

/-- Siblings that are not all built have an obstacle in them, or the name of one is taken. -/
theorem obstructs_of_buildInto : forall (specs above : List Spec) (node : Node),
    FailsOnly (Obstructs above specs node) (buildInto specs node)
  | [], above, node => failsOnly_ok node
  | spec :: rest, above, node => by
      rw [buildInto]
      cases built : build node.id spec with
      | error cause =>
          have explained := explained_of_build spec above node.id cause built
          exact failsOnly_error (Or.inl (explained.mono fun place => List.mem_append_left _))
      | ok child =>
          rcases build_eq_ok built with ⟨called, noRoot, _⟩
          dsimp only
          cases attached : attach node child with
          | error cause =>
              rcases mem_childNames_of_refused noRoot attached with ⟨taken, ofTree⟩
              exact failsOnly_error
                (Or.inr ⟨ofTree, Or.inr ⟨spec, _, List.mem_cons_self, called, taken⟩⟩)
          | ok grown =>
              rcases attach_eq_ok_iff.mp attached with ⟨_, _, same⟩
              intro error failed
              refine Obstructs.cons called ?_
              rw [← same]
              exact obstructs_of_buildInto rest above grown error failed

end

/-! ## Trees -/

/-- A node that is as a description in a forest asks for, below a root with an identifier.  The
identifier of the node shows the names on the way to it. -/
structure IsDepicted (root : String) (place : Placed) (node : Node) : Prop where
  name : place.spec.name.text = .ok node.name
  value : node.value = place.spec.value
  source : node.source = place.spec.source
  formatter : node.formatter = place.spec.formatter
  noRoot : node.isRoot = false
  children : place.spec.children.map (fun spec => spec.name.text) = node.childNames.map .ok
  id : Exists fun path : List String =>
    List.Forall₂ (fun spec name => spec.name.text = .ok name) place.route path ∧
      node.id = Node.pathId root path

/-- A node that has been built depicts its description, and there is nothing against this. -/
def IsSound (root : String) (place : Placed) (node : Node) : Prop :=
  IsDepicted root place node ∧ ¬ place.spec.IsFlawed

theorem named_of_build {node : Node} (built : build parent spec = .ok node) :
    isName spec.name = true ∧ spec.isRoot = false := by
  rcases spec with ⟨name, value, source, formatter, isRoot, children⟩
  rw [build] at built
  cases named : isName name with
  | false =>
      rw [named] at built
      cases built
  | true =>
      cases isRoot with
      | false => exact ⟨rfl, rfl⟩
      | true =>
          rw [named] at built
          cases written : name.text <;> rw [written] at built <;> cases built

mutual

/-- The nodes of a tree that is built are its descriptions. -/
theorem sound_of_build : forall (spec : Spec) (root : String) (above : List Spec) (path : List String)
    (node : Node), List.Forall₂ (fun spec name => spec.name.text = .ok name) above path ->
      build (Node.pathId root path) spec = .ok node ->
        List.Forall₂ (IsSound root) (placed above spec) node.walk
  | ⟨name, value, source, formatter, isRoot, children⟩, root, above, path, node, named, built => by
      rcases build_eq_ok built with ⟨called, _, grown⟩
      rcases named_of_build built with ⟨present, unflagged⟩
      rcases buildInto_eq_ok grown with ⟨below, same, related, distinct⟩
      have route : List.Forall₂ (fun spec name => spec.name.text = .ok name)
          (above ++ [⟨name, value, source, formatter, isRoot, children⟩]) (path ++ [node.name]) :=
        List.rel_append named (.cons called .nil)
      have names : children.map (fun spec => spec.name.text) = node.childNames.map .ok := by
        rw [names_of_build related, same, Node.childNames, List.map_map]
        rfl
      have id : node.id = Node.pathId root (path ++ [node.name]) := by
        rw [Node.pathId_concat]
        exact congrArg Node.id same
      have sound : IsSound root
          ⟨above, ⟨name, value, source, formatter, isRoot, children⟩⟩ node := by
        constructor
        · refine ⟨called, ?_, ?_, ?_, ?_, names, path ++ [node.name], route, id⟩ <;> rw [same] <;> rfl
        · intro flawed
          cases flawed with
          | nameless missing =>
              rw [isName_eq_false_iff.mpr missing] at present
              cases present
          | secondRoot flagged =>
              rw [unflagged] at flagged
              cases flagged
          | repeated twice =>
              exact not_repeats_of_nodup names (distinct List.nodup_nil) twice
      rw [Node.leaf, ← Node.pathId_concat] at related
      have walk : node.walk = node :: Node.walkAll below := by
        rw [same]
        rfl
      rw [placed, walk]
      exact .cons sound (sound_of_children children root _ _ below route related)

/-- So are the nodes of several trees. -/
theorem sound_of_children : forall (specs : List Spec) (root : String) (above : List Spec)
    (path : List String) (nodes : List Node),
      List.Forall₂ (fun spec name => spec.name.text = .ok name) above path ->
        List.Forall₂ (fun spec node => build (Node.pathId root path) spec = .ok node) specs nodes ->
          List.Forall₂ (IsSound root) (placedAll above specs) (Node.walkAll nodes)
  | [], _, _, _, [], _, _ => .nil
  | spec :: rest, root, above, path, node :: nodes, named, .cons built related =>
      List.rel_append (sound_of_build spec root above path node named built)
        (sound_of_children rest root above path nodes named related)

end

end Spec

namespace Node

/-- The root of a tree that is built, and the nodes below it. -/
structure IsGrown (rootId name : String) (value : Value) (forest : List Spec) (tree : Node) :
    Prop where
  walk : Exists fun nodes : List Node => tree.walk = tree :: nodes ∧
    List.Forall₂ (Spec.IsDepicted (rootId ++ " " ++ name)) (Spec.placedAll [] forest) nodes
  id : tree.id = rootId ++ " " ++ name
  rootId : tree.rootId = some rootId
  name : tree.name = name
  value : tree.value = value
  source : tree.source = .raw
  formatter : tree.formatter = none
  isRoot : tree.isRoot = true

variable {rootId name : String} {value : Value} {forest : List Spec}

/-- A tree that is built has the nodes that are described, and no rule is broken. -/
theorem isGrown_of_build {tree : Node} (built : build rootId name value forest = .ok tree) :
    tree.IsGrown rootId name value forest ∧ ¬ Spec.Breaks rootId name forest ∧
      Spec.Printable forest := by
  unfold build at built
  by_cases incomplete : (rootId.isEmpty || name.isEmpty) = true
  · rw [if_pos incomplete] at built
    cases built
  · rw [if_neg incomplete] at built
    rcases Spec.buildInto_eq_ok built with ⟨children, same, related, distinct⟩
    have sound := Spec.sound_of_children forest (rootId ++ " " ++ name) [] [] children .nil related
    have each : forall place, place ∈ Spec.placedAll [] forest -> Exists fun node : Node =>
        Spec.IsSound (rootId ++ " " ++ name) place node := by
      intro place listed
      rcases List.forall₂_iff_get.mp sound with ⟨sameLength, related⟩
      rcases List.mem_iff_get.mp listed with ⟨position, found⟩
      have here := related position position.isLt (sameLength ▸ position.isLt)
      rw [found] at here
      exact ⟨_, here⟩
    have names : forest.map (fun spec => spec.name.text) = tree.childNames.map Except.ok := by
      rw [Spec.names_of_build related, same, childNames, List.map_map]
      rfl
    have unflawed : ¬ Spec.Breaks rootId name forest := by
      intro breaks
      cases breaks with
      | unidentified missing => exact incomplete (by rw [missing]; rfl)
      | unnamed missing => exact incomplete (by rw [missing, Bool.or_eq_true]; exact Or.inr rfl)
      | repeated twice => exact Spec.not_repeats_of_nodup names (distinct List.nodup_nil) twice
      | inside listed flawed =>
          rcases each _ listed with ⟨node, _, unflawed⟩
          exact unflawed flawed
    have printable : Spec.Printable forest := by
      intro place listed
      rcases each place listed with ⟨node, depicted, _⟩
      exact ⟨_, depicted.name⟩
    refine ⟨?_, unflawed, printable⟩
    rw [same]
    exact ⟨⟨_, rfl, sound.imp fun _ _ => And.left⟩, rfl, rfl, rfl, rfl, rfl, rfl, rfl⟩

/-- What it says of the descriptions that a tree is not built. -/
def Obstructed (rootId name : String) (forest : List Spec) : BuildError -> Prop
  | .tree _ => Spec.Breaks rootId name forest
  | .name fault => Exists fun place : Spec.Placed =>
      place ∈ Spec.placedAll [] forest ∧ place.spec.name.text = .error fault

theorem obstructed_of_build (rootId name : String) (value : Value) (forest : List Spec) :
    FailsOnly (Obstructed rootId name forest) (build rootId name value forest) := by
  unfold build
  by_cases incomplete : (rootId.isEmpty || name.isEmpty) = true
  · rw [if_pos incomplete]
    rw [Bool.or_eq_true, String.isEmpty_iff, String.isEmpty_iff] at incomplete
    rcases incomplete with missing | missing
    · exact failsOnly_error (Spec.Breaks.unidentified missing)
    · exact failsOnly_error (Spec.Breaks.unnamed missing)
  · rw [if_neg incomplete]
    intro error failed
    rcases Spec.obstructs_of_buildInto forest [] _ error failed with
      explained | ⟨⟨cause, same⟩, twice | ⟨_, _, _, _, taken⟩⟩
    · cases error with
      | tree cause =>
          rcases explained with ⟨place, listed, flawed⟩
          exact .inside listed flawed
      | name fault => exact explained
    · rw [same]
      exact .repeated twice
    · cases taken

/-- If all names have a text, only a broken rule stands in the way of a tree. -/
theorem breaks_of_printable {error : BuildError} (printable : Spec.Printable forest)
    (failed : build rootId name value forest = .error error) :
    Spec.Breaks rootId name forest ∧ Exists fun cause : TreeError => error = .tree cause := by
  have obstructed := obstructed_of_build rootId name value forest error failed
  cases error with
  | tree cause => exact ⟨obstructed, cause, rfl⟩
  | name fault =>
      rcases obstructed with ⟨place, listed, unwritten⟩
      have written := printable place listed
      rw [unwritten] at written
      exact absurd written not_succeeds_error

/-- A tree is built exactly if no rule is broken and all names have a text, and its nodes are then the
root and the descriptions, each before those of its children.

If all names have a text, the only error there is says that the descriptions form no tree.  In any
case this error means that a rule is broken, and the other one that a name has no text. -/
theorem build_by_rules (rootId name : String) (value : Value) (forest : List Spec) :
    (Spec.Printable forest ->
      ((Exists fun cause : TreeError => build rootId name value forest = .error (.tree cause)) ↔
        Spec.Breaks rootId name forest)) ∧
    (forall cause, build rootId name value forest = .error (.tree cause) ->
      Spec.Breaks rootId name forest) ∧
    (forall fault, build rootId name value forest = .error (.name fault) ->
      Exists fun place : Spec.Placed =>
        place ∈ Spec.placedAll [] forest ∧ place.spec.name.text = .error fault) ∧
    (Succeeds (build rootId name value forest) ↔
      ¬ Spec.Breaks rootId name forest ∧ Spec.Printable forest) ∧
    forall tree, build rootId name value forest = .ok tree ->
      tree.IsGrown rootId name value forest := by
  have fails := obstructed_of_build rootId name value forest
  refine ⟨?_, fun cause => fails (.tree cause), fun fault => fails (.name fault), ?_,
    fun tree built => (isGrown_of_build built).1⟩
  · intro printable
    refine ⟨fun ⟨cause, failed⟩ => fails _ failed, fun breaks => ?_⟩
    cases outcome : build rootId name value forest with
    | ok tree => exact absurd breaks (isGrown_of_build outcome).2.1
    | error error =>
        rcases (breaks_of_printable printable outcome).2 with ⟨cause, same⟩
        exact ⟨cause, congrArg Except.error same⟩
  · constructor
    · rintro ⟨tree, built⟩
      exact (isGrown_of_build built).2
    · rintro ⟨unbroken, printable⟩
      cases outcome : build rootId name value forest with
      | ok tree => exact succeeds_ok tree
      | error error => exact absurd (breaks_of_printable printable outcome).1 unbroken

/-- A forest with a number as a name, and with a calculated node two steps below the root. -/
def countedForest : List Spec :=
  [{ name := .int 1, value := .bool true },
    { name := .string "a.b", children := [{ name := .string "1", source := .calculated }] }]

/-- The same forest with the second `1` beside the first one. -/
def recountedForest : List Spec :=
  { name := .string "1", source := .calculated } :: countedForest

/-- The first forest gives a tree, and the second one does not, because its two numbers are printed
alike. -/
theorem countedForest_built :
    (Exists fun tree : Node => build "Root" "entry" .null countedForest = .ok tree ∧
      tree.IsGrown "Root" "entry" .null countedForest ∧
      tree.walk.map Node.id =
        ["Root entry", "Root entry.1", "Root entry.a.b", "Root entry.a.b.1"]) ∧
      Spec.Printable recountedForest ∧ Spec.Breaks "Root" "entry" recountedForest ∧
      Exists fun cause : TreeError =>
        build "Root" "entry" .null recountedForest = .error (.tree cause) := by
  have printable : Spec.Printable recountedForest := by
    simp only [Spec.Printable, recountedForest, countedForest, Spec.placedAll, Spec.placed,
      List.append_nil, List.nil_append, List.cons_append, List.forall_mem_cons]
    exact ⟨succeeds_ok _, succeeds_ok _, succeeds_ok _, succeeds_ok _,
      fun _ impossible => nomatch impossible⟩
  have breaks : Spec.Breaks "Root" "entry" recountedForest :=
    .repeated ⟨_, _, "1", (List.nil_sublist _).cons_cons _ |>.cons_cons _, rfl, rfl⟩
  refine ⟨⟨_, rfl, (build_by_rules "Root" "entry" .null countedForest).2.2.2.2 _ rfl, ?_⟩,
    printable, breaks, ?_⟩
  · decide
  · exact ((build_by_rules "Root" "entry" .null recountedForest).1 printable).mpr breaks

/-- A name without a text is what is reported of a single child, also if it is described as a root. -/
theorem build_of_unwritten {name : Value} {fault : Fault} (present : Spec.isName name = true)
    (unwritten : name.text = .error fault) (isRoot : Bool) :
    build "Root" "entry" .null [{ name := name, isRoot := isRoot }] = .error (.name fault) := by
  have unbuilt : forall parent, Spec.build parent { name := name, isRoot := isRoot } =
      .error (.name fault) := by
    intro parent
    rw [Spec.build, present, unwritten]
    rfl
  rw [build, if_neg (by decide), Spec.buildInto, unbuilt]

/-- A single child without children that has a name breaks no rule. -/
theorem not_breaks_singleton {name : Value} (present : Spec.isName name = true) :
    ¬ Spec.Breaks "Root" "entry" [{ name := name }] := by
  intro breaks
  cases breaks with
  | unidentified missing => exact absurd missing (by decide)
  | unnamed missing => exact absurd missing (by decide)
  | repeated twice =>
      rcases twice with ⟨_, _, _, within, _, _⟩
      exact Nat.not_succ_le_self 1 within.length_le
  | inside listed flawed =>
      rw [List.mem_singleton.mp listed] at flawed
      cases flawed with
      | nameless missing =>
          rw [Spec.isName_eq_false_iff.mpr missing] at present
          cases present
      | secondRoot flagged => cases flagged
      | repeated twice =>
          rcases twice with ⟨_, _, _, within, _, _⟩
          exact Nat.not_succ_le_zero 1 within.length_le

theorem text_of_long {n : Int} (long : ¬ Numeral.Fits n) :
    (Value.int n).text = .error .tooManyDigits :=
  Numeral.write_of_long long

/-- A number with a digit too many, as a name. -/
def unprintableName : Value :=
  .int (10 ^ Numeral.digitLimit)

/-- A child with such a name gives no tree although it breaks no rule.  If it is described as a root
too, this is not what is reported. -/
theorem unprintableName_unbuilt :
    build "Root" "entry" .null [{ name := unprintableName }] = .error (.name .tooManyDigits) ∧
      ¬ Spec.Breaks "Root" "entry" [{ name := unprintableName }] ∧
      build "Root" "entry" .null [{ name := unprintableName, isRoot := true }] =
        .error (.name .tooManyDigits) ∧
      Spec.Breaks "Root" "entry" [{ name := unprintableName, isRoot := true }] := by
  have present : Spec.isName unprintableName = true := rfl
  have unwritten : unprintableName.text = .error .tooManyDigits :=
    text_of_long Numeral.not_fits_pow_digitLimit
  exact ⟨build_of_unwritten present unwritten false, not_breaks_singleton present,
    build_of_unwritten present unwritten true, .inside List.mem_cons_self (.secondRoot rfl)⟩

end Node

end TraceView

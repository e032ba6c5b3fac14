import TraceView.CommandLine.Report
import TraceView.Proofs.Outcome
import TraceView.Web.Serve

namespace TraceView

/-!
# Rendered objects

A served tree has all that is printed of it: each object has a name, a source, a text and the objects
below it.  Rendering reads nothing else.  So the lines of a tree are the same whether they are made
from its nodes or from the object that is served, and the values that are served as texts do not
matter to them.
-/

namespace Web

/-! ## Rendering -/

/-- The text of a field, or none if it is not there or no text. -/
def textOf (name : String) (fields : List (String × Value)) : String :=
  match fields.lookup name with
  | some (.string text) => text
  | _ => ""

/-- The line of an object: two blanks for each level, the name, a star if the property is calculated,
and the text of its value unless it is empty. -/
def objectLine (depth : Nat) (fields : List (String × Value)) : String :=
  let indent := String.ofList (List.replicate (2 * depth) ' ')
  let star := if textOf "source" fields = "calculated" then " *" else ""
  let shown := textOf "formatted_value" fields
  indent ++ textOf "name" fields ++ star ++ if shown = "" then "" else ": " ++ shown

mutual

/-- The lines of an object: its own, and then those of the objects below it, a level further in. -/
def rendering (depth : Nat) : Value -> List String
  | .map fields => objectLine depth fields :: renderingBelow (depth + 1) fields
  | _ => []

/-- The lines of the objects that are the children among some fields. -/
def renderingBelow (depth : Nat) : List (String × Value) -> List String
  | [] => []
  | (name, value) :: rest =>
    if name = "children" then renderingListed depth value else renderingBelow depth rest

/-- The lines of the objects of a list. -/
def renderingListed (depth : Nat) : Value -> List String
  | .list objects => renderingEach depth objects
  | _ => []

/-- The lines of several objects, one after the other. -/
def renderingEach (depth : Nat) : List Value -> List String
  | [] => []
  | object :: rest => rendering depth object ++ renderingEach depth rest

end

mutual

/-- A tree as an object, before integers become texts.  It is there even if an integer has none. -/
def depiction : Node -> Value
  | node@⟨_, _, _, _, _, _, _, _, children⟩ =>
    .map (nodeFields node node.value (node.text.toOption.getD "") (depictions children))

/-- Several trees as objects. -/
def depictions : List Node -> List Value
  | [] => []
  | node :: rest => depiction node :: depictions rest

end

/-! ## What matters to a rendering -/

/-- An object of a node is rendered by the line of the node and by the objects below it. -/
theorem rendering_nodeFields (depth : Nat) (node : Node) (value : Value) (text : String)
    (objects : List Value) :
    rendering depth (.map (nodeFields node value text objects)) =
      CommandLine.nodeLine depth node.name node.source text :: renderingEach (depth + 1) objects := by
  have line : objectLine depth (nodeFields node value text objects) =
      CommandLine.nodeLine depth node.name node.source text := by
    have star : node.source.word = "calculated" ↔ node.source = .calculated := by
      cases node.source <;> decide
    have empty : text = "" ↔ text.isEmpty = true := String.isEmpty_iff.symm
    change _ ++ node.name ++ (if node.source.word = "calculated" then " *" else "") ++
      (if text = "" then "" else ": " ++ text) = _
    simp only [star, empty]
    rfl
  rw [rendering, line]
  rfl

mutual

/-- The values of a served tree do not matter to its rendering. -/
theorem rendering_servedTree (depth : Nat) :
    forall (tree : Node) (served : Value), servedTree tree = .ok served ->
      rendering depth served = rendering depth (depiction tree)
  | ⟨_, _, _, _, _, _, _, _, children⟩, served, given => by
      rw [servedTree] at given
      rcases bind_eq_ok_iff.mp given with ⟨text, shown, given⟩
      rcases bind_eq_ok_iff.mp given with ⟨value, _, given⟩
      rcases bind_eq_ok_iff.mp given with ⟨objects, below, given⟩
      cases given
      rw [depiction, shown, rendering_nodeFields, rendering_nodeFields,
        renderingEach_servedTrees (depth + 1) children objects below]
      rfl

theorem renderingEach_servedTrees (depth : Nat) :
    forall (trees : List Node) (objects : List Value), servedTrees trees = .ok objects ->
      renderingEach depth objects = renderingEach depth (depictions trees)
  | [], objects, given => by
      cases given
      rfl
  | tree :: rest, objects, given => by
      rw [servedTrees] at given
      rcases bind_eq_ok_iff.mp given with ⟨first, here, given⟩
      rcases bind_eq_ok_iff.mp given with ⟨others, later, given⟩
      cases given
      rw [depictions, renderingEach, renderingEach, rendering_servedTree depth tree first here,
        renderingEach_servedTrees depth rest others later]

end

end Web

namespace CommandLine

mutual

/-- If every value has a text, then the lines of a tree are those of its object. -/
theorem treeLines_eq (depth : Nat) :
    forall tree : Node, (forall node, node ∈ tree.walk -> Succeeds node.text) ->
      treeLines depth tree = (Web.rendering depth (Web.depiction tree), none)
  | ⟨_, _, _, _, _, _, _, _, children⟩, texts => by
      rcases List.forall_mem_cons.mp texts with ⟨⟨text, shown⟩, below⟩
      rw [Web.depiction, Web.rendering_nodeFields, treeLines, shown,
        forestLines_eq (depth + 1) children below]
      rfl

theorem forestLines_eq (depth : Nat) :
    forall trees : List Node, (forall node, node ∈ Node.walkAll trees -> Succeeds node.text) ->
      forestLines depth trees = (Web.renderingEach depth (Web.depictions trees), none)
  | [], _ => rfl
  | tree :: rest, texts => by
      rcases List.forall_mem_append.mp texts with ⟨here, later⟩
      rw [forestLines, treeLines_eq depth tree here, forestLines_eq depth rest later]
      rfl

end

end CommandLine

end TraceView

import TraceView.Proofs.ProtoLog.Entries
import TraceView.Proofs.ProtoLog.Overflow
import TraceView.Proofs.Tree.Paths

namespace TraceView

/-!
# Properties of messages

An entry of a log shows the text of its message, its tag, its level, its place and its timestamp.  The
tag, the level and the place come from the configuration, in which they may be anything: what it leaves
out is shown as unknown, and a list or an object becomes a node with children, which is absent if it has
none.
-/

/-! ## What a configuration supplies -/

namespace ProtoLog

/-- What a configuration says of the message with a hash. -/
def ViewerConfig.message? (config : ViewerConfig) (hash : String) :
    Option (List (String × Value)) :=
  match (config.messages.lookup hash).getD .null with
  | .map fields => some fields
  | _ => none

/-- What a configuration says of the group of a message. -/
def ViewerConfig.groupOf (config : ViewerConfig) (message : List (String × Value)) :
    List (String × Value) :=
  match config.group ((message.lookup "group").getD .null) with
  | .map fields => fields
  | _ => []

/-- What a configuration supplies for a property of the message with a hash: the tag comes from the
group of the message, all else from the message. -/
def ViewerConfig.supplied? (config : ViewerConfig) (hash name : String) : Option Value :=
  (config.message? hash).bind fun message =>
    if name = "tag" then (config.groupOf message).lookup "tag" else message.lookup name

/-- The hash of a record is written so. -/
def IsHashOf (hash : String) (record : Value) : Prop :=
  Exists fun fields : List (String × Value) => record = .map fields ∧
    ((fields.lookup "messageHash").getD .null).text = .ok hash

namespace Decoder

variable {state : Decoder} {record : Value} {fields : List (String × Value)}

/-- A property is what the configuration supplies for it, or unknown. -/
theorem properties_supplied (decoded : state.decode record = .ok fields) :
    Exists fun hash : String => Exists fun text : String => IsHashOf hash record ∧
      fields = properties text
        ((state.config.supplied? hash "tag").getD (.string unknownField))
        ((state.config.supplied? hash "level").getD (.string unknownField))
        ((state.config.supplied? hash "at").getD (.string unknownField)) := by
  unfold decode at decoded
  rcases bind_eq_ok_iff.mp decoded with ⟨names, mapping, decoded⟩
  rcases bind_eq_ok_iff.mp decoded with ⟨hash, written, decoded⟩
  rcases bind_eq_ok_iff.mp decoded with ⟨all, _, decoded⟩
  have hashed : IsHashOf hash record := ⟨names, fields_eq_ok mapping, written⟩
  generalize entryIs : (state.config.messages.lookup hash).getD .null = entry at decoded
  by_cases null : entry = .null
  · have untold : state.config.message? hash = none := by
      rw [ViewerConfig.message?, entryIs, null]
    rw [null] at decoded
    rcases bind_eq_ok_iff.mp decoded with ⟨text, _, decoded⟩
    cases decoded
    refine ⟨hash, text, hashed, ?_⟩
    simp only [ViewerConfig.supplied?, untold, Option.bind_none, Option.getD_none]
  · have resolved : state.resolved entry all = .ok fields := by
      cases entry with
      | null => exact absurd rfl null
      | _ => exact decoded
    unfold Decoder.resolved at resolved
    rcases bind_eq_ok_iff.mp resolved with ⟨message, mapping, resolved⟩
    have told : state.config.message? hash = some message := by
      rw [ViewerConfig.message?, entryIs, fields_eq_ok mapping]
    dsimp only at resolved
    split at resolved
    · cases resolved
    · split at resolved
      · rcases bind_eq_ok_iff.mp resolved with ⟨text, _, resolved⟩
        rcases bind_eq_ok_iff.mp resolved with ⟨group, grouped, resolved⟩
        have members : state.config.groupOf message = group := by
          rw [ViewerConfig.groupOf, fields_eq_ok grouped]
        cases resolved
        refine ⟨hash, text, hashed, ?_⟩
        simp only [ViewerConfig.supplied?, told, Option.bind_some, members, if_true,
          String.reduceEq, if_false]
        rfl
      · cases resolved

end Decoder

end ProtoLog

/-! ## Trees of fields -/

/-- A list or a mapping with nothing but null in it. -/
def Value.IsHollow (value : Value) : Prop :=
  ¬ value.IsScalar ∧ forall member, member ∈ value.members -> member.2 = .null

/-- A member that is not null has a child, which look-ups find unless the member is hollow. -/
theorem Node.Mirrors.stored_of_lookup {node : Node} {value item : Value} {name : String}
    (mirrors : node.Mirrors value) (distinct : Fields.Distinct value.members)
    (held : value.members.lookup name = some item) (present : item ≠ .null) :
    Exists fun child : Node => node.stored? name = some child ∧ child.Mirrors item ∧
      (node.child? name = some child ∨ item.IsHollow) := by
  have related := mirrors.rel_stored? distinct name
  have kept : (!item.isNull) = true := by
    rw [Bool.not_eq_true', Bool.eq_false_iff, ne_eq, Value.isNull_iff]
    exact present
  rw [held, Option.filter_some, if_pos kept] at related
  cases stored : node.stored? name with
  | none =>
      rw [stored] at related
      cases related
  | some child =>
      rw [stored] at related
      cases related with
      | some below =>
          refine ⟨child, rfl, below, ?_⟩
          by_cases visible : item.isVisible = true
          · refine Or.inl ?_
            rw [child?, stored, Option.filter_some, below.isAbsent_eq, visible]
            rfl
          · rcases Value.not_isVisible_iff.mp visible with null | hollow
            · exact absurd null present
            · exact Or.inr hollow

/-- A member that is a scalar has a child that is found, with the scalar as it is held. -/
theorem Node.Mirrors.child_of_scalar {node : Node} {value item : Value} {name : String}
    (mirrors : node.Mirrors value) (distinct : Fields.Distinct value.members)
    (held : value.members.lookup name = some item) (present : item ≠ .null)
    (scalar : item.IsScalar) :
    Exists fun child : Node => node.child? name = some child ∧ child.value = Spec.scalar item := by
  rcases mirrors.stored_of_lookup distinct held present with ⟨child, _, below, found | hollow⟩
  · exact ⟨child, found, below.value_eq.trans (Value.own_of_isScalar scalar)⟩
  · exact absurd scalar hollow.1

theorem Node.Mirrors.raw {node : Node} {value : Value} (mirrors : node.Mirrors value) :
    node.source = .raw ∧ forall child, child ∈ node.children -> child.source = .raw := by
  rcases mirrors with ⟨_, source, _, below⟩
  refine ⟨source, fun child listed => ?_⟩
  rcases List.mem_iff_get.mp listed with ⟨position, here⟩
  rcases List.forall₂_iff_get.mp below with ⟨sameLength, related⟩
  rcases related position position.isLt (sameLength ▸ position.isLt) with ⟨_, source, _, _⟩
  rw [← here]
  exact source

/-! ## Entries -/

namespace Node

/-- The properties of a message for which its configuration is asked. -/
def configuredNames : List String :=
  ["tag", "level", "at"]

/-- The properties of a message in an entry, in order. -/
def propertyNames : List String :=
  ["text"] ++ configuredNames ++ ["timestamp"]

/-- The tree of a message for which a configuration supplies these values.  Its children are some of the
five properties in their order, all from the record.  Text and timestamp are there and are found.
A property for which nothing is supplied is there, is found and is unknown; one for which something
other than null is supplied is there, and is found unless this is hollow. -/
structure ShowsMessage (supplied : String -> Option Value) (tree : Node) : Prop where
  names : tree.childNames.Sublist propertyNames
  raw : forall child, child ∈ tree.children -> child.source = .raw
  text : Exists fun child : Node => Exists fun text : String =>
    tree.child? "text" = some child ∧ child.value = .string text
  timestamp : Exists fun child : Node => Exists fun ns : Int =>
    tree.child? "timestamp" = some child ∧ child.value = .int ns
  unknown : forall name, name ∈ configuredNames -> supplied name = none ->
    Exists fun child : Node =>
      tree.child? name = some child ∧ child.value = .string ProtoLog.unknownField
  configured : forall name, name ∈ configuredNames -> forall value, supplied name = some value ->
    value ≠ .null -> Exists fun child : Node => tree.stored? name = some child ∧
      child.Mirrors value ∧ (tree.child? name = some child ∨ value.IsHollow)
  whole : (forall name, name ∈ configuredNames -> supplied name ≠ some .null) ->
    tree.childNames = propertyNames

variable {supplied : String -> Option Value} {tree : Node}

/-- A tree of the properties that are supplied, and unknown where none is. -/
theorem showsMessage_of_mirrors {text : String} {ns : Int}
    (mirrors : tree.Mirrors (.map (ProtoLog.Decoder.properties text
      ((supplied "tag").getD (.string ProtoLog.unknownField))
      ((supplied "level").getD (.string ProtoLog.unknownField))
      ((supplied "at").getD (.string ProtoLog.unknownField)) ++ [("timestamp", .int ns)]))) :
    tree.ShowsMessage supplied := by
  generalize membersAre : ProtoLog.Decoder.properties _ _ _ _ ++ _ = members at mirrors
  have called : members.map Prod.fst = propertyNames := by
    rw [← membersAre]
    rfl
  have distinct : Fields.Distinct members := by
    rw [Fields.Distinct, called]
    decide
  have held : forall name, name ∈ configuredNames ->
      members.lookup name = some ((supplied name).getD (.string ProtoLog.unknownField)) := by
    rw [← membersAre]
    simp only [configuredNames, List.forall_mem_cons]
    exact ⟨rfl, rfl, rfl, fun _ impossible => absurd impossible List.not_mem_nil⟩
  have names : tree.childNames = (Value.present members).map Prod.fst := by
    rcases mirrors with ⟨_, _, names, _⟩
    exact names
  refine ⟨?_, mirrors.raw.2, ?_, ?_, ?_, ?_, ?_⟩
  · rw [names, ← called]
    exact List.filter_sublist.map Prod.fst
  · have first : members.lookup "text" = some (.string text) := by
      rw [← membersAre]
      rfl
    rcases mirrors.child_of_scalar distinct first (fun impossible => by cases impossible) trivial with
      ⟨child, found, value⟩
    exact ⟨child, text, found, value⟩
  · have last : members.lookup "timestamp" = some (.int ns) := by
      rw [← membersAre]
      rfl
    rcases mirrors.child_of_scalar distinct last (fun impossible => by cases impossible) trivial with
      ⟨child, found, value⟩
    exact ⟨child, ns, found, value⟩
  · intro name listed missing
    have here := held name listed
    rw [missing] at here
    exact mirrors.child_of_scalar distinct here (fun impossible => by cases impossible) trivial
  · intro name listed value given present
    have here := held name listed
    rw [given] at here
    exact mirrors.stored_of_lookup distinct here present
  · intro complete
    have given : forall name, name ∈ configuredNames ->
        (!((supplied name).getD (.string ProtoLog.unknownField)).isNull) = true := by
      intro name listed
      cases supply : supplied name with
      | none => rfl
      | some value =>
          rw [Option.getD_some, Bool.not_eq_true', Bool.eq_false_iff, ne_eq, Value.isNull_iff]
          intro null
          rw [null] at supply
          exact complete name listed supply
    have everything : Value.present members = members := by
      rw [Value.present, List.filter_eq_self, ← membersAre]
      simp only [configuredNames, List.forall_mem_cons] at given
      simp only [ProtoLog.Decoder.properties, List.cons_append, List.nil_append,
        List.forall_mem_cons]
      exact ⟨rfl, given.1, given.2.1, given.2.2.1, rfl,
        fun _ impossible => absurd impossible List.not_mem_nil⟩
    rw [names, everything, called]

end Node

namespace Trace

variable {trace : Trace}

/-- The tree of an entry, before its pipeline, is a tree of the decoded fields and the timestamp. -/
theorem mirrors_buildEntry {kind : TraceKind} {fields : List (String × Value)} {stamp : Timestamp}
    {tree : Node} (built : buildEntry kind fields stamp = .ok tree) :
    tree.Mirrors (.map (fields ++ [("timestamp", .int stamp.nanoseconds)])) := by
  rcases buildEntry_eq_ok built with ⟨bare, made, _, same⟩
  rcases Node.mirrors_ofFields made with ⟨own, source, names, below⟩
  have present : Value.present (fields ++ [("timestamp", .int stamp.nanoseconds)]) =
      Value.present fields ++ [("timestamp", .int stamp.nanoseconds)] :=
    List.filter_append ..
  have last : (Node.leaf (bare.id ++ ".timestamp") "timestamp" (.int stamp.nanoseconds) .raw
      (some stamp.domain.formatter)).Mirrors (.int stamp.nanoseconds) :=
    .intro rfl rfl rfl .nil
  rw [same]
  refine .intro own source ?_ ?_
  · rw [Value.members, present, List.map_append, Node.childNames, List.map_append]
    exact congrArg (· ++ ["timestamp"]) names
  · rw [Value.members, present, List.map_append]
    exact List.rel_append below (.cons last .nil)

/-- An entry of a log shows the message of its record, for which the hash of the record is looked up in
the configuration that the decoder holds. -/
theorem log_entry_shows {decoders : List Decoder} {bytes : List UInt8} {settings : Settings}
    {files : Files} {issue place : Nat} {left : ProtoLog.Decoder}
    (opened : (load decoders bytes settings files issue).value =
      .taken place (.protoLog left) (.ok trace)) {state : ProtoLog.Decoder} {index : Value}
    {domain : Domain} {tree : Node}
    (shown : (trace.entry (.protoLog state) index domain).value = .ok tree) :
    Exists fun position : Fin trace.length => Exists fun hash : String =>
      index = .int position.val ∧ ProtoLog.IsHashOf hash (trace.record position) ∧
        tree.ShowsMessage (state.config.supplied? hash) := by
  rw [value_entry_of_plain (pipeline_of_load opened domain)] at shown
  rcases rawEntry_eq_ok shown with ⟨position, stamp, fields, found, _, decoded, built⟩
  rcases ProtoLog.Decoder.properties_supplied (decode_of_log (decodeEntry_eq_ok decoded)) with
    ⟨hash, text, hashed, properties⟩
  have mirrors := mirrors_buildEntry built
  rw [properties] at mirrors
  exact ⟨position, hash, position_eq_ok found, hashed, Node.showsMessage_of_mirrors mirrors⟩

/-- A log of one message, for which the configuration has a null level, an empty place and no group. -/
def sparseText : List UInt8 :=
  ("\x7b\"log\":[\x7b\"messageHash\":1,\"elapsedRealtimeNanos\":5\x7d],\"viewerConfig\":" ++
    "\x7b\"messages\":\x7b\"1\":\x7b\"level\":null,\"at\":\x7b\x7d\x7d\x7d\x7d\x7d").toUTF8.toList

def sparse : Json :=
  .object [("log", .array [.object [("messageHash", .integer 1),
      ("elapsedRealtimeNanos", .integer 5)]]),
    ("viewerConfig", .object
      [("messages", .object [("1", .object [("level", .null), ("at", .object [])])])])]

def sparseDecoder : ProtoLog.Decoder :=
  ⟨false, ⟨[("1", .map [("level", .null), ("at", .map [])])], []⟩⟩

def sparseTrace : Trace :=
  .ofLog ⟨[.map [("messageHash", .int 1), ("elapsedRealtimeNanos", .int 5)]], [5], none⟩

set_option maxRecDepth 4000 in
theorem read_sparseText : Json.read .trace sparseText = .whole sparse := by
  with_unfolding_all rfl

theorem load_sparseText : (load Decoder.standard sparseText .standard .nowhere 0).value =
    .taken 0 (.protoLog sparseDecoder) (.ok sparseTrace) := by
  have read : Json.readTrace sparseText = .ok (⟨["log", "viewerConfig"], []⟩, sparse) := by
    rw [Json.readTrace, read_sparseText]
    rfl
  have configured : (ProtoLog.Decoder.fresh.configure sparse .standard .nowhere).value =
      (sparseDecoder, .ok ()) := rfl
  exact load_eq_opened_iff.mpr
    ⟨_, _, _, _, read, rfl, load_message rfl rfl rfl configured, rfl⟩

/-- The tag of the message is shown as unknown. -/
theorem sparse_entry_shows :
    Exists fun tree : Node =>
      (sparseTrace.entry (.protoLog sparseDecoder) (.int 0) .elapsed).value = .ok tree ∧
        tree.ShowsMessage (sparseDecoder.config.supplied? "1") ∧
        Exists fun child : Node => tree.child? "tag" = some child ∧
          child.value = .string ProtoLog.unknownField := by
  refine ⟨_, rfl, ?_⟩
  rcases log_entry_shows load_sparseText
      (rfl : (sparseTrace.entry (.protoLog sparseDecoder) (.int 0) .elapsed).value = _) with
    ⟨position, hash, asked, ⟨fields, record, written⟩, shows⟩
  have only : position = ⟨0, Nat.zero_lt_one⟩ := Subsingleton.elim (α := Fin 1) _ _
  rw [only] at record
  cases record
  cases written
  exact ⟨shows, shows.unknown "tag" (by decide) rfl⟩

/-- Its level is not shown, and its place is there and not found. -/
theorem sparse_entry_incomplete :
    (load Decoder.standard sparseText .standard .nowhere 0).value =
        .taken 0 (.protoLog sparseDecoder) (.ok sparseTrace) ∧
      Exists fun tree : Node =>
        (sparseTrace.entry (.protoLog sparseDecoder) (.int 0) .elapsed).value = .ok tree ∧
          tree.childNames = ["text", "tag", "at", "timestamp"] ∧
          (tree.child? "level").isNone = true ∧ (tree.child? "at").isNone = true :=
  ⟨load_sparseText, _, rfl, rfl, rfl, rfl⟩

end Trace

end TraceView

import TraceView.Proofs.Fields.Names
import TraceView.Proofs.Transition.Renaming
import TraceView.Proofs.Transition.Respelling
import TraceView.Proofs.Value.Scalars

namespace TraceView.Transition

/-!
# Normal forms of records

Normalising goes through a record place by place.  A place has a nearest key: that of the field that it
is in, through any number of lists, but not through another field.  Only texts change, where the nearest
key is that of an integer field and the text is one of an integer; everything else stands where it stood.
So a normal form is its own normal form, and it stays one when its fields get other names, as long as
these are names of integer fields just as before.
-/

variable {key other : String} {value after : Value} {fields : List (String × Value)}

/-! ## Places -/

/-- The values that a value below a key holds, each with its own nearest key. -/
def parts (key : String) : Value -> List (String × Value)
  | .map fields => fields
  | .list items => items.map fun item => (key, item)
  | _ => []

/-- What stands at a place of a value below a key, with its own nearest key.  The place is given by the
positions that lead to it. -/
def partAt? (key : String) (value : Value) : List Nat -> Option (String × Value)
  | [] => some (key, value)
  | position :: rest => (parts key value)[position]?.bind fun part => partAt? part.1 part.2 rest

/-- The key of an integer field. -/
def EndsWide (key : String) : Prop :=
  "Ns".toList <:+ key.toList ∨ "Id".toList <:+ key.toList

theorem isWide_iff : isWide key = true ↔ EndsWide key := by
  rw [isWide, Bool.or_eq_true, List.isSuffixOf_iff_suffix, List.isSuffixOf_iff_suffix]
  rfl

/-- What becomes of a value whose nearest key is given, apart from what becomes of its parts. -/
inductive Becomes (key : String) : Value -> Value -> Prop where
  /-- The text of an integer below the key of an integer field. -/
  | number {text : String} {n : Int} (wide : EndsWide key)
      (spelled : (Value.string text).toInt? = some n) : Becomes key (.string text) (.int n)
  /-- Any other text. -/
  | text {text : String} (kept : EndsWide key -> (Value.string text).toInt? = none) :
      Becomes key (.string text) (.string text)
  | map {fields others : List (String × Value)}
      (names : others.map Prod.fst = fields.map Prod.fst) : Becomes key (.map fields) (.map others)
  | list {items others : List Value} (length : others.length = items.length) :
      Becomes key (.list items) (.list others)
  | scalar {value : Value} (scalar : value.IsScalar) (noText : forall text, value ≠ .string text) :
      Becomes key value value

/-- Each place of the one value is a place of the other, below the same key, and has become what it
should. -/
def Pointwise (key : String) (value after : Value) : Prop :=
  forall place, Option.Rel (fun before after => before.1 = after.1 ∧ Becomes before.1 before.2 after.2)
    (partAt? key value place) (partAt? key after place)

/-! ## Normal forms, place by place -/

theorem normaliseFields_eq_map (fields : List (String × Value)) :
    normaliseFields fields = fields.map fun field => (field.1, normalise field.1 field.2) := by
  induction fields with
  | nil => rfl
  | cons field rest inductionHypothesis =>
      exact congrArg ((field.1, normalise field.1 field.2) :: ·) inductionHypothesis

theorem normaliseItems_eq_map (key : String) (items : List Value) :
    normaliseItems key items = items.map (normalise key) := by
  induction items with
  | nil => rfl
  | cons item rest inductionHypothesis =>
      exact congrArg (normalise key item :: ·) inductionHypothesis

theorem becomes_normaliseText (key text : String) :
    Becomes key (.string text) (normaliseText key text) := by
  unfold normaliseText
  by_cases wide : isWide key = true
  · rw [if_pos wide]
    cases spelled : Numeral.read text with
    | none => exact .text fun _ => spelled
    | some n => exact .number (isWide_iff.mp wide) spelled
  · rw [if_neg wide]
    exact .text fun ends => absurd (isWide_iff.mpr ends) wide

theorem becomes_normalise (key : String) (value : Value) :
    Becomes key value (normalise key value) := by
  cases value with
  | map fields =>
      refine .map ?_
      rw [normaliseFields_eq_map, List.map_map]
      rfl
  | list items =>
      refine .list ?_
      rw [normaliseItems_eq_map, List.length_map]
  | string text => exact becomes_normaliseText key text
  | _ => exact .scalar trivial nofun

/-- A text can become one thing only. -/
theorem Becomes.eq_normaliseText {text : String} (becomes : Becomes key (.string text) after) :
    after = normaliseText key text := by
  rw [normaliseText]
  cases becomes with
  | number wide spelled =>
      have read : Numeral.read text = _ := spelled
      rw [if_pos (isWide_iff.mpr wide), read]
  | text kept =>
      by_cases wide : isWide key = true
      · have unread : Numeral.read text = none := kept (isWide_iff.mp wide)
        rw [if_pos wide, unread]
      · rw [if_neg wide]
  | scalar scalar noText => exact absurd rfl (noText text)

/-- The parts of a normal form are the normal forms of the parts. -/
theorem parts_normalise (key : String) (value : Value) :
    parts key (normalise key value) =
      (parts key value).map fun part => (part.1, normalise part.1 part.2) := by
  cases value with
  | map fields => exact normaliseFields_eq_map fields
  | list items =>
      change (normaliseItems key items).map (fun item => (key, item)) = List.map _ (items.map _)
      rw [normaliseItems_eq_map, List.map_map, List.map_map]
      rfl
  | string text =>
      change parts key (normaliseText key text) = []
      rcases normaliseText_cases key text with same | ⟨n, same, _⟩ <;> rw [same] <;> rfl
  | _ => rfl

theorem partAt?_normalise (key : String) (value : Value) (place : List Nat) :
    partAt? key (normalise key value) place =
      (partAt? key value place).map fun part => (part.1, normalise part.1 part.2) := by
  induction place generalizing key value with
  | nil => rfl
  | cons position rest inductionHypothesis =>
      rw [partAt?, partAt?, parts_normalise, List.getElem?_map]
      cases (parts key value)[position]? with
      | none => rfl
      | some part => exact inductionHypothesis part.1 part.2

theorem pointwise_normalise (key : String) (value : Value) :
    Pointwise key value (normalise key value) := by
  intro place
  rw [partAt?_normalise]
  cases partAt? key value place with
  | none => exact .none
  | some part => exact .some ⟨rfl, becomes_normalise part.1 part.2⟩

/-! ## Nothing else is a normal form -/

/-- Lists that are related position by position. -/
theorem forall₂_of_getElem? {α β : Type} {relation : α -> β -> Prop} {items : List α}
    {others : List β} (each : forall position : Nat, Option.Rel relation items[position]? others[position]?) :
    List.Forall₂ relation items others := by
  induction items generalizing others with
  | nil =>
      cases others with
      | nil => exact .nil
      | cons first rest => cases each 0
  | cons item rest inductionHypothesis =>
      cases others with
      | nil => cases each 0
      | cons first others =>
          refine .cons ?_ (inductionHypothesis fun position => each (position + 1))
          cases each 0 with
          | some related => exact related

/-- What holds place by place holds so of the parts. -/
theorem Pointwise.forall₂_parts (pointwise : Pointwise key value after) :
    List.Forall₂ (fun before after => before.1 = after.1 ∧ Pointwise before.1 before.2 after.2)
      (parts key value) (parts key after) := by
  apply forall₂_of_getElem?
  intro position
  have within := fun rest => pointwise (position :: rest)
  simp only [partAt?] at within
  cases held : (parts key value)[position]? with
  | none =>
      cases otherHeld : (parts key after)[position]? with
      | none => exact .none
      | some part =>
          rw [held, otherHeld] at within
          cases within []
  | some part =>
      cases otherHeld : (parts key after)[position]? with
      | none =>
          rw [held, otherHeld] at within
          cases within []
      | some otherPart =>
          rw [held, otherHeld] at within
          rcases part with ⟨name, before⟩
          rcases otherPart with ⟨otherName, later⟩
          have same : name = otherName := by
            cases within [] with
            | some related => exact related.1
          cases same
          exact .some ⟨rfl, within⟩

theorem Pointwise.becomes (pointwise : Pointwise key value after) : Becomes key value after := by
  cases pointwise [] with
  | some related => exact related.2

theorem Becomes.eq_of_isScalar (becomes : Becomes key value after) (scalar : value.IsScalar)
    (noText : forall text, value ≠ .string text) : after = value := by
  cases becomes with
  | number => exact absurd rfl (noText _)
  | text => exact absurd rfl (noText _)
  | map => exact scalar.elim
  | list => exact scalar.elim
  | scalar => rfl

mutual

/-- The normal form is the only value that agrees with a value place by place. -/
theorem eq_normalise (key : String) : forall value after : Value, Pointwise key value after ->
    after = normalise key value
  | .map fields, after, pointwise => by
      cases after with
      | map others =>
          exact congrArg Value.map (eq_normaliseFields fields others pointwise.forall₂_parts)
      | _ => cases pointwise.becomes
  | .list items, after, pointwise => by
      cases after with
      | list others =>
          have each := pointwise.forall₂_parts
          rw [parts, parts, List.forall₂_map_left_iff, List.forall₂_map_right_iff] at each
          exact congrArg Value.list
            (eq_normaliseItems key items others (each.imp fun _ _ below => below.2))
      | _ => cases pointwise.becomes
  | .string text, _, pointwise => pointwise.becomes.eq_normaliseText
  | .null, _, pointwise | .bool _, _, pointwise | .int _, _, pointwise | .double _, _, pointwise
  | .undefined, _, pointwise | .decimal _, _, pointwise | .constant _, _, pointwise =>
      pointwise.becomes.eq_of_isScalar trivial nofun

theorem eq_normaliseFields : forall fields others : List (String × Value),
    List.Forall₂ (fun before after => before.1 = after.1 ∧ Pointwise before.1 before.2 after.2)
      fields others -> others = normaliseFields fields
  | [], _, .nil => rfl
  | (name, value) :: rest, (otherName, after) :: others, .cons ⟨same, first⟩ later => by
      cases same
      rw [normaliseFields, ← eq_normalise name value after first,
        ← eq_normaliseFields rest others later]

theorem eq_normaliseItems (key : String) : forall items others : List Value,
    List.Forall₂ (Pointwise key) items others -> others = normaliseItems key items
  | [], _, .nil => rfl
  | item :: rest, after :: others, .cons first later => by
      rw [normaliseItems, ← eq_normalise key item after first,
        ← eq_normaliseItems key rest others later]

end

theorem eq_normalise_iff : after = normalise key value ↔ Pointwise key value after := by
  constructor
  · intro same
    rw [same]
    exact pointwise_normalise key value
  · exact eq_normalise key value after

/-! ## Normalising again -/

mutual

/-- A normal form is kept below any key that is, as its own, that of an integer field or not. -/
theorem normalise_normalise {key other : String} (same : isWide key = isWide other) :
    forall value : Value, normalise other (normalise key value) = normalise key value
  | .map fields => congrArg Value.map (normaliseFields_normaliseFields fields)
  | .list items => congrArg Value.list (normaliseItems_normaliseItems same items)
  | .string text => by
      change normalise other (normaliseText key text) = normaliseText key text
      rcases normaliseText_cases key text with kept | ⟨n, number, _⟩
      · rw [kept]
        change normaliseText other text = _
        rw [normaliseText, ← same, ← normaliseText, kept]
      · rw [number]
        rfl
  | .null | .bool _ | .int _ | .double _ | .undefined | .decimal _ | .constant _ => rfl

theorem normaliseFields_normaliseFields : forall fields : List (String × Value),
    normaliseFields (normaliseFields fields) = normaliseFields fields
  | [] => rfl
  | (name, value) :: rest => by
      have first : normalise name (normalise name value) = normalise name value :=
        normalise_normalise rfl value
      rw [normaliseFields, normaliseFields, first, normaliseFields_normaliseFields rest]

theorem normaliseItems_normaliseItems {key other : String} (same : isWide key = isWide other) :
    forall items : List Value,
      normaliseItems other (normaliseItems key items) = normaliseItems key items
  | [] => rfl
  | item :: rest => by
      rw [normaliseItems, normaliseItems, normalise_normalise same item,
        normaliseItems_normaliseItems same rest]

end

/-! ## Decoding again -/

/-- Fields whose values are normal forms below their names. -/
def AllNormal (fields : List (String × Value)) : Prop :=
  forall field, field ∈ fields -> normalise field.1 field.2 = field.2

theorem allNormal_normaliseFields (fields : List (String × Value)) :
    AllNormal (normaliseFields fields) := by
  intro field listed
  rw [normaliseFields_eq_map] at listed
  rcases List.mem_map.mp listed with ⟨source, _, same⟩
  rw [← same]
  exact normalise_normalise rfl source.2

theorem AllNormal.normaliseFields_eq (normal : AllNormal fields) : normaliseFields fields = fields := by
  rw [normaliseFields_eq_map]
  refine (List.map_congr_left ?_).trans (List.map_id fields)
  exact fun field listed => congrArg (field.1, ·) (normal field listed)

/-- A field gets its new name with its value, which is as normal below the one as below the other. -/
theorem AllNormal.rename {names : String × String} (alike : isWide names.1 = isWide names.2)
    (normal : AllNormal fields) : AllNormal (rename fields names) := by
  unfold Transition.rename
  cases held : fields.lookup names.1 with
  | none => exact normal
  | some value =>
      have source := normal _ (Fields.mem_of_lookup held)
      intro field listed
      rcases Fields.mem_put listed with here | kept
      · rw [here]
        have moved := normalise_normalise alike value
        rwa [source] at moved
      · exact normal field (List.mem_filter.mp kept).1

theorem reserved_alike : forall names, names ∈ reserved -> isWide names.1 = isWide names.2 := by
  decide

theorem allNormal_decoded (fields : List (String × Value)) :
    AllNormal (reserved.foldl rename (normaliseFields fields)) :=
  List.foldlRecOn (motive := AllNormal) reserved rename (allNormal_normaliseFields fields)
    fun _ normal names listed => normal.rename (reserved_alike names listed)

/-- Changes of names that no field has leave the fields as they are. -/
theorem foldl_rename_of_none {changes : List (String × String)}
    (free : forall names, names ∈ changes -> fields.lookup names.1 = none) :
    changes.foldl rename fields = fields := by
  induction changes with
  | nil => rfl
  | cons first rest inductionHypothesis =>
      rcases List.forall_mem_cons.mp free with ⟨here, others⟩
      rw [List.foldl_cons, rename, here]
      exact inductionHypothesis others

theorem decode_of_normal (normal : AllNormal fields)
    (free : forall names, names ∈ reserved -> fields.lookup names.1 = none) :
    decode (.map fields) = .ok (.map fields) := by
  change Except.ok (Value.map (reserved.foldl rename (normaliseFields fields))) = _
  rw [normal.normaliseFields_eq, foldl_rename_of_none free]

theorem decode_of_not_map {record : Value}
    (noMap : forall fields, normalise "" record ≠ .map fields) :
    decode record = if mentionsReserved (normalise "" record) then .error .wrongKind
      else .ok (normalise "" record) := by
  unfold decode
  cases shape : normalise "" record with
  | map held => exact absurd shape (noMap held)
  | _ => rfl

/-- What a record is decoded to is decoded to itself. -/
theorem decode_bind_decode (record : Value) : (decode record).bind decode = decode record := by
  have again : normalise "" (normalise "" record) = normalise "" record :=
    normalise_normalise rfl record
  by_cases map : Exists fun held : List (String × Value) => normalise "" record = .map held
  · rcases map with ⟨held, shape⟩
    have decoded : decode record = .ok (.map (reserved.foldl rename held)) := by
      rw [decode, shape]
    rw [shape] at again
    have kept : normaliseFields held = held := Value.map.inj again
    have normal := allNormal_decoded held
    rw [kept] at normal
    rw [decoded]
    exact decode_of_normal normal fun names listed => lookup_decode decoded listed
  · have noMap : forall fields, normalise "" record ≠ .map fields := fun held shape => map ⟨held, shape⟩
    rw [decode_of_not_map noMap]
    by_cases mentioned : mentionsReserved (normalise "" record) = true
    · rw [if_pos mentioned]
      rfl
    · rw [if_neg mentioned]
      change decode (normalise "" record) = _
      rw [decode_of_not_map (again.symm ▸ noMap), again, if_neg mentioned]

/-- A value and its normal form have the same places, with the same keys in the same order.  At each place
a text that spells an integer below the key of an integer field has become this integer, and everything
else is the same; no other value agrees with the value in this way.  The normal form is its own normal
form, and a decoded record is decoded to itself.  Records always decode, and not to a field that the tree
of an entry uses itself. -/
theorem normal_forms (key : String) (value : Value) (fields : List (String × Value)) :
    (forall after, after = normalise key value ↔ Pointwise key value after) ∧
      normalise key (normalise key value) = normalise key value ∧
      (decode value).bind decode = decode value ∧
      Exists fun decoded : List (String × Value) => decode (.map fields) = .ok (.map decoded) ∧
        "timestamp" ∉ decoded.map Prod.fst ∧ "duration" ∉ decoded.map Prod.fst ∧
        "status" ∉ decoded.map Prod.fst := by
  refine ⟨fun after => eq_normalise_iff, normalise_normalise rfl value, decode_bind_decode value,
    reserved.foldl rename (normaliseFields fields), rfl, ?_⟩
  have free : forall names, names ∈ reserved ->
      names.1 ∉ (reserved.foldl rename (normaliseFields fields)).map Prod.fst :=
    fun names listed => Fields.lookup_eq_none_iff_notMem.mp
      (lookup_foldl_rename reserved_different _ listed)
  exact ⟨free ("timestamp", "rawTimestamp") (by decide),
    free ("duration", "rawDuration") (by decide), free ("status", "rawStatus") (by decide)⟩

-- A list is below the key of its field, and a mapping in it is not.
example : normalise "" (.map [("layerId", .list [.list [.string "5"], .map [("n", .string "5")]])]) =
    .map [("layerId", .list [.list [.int 5], .map [("n", .string "5")]])] := by rfl

end TraceView.Transition

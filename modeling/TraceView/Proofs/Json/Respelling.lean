import Mathlib.Data.List.Forall2
import TraceView.Json.Address
import TraceView.Proofs.Number.Writable
import TraceView.Transition.Decoder

namespace TraceView

/-!
# Documents that spell 64-bit integers in two ways

A 64-bit integer may be given as a number or as the text of the number, and one document may mix
the two.  Which integers have this width is said by the format: the offset between the clocks, and
certain fields inside the records.  Two documents are respellings of each other when they differ in
nothing but such texts.  An integer with more digits than texts may have is not read as a number, so it
is left out here.

Where a field is cannot be told from the field, so the relation carries a spot along.  Outside the
records the spot is the place, because what is there is found by its address; inside a record it
is what the decoder of the format remembers on its way down.
-/

/-- The address of the records of a format. -/
def TraceKind.recordAddress : TraceKind -> String
  | .protoLog => "log.item"
  | .transition => "transitions.item"

/-- The name of the offset between the clocks in a format. -/
def TraceKind.offsetName : TraceKind -> String
  | .protoLog => "realTimeToElapsedTimeOffsetMillis"
  | .transition => "realToElapsedTimeOffsetNanos"

namespace Json

/-- Where a part of a document is, as far as it matters for the width of its integers. -/
inductive Spot where
  /-- Not inside a record. -/
  | outside (place : Place)
  /-- Inside a transition, below a name that says whether its integers are wide. -/
  | transition (wide : Bool)
  /-- A log message. -/
  | message
  /-- The integer parameters of a message. -/
  | parameters
  /-- A wide integer of a message. -/
  | number
  /-- Inside a message, where no integer is wide. -/
  | narrow

namespace Spot

def record : TraceKind -> Spot
  | .protoLog => .message
  | .transition => .transition false

/-- The spot of a place that is not inside a record: it may be that of a record. -/
def ofPlace (kind : TraceKind) (place : Place) : Spot :=
  if place.address = kind.recordAddress then record kind else .outside place

/-- The spot of the items of an array. -/
def item (kind : TraceKind) : Spot -> Spot
  | .outside place => ofPlace kind (place ++ [itemName])
  | .transition wide => .transition wide
  | .parameters => .number
  | _ => .narrow

/-- The spot of a member of an object. -/
def member (kind : TraceKind) : Spot -> String -> Spot
  | .outside place, name => ofPlace kind (place ++ [name])
  | .transition _, name => .transition (Transition.isWide name)
  | .message, name =>
    if name = "elapsedRealtimeNanos" ∨ name = "messageHash" then .number
    else if name = "sint64Params" then .parameters
    else .narrow
  | _, _ => .narrow

/-- Whether an integer at a spot is a 64-bit one. -/
def IsWide (kind : TraceKind) : Spot -> Prop
  | .outside place => place.address = kind.offsetName
  | .transition wide => wide = true
  | .number => True
  | _ => False

end Spot

/-- Whether a part of a document has no parts of its own. -/
def isScalar : Json -> Bool
  | .array _ => false
  | .object _ => false
  | _ => true

mutual

/-- One part of a document is another one, in which some 64-bit integers have become their
texts. -/
inductive Respelled (kind : TraceKind) : Spot -> Json -> Json -> Prop where
  | same {spot : Spot} {tree : Json} (scalar : tree.isScalar = true) :
      Respelled kind spot tree tree
  | text {spot : Spot} {n : Int} (wide : spot.IsWide kind) (fits : Numeral.Fits n) :
      Respelled kind spot (.integer n) (.string (Numeral.full n))
  | array {spot : Spot} {items others : List Json}
      (each : RespelledItems kind (spot.item kind) items others) :
      Respelled kind spot (.array items) (.array others)
  | object {spot : Spot} {members others : List (String × Json)}
      (each : RespelledMembers kind spot members others) :
      Respelled kind spot (.object members) (.object others)

/-- The items of two arrays are respelled one by one. -/
inductive RespelledItems (kind : TraceKind) : Spot -> List Json -> List Json -> Prop where
  | nil {spot : Spot} : RespelledItems kind spot [] []
  | cons {spot : Spot} {item other : Json} {items others : List Json}
      (first : Respelled kind spot item other) (rest : RespelledItems kind spot items others) :
      RespelledItems kind spot (item :: items) (other :: others)

/-- The members of two objects have the same names and are respelled one by one. -/
inductive RespelledMembers (kind : TraceKind) :
    Spot -> List (String × Json) -> List (String × Json) -> Prop where
  | nil {spot : Spot} : RespelledMembers kind spot [] []
  | cons {spot : Spot} {name : String} {member other : Json}
      {members others : List (String × Json)}
      (first : Respelled kind (spot.member kind name) member other)
      (rest : RespelledMembers kind spot members others) :
      RespelledMembers kind spot ((name, member) :: members) ((name, other) :: others)

end

variable {kind : TraceKind}

/-! ## Parts at an address -/

theorem partsAt_here {address : String} {place : Place} (here : place.address = address)
    (tree : Json) : partsAt address place tree = [tree] := by
  cases tree <;> simp only [partsAt, here, if_true]

theorem partsAt_scalar {address : String} {place : Place} (elsewhere : place.address ≠ address)
    {tree : Json} (scalar : tree.isScalar = true) : partsAt address place tree = [] := by
  cases tree with
  | array items => cases scalar
  | object members => cases scalar
  | _ => simp only [partsAt, elsewhere, if_false]

mutual

/-- The records of two respellings are respelled one by one. -/
theorem Respelled.records {spot : Spot} {tree other : Json} (respelled : Respelled kind spot tree other)
    {place : Place} (spotted : spot = .ofPlace kind place) :
    List.Forall₂ (Respelled kind (.record kind)) (partsAt kind.recordAddress place tree)
      (partsAt kind.recordAddress place other) := by
  by_cases here : place.address = kind.recordAddress
  · rw [partsAt_here here, partsAt_here here]
    rw [spotted, Spot.ofPlace, if_pos here] at respelled
    exact .cons respelled .nil
  · rw [Spot.ofPlace, if_neg here] at spotted
    cases respelled with
    | same scalar =>
        rw [partsAt_scalar here scalar]
        exact .nil
    | text wide fits =>
        rw [partsAt_scalar here rfl, partsAt_scalar here rfl]
        exact .nil
    | array each =>
        simp only [partsAt, here, if_false]
        refine each.records ?_
        rw [spotted, Spot.item]
    | object each =>
        simp only [partsAt, here, if_false]
        exact each.records spotted

theorem RespelledItems.records {spot : Spot} {items others : List Json}
    (respelled : RespelledItems kind spot items others) {place : Place}
    (spotted : spot = .ofPlace kind place) :
    List.Forall₂ (Respelled kind (.record kind)) (itemPartsAt kind.recordAddress place items)
      (itemPartsAt kind.recordAddress place others) := by
  cases respelled with
  | nil => exact .nil
  | cons first rest =>
      simp only [itemPartsAt]
      exact List.rel_append (first.records spotted) (rest.records spotted)

theorem RespelledMembers.records {spot : Spot} {members others : List (String × Json)}
    (respelled : RespelledMembers kind spot members others) {place : Place}
    (spotted : spot = .outside place) :
    List.Forall₂ (Respelled kind (.record kind)) (memberPartsAt kind.recordAddress place members)
      (memberPartsAt kind.recordAddress place others) := by
  cases respelled with
  | nil => exact .nil
  | cons first rest =>
      simp only [memberPartsAt]
      refine List.rel_append (first.records ?_) (rest.records spotted)
      rw [spotted, Spot.member]

end

/-- The document itself is no record. -/
theorem Spot.ofPlace_root : ofPlace kind [] = .outside [] :=
  if_neg (by cases kind <;> decide)

/-! ## Parts that have no wide integers -/

/-- No place at or below this one has the address. -/
def Place.Apart (place : Place) (address : String) : Prop :=
  forall below : Place, Place.address (place ++ below) ≠ address

/-- Below a place with an address of its own, every address begins with that of the place. -/
theorem Place.address_prefix {place : Place} (named : place.address ≠ "") (below : Place) :
    place.address.toList <+: (Place.address (place ++ below)).toList := by
  have nonempty : place ≠ [] := by
    intro empty
    rw [empty] at named
    exact named rfl
  by_cases last : below = []
  · simp only [last, List.append_nil]
    exact List.prefix_rfl
  · unfold Place.address
    rw [String.intercalate_append_of_ne_nil nonempty last, String.toList_append,
      String.toList_append, List.append_assoc]
    exact List.prefix_append _ _

theorem Place.apart_of_prefix {place : Place} {address : String} (named : place.address ≠ "")
    (free : ¬ place.address.toList <+: address.toList) : place.Apart address := by
  intro below same
  apply free
  rw [← same]
  exact address_prefix named below

theorem Place.Apart.append {place : Place} {address : String} (apart : place.Apart address)
    (name : String) : Place.Apart (place ++ [name]) address := by
  intro below
  rw [List.append_assoc]
  exact apart ([name] ++ below)

theorem Place.Apart.here {place : Place} {address : String} (apart : place.Apart address) :
    place.address ≠ address := by
  have this := apart []
  rwa [List.append_nil] at this

/-- What makes spots barren: none of them is that of a wide integer, and they lead to each other
only. -/
structure Barren (kind : TraceKind) (spots : Spot -> Prop) : Prop where
  narrow : forall spot, spots spot -> ¬ spot.IsWide kind
  item : forall spot, spots spot -> spots (spot.item kind)
  member : forall spot, spots spot -> forall name, spots (spot.member kind name)

section

variable {spots : Spot -> Prop}

mutual

/-- Parts at barren spots are not respelled at all. -/
theorem Respelled.eq_of_barren {spot : Spot} {tree other : Json}
    (respelled : Respelled kind spot tree other) (barren : Barren kind spots)
    (here : spots spot) : tree = other := by
  cases respelled with
  | same scalar => rfl
  | text wide fits => exact absurd wide (barren.narrow spot here)
  | array each => rw [each.eq_of_barren barren (barren.item spot here)]
  | object each => rw [each.eq_of_barren barren (barren.member spot here)]

theorem RespelledItems.eq_of_barren {spot : Spot} {items others : List Json}
    (respelled : RespelledItems kind spot items others) (barren : Barren kind spots)
    (here : spots spot) : items = others := by
  cases respelled with
  | nil => rfl
  | cons first rest => rw [first.eq_of_barren barren here, rest.eq_of_barren barren here]

theorem RespelledMembers.eq_of_barren {spot : Spot} {members others : List (String × Json)}
    (respelled : RespelledMembers kind spot members others) (barren : Barren kind spots)
    (here : forall name, spots (spot.member kind name)) : members = others := by
  cases respelled with
  | nil => rfl
  | @cons _ name _ _ _ _ first rest =>
      rw [first.eq_of_barren barren (here name), rest.eq_of_barren barren here]

end

end

/-- Inside a message, the spots without wide integers are barren. -/
theorem barren_narrow : Barren kind fun spot => spot = .narrow where
  narrow := by
    intro spot same
    rw [same]
    exact not_false
  item := by
    intro spot same
    rw [same]
    rfl
  member := by
    intro spot same name
    rw [same]
    rfl

/-- A place is barren if neither a record nor the offset can be at or below it. -/
theorem barren_apart : Barren kind fun spot => Exists fun place : Place =>
    spot = .outside place ∧ place.Apart kind.recordAddress ∧ place.Apart kind.offsetName where
  narrow := by
    rintro _ ⟨place, rfl, _, noOffset⟩ wide
    exact noOffset.here wide
  item := by
    rintro _ ⟨place, rfl, noRecord, noOffset⟩
    refine ⟨place ++ [itemName], ?_, noRecord.append itemName, noOffset.append itemName⟩
    rw [Spot.item, Spot.ofPlace, if_neg (noRecord.append itemName).here]
  member := by
    rintro _ ⟨place, rfl, noRecord, noOffset⟩ name
    refine ⟨place ++ [name], ?_, noRecord.append name, noOffset.append name⟩
    rw [Spot.member, Spot.ofPlace, if_neg (noRecord.append name).here]

/-- An address that is found neither in nor around the records and the offset of a format. -/
structure Unrelated (kind : TraceKind) (address : String) : Prop where
  named : address ≠ ""
  free : ¬ kind.recordAddress.toList <+: address.toList
  noRecord : ¬ address.toList <+: kind.recordAddress.toList
  noOffset : ¬ address.toList <+: kind.offsetName.toList

/-- Where a part of a spot can be: at the place that the spot tells, or else inside a record, where
nothing has the address that is looked for. -/
def Spot.Follows (address : String) : Spot -> Place -> Prop
  | .outside place, other => place = other
  | _, place => place.Apart address

variable {address : String}

theorem Spot.follows_ofPlace (unrelated : Unrelated kind address) (place : Place) :
    (ofPlace kind place).Follows address place := by
  unfold ofPlace
  by_cases here : place.address = kind.recordAddress
  · rw [if_pos here]
    have apart : place.Apart address := by
      apply Place.apart_of_prefix
      · rw [here]
        cases kind <;> decide
      · rw [here]
        exact unrelated.free
    cases kind <;> exact apart
  · rw [if_neg here]
    rfl

theorem Spot.Follows.item {spot : Spot} {place : Place} (follows : spot.Follows address place)
    (unrelated : Unrelated kind address) :
    (spot.item kind).Follows address (place ++ [itemName]) := by
  cases spot with
  | outside other =>
      rw [show other = place from follows]
      exact follows_ofPlace unrelated _
  | _ => exact Place.Apart.append follows itemName

theorem Spot.Follows.member {spot : Spot} {place : Place} (follows : spot.Follows address place)
    (unrelated : Unrelated kind address) (name : String) : (spot.member kind name).Follows address (place ++ [name]) := by
  cases spot with
  | outside other =>
      rw [show other = place from follows]
      exact follows_ofPlace unrelated _
  | message =>
      rw [Spot.member]
      split
      · exact Place.Apart.append follows name
      · split <;> exact Place.Apart.append follows name
  | _ => exact Place.Apart.append follows name

mutual

/-- The parts at an address with neither records nor the offset in them are the same in two
respellings. -/
theorem Respelled.partsAt_eq {spot : Spot} {tree other : Json}
    (respelled : Respelled kind spot tree other) (unrelated : Unrelated kind address)
    {place : Place} (follows : spot.Follows address place) :
    partsAt address place tree = partsAt address place other := by
  by_cases here : place.address = address
  · rw [partsAt_here here, partsAt_here here]
    cases spot with
    | outside spotted =>
        rw [show spotted = place from follows] at respelled
        have noRecord : place.Apart kind.recordAddress :=
          Place.apart_of_prefix (here ▸ unrelated.named) (here ▸ unrelated.noRecord)
        have noOffset : place.Apart kind.offsetName :=
          Place.apart_of_prefix (here ▸ unrelated.named) (here ▸ unrelated.noOffset)
        rw [respelled.eq_of_barren barren_apart ⟨place, rfl, noRecord, noOffset⟩]
    | _ => exact absurd here (Place.Apart.here follows)
  · cases respelled with
    | same scalar => rfl
    | text wide fits => rw [partsAt_scalar here rfl, partsAt_scalar here rfl]
    | array each =>
        simp only [partsAt, here, if_false]
        exact each.partsAt_eq unrelated (follows.item unrelated)
    | object each =>
        simp only [partsAt, here, if_false]
        exact each.partsAt_eq unrelated follows

theorem RespelledItems.partsAt_eq {spot : Spot} {items others : List Json}
    (respelled : RespelledItems kind spot items others) (unrelated : Unrelated kind address)
    {place : Place} (follows : spot.Follows address place) :
    itemPartsAt address place items = itemPartsAt address place others := by
  cases respelled with
  | nil => rfl
  | cons first rest =>
      rw [itemPartsAt, itemPartsAt, first.partsAt_eq unrelated follows,
        rest.partsAt_eq unrelated follows]

theorem RespelledMembers.partsAt_eq {spot : Spot} {members others : List (String × Json)}
    (respelled : RespelledMembers kind spot members others) (unrelated : Unrelated kind address)
    {place : Place} (follows : spot.Follows address place) :
    memberPartsAt address place members = memberPartsAt address place others := by
  cases respelled with
  | nil => rfl
  | @cons _ name _ _ _ _ first rest =>
      rw [memberPartsAt, memberPartsAt, first.partsAt_eq unrelated (follows.member unrelated name),
        rest.partsAt_eq unrelated follows]

end

theorem unrelated_viewerConfig : Unrelated kind "viewerConfig" where
  named := by decide
  free := by cases kind <;> decide
  noRecord := by cases kind <;> decide
  noOffset := by cases kind <;> decide

/-- Two respellings hold the same viewer configurations. -/
theorem Respelled.viewerConfigs {tree other : Json}
    (respelled : Respelled kind (.outside []) tree other) :
    partsAt "viewerConfig" [] tree = partsAt "viewerConfig" [] other :=
  respelled.partsAt_eq unrelated_viewerConfig rfl

/-! ## Headers -/

/-- Two headers with the same names, in which the same integers can be looked up. -/
structure Header.Alike (header other : Header) : Prop where
  names : header.names = other.names
  integers : forall name, (header.scalars.lookup name).bind Value.toInt? =
    (other.scalars.lookup name).bind Value.toInt?

namespace Header

variable {header other : Header}

theorem Alike.refl (header : Header) : header.Alike header := ⟨rfl, fun _ => rfl⟩

theorem Alike.addName (alike : header.Alike other) (name : String) :
    (header.addName name).Alike (other.addName name) := by
  unfold Header.addName
  rw [alike.names]
  by_cases seen : other.names.contains name = true
  · rw [if_pos seen, if_pos seen]
    exact alike
  · rw [if_neg seen, if_neg seen]
    exact ⟨rfl, alike.integers⟩

/-- Scalars that are alike as integers leave headers alike. -/
theorem Alike.addScalar (alike : header.Alike other) (address : String) {value otherValue : Value}
    (nulls : value.isNull = otherValue.isNull) (integers : value.toInt? = otherValue.toInt?) :
    (header.addScalar address value).Alike (other.addScalar address otherValue) := by
  unfold Header.addScalar
  rw [alike.names, nulls]
  by_cases seen : (!otherValue.isNull && other.names.contains address) = true
  · rw [if_pos seen, if_pos seen]
    refine ⟨rfl, ?_⟩
    intro name
    by_cases same : name = address
    · subst same
      rw [Fields.lookup_put_self, Fields.lookup_put_self, Option.bind_some, Option.bind_some,
        integers]
    · rw [Fields.lookup_put_of_ne same, Fields.lookup_put_of_ne same]
      exact alike.integers name
  · rw [if_neg seen, if_neg seen]
    exact alike

theorem scan_scalar (place : Place) (header : Header) {tree : Json}
    (scalar : tree.isScalar = true) :
    header.scan place tree =
      if place.address = "" then none else some (header.addScalar place.address tree.exactValue) := by
  cases tree with
  | array items => cases scalar
  | object members => cases scalar
  | _ => rfl

end Header

/-- A written integer is the same integer. -/
theorem toInt?_of_write {n : Int} {text : String} (written : Numeral.write n = .ok text) :
    (Value.int n).toInt? = (Value.string text).toInt? := by
  simp only [Value.toInt?, Value.integer?, Numeral.read_write written]

theorem scalar_alike {place : Place} {header other : Header} (alike : header.Alike other)
    {tree respelled : Json} (scalar : tree.isScalar = true) (otherScalar : respelled.isScalar = true)
    (nulls : tree.exactValue.isNull = respelled.exactValue.isNull)
    (integers : tree.exactValue.toInt? = respelled.exactValue.toInt?) :
    Option.Rel Header.Alike (header.scan place tree) (other.scan place respelled) := by
  rw [Header.scan_scalar place header scalar, Header.scan_scalar place other otherScalar]
  by_cases root : place.address = ""
  · rw [if_pos root, if_pos root]
    exact .none
  · rw [if_neg root, if_neg root]
    exact .some (alike.addScalar place.address nulls integers)

theorem rel_bind {α β : Type} {related : α -> α -> Prop} {relatedLater : β -> β -> Prop}
    {first second : Option α} {next otherNext : α -> Option β}
    (same : Option.Rel related first second)
    (following : forall one other, related one other ->
      Option.Rel relatedLater (next one) (otherNext other)) :
    Option.Rel relatedLater (first.bind next) (second.bind otherNext) := by
  cases same with
  | none => exact .none
  | some same => exact following _ _ same

mutual

/-- Two respellings have headers that are alike, or none. -/
theorem Respelled.scan {spot : Spot} {tree respelling : Json}
    (respelled : Respelled kind spot tree respelling) (place : Place) {header other : Header}
    (alike : header.Alike other) :
    Option.Rel Header.Alike (header.scan place tree) (other.scan place respelling) := by
  cases respelled with
  | same scalar => exact scalar_alike alike scalar scalar rfl rfl
  | text wide fits => exact scalar_alike alike rfl rfl rfl (toInt?_of_write (Numeral.write_of_fits fits))
  | array each =>
      rw [Header.scan, Header.scan]
      by_cases root : place.address = ""
      · rw [if_pos root, if_pos root]
        exact .none
      · rw [if_neg root, if_neg root]
        exact each.scan (place ++ [itemName]) alike
  | object each =>
      rw [Header.scan, Header.scan]
      exact each.scan place alike

theorem RespelledItems.scan {spot : Spot} {items others : List Json}
    (respelled : RespelledItems kind spot items others) (place : Place) {header other : Header}
    (alike : header.Alike other) :
    Option.Rel Header.Alike (header.scanItems place items) (other.scanItems place others) := by
  cases respelled with
  | nil => exact .some alike
  | cons first rest =>
      rw [Header.scanItems, Header.scanItems]
      exact rel_bind (first.scan place alike) fun _ _ next => rest.scan place next

theorem RespelledMembers.scan {spot : Spot} {members others : List (String × Json)}
    (respelled : RespelledMembers kind spot members others) (place : Place) {header other : Header}
    (alike : header.Alike other) :
    Option.Rel Header.Alike (header.scanMembers place members)
      (other.scanMembers place others) := by
  cases respelled with
  | nil => exact .some alike
  | @cons _ name _ _ _ _ first rest =>
      rw [Header.scanMembers, Header.scanMembers]
      have named : (if place.address = "" then header.addName name else header).Alike
          (if place.address = "" then other.addName name else other) := by
        by_cases root : place.address = ""
        · rw [if_pos root, if_pos root]
          exact alike.addName name
        · rw [if_neg root, if_neg root]
          exact alike
      exact rel_bind (first.scan (place ++ [name]) named) fun _ _ next => rest.scan place next

end

/-! ## Readings -/

/-- What reading two texts gives when one is a respelling of the other: two documents that are
respellings, or the same problem after parts that are. -/
inductive Reading.Respelled (kind : TraceKind) : Reading -> Reading -> Prop where
  | whole {tree other : Json} (respelled : Json.Respelled kind (.outside []) tree other) :
      Respelled kind (.whole tree) (.whole other)
  | stopped {soFar other : Option Json} {problem : Problem}
      (respelled : Option.Rel (Json.Respelled kind (.outside [])) soFar other) :
      Respelled kind (.stopped soFar problem) (.stopped other problem)

/-- Two respellings are both refused, for the same reason, or both read. -/
theorem readTrace_respelled {bytes others : List UInt8}
    (respelled : Reading.Respelled kind (read .trace bytes) (read .trace others)) :
    (Exists fun error : HeaderError =>
      readTrace bytes = .error error ∧ readTrace others = .error error) ∨
    Exists fun header : Header => Exists fun other : Header =>
      Exists fun tree : Json => Exists fun respelling : Json =>
        readTrace bytes = .ok (header, tree) ∧ readTrace others = .ok (other, respelling) ∧
          header.Alike other ∧ Json.Respelled kind (.outside []) tree respelling := by
  unfold readTrace
  generalize read .trace bytes = first at respelled
  generalize read .trace others = second at respelled
  cases respelled with
  | @whole tree respelling respelled =>
      have alike : Option.Rel Header.Alike (Header.ofTree? tree) (Header.ofTree? respelling) :=
        respelled.scan [] (Header.Alike.refl .empty)
      dsimp only
      generalize Header.ofTree? tree = header at alike
      generalize Header.ofTree? respelling = other at alike
      cases alike with
      | none => exact Or.inl ⟨_, rfl, rfl⟩
      | some alike => exact Or.inr ⟨_, _, _, _, rfl, rfl, alike, respelled⟩
  | @stopped soFar other problem respelled =>
      left
      cases respelled with
      | none => exact ⟨_, rfl, rfl⟩
      | @some tree respelling respelled =>
          have alike : Option.Rel Header.Alike (Header.ofTree? tree) (Header.ofTree? respelling) :=
            respelled.scan [] (Header.Alike.refl .empty)
          dsimp only [Option.map_some]
          generalize Header.ofTree? tree = header at alike
          generalize Header.ofTree? respelling = other at alike
          cases alike with
          | none => exact ⟨_, rfl, rfl⟩
          | some alike => exact ⟨_, rfl, rfl⟩

end Json

end TraceView

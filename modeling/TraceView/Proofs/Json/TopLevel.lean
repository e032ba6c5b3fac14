import Mathlib.Data.List.TakeWhile
import TraceView.Proofs.Fields.Names
import TraceView.Proofs.Json.Respelling

namespace TraceView.Json

/-!
# The top of a document

The parts of a document are found by their addresses, which do not say how deep a part lies.  At
the top nothing is mixed up if the members have different names, none of which is empty or has a
point in it.  Every address inside a member then begins with the name of the member and a point.
So an address leads into one member at most, and no part further down has the name of a member as
its address, whatever the names are that lead to it.
-/

/-- A name that can be told from all addresses of parts further down. -/
structure IsPlain (name : String) : Prop where
  named : name ≠ ""
  pointless : '.' ∉ name.toList

/-- Members that can be told apart by addresses. -/
structure TopLevel (members : List (String × Json)) : Prop where
  distinct : Fields.Distinct members
  plain : forall name, name ∈ members.map Prod.fst -> IsPlain name

/-- The name of the member into which an address leads: what comes before its first point. -/
def top (address : String) : String :=
  String.ofList (address.toList.takeWhile (· != '.'))

/-- The value of a text, a number or a truth value. -/
def atom? : Json -> Option Value
  | .bool flag => some (.bool flag)
  | .integer n => some (.int n)
  | .decimal d => some (.decimal d)
  | .string text => some (.string text)
  | _ => none

/-- The members that hold a text, a number or a truth value, with their values. -/
def atoms (members : List (String × Json)) : List (String × Value) :=
  members.filterMap fun member => member.2.atom?.map fun value => (member.1, value)

variable {address name : String} {place : Place} {members others : List (String × Json)}

theorem atoms_cons (name : String) (member : Json) (rest : List (String × Json)) :
    atoms ((name, member) :: rest) = atoms [(name, member)] ++ atoms rest :=
  List.filterMap_append (l := [(name, member)])

/-- The atoms keep their names and their order. -/
theorem names_atoms (members : List (String × Json)) :
    ((atoms members).map Prod.fst).Sublist (members.map Prod.fst) := by
  induction members with
  | nil => exact List.Sublist.slnil
  | cons first rest inductionHypothesis =>
      rcases first with ⟨name, member⟩
      have one : ((atoms [(name, member)]).map Prod.fst).Sublist [name] := by
        cases member with
        | null => exact List.nil_sublist _
        | array items => exact List.nil_sublist _
        | object members => exact List.nil_sublist _
        | _ => exact List.Sublist.refl _
      rw [atoms_cons, List.map_append]
      exact one.append inductionHypothesis

theorem TopLevel.of_perm (level : TopLevel members) (same : members.Perm others) :
    TopLevel others where
  distinct := (same.map Prod.fst).nodup_iff.mp level.distinct
  plain name listed := level.plain name ((same.map Prod.fst).mem_iff.mpr listed)

/-! ## Addresses -/

theorem Place.address_cons {below : Place} (deeper : below ≠ []) (name : String) :
    Place.address (name :: below) = name ++ "." ++ below.address :=
  String.intercalate_cons_of_ne_nil deeper

/-- Every address inside a member leads into the member. -/
theorem top_address (plain : IsPlain name) (below : Place) :
    top (Place.address (name :: below)) = name := by
  have kept : forall c, c ∈ name.toList -> (c != '.') = true := by
    intro c member
    apply bne_iff_ne.mpr
    intro point
    rw [point] at member
    exact plain.pointless member
  by_cases last : below = []
  · rw [last, show Place.address [name] = name from String.intercalate_singleton, top,
      List.takeWhile_eq_self_iff.mpr kept, String.ofList_toList]
  · rw [Place.address_cons last, top, String.toList_append, String.toList_append,
      List.append_assoc, List.takeWhile_append_of_pos kept]
    exact (congrArg String.ofList (List.append_nil _)).trans String.ofList_toList

theorem Place.apart_of_top (plain : IsPlain name) (elsewhere : name ≠ top address) :
    Place.Apart [name] address := by
  intro below same
  apply elsewhere
  rw [← same, List.singleton_append, top_address plain]

theorem Place.named_of_pointed (pointed : '.' ∈ place.address.toList) : place.address ≠ "" := by
  intro empty
  rw [empty] at pointed
  cases pointed

/-- A point that is in an address stays in the addresses below. -/
theorem Place.pointed_append (pointed : '.' ∈ place.address.toList) (name : String) :
    '.' ∈ (Place.address (place ++ [name])).toList :=
  (Place.address_prefix (Place.named_of_pointed pointed) [name]).subset pointed

theorem Place.pointed_pair (outer inner : String) :
    '.' ∈ (Place.address ([outer] ++ [inner])).toList := by
  rw [List.singleton_append, Place.address_cons (List.cons_ne_nil inner []), String.toList_append,
    String.toList_append]
  exact List.mem_append_left _ (List.mem_append_right _ List.mem_cons_self)

/-! ## Parts -/

mutual

theorem partsAt_of_apart {place : Place} (apart : place.Apart address) (tree : Json) :
    partsAt address place tree = [] := by
  cases tree with
  | array items =>
      rw [partsAt, if_neg apart.here]
      exact itemPartsAt_of_apart (apart.append itemName) items
  | object members =>
      rw [partsAt, if_neg apart.here]
      exact memberPartsAt_of_apart fun name _ => apart.append name
  | _ => exact partsAt_scalar apart.here rfl

theorem itemPartsAt_of_apart {place : Place} (apart : place.Apart address) (items : List Json) :
    itemPartsAt address place items = [] := by
  cases items with
  | nil => rfl
  | cons item rest =>
      rw [itemPartsAt, partsAt_of_apart apart item, itemPartsAt_of_apart apart rest,
        List.append_nil]

theorem memberPartsAt_of_apart {place : Place} {members : List (String × Json)}
    (apart : forall name, name ∈ members.map Prod.fst -> Place.Apart (place ++ [name]) address) :
    memberPartsAt address place members = [] := by
  cases members with
  | nil => rfl
  | cons member rest =>
      rw [memberPartsAt, partsAt_of_apart (apart member.1 List.mem_cons_self) member.2,
        memberPartsAt_of_apart fun name listed => apart name (List.mem_cons_of_mem _ listed),
        List.append_nil]

end

/-- An address leads into the member that is named before its first point, and nowhere else. -/
theorem partsAt_object (level : TopLevel members) (named : address ≠ "") :
    partsAt address [] (.object members) =
      ((members.lookup (top address)).map (partsAt address [top address])).getD [] := by
  rw [partsAt, if_neg (show Place.address [] ≠ address from Ne.symm named)]
  rcases level with ⟨distinct, plain⟩
  induction members with
  | nil => rfl
  | cons first rest inductionHypothesis =>
      rcases first with ⟨name, member⟩
      rcases List.nodup_cons.mp distinct with ⟨fresh, distinct⟩
      have others := fun name listed => plain name (List.mem_cons_of_mem _ listed)
      rw [memberPartsAt, List.nil_append, List.lookup_cons]
      by_cases here : top address = name
      · rw [here, beq_self_eq_true, memberPartsAt_of_apart, List.append_nil]
        · rfl
        · intro other listed
          apply Place.apart_of_top (others other listed)
          intro same
          rw [same, here] at listed
          exact fresh listed
      · rw [beq_eq_false_iff_ne.mpr here, inductionHypothesis distinct others,
          partsAt_of_apart (Place.apart_of_top (plain name List.mem_cons_self) (Ne.symm here)),
          List.nil_append]

/-- The items of an array are the parts at their address, whatever is inside them. -/
theorem partsAt_items {place : Place} (here : Place.address (place ++ [itemName]) = address)
    (above : place.address ≠ address) (items : List Json) :
    partsAt address place (.array items) = items := by
  rw [partsAt, if_neg above]
  induction items with
  | nil => rfl
  | cons item rest inductionHypothesis =>
      rw [itemPartsAt, partsAt_here here, inductionHypothesis, List.singleton_append]

/-- In which order the members are given does not matter to the parts at an address. -/
theorem partsAt_of_perm (level : TopLevel members) (same : members.Perm others)
    (named : address ≠ "") :
    partsAt address [] (.object members) = partsAt address [] (.object others) := by
  rw [partsAt_object level named, partsAt_object (level.of_perm same) named,
    Fields.lookup_of_perm level.distinct same]

/-! ## Headers -/

namespace Header

variable {header : Header}

mutual

/-- A part whose address has a point in it leaves no trace in the header. -/
theorem scan_of_pointed {place : Place} (pointed : '.' ∈ place.address.toList)
    (plain : forall name, name ∈ header.names -> IsPlain name) (tree : Json) :
    header.scan place tree = some header := by
  have below := Place.named_of_pointed pointed
  cases tree with
  | array items =>
      rw [scan, if_neg below]
      exact scanItems_of_pointed (Place.pointed_append pointed itemName) plain items
  | object members =>
      rw [scan]
      exact scanMembers_of_pointed below (Place.pointed_append pointed) plain members
  | _ =>
      have unseen : header.names.contains place.address = false := by
        apply Bool.eq_false_iff.mpr
        intro seen
        exact (plain place.address (List.contains_iff_mem.mp seen)).pointless pointed
      rw [scan_scalar place header rfl, if_neg below, addScalar, unseen, Bool.and_false]
      rfl

theorem scanItems_of_pointed {place : Place} (pointed : '.' ∈ place.address.toList)
    (plain : forall name, name ∈ header.names -> IsPlain name) (items : List Json) :
    header.scanItems place items = some header := by
  cases items with
  | nil => rfl
  | cons item rest =>
      rw [scanItems, scan_of_pointed pointed plain item, Option.bind_some,
        scanItems_of_pointed pointed plain rest]

theorem scanMembers_of_pointed {place : Place} (named : place.address ≠ "")
    (pointed : forall name, '.' ∈ (Place.address (place ++ [name])).toList)
    (plain : forall name, name ∈ header.names -> IsPlain name) (members : List (String × Json)) :
    header.scanMembers place members = some header := by
  cases members with
  | nil => rfl
  | cons member rest =>
      rw [scanMembers, if_neg named, scan_of_pointed (pointed member.1) plain, Option.bind_some,
        scanMembers_of_pointed named pointed plain rest]

end

/-- A member whose name has been seen extends the header by its value, if that is a text, a number
or a truth value. -/
theorem scan_member (seen : name ∈ header.names)
    (plain : forall name, name ∈ header.names -> IsPlain name)
    (fresh : name ∉ header.scalars.map Prod.fst) (member : Json) :
    header.scan [name] member =
      some { header with scalars := header.scalars ++ atoms [(name, member)] } := by
  have here : Place.address [name] = name := String.intercalate_singleton
  have listed : header.names.contains name = true := List.contains_iff_mem.mpr seen
  have named : Place.address [name] ≠ "" := by
    rw [here]
    exact (plain name seen).named
  have unchanged : some header = some { header with scalars := header.scalars ++ [] } := by
    rw [List.append_nil]
  cases member with
  | null =>
      rw [scan_scalar [name] header rfl, if_neg named]
      exact unchanged
  | array items =>
      rw [scan, if_neg named, scanItems_of_pointed (Place.pointed_pair name itemName) plain]
      exact unchanged
  | object members =>
      rw [scan, scanMembers_of_pointed named (Place.pointed_pair name) plain]
      exact unchanged
  | _ =>
      rw [scan_scalar [name] header rfl, if_neg named, here, addScalar, listed]
      exact congrArg (fun scalars => some (Header.mk header.names scalars))
        (Fields.put_of_fresh fresh _)

/-- The members of a document extend the header by their names and their values. -/
theorem scanMembers_top (level : TopLevel members)
    (plain : forall name, name ∈ header.names -> IsPlain name)
    (fresh : forall name, name ∈ members.map Prod.fst -> name ∉ header.names)
    (known : forall name, name ∈ header.scalars.map Prod.fst -> name ∈ header.names) :
    header.scanMembers [] members =
      some ⟨header.names ++ members.map Prod.fst, header.scalars ++ atoms members⟩ := by
  induction members generalizing header with
  | nil => rw [scanMembers, List.map_nil, atoms, List.filterMap_nil, List.append_nil, List.append_nil]
  | cons first rest inductionHypothesis =>
      rcases first with ⟨name, member⟩
      rcases List.nodup_cons.mp level.distinct with ⟨unrepeated, distinct⟩
      have unseen : name ∉ header.names := fresh name List.mem_cons_self
      have added : header.addName name = { header with names := header.names ++ [name] } := by
        rw [addName, List.contains_eq_mem, decide_eq_false unseen]
        rfl
      have names : forall other, other ∈ header.names ++ [name] -> IsPlain other := by
        intro other listed
        rcases List.mem_append.mp listed with before | last
        · exact plain other before
        · rw [List.mem_singleton.mp last]
          exact level.plain name List.mem_cons_self
      have scanned : scan [name] ⟨header.names ++ [name], header.scalars⟩ member =
          some ⟨header.names ++ [name], header.scalars ++ atoms [(name, member)]⟩ :=
        @scan_member name ⟨header.names ++ [name], header.scalars⟩
          (List.mem_append_right _ List.mem_cons_self) names
          (fun listed => unseen (known name listed)) member
      have later : TopLevel rest :=
        ⟨distinct, fun other listed => level.plain other (List.mem_cons_of_mem _ listed)⟩
      rw [scanMembers, if_pos (show Place.address [] = "" from rfl), added, List.nil_append, scanned,
        Option.bind_some, inductionHypothesis later names, List.append_assoc, List.append_assoc,
        atoms_cons name member rest]
      · rfl
      · intro other listed seen
        rcases List.mem_append.mp seen with before | last
        · exact fresh other (List.mem_cons_of_mem _ listed) before
        · rw [List.mem_singleton.mp last] at listed
          exact unrepeated listed
      · intro other listed
        rw [List.map_append] at listed
        rcases List.mem_append.mp listed with before | last
        · exact List.mem_append_left _ (known other before)
        · exact List.mem_append_right _ ((names_atoms [(name, member)]).subset last)

/-- The header of a document by its structure: the names of the members, and the values of those
that are texts, numbers or truth values. -/
theorem ofTree?_object (level : TopLevel members) :
    ofTree? (.object members) = some ⟨members.map Prod.fst, atoms members⟩ := by
  rw [ofTree?, scan, scanMembers_top level]
  · rfl
  · exact fun name impossible => absurd impossible List.not_mem_nil
  · exact fun name _ => List.not_mem_nil
  · exact fun name impossible => absurd impossible List.not_mem_nil

end Header

end TraceView.Json

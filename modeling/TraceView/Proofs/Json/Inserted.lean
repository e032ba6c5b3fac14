import TraceView.Proofs.Json.TopLevel
import TraceView.Proofs.Trace.Records

namespace TraceView.Json

/-!
# A document with a member more

A member is inserted at the top of a document, at any place among the other members.  What can be
found outside of it stays what it was.  Its name begins all addresses inside it, so no other address
leads there, whatever the other members are called.  The header may change, but only in the name of
the member and in the scalars at addresses inside it.
-/

variable {name : String} {place : Place} {address : String}

/-! ## Addresses -/

/-- A plain name is its own address. -/
theorem top_self (plain : IsPlain name) : top name = name := by
  have here := top_address plain []
  rwa [show Place.address [name] = name from String.intercalate_singleton] at here

theorem named_of_top (plain : IsPlain name) (inside : top address = name) : address ≠ "" := by
  intro root
  rw [root] at inside
  exact plain.named inside.symm

/-! ## Parts -/

theorem memberPartsAt_append (address : String) (place : Place) (front back : List (String × Json)) :
    memberPartsAt address place (front ++ back) =
      memberPartsAt address place front ++ memberPartsAt address place back := by
  induction front with
  | nil => rfl
  | cons first rest inductionHypothesis =>
      rw [List.cons_append, memberPartsAt, inductionHypothesis, memberPartsAt, List.append_assoc]

/-- The parts at an address that does not lead into the member are those that there were. -/
theorem partsAt_insert_of_top (plain : IsPlain name) (named : address ≠ "")
    (elsewhere : top address ≠ name) (front back : List (String × Json)) (member : Json) :
    partsAt address [] (.object (front ++ (name, member) :: back)) =
      partsAt address [] (.object (front ++ back)) := by
  have root : Place.address [] ≠ address := named.symm
  have apart : Place.Apart [name] address := Place.apart_of_top plain elsewhere.symm
  rw [partsAt, partsAt, if_neg root, if_neg root, memberPartsAt_append, memberPartsAt_append,
    memberPartsAt, List.nil_append, partsAt_of_apart apart, List.nil_append]

/-- The member itself is the only part at its address, if there was none. -/
theorem partsAt_insert_self (plain : IsPlain name) {front back : List (String × Json)}
    (missing : partsAt name [] (.object (front ++ back)) = []) (member : Json) :
    partsAt name [] (.object (front ++ (name, member) :: back)) = [member] := by
  have root : Place.address [] ≠ name := plain.named.symm
  have here : Place.address [name] = name := String.intercalate_singleton
  rw [partsAt, if_neg root, memberPartsAt_append] at missing
  rcases List.append_eq_nil_iff.mp missing with ⟨before, after⟩
  rw [partsAt, if_neg root, memberPartsAt_append, memberPartsAt, List.nil_append, before, after,
    partsAt_here here]
  rfl

/-! ## Headers -/

namespace Header

/-- Two headers that agree in all names but one, and in all scalars but those at addresses inside
the member of this name. -/
structure AgreeOutside (name : String) (header other : Header) : Prop where
  names : forall outer, outer ≠ name -> header.names.contains outer = other.names.contains outer
  scalars : forall outer, top outer ≠ name ->
    header.scalars.lookup outer = other.scalars.lookup outer

variable {header other : Header}

theorem AgreeOutside.refl (name : String) (header : Header) : header.AgreeOutside name header :=
  ⟨fun _ _ => rfl, fun _ _ => rfl⟩

theorem contains_addName (header : Header) (name outer : String) :
    (header.addName name).names.contains outer = (header.names.contains outer || name == outer) := by
  unfold addName
  by_cases seen : header.names.contains name = true
  · rw [if_pos seen]
    by_cases same : name = outer
    · rw [← same, seen, Bool.true_or]
    · rw [beq_eq_false_iff_ne.mpr same, Bool.or_false]
  · rw [if_neg seen]
    simp only [List.contains_append, List.contains_cons, List.contains_nil, Bool.or_false,
      Bool.beq_comm]

theorem names_addScalar (header : Header) (address : String) (value : Value) :
    (header.addScalar address value).names = header.names := by
  unfold addScalar
  split <;> rfl

theorem lookup_addScalar_of_ne {outer : String} (different : outer ≠ address) (header : Header)
    (value : Value) :
    (header.addScalar address value).scalars.lookup outer = header.scalars.lookup outer := by
  unfold addScalar
  split
  · exact Fields.lookup_put_of_ne different value header.scalars
  · rfl

namespace AgreeOutside

/-- The same name is noted in both headers. -/
theorem addName (agree : header.AgreeOutside name other) (outer : String) :
    (header.addName outer).AgreeOutside name (other.addName outer) where
  names another different := by
    rw [contains_addName, contains_addName, agree.names another different]
  scalars := by
    have kept : forall one : Header, (one.addName outer).scalars = one.scalars := by
      intro one
      unfold Header.addName
      split <;> rfl
    rw [kept, kept]
    exact agree.scalars

/-- The name of the member is noted in one header only. -/
theorem addName_left (agree : header.AgreeOutside name other) :
    (header.addName name).AgreeOutside name other where
  names outer different := by
    rw [contains_addName, agree.names outer different, beq_eq_false_iff_ne.mpr different.symm,
      Bool.or_false]
  scalars := by
    unfold Header.addName
    split <;> exact agree.scalars

/-- The same scalar is noted in both headers.  Outside the member it is noted in both or in none. -/
theorem addScalar (plain : IsPlain name) (agree : header.AgreeOutside name other)
    (address : String) (value : Value) :
    (header.addScalar address value).AgreeOutside name (other.addScalar address value) where
  names outer different := by
    rw [names_addScalar, names_addScalar, agree.names outer different]
  scalars outer outside := by
    by_cases here : outer = address
    · subst here
      have different : outer ≠ name := by
        intro same
        rw [same, top_self plain] at outside
        exact outside rfl
      unfold Header.addScalar
      rw [agree.names outer different]
      split
      · rw [Fields.lookup_put_self, Fields.lookup_put_self]
      · exact agree.scalars outer outside
    · rw [lookup_addScalar_of_ne here, lookup_addScalar_of_ne here, agree.scalars outer outside]

/-- A scalar inside the member is noted in one header only. -/
theorem addScalar_left (agree : header.AgreeOutside name other) (inside : top address = name)
    (value : Value) : (header.addScalar address value).AgreeOutside name other where
  names outer different := by
    rw [names_addScalar, agree.names outer different]
  scalars outer outside := by
    have different : outer ≠ address := by
      intro same
      rw [same] at outside
      exact outside inside
    rw [lookup_addScalar_of_ne different, agree.scalars outer outside]

end AgreeOutside

mutual

/-- One part keeps two headers in agreement. -/
theorem AgreeOutside.scan (plain : IsPlain name) (place : Place) (tree : Json)
    {header other : Header} (agree : header.AgreeOutside name other) :
    Option.Rel (AgreeOutside name) (header.scan place tree) (other.scan place tree) := by
  cases tree with
  | array items =>
      rw [Header.scan, Header.scan]
      by_cases root : place.address = ""
      · rw [if_pos root, if_pos root]
        exact .none
      · rw [if_neg root, if_neg root]
        exact AgreeOutside.scanItems plain (place ++ [itemName]) items agree
  | object members =>
      rw [Header.scan, Header.scan]
      exact AgreeOutside.scanMembers plain place members agree
  | _ =>
      rw [scan_scalar place header rfl, scan_scalar place other rfl]
      by_cases root : place.address = ""
      · rw [if_pos root, if_pos root]
        exact .none
      · rw [if_neg root, if_neg root]
        exact .some (agree.addScalar plain place.address _)

theorem AgreeOutside.scanItems (plain : IsPlain name) (place : Place) (items : List Json)
    {header other : Header} (agree : header.AgreeOutside name other) :
    Option.Rel (AgreeOutside name) (header.scanItems place items)
      (other.scanItems place items) := by
  cases items with
  | nil => exact .some agree
  | cons item rest =>
      rw [Header.scanItems, Header.scanItems]
      exact rel_bind (AgreeOutside.scan plain place item agree) fun _ _ next =>
        AgreeOutside.scanItems plain place rest next

theorem AgreeOutside.scanMembers (plain : IsPlain name) (place : Place)
    (members : List (String × Json)) {header other : Header}
    (agree : header.AgreeOutside name other) :
    Option.Rel (AgreeOutside name) (header.scanMembers place members)
      (other.scanMembers place members) := by
  cases members with
  | nil => exact .some agree
  | cons first rest =>
      rw [Header.scanMembers, Header.scanMembers]
      have named : AgreeOutside name
          (if place.address = "" then header.addName first.1 else header)
          (if place.address = "" then other.addName first.1 else other) := by
        by_cases root : place.address = ""
        · rw [if_pos root, if_pos root]
          exact agree.addName first.1
        · rw [if_neg root, if_neg root]
          exact agree
      exact rel_bind (AgreeOutside.scan plain (place ++ [first.1]) first.2 named) fun _ _ next =>
        AgreeOutside.scanMembers plain place rest next

end

mutual

/-- A part inside the member is scanned without fail, and keeps a header in agreement with one for
which it is not scanned. -/
theorem AgreeOutside.scan_left (plain : IsPlain name) (below : Place) (tree : Json)
    {header other : Header} (agree : header.AgreeOutside name other) :
    Exists fun next : Header =>
      header.scan (name :: below) tree = some next ∧ next.AgreeOutside name other := by
  have inside : top (Place.address (name :: below)) = name := top_address plain below
  have named := named_of_top plain inside
  cases tree with
  | array items =>
      rw [Header.scan, if_neg named]
      exact AgreeOutside.scanItems_left plain (below ++ [itemName]) items agree
  | object members =>
      rw [Header.scan]
      exact AgreeOutside.scanMembers_left plain below members agree
  | _ =>
      rw [scan_scalar _ header rfl, if_neg named]
      exact ⟨_, rfl, agree.addScalar_left inside _⟩

theorem AgreeOutside.scanItems_left (plain : IsPlain name) (below : Place) (items : List Json)
    {header other : Header} (agree : header.AgreeOutside name other) :
    Exists fun next : Header =>
      header.scanItems (name :: below) items = some next ∧ next.AgreeOutside name other := by
  cases items with
  | nil => exact ⟨header, rfl, agree⟩
  | cons item rest =>
      rcases AgreeOutside.scan_left plain below item agree with ⟨next, scanned, still⟩
      rw [Header.scanItems, scanned, Option.bind_some]
      exact AgreeOutside.scanItems_left plain below rest still

theorem AgreeOutside.scanMembers_left (plain : IsPlain name) (below : Place)
    (members : List (String × Json)) {header other : Header}
    (agree : header.AgreeOutside name other) :
    Exists fun next : Header =>
      header.scanMembers (name :: below) members = some next ∧ next.AgreeOutside name other := by
  cases members with
  | nil => exact ⟨header, rfl, agree⟩
  | cons first rest =>
      have named := named_of_top plain (top_address plain below)
      rcases AgreeOutside.scan_left plain (below ++ [first.1]) first.2 agree with
        ⟨next, scanned, still⟩
      rw [Header.scanMembers, if_neg named, List.cons_append, scanned, Option.bind_some]
      exact AgreeOutside.scanMembers_left plain below rest still

end

theorem scanMembers_append (header : Header) (place : Place) (front back : List (String × Json)) :
    header.scanMembers place (front ++ back) =
      (header.scanMembers place front).bind fun next => next.scanMembers place back := by
  induction front generalizing header with
  | nil => rfl
  | cons first rest inductionHypothesis =>
      simp only [List.cons_append, scanMembers, inductionHypothesis, Option.bind_assoc]

/-- A document that has a header has one with the member too, and the two agree outside of it. -/
theorem ofTree?_insert (plain : IsPlain name) {front back : List (String × Json)}
    (found : ofTree? (.object (front ++ back)) = some header) (member : Json) :
    Exists fun next : Header =>
      ofTree? (.object (front ++ (name, member) :: back)) = some next ∧
        next.AgreeOutside name header := by
  rw [ofTree?, scan, scanMembers_append] at found
  rcases Option.bind_eq_some_iff.mp found with ⟨before, scanned, rest⟩
  have named : (before.addName name).AgreeOutside name before :=
    (AgreeOutside.refl name before).addName_left
  rcases named.scan_left plain [] member with ⟨within, inside, still⟩
  have later := still.scanMembers plain [] back
  rw [rest] at later
  have whole : ofTree? (.object (front ++ (name, member) :: back)) = within.scanMembers [] back := by
    rw [ofTree?, scan, scanMembers_append, scanned, Option.bind_some, scanMembers,
      if_pos (show Place.address [] = "" from rfl), List.nil_append, inside, Option.bind_some]
  rw [whole]
  generalize within.scanMembers [] back = outcome at later
  cases later with
  | some agree => exact ⟨_, rfl, agree⟩

end Header

/-- A text whose document has a header, and a text whose document has the member too. -/
theorem readTrace_insert (plain : IsPlain name) {bytes inserted : List UInt8} {header : Header}
    {front back : List (String × Json)} {member : Json}
    (read : readTrace bytes = .ok (header, .object (front ++ back)))
    (readInserted : Json.read .trace inserted = .whole (.object (front ++ (name, member) :: back))) :
    Exists fun next : Header =>
      readTrace inserted = .ok (next, .object (front ++ (name, member) :: back)) ∧
        next.AgreeOutside name header := by
  rcases Header.ofTree?_insert plain (readTrace_eq_ok_iff.mp read).2 member with
    ⟨next, found, agree⟩
  exact ⟨next, readTrace_eq_ok_iff.mpr ⟨readInserted, found⟩, agree⟩

end TraceView.Json

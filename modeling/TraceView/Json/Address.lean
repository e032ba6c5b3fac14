import TraceView.Json.Reader

namespace TraceView.Json

/-!
# Addresses in a document

The place of a part of a document is the sequence of names that lead to it, where an item of an
array adds the word `item`.  Its address is this sequence joined by points.  Addresses do not
identify places, since a name may itself hold a point or be empty; what a trace holds is found by
address, so all places with the address count.
-/

/-- A place in a document: the names that lead to it, outermost first. -/
abbrev Place := List String

/-- The address of a place. -/
def Place.address (place : Place) : String :=
  String.intercalate "." place

/-- The name that an item of an array adds to its place. -/
def itemName : String := "item"

mutual

/-- The parts of a document at an address, in order, given the place of the document.  What lies
inside a part that is found is not searched. -/
def partsAt (address : String) (place : Place) : Json -> List Json
  | .array items =>
    if place.address = address then [.array items]
    else itemPartsAt address (place ++ [itemName]) items
  | .object members =>
    if place.address = address then [.object members] else memberPartsAt address place members
  | scalar => if place.address = address then [scalar] else []

def itemPartsAt (address : String) (place : Place) : List Json -> List Json
  | [] => []
  | item :: rest => partsAt address place item ++ itemPartsAt address place rest

def memberPartsAt (address : String) (place : Place) : List (String × Json) -> List Json
  | [] => []
  | (name, member) :: rest =>
    partsAt address (place ++ [name]) member ++ memberPartsAt address place rest

end

/-- What the address of the document shows: the names given there, in order, and the scalars at
addresses that are such names. -/
structure Header where
  names : List String
  scalars : List (String × Value)

namespace Header

def empty : Header := ⟨[], []⟩

def addName (header : Header) (name : String) : Header :=
  if header.names.contains name then header
  else { header with names := header.names ++ [name] }

/-- Note a scalar that is not null, if its address is a name that has been seen. -/
def addScalar (header : Header) (address : String) (value : Value) : Header :=
  if !value.isNull && header.names.contains address then
    { header with scalars := Fields.put address value header.scalars }
  else header

mutual

/-- Extend the header by a part of the document.  There is no answer if something other than an
object is at the address of the document. -/
def scan (place : Place) (header : Header) : Json -> Option Header
  | .array items =>
    if place.address = "" then none else scanItems (place ++ [itemName]) header items
  | .object members => scanMembers place header members
  | scalar =>
    if place.address = "" then none
    else some (header.addScalar place.address scalar.exactValue)

def scanItems (place : Place) (header : Header) : List Json -> Option Header
  | [] => some header
  | item :: rest => (scan place header item).bind fun next => scanItems place next rest

def scanMembers (place : Place) (header : Header) : List (String × Json) -> Option Header
  | [] => some header
  | (name, member) :: rest =>
    let named := if place.address = "" then header.addName name else header
    (scan (place ++ [name]) named member).bind fun next => scanMembers place next rest

end

def ofTree? (tree : Json) : Option Header :=
  scan [] .empty tree

def sortedNames (header : Header) : List String :=
  header.names.mergeSort fun a b => !decide (b < a)

end Header

inductive HeaderError where
  | notAnObject
  | problem (problem : Problem)
  deriving DecidableEq, Repr

/-- Read a trace and its header.  What was read before a problem counts: if it shows that the
document is not an object, that is the error. -/
def readTrace (bytes : List UInt8) : Except HeaderError (Header × Json) :=
  match read .trace bytes with
  | .whole tree =>
    match Header.ofTree? tree with
    | some header => .ok (header, tree)
    | none => .error .notAnObject
  | .stopped soFar problem =>
    match soFar.map Header.ofTree? with
    | some none => .error .notAnObject
    | _ => .error (.problem problem)

end TraceView.Json

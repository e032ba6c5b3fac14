import TraceView.Number.Quantity
import TraceView.Value.Basic

namespace TraceView.Value

/-!
# Equality of values

Numbers are equal when they denote the same quantity, whatever their kinds are.  An undefined number
equals nothing, but lists, mappings and keys hold items, and one item seen twice is the same item:
the undefined number that configurations name is one item wherever it is named.
-/

/-- The quantity that a value denotes, if it is a number. -/
def quantity? : Value -> Option Quantity
  | .bool flag => some (.ofInt (if flag then 1 else 0))
  | .int n => some (.ofInt n)
  | .double x => some (.ofDouble x)
  | .undefined => some .undefined
  | .decimal d => some (.ofDecimal d)
  | _ => none

def sameScalar : Value -> Value -> Bool
  | .null, .null => true
  | .string a, .string b => a == b
  | .constant a, .constant b => a == b
  | a, b => match a.quantity?, b.quantity? with
    | some p, some q => p.same q
    | _, _ => false

/-- Whether both values are the undefined number that configurations name. -/
def bothUndefined : Value -> Value -> Bool
  | .undefined, .undefined => true
  | _, _ => false

mutual

def same : Value -> Value -> Bool
  | .list items, .list others => sameItems items others
  | .map fields, .map others => fields.length == others.length && sameFields fields others
  | a, b => sameScalar a b

def sameItems : List Value -> List Value -> Bool
  | [], [] => true
  | value :: rest, other :: others =>
    (bothUndefined value other || same value other) && sameItems rest others
  | _, _ => false

/-- Whether each of the first fields has an equal value among the second ones. -/
def sameFields : List (String × Value) -> List (String × Value) -> Bool
  | [], _ => true
  | (key, value) :: rest, others =>
    (match others.lookup key with
      | some other => bothUndefined value other || same value other
      | none => false) && sameFields rest others

end

def sameKey (a b : Value) : Bool :=
  bothUndefined a b || same a b

/-- Whether a value equals itself.  Only an undefined number does not; inside a list or mapping
it is the same item seen twice. -/
def equalsItself : Value -> Bool
  | .double .nan => false
  | .decimal (.nan _ _) => false
  | .undefined => false
  | _ => true

/-- Whether a value can be a key: the scalars can, lists and mappings cannot. -/
def isKey : Value -> Bool
  | .list _ => false
  | .map _ => false
  | _ => true

end TraceView.Value

import TraceView.Fields
import TraceView.Value.Basic

namespace TraceView

/-!
# Documents as trees

A document is kept as it is written: a member that is given twice is there twice, and a number
keeps the digits of its decimal.  Only the value of a part of the document settles which of
several equally named members counts.
-/

inductive Json where
  | null
  | bool (flag : Bool)
  | integer (n : Int)
  | decimal (d : Decimal)
  | string (text : String)
  | array (items : List Json)
  | object (members : List (String × Json))

namespace Json

mutual

/-- The value of a document, in which `decimal` says what a number with a point or an exponent
becomes. -/
def value (decimal : Decimal -> Value) : Json -> Value
  | .null => .null
  | .bool flag => .bool flag
  | .integer n => .int n
  | .decimal d => decimal d
  | .string text => .string text
  | .array items => .list (itemValues decimal items)
  | .object members => .map (Fields.settle (memberValues decimal members))

def itemValues (decimal : Decimal -> Value) : List Json -> List Value
  | [] => []
  | item :: rest => item.value decimal :: itemValues decimal rest

def memberValues (decimal : Decimal -> Value) : List (String × Json) -> List (String × Value)
  | [] => []
  | (name, member) :: rest => (name, member.value decimal) :: memberValues decimal rest

end

/-- The value of a part of a trace, where numbers stay exact. -/
def exactValue (tree : Json) : Value :=
  tree.value .decimal

/-- A number of a configuration file as a double.  The undefined number is the one that such files
name. -/
def roundedNumber (d : Decimal) : Value :=
  match d with
  | .nan _ _ => .undefined
  | d => .double (Double.ofDecimal d)

/-- The value of a part of a configuration file, where numbers with a point or an exponent are
doubles. -/
def roundedValue (tree : Json) : Value :=
  tree.value roundedNumber

end Json

end TraceView

import TraceView.Kind
import TraceView.Number.Double

namespace TraceView

/-!
# Values

What a trace or a viewer configuration holds under a name is known only when it is read, so
decoded data is one type of values: scalars, the two kinds of named constants, lists and
mappings.  The fields of a mapping keep their order and have different names.
-/

inductive Constant where
  | domain (clock : Domain)
  | traceKind (format : TraceKind)
  deriving DecidableEq, Repr

def Constant.name : Constant -> String
  | .domain clock => clock.name
  | .traceKind format => format.name

inductive Value where
  | null
  | bool (flag : Bool)
  | int (n : Int)
  | double (x : Double)
  /-- The undefined number as configurations name it.  It is a double, and there is one of it. -/
  | undefined
  | decimal (d : Decimal)
  | string (text : String)
  | constant (c : Constant)
  | list (items : List Value)
  | map (fields : List (String × Value))

inductive Kind where
  | null
  | bool
  | int
  | double
  | decimal
  | string
  | domain
  | traceKind
  | list
  | map
  deriving DecidableEq, Repr

def Kind.name : Kind -> String
  | .null => "NoneType"
  | .bool => "bool"
  | .int => "int"
  | .double => "float"
  | .decimal => "Decimal"
  | .string => "str"
  | .domain => "TimestampType"
  | .traceKind => "TraceType"
  | .list => "list"
  | .map => "dict"

namespace Value

def kind : Value -> Kind
  | .null => .null
  | .bool _ => .bool
  | .int _ => .int
  | .double _ => .double
  | .undefined => .double
  | .decimal _ => .decimal
  | .string _ => .string
  | .constant (.domain _) => .domain
  | .constant (.traceKind _) => .traceKind
  | .list _ => .list
  | .map _ => .map

def isNull : Value -> Bool
  | .null => true
  | _ => false

theorem isNull_iff {value : Value} : value.isNull = true ↔ value = .null := by
  cases value <;> simp [isNull]

/-- The integer in a value of kind integer. -/
def asInt? : Value -> Option Int
  | .int n => some n
  | _ => none

/-- The integer that a 64-bit field stands for.  Such a field may be written as a number or as a
text, so a decimal without a fraction and a text that spells an integer count as well. -/
def integer? : Value -> Except Fault (Option Int)
  | .int n => .ok (some n)
  | .decimal d => d.integer?
  | .string text => .ok (Numeral.read text)
  | _ => .ok none

/-- The integer of a 64-bit field of a document, where no decimal is infinite. -/
def toInt? (value : Value) : Option Int :=
  value.integer?.toOption.join

/-- The double that a floating-point parameter stands for. -/
def toDouble : Value -> Except Fault Double
  | .bool flag => Double.ofInt (if flag then 1 else 0)
  | .int n => Double.ofInt n
  | .double x => .ok x
  | .undefined => .ok .nan
  | .decimal d => .ok (Double.ofDecimal d)
  | .string text =>
    match Double.read text with
    | some x => .ok x
    | none => .error .notNumeric
  | _ => .error .wrongKind

end Value

end TraceView

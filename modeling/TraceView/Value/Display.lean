import TraceView.Value.Basic
import TraceView.Number.Shortest
import TraceView.Number.SixDigits
import TraceView.Text.Quoted

namespace TraceView.Value

/-!
# Texts of values

A value is shown in two ways.  Its plain text is what a message or an identifier holds; its property
text is what a tree shows next to a property.
-/

def constantText : Constant -> String
  | .domain domain => "TimestampType." ++ domain.name
  | .traceKind kind => "TraceType." ++ kind.name

def constantItem : Constant -> String
  | .domain domain => "<TimestampType." ++ domain.name ++ ": " ++ Text.quoted domain.word ++ ">"
  | .traceKind kind => "<TraceType." ++ kind.name ++ ": " ++ Text.quoted kind.word ++ ">"

def bracketed (opening closing : String) (items : List String) : String :=
  opening ++ String.intercalate ", " items ++ closing

mutual

def item : Value -> Except Fault String
  | .null => .ok "None"
  | .bool flag => .ok (if flag then "True" else "False")
  | .int n => Numeral.write n
  | .double x => .ok x.text
  | .undefined => .ok Double.nan.text
  | .decimal d => .ok ("Decimal('" ++ d.text ++ "')")
  | .string text => .ok (Text.quoted text)
  | .constant c => .ok (constantItem c)
  | .list items => (itemsOf items).map (bracketed "[" "]")
  | .map fields => (fieldItemsOf fields).map (bracketed "\x7b" "\x7d")

def itemsOf : List Value -> Except Fault (List String)
  | [] => .ok []
  | value :: rest => do
    let first <- item value
    let others <- itemsOf rest
    .ok (first :: others)

def fieldItemsOf : List (String × Value) -> Except Fault (List String)
  | [] => .ok []
  | (key, value) :: rest => do
    let first <- item value
    let others <- fieldItemsOf rest
    .ok ((Text.quoted key ++ ": " ++ first) :: others)

end

/-- The plain text of a value. -/
def text : Value -> Except Fault String
  | .decimal d => .ok d.text
  | .string text => .ok text
  | .constant c => .ok (constantText c)
  | value => item value

/-- The text that a tree shows next to a property. -/
def propertyText : Value -> Except Fault String
  | .null => .ok ""
  | .bool flag => .ok (if flag then "true" else "false")
  | .constant c => .ok c.name
  | .double x => .ok (if x.isInteger then x.sixDigits .general else x.text)
  | value => value.text

end TraceView.Value

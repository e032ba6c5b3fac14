import TraceView.Value.Display

namespace TraceView.ProtoLog

/-!
# Message texts

The text of a log message is a template in which each percent sign and the character after it are a
directive.  A directive takes the next parameter of its family, and whatever is no directive stays
as it is.
-/

def unknownField : String := "<unknown>"

inductive Radix where
  | decimal
  | octal
  | hexadecimal
  deriving DecidableEq, Repr

/-- What a percent sign and the character after it ask for. -/
inductive Directive where
  | percent
  | text
  | integer (radix : Radix)
  | double (style : Double.Style)
  | truth
  deriving DecidableEq, Repr

def Directive.named? (c : Char) : Option Directive :=
  match c with
  | '%' => some .percent
  | 's' => some .text
  | 'd' => some (.integer .decimal)
  | 'o' => some (.integer .octal)
  | 'x' => some (.integer .hexadecimal)
  | 'f' => some (.double .positional)
  | 'e' => some (.double .scientific)
  | 'g' => some (.double .general)
  | 'b' => some .truth
  | _ => none

/-- The parameters of a message that have not been shown yet, by family. -/
structure Parameters where
  texts : List Value
  integers : List Value
  doubles : List Value
  truths : List Value

namespace Parameters

def next? (parameters : Parameters) : Directive -> Option Value
  | .percent => none
  | .text => parameters.texts.head?
  | .integer _ => parameters.integers.head?
  | .double _ => parameters.doubles.head?
  | .truth => parameters.truths.head?

def after (parameters : Parameters) : Directive -> Parameters
  | .percent => parameters
  | .text => { parameters with texts := parameters.texts.tail }
  | .integer _ => { parameters with integers := parameters.integers.tail }
  | .double _ => { parameters with doubles := parameters.doubles.tail }
  | .truth => { parameters with truths := parameters.truths.tail }

end Parameters

/-- An integer in a notation.  In the octal and hexadecimal ones a negative integer is shown as
its two's complement in 64 bits. -/
def integerText (radix : Radix) (n : Int) : Except Fault String :=
  let word := (n % 0x10000000000000000).toNat
  match radix with
  | .decimal => Numeral.write n
  | .octal => .ok (String.ofList (Nat.toDigits 8 word))
  | .hexadecimal => .ok (String.ofList (Nat.toDigits 16 word))

/-- Whether a parameter counts as true: the truth value and its name do. -/
def isTrue : Value -> Bool
  | .bool flag => flag
  | .string text => text == "true"
  | _ => false

def parameterText (directive : Directive) (value : Value) : Except Fault String :=
  if value.isNull then .ok unknownField
  else
    match directive with
    | .percent => .ok "%"
    | .text => value.text
    | .integer radix =>
      match value.integer? with
      | .error fault => .error fault
      | .ok none => .ok unknownField
      | .ok (some n) => integerText radix n
    | .double style => value.toDouble.map (Double.sixDigits style)
    | .truth => .ok (if isTrue value then "true" else "false")

def directiveText (directive : Directive) (parameters : Parameters) : Except Fault String :=
  match directive with
  | .percent => .ok "%"
  | other =>
    match parameters.next? other with
    | some value => parameterText other value
    | none => .ok unknownField

def fill : List Char -> Parameters -> Except Fault (List Char)
  | [], _ => .ok []
  | [last], _ => .ok [last]
  | '%' :: c :: rest, parameters =>
    match Directive.named? c with
    | none => (fill rest parameters).map fun filled => '%' :: c :: filled
    | some directive =>
      match directiveText directive parameters with
      | .error fault => .error fault
      | .ok shown =>
        (fill rest (parameters.after directive)).map fun filled => shown.toList ++ filled
  | c :: next :: rest, parameters => (fill (next :: rest) parameters).map (c :: ·)

def messageText (template : String) (parameters : Parameters) : Except Fault String :=
  (fill template.toList parameters).map String.ofList

end TraceView.ProtoLog

import TraceView.Json.Basic

namespace TraceView.Json

/-!
# Tokens

The bytes of a document are read one at a time.  The scanner below is the state between two
bytes: it is either between tokens or inside a word, a number or a text, and it gives a token out
as soon as the token is complete.  A number is complete only when a byte follows that cannot
belong to it.

Inside a text the scanner checks the shape of multi-byte characters only, so a text may turn out
not to be UTF-8 when it ends.  Such a token is well formed and denotes nothing.  What it denotes
is asked for only where it fits, so it is handed on with its problem, which is different from a
byte that fits nowhere.
-/

/-- What a token should have denoted that is well formed and denotes nothing. -/
inductive Undecodable where
  /-- A text whose bytes are not UTF-8. -/
  | text
  /-- An integer with too many digits. -/
  | integer
  deriving DecidableEq, Repr

inductive Problem where
  /-- A byte, or the end, where the grammar does not allow it. -/
  | broken
  | undecodable {what : Undecodable}
  /-- A decimal with an exponent that decimals do not have. -/
  | outOfRange
  deriving DecidableEq, Repr

@[match_pattern, inherit_doc Undecodable.text]
def Problem.garbled : Problem := @undecodable .text

@[match_pattern, inherit_doc Undecodable.integer]
def Problem.long : Problem := @undecodable .integer

/-- A token.  Numbers and texts carry what they denote. -/
inductive Token where
  | openBrace
  | closeBrace
  | openBracket
  | closeBracket
  | colon
  | comma
  | null
  | bool (flag : Bool)
  | integer (n : Int)
  | decimal (d : Decimal)
  | string (text : String)
  | faultyNumber (problem : Problem)
  | faultyString (problem : Problem)

/-- A set of rules for documents.  The two sets differ in blanks, in the names of the numbers that
have no digits, in whether decimals have to stay decimals, which limits their exponents, and in
what may come after a complete document. -/
structure Dialect where
  /-- Whether the vertical tab and the form feed count as blanks. -/
  verticalBlanks : Bool
  /-- Whether infinities and the undefined number may be named. -/
  namedNumbers : Bool
  decimalRange : Bool
  openTail : Bool
  /-- The integer that digits denote, unless there are too many of them. -/
  integer : String -> Option Int

def Dialect.trace : Dialect := ⟨true, false, true, true, Numeral.read⟩

def Dialect.settings : Dialect := ⟨false, true, false, false, Numeral.read⟩

@[simp] theorem Dialect.integer_trace : Dialect.trace.integer = Numeral.read := rfl

inductive NumberPart where
  | minus
  | zero
  | whole
  | point
  | fraction
  | mark
  | markSign
  | power
  deriving DecidableEq, Repr

inductive TextPart where
  | plain
  | escape
  /-- In the digits of a numbered character: how many are to come, and the value so far. -/
  | hexadecimal (toCome : Nat) (code : Nat)
  /-- In a character of several bytes: how many are to come. -/
  | continuation (toCome : Nat)
  deriving DecidableEq, Repr

/-- A text that is being read: its bytes so far, the last one first, and the first half of a pair
of numbered characters that denotes one character, if the second half is to come. -/
structure PartialText where
  bytes : List UInt8
  half : Option Nat
  part : TextPart

/-- The state between two bytes. -/
inductive Scanner where
  | between
  | word (toCome : List Char) (token : Token)
  | number (part : NumberPart) (written : List Char)
  | text (soFar : PartialText)

/-- The part of a number that a further character leads to, if the character belongs to it. -/
def NumberPart.next (part : NumberPart) (c : Char) : Option NumberPart :=
  let isMark := c == 'e' || c == 'E'
  match part with
  | .minus => if c == '0' then some .zero else if c.isDigit then some .whole else none
  | .zero => if c == '.' then some .point else if isMark then some .mark else none
  | .whole =>
    if c.isDigit then some .whole
    else if c == '.' then some .point
    else if isMark then some .mark
    else none
  | .point => if c.isDigit then some .fraction else none
  | .fraction => if c.isDigit then some .fraction else if isMark then some .mark else none
  | .mark =>
    if c.isDigit then some .power else if c == '+' || c == '-' then some .markSign else none
  | .markSign => if c.isDigit then some .power else none
  | .power => if c.isDigit then some .power else none

/-- The token of a number, written with the last character first, if it may end there. -/
def numberToken (dialect : Dialect) (part : NumberPart) (written : List Char) :
    Except Problem Token :=
  let text := String.ofList written.reverse
  match part with
  | .fraction | .power =>
    match Decimal.read text with
    | some d =>
      .ok (if dialect.decimalRange && !d.isInRange then .faultyNumber .outOfRange else .decimal d)
    | none => .error .broken
  | .zero | .whole =>
    match dialect.integer text with
    | some n => .ok (.integer n)
    | none => .ok (.faultyNumber .long)
  | _ => .error .broken

/-- The bytes of a code point.  The two halves of a pair are no characters and get bytes that are
not UTF-8. -/
def encode (code : Nat) : List UInt8 :=
  let tail := fun shift => UInt8.ofNat (0x80 + code / shift % 64)
  if code < 0x80 then [UInt8.ofNat code]
  else if code < 0x800 then [UInt8.ofNat (0xC0 + code / 64), tail 1]
  else if code < 0x10000 then [UInt8.ofNat (0xE0 + code / 4096), tail 64, tail 1]
  else [UInt8.ofNat (0xF0 + code / 262144), tail 4096, tail 64, tail 1]

namespace PartialText

def empty : PartialText := ⟨[], none, .plain⟩

/-- The bytes so far, in which a half without its partner stands for itself. -/
def settled (t : PartialText) : List UInt8 :=
  match t.half with
  | some code => (encode code).reverse ++ t.bytes
  | none => t.bytes

/-- Append a byte and go on in a part. -/
def push (t : PartialText) (byte : UInt8) (part : TextPart) : PartialText :=
  ⟨byte :: t.settled, none, part⟩

/-- Append a numbered character, which may be one half of a pair. -/
def pushCode (t : PartialText) (code : Nat) : PartialText :=
  let isHigh := 0xD800 ≤ code && code < 0xDC00
  let isLow := 0xDC00 ≤ code && code < 0xE000
  match t.half, isLow with
  | some high, true =>
    let whole := 0x10000 + (high - 0xD800) * 1024 + (code - 0xDC00)
    ⟨(encode whole).reverse ++ t.bytes, none, .plain⟩
  | _, _ =>
    if isHigh then ⟨t.settled, some code, .plain⟩
    else ⟨(encode code).reverse ++ t.settled, none, .plain⟩

/-- The characters that a letter after a backslash stands for. -/
def escapes : List (Char × Nat) :=
  [('"', 34), ('\\', 92), ('/', 47), ('b', 8), ('f', 12), ('n', 10), ('r', 13), ('t', 9)]

/-- Read a byte that does not end the text. -/
def read (t : PartialText) (byte : UInt8) : Except Problem PartialText :=
  let code := byte.toNat
  let c := Char.ofNat code
  match t.part with
  | .plain =>
    if c == '\\' then .ok { t with part := .escape }
    else if code < 0x20 then .error .broken
    else if code < 0x80 then .ok (t.push byte .plain)
    else if code < 0xC0 then .error .broken
    else if code < 0xE0 then .ok (t.push byte (.continuation 1))
    else if code < 0xF0 then .ok (t.push byte (.continuation 2))
    else if code < 0xF8 then .ok (t.push byte (.continuation 3))
    else .error .broken
  | .escape =>
    if c == 'u' then .ok { t with part := .hexadecimal 4 0 }
    else
      match escapes.lookup c with
      | some meant => .ok (t.push (UInt8.ofNat meant) .plain)
      | none => .error .broken
  | .hexadecimal toCome value =>
    match Text.hexDigit? c with
    | none => .error .broken
    | some digit =>
      let value := 16 * value + digit
      if toCome ≤ 1 then .ok (t.pushCode value)
      else .ok { t with part := .hexadecimal (toCome - 1) value }
  | .continuation toCome =>
    if 0x80 ≤ code && code < 0xC0 then
      .ok (t.push byte (if toCome ≤ 1 then .plain else .continuation (toCome - 1)))
    else .error .broken

/-- The token of a text that ends here.  It denotes something if its bytes are UTF-8, so a text with
half of a pair denotes nothing by either set of rules. -/
def finish (t : PartialText) : Token :=
  match String.fromUTF8? ⟨t.settled.reverse.toArray⟩ with
  | some text => .string text
  | none => .faultyString .garbled

end PartialText

namespace Scanner

def mark? (c : Char) : Option Token :=
  match c with
  | '\x7b' => some .openBrace
  | '\x7d' => some .closeBrace
  | '[' => some .openBracket
  | ']' => some .closeBracket
  | ':' => some .colon
  | ',' => some .comma
  | _ => none

/-- The words, without their first letter, that this letter may begin. -/
def word? (dialect : Dialect) (c : Char) : Option (List Char × Token) :=
  match c with
  | 'n' => some ("ull".toList, .null)
  | 't' => some ("rue".toList, .bool true)
  | 'f' => some ("alse".toList, .bool false)
  | 'N' => if dialect.namedNumbers then some ("aN".toList, .decimal (.nan false 0)) else none
  | 'I' =>
    if dialect.namedNumbers then some ("nfinity".toList, .decimal (.infinite false)) else none
  | _ => none

def isBlank (dialect : Dialect) (c : Char) : Bool :=
  c == ' ' || c == '\t' || c == '\n' || c == '\r' ||
    (dialect.verticalBlanks && (c == '\x0b' || c == '\x0c'))

/-- What reading a byte leads to: the tokens that are complete now, in order, and then the next
state or the problem with the byte. -/
abbrev Progress := List Token × Except Problem Scanner

def start (dialect : Dialect) (c : Char) : Progress :=
  if isBlank dialect c then ([], .ok .between)
  else if c == '"' then ([], .ok (.text .empty))
  else if c == '-' then ([], .ok (.number .minus [c]))
  else if c == '0' then ([], .ok (.number .zero [c]))
  else if c.isDigit then ([], .ok (.number .whole [c]))
  else
    match mark? c, word? dialect c with
    | some token, _ => ([token], .ok .between)
    | none, some (toCome, token) => ([], .ok (.word toCome token))
    | none, none => ([], .error .broken)

def inWord (toCome : List Char) (token : Token) (c : Char) : Progress :=
  match toCome with
  | [] => ([], .error .broken)
  | [last] => if c == last then ([token], .ok .between) else ([], .error .broken)
  | next :: rest => if c == next then ([], .ok (.word rest token)) else ([], .error .broken)

def inNumber (dialect : Dialect) (part : NumberPart) (written : List Char) (c : Char) :
    Progress :=
  match part.next c with
  | some next => ([], .ok (.number next (c :: written)))
  | none =>
    if dialect.namedNumbers && part == .minus && c == 'I' then
      ([], .ok (.word "nfinity".toList (.decimal (.infinite true))))
    else
      match numberToken dialect part written with
      | .error problem => ([], .error problem)
      | .ok token =>
        let (more, next) := start dialect c
        (token :: more, next)

def inText (t : PartialText) (byte : UInt8) : Progress :=
  if t.part == .plain && byte == 34 then ([t.finish], .ok .between)
  else ([], (t.read byte).map .text)

def step (dialect : Dialect) (scanner : Scanner) (byte : UInt8) : Progress :=
  let c := Char.ofNat byte.toNat
  match scanner with
  | .between => start dialect c
  | .word toCome token => inWord toCome token c
  | .number part written => inNumber dialect part written c
  | .text t => inText t byte

end Scanner

end TraceView.Json

import TraceView.Text.Digit

namespace TraceView.Text

/-!
# Bytes in texts

A text may hold bytes that are no characters of it, each as a percent sign with two hexadecimal
digits.  All bytes together are read as UTF-8.  What is no UTF-8 is not refused: each byte that
belongs to no character becomes the replacement character.
-/

def percentBytes : List Char -> List UInt8
  | [] => []
  | '%' :: high :: low :: rest =>
    match hexDigit? high, hexDigit? low with
    | some h, some l => UInt8.ofNat (16 * h + l) :: percentBytes rest
    | _, _ => '%'.toUInt8 :: percentBytes (high :: low :: rest)
  | c :: rest => (String.singleton c).toUTF8.toList ++ percentBytes rest

def percentByte (byte : UInt8) : List Char :=
  let digit := fun value : Nat => (Nat.digitChar value).toUpper
  ['%', digit (byte.toNat / 16), digit (byte.toNat % 16)]

/-- A text in which percent signs stand for all characters but the letters and digits of ASCII and
some that are kept. -/
def percentEncoded (kept text : List Char) : List Char :=
  text.flatMap fun c =>
    if c.isAlphanum || kept.contains c then [c]
    else (String.singleton c).toUTF8.toList.flatMap percentByte

/-- The character that bytes are, if they are the bytes of one. -/
def characterOf? (bytes : List UInt8) : Option Char :=
  match (String.fromUTF8? ⟨bytes.toArray⟩).map String.toList with
  | some [c] => some c
  | _ => none

/-- The character at the beginning of some bytes, with the number of its bytes. -/
def firstCharacter? (bytes : List UInt8) : Option (Char × Nat) :=
  [1, 2, 3, 4].findSome? fun count =>
    (characterOf? (bytes.take count)).map fun c => (c, count)

/-- The characters of bytes, of which some at the beginning are passed over. -/
def charactersAfter (passed : Nat) : List UInt8 -> List Char
  | [] => []
  | byte :: rest =>
    match passed, firstCharacter? (byte :: rest) with
    | more + 1, _ => charactersAfter more rest
    | 0, some (c, count) => c :: charactersAfter (count - 1) rest
    | 0, none => '\ufffd' :: charactersAfter 0 rest

def ofBytes (bytes : List UInt8) : String :=
  String.ofList (charactersAfter 0 bytes)

def percentDecoded (text : List Char) : String :=
  ofBytes (percentBytes text)

end TraceView.Text

namespace TraceView.Text

/-!
# Blank characters

Two sets of characters separate words.  A numeral may stand between characters of the Unicode
class `White_Space`; a file name is split at ASCII blanks, which include the four information
separators that the Unicode class leaves out.
-/

/-- The Unicode class `White_Space`. -/
def isBlank (c : Char) : Bool :=
  let n := c.toNat
  (9 ≤ n && n ≤ 13) || n == 32 || n == 0x85 || n == 0xA0 || n == 0x1680 ||
    (0x2000 ≤ n && n ≤ 0x200A) || n == 0x2028 || n == 0x2029 || n == 0x202F ||
    n == 0x205F || n == 0x3000

/-- The blanks of ASCII at which a file name is split: the Unicode ones and the information
separators U+001C to U+001F. -/
def isAsciiBlank (c : Char) : Bool :=
  let n := c.toNat
  (9 ≤ n && n ≤ 13) || (28 ≤ n && n ≤ 32)

def strip (text : List Char) : List Char :=
  ((text.dropWhile isBlank).reverse.dropWhile isBlank).reverse

end TraceView.Text

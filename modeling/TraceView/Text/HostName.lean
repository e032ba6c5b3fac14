import TraceView.Text.Direction
import TraceView.Text.Punycode
import TraceView.Text.Skeleton

namespace TraceView.Text

/-!
# Host names

A host name is a row of labels with points between them.  Its form in ASCII is found label by label,
where characters that only look different are taken for one another and what is still beyond ASCII
is written in Punycode.
-/

/-- The ranges of characters that no label may have. -/
def refusedRanges : List (Nat × Nat) :=
  [(0x80, 0x9F), (0x6DD, 0x6DD), (0x70F, 0x70F), (0x1680, 0x1680), (0x180E, 0x180E),
    (0x200E, 0x200F), (0x2028, 0x202E), (0x2061, 0x2063), (0x206A, 0x206F), (0x2FF0, 0x2FFB),
    (0xE000, 0xF8FF), (0xFDD0, 0xFDEF), (0xFFF9, 0xFFFF), (0x1D173, 0x1D17A), (0x1FFFE, 0x1FFFF),
    (0x2FFFE, 0x2FFFF), (0x3FFFE, 0x3FFFF), (0x4FFFE, 0x4FFFF), (0x5FFFE, 0x5FFFF),
    (0x6FFFE, 0x6FFFF), (0x7FFFE, 0x7FFFF), (0x8FFFE, 0x8FFFF), (0x9FFFE, 0x9FFFF),
    (0xAFFFE, 0xAFFFF), (0xBFFFE, 0xBFFFF), (0xCFFFE, 0xCFFFF), (0xDFFFE, 0xDFFFF),
    (0xE0001, 0xE0001), (0xE0020, 0xE007F), (0xEFFFE, 0x10FFFF)]

/-- The ranges of characters that count for nothing in a label. -/
def ignoredRanges : List (Nat × Nat) :=
  [(0xAD, 0xAD), (0x34F, 0x34F), (0x1806, 0x1806), (0x180B, 0x180D), (0x200B, 0x200D),
    (0x2060, 0x2060), (0xFE00, 0xFE0F), (0xFEFF, 0xFEFF)]

/-- The ranges of characters that stand for nothing but characters of ASCII. -/
def plainRanges : List (Nat × Nat) :=
  [(0xA0, 0xA0), (0xAA, 0xAA), (0xB2, 0xB3), (0xB9, 0xBA), (0x132, 0x133), (0x17F, 0x17F),
    (0x1C7, 0x1CC), (0x1F1, 0x1F3), (0x2B0, 0x2B0), (0x2B2, 0x2B3), (0x2B7, 0x2B8),
    (0x2E1, 0x2E3), (0x37E, 0x37E), (0x1FEF, 0x1FEF), (0x2000, 0x200A), (0x2024, 0x2026),
    (0x202F, 0x202F), (0x203C, 0x203C), (0x2047, 0x2049), (0x205F, 0x205F), (0x2070, 0x2071),
    (0x2074, 0x207A), (0x207C, 0x208A), (0x208C, 0x208E), (0x20A8, 0x20A8), (0x2100, 0x2102),
    (0x2105, 0x2106), (0x210A, 0x210E), (0x2110, 0x2113), (0x2115, 0x2116), (0x2119, 0x211D),
    (0x2120, 0x2122), (0x2124, 0x2124), (0x2128, 0x2128), (0x212A, 0x212A), (0x212C, 0x212D),
    (0x212F, 0x2131), (0x2133, 0x2134), (0x2139, 0x2139), (0x2145, 0x2149), (0x2160, 0x217F),
    (0x2460, 0x24EA), (0x2A74, 0x2A76), (0x3000, 0x3000), (0x3251, 0x325F), (0x32B1, 0x32BF),
    (0x3371, 0x3376), (0x3380, 0x3381), (0x3383, 0x338B), (0x338E, 0x3394), (0x3396, 0x339A),
    (0x339C, 0x33A6), (0x33A9, 0x33AD), (0x33B0, 0x33B1), (0x33B3, 0x33B5), (0x33B7, 0x33BB),
    (0x33BD, 0x33BF), (0x33C2, 0x33C5), (0x33C7, 0x33DD), (0xFB00, 0xFB06), (0xFB29, 0xFB29),
    (0xFE30, 0xFE30), (0xFE33, 0xFE38), (0xFE4D, 0xFE50), (0xFE52, 0xFE52), (0xFE54, 0xFE57),
    (0xFE59, 0xFE5C), (0xFE5F, 0xFE66), (0xFE68, 0xFE6B), (0xFF01, 0xFF5E), (0x1D400, 0x1D454),
    (0x1D456, 0x1D49C), (0x1D49E, 0x1D49F), (0x1D4A2, 0x1D4A2), (0x1D4A5, 0x1D4A6),
    (0x1D4A9, 0x1D4AC), (0x1D4AE, 0x1D4B9), (0x1D4BB, 0x1D4BB), (0x1D4BD, 0x1D4C0),
    (0x1D4C2, 0x1D4C3), (0x1D4C5, 0x1D505), (0x1D507, 0x1D50A), (0x1D50D, 0x1D514),
    (0x1D516, 0x1D51C), (0x1D51E, 0x1D539), (0x1D53B, 0x1D53E), (0x1D540, 0x1D544),
    (0x1D546, 0x1D546), (0x1D54A, 0x1D550), (0x1D552, 0x1D6A3), (0x1D7CE, 0x1D7FF)]

def folded (c : Char) : List Char :=
  if c.toNat < 128 then [c.toLower]
  else if covers ignoredRanges c then []
  else if c == '\u00df' || c == '\u1e9e' then ['s', 's']
  else if covers plainRanges c then (skeletonOf c).map Char.toLower
  else [c]

def isAscii (text : List Char) : Bool :=
  text.all fun c => c.toNat < 128

/-- A label in ASCII, if it has a length that labels may have. -/
def sizedLabel? (label : List Char) : Option (List Char) :=
  if !label.isEmpty && label.length < 64 then some label else none

def punycodeMark : List Char := ['x', 'n', '-', '-']

def asciiLabel? (label : List Char) : Option (List Char) :=
  let seen := label.filter fun c => !covers ignoredRanges c
  let plain := label.flatMap folded
  if isAscii label then sizedLabel? label
  else if label.any (covers refusedRanges) || !hasOneDirection seen then none
  else if isAscii plain then sizedLabel? plain
  else if punycodeMark.isPrefixOf plain then none
  else sizedLabel? (punycodeMark ++ Punycode.encode plain)

/-- The points between labels, of which all but the first one are beyond ASCII. -/
def isLabelPoint (c : Char) : Bool :=
  c == '.' || c == '\u3002' || c == '\uff0e' || c == '\uff61'

/-- The labels of a host name.  A point after the last label may be left out. -/
def hostLabels (name : List Char) : List (List Char) :=
  let labels := name.splitOnP isLabelPoint
  if labels.getLast?.any List.isEmpty then labels.dropLast else labels

def asciiHostName? (name : List Char) : Option (List Char) :=
  let ending := if name.getLast?.any isLabelPoint then ['.'] else []
  if name.isEmpty then some []
  else
    ((hostLabels name).mapM asciiLabel?).map fun labels => ['.'].intercalate labels ++ ending

end TraceView.Text

namespace TraceView.Text

/-!
# Ranges of characters

Properties of characters are given by tables of ranges of code points.
-/

/-- Whether a character lies in one of some ranges, first and last code point included. -/
def covers (ranges : List (Nat × Nat)) (c : Char) : Bool :=
  ranges.any fun range => range.1 ≤ c.toNat && c.toNat ≤ range.2

end TraceView.Text

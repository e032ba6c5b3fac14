namespace TraceView.Text.Punycode

/-!
# Punycode

A text is written with its characters of ASCII first and then, after a hyphen, where the others are
to be inserted.  Each insertion is given as a distance from the one before, a number of base 36 in
which a digit below its threshold is the last one.
-/

def digit (value : Nat) : Char :=
  Char.ofNat (if value < 26 then 0x61 + value else 0x16 + value)

/-- The threshold of the digit at a position, the first position being 36: how far the position is
beyond the bias, but at least one and at most 26. -/
def threshold (position bias : Nat) : Nat :=
  max 1 (min 26 (position - bias))

theorem threshold_bounds (position bias : Nat) :
    1 ≤ threshold position bias ∧ threshold position bias ≤ 26 := by
  unfold threshold
  omega

def digits (bias position distance : Nat) : List Char :=
  let limit := threshold position bias
  if distance < limit then [digit distance]
  else
    let left := distance - limit
    digit (limit + left % (36 - limit)) :: digits bias (position + 36) (left / (36 - limit))
termination_by distance
decreasing_by
  have bounds := threshold_bounds position bias
  exact Nat.lt_of_le_of_lt (Nat.div_le_self _ _) (by omega)

/-- A distance divided until it is small, with the bias that the divisions amount to. -/
def halved (bias distance : Nat) : Nat :=
  if 455 < distance then halved (bias + 36) (distance / 35)
  else bias + 36 * distance / (distance + 38)
termination_by distance
decreasing_by exact Nat.div_lt_self (by omega) (by omega)

/-- The bias after a distance, given the number of characters inserted by then. -/
def adapted (distance count : Nat) (isFirst : Bool) : Nat :=
  let scaled := if isFirst then distance / 700 else distance / 2
  halved 0 (scaled + scaled / count)

/-- The state between two characters: what has been written, how far the next insertion is from the
last one, the bias, and the number of characters inserted, those of ASCII included. -/
structure Progress where
  written : List Char
  distance : Nat
  bias : Nat
  count : Nat

/-- Pass a character of the text, where all characters before `next` have been inserted. -/
def Progress.pass (plain : Nat) (next : Nat) (soFar : Progress) (c : Char) : Progress :=
  if c.toNat < next then { soFar with distance := soFar.distance + 1 }
  else if c.toNat = next then
    ⟨soFar.written ++ digits soFar.bias 36 soFar.distance, 0,
      adapted soFar.distance (soFar.count + 1) (soFar.count = plain), soFar.count + 1⟩
  else soFar

/-- Insert the characters of the text with given codes, in ascending order, where `last` is the code
after the one inserted last. -/
def insertAll (text : List Char) (plain : Nat) : (last : Nat) -> List Nat -> Progress -> Progress
  | _, [], soFar => soFar
  | last, next :: rest, soFar =>
    let reached := { soFar with distance := soFar.distance + (next - last) * (soFar.count + 1) }
    let passed := text.foldl (Progress.pass plain next) reached
    insertAll text plain (next + 1) rest { passed with distance := passed.distance + 1 }

/-- The codes of the characters beyond ASCII, in ascending order and each once. -/
def beyond (text : List Char) : List Nat :=
  (((text.map Char.toNat).filter (128 ≤ ·)).mergeSort (fun a b => decide (a ≤ b))).eraseDups

def encode (text : List Char) : List Char :=
  let plain := text.filter fun c => c.toNat < 128
  let inserted := insertAll text plain.length 128 (beyond text) ⟨[], 0, 72, plain.length⟩
  if plain.isEmpty then inserted.written else plain ++ '-' :: inserted.written

end TraceView.Text.Punycode

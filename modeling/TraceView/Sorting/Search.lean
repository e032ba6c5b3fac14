namespace TraceView.Sorting

/-!
# Searching a sorted run

A comparison may have no answer, and then everything that rests on it has none either.  The
functions below therefore say how many items of a run lie below a point, and which questions they
ask on the way, in which order.
-/

variable {α ε : Type}

/-- Whether the item at a position lies below the point.  There is none beyond the end. -/
def isBelowAt (isBelow : α -> Except ε Bool) (run : Array α) (position : Nat) : Except ε Bool :=
  match run[position]? with
  | some item => isBelow item
  | none => .ok false

/-- The first position that is not below the point, between two positions that enclose it. -/
def bisect (isBelow : α -> Except ε Bool) (run : Array α) :
    (fuel low high : Nat) -> Except ε Nat
  | 0, low, _ => .ok low
  | fuel + 1, low, high =>
    if high ≤ low then .ok low
    else do
      let middle := low + (high - low) / 2
      if <- isBelowAt isBelow run middle then bisect isBelow run fuel (middle + 1) high
      else bisect isBelow run fuel low middle

/-- Leap as long as a question is answered with yes and the limit is not reached.  Each distance
is twice the last one and one more; the last two distances are given. -/
def leap (goesOn : Nat -> Except ε Bool) (limit : Nat) :
    (fuel last distance : Nat) -> Except ε (Nat × Nat)
  | 0, last, _ => .ok (last, limit)
  | fuel + 1, last, distance =>
    if limit ≤ distance then .ok (last, limit)
    else do
      if <- goesOn distance then leap goesOn limit fuel distance (2 * distance + 1)
      else .ok (last, distance)

/-- The number of items of a run below a point, sought from a position on. -/
def countBelow (isBelow : α -> Except ε Bool) (run : Array α) (start : Nat) : Except ε Nat := do
  if <- isBelowAt isBelow run start then
    let (last, distance) <-
      leap (fun distance => isBelowAt isBelow run (start + distance)) (run.size - start)
        run.size 0 1
    bisect isBelow run run.size (start + last + 1) (start + distance)
  else
    let (last, distance) <-
      leap (fun distance => (isBelowAt isBelow run (start - distance)).map not) (start + 1)
        run.size 0 1
    bisect isBelow run run.size (start + 1 - distance) (start - last)

end TraceView.Sorting

import TraceView.Sorting.Search

namespace TraceView.Sorting

/-!
# Merging two runs

Two sorted runs that stand side by side become one.  What is in place already stays there, and the
others are merged from the side with fewer of them.  Items are compared one by one until one run has
given many of them in a row; from then on whole stretches are sought, as long as that pays.
-/

variable {α ε : Type}

inductive Side where
  | front
  | back
  deriving DecidableEq, Repr

namespace Side

def item? (side : Side) (run : Array α) : Option α :=
  match side with
  | .front => run[0]?
  | .back => run.back?

/-- A number of items from this end of a run, in order, and the items that are left. -/
def split (side : Side) (count : Nat) (run : Array α) : Array α × Array α :=
  match side with
  | .front => (run.extract 0 count, run.extract count run.size)
  | .back => (run.extract (run.size - count) run.size, run.extract 0 (run.size - count))

/-- The number of items at this end of a run that precede the rest of a merge, when the items at
the front of the run that lie below a point are told apart. -/
def stretch (side : Side) (isBelow : α -> Except ε Bool) (run : Array α) : Except ε Nat :=
  match side with
  | .front => countBelow isBelow run 0
  | .back => (countBelow isBelow run (run.size - 1)).map fun count => run.size - count

end Side

/-- A merge under way: what is left of both runs, and what has been merged, beginning with the
item that was merged last if the merge goes on at the front. -/
structure Merging (α : Type) where
  left : Array α
  right : Array α
  merged : List α

/-- How a merge goes on: one by one, counting the items in a row from either run, or in
stretches. -/
inductive Pace where
  | stepping (lefts rights : Nat)
  | seekingLeft
  | seekingRight (lefts : Nat)
  deriving DecidableEq, Repr

/-- The number of items in a row from which stretches pay, at first. -/
def usualThreshold : Nat := 7

namespace Merging

def merge (side : Side) (items : Array α) (merged : List α) : List α :=
  match side with
  | .front => items.toList.reverse ++ merged
  | .back => items.toList ++ merged

def takeLeft (side : Side) (count : Nat) (merging : Merging α) : Merging α :=
  let (items, left) := side.split count merging.left
  { merging with left := left, merged := merge side items merging.merged }

def takeRight (side : Side) (count : Nat) (merging : Merging α) : Merging α :=
  let (items, right) := side.split count merging.right
  { merging with right := right, merged := merge side items merging.merged }

/-- Whether nothing has to be compared any more.  The item at the far end of one run is known to
be the last one to merge. -/
def isDecided (side : Side) (merging : Merging α) : Bool :=
  match side with
  | .front => merging.left.size ≤ 1 || merging.right.isEmpty
  | .back => merging.right.size ≤ 1 || merging.left.isEmpty

def result (side : Side) (merging : Merging α) : Array α :=
  match side with
  | .front => merging.merged.reverse.toArray ++ merging.right ++ merging.left
  | .back => merging.right ++ merging.left ++ merging.merged.toArray

/-- Merge the item that comes next, by one comparison. -/
def stepOnce (precedes : α -> α -> Except ε Bool) (side : Side) (threshold lefts rights : Nat)
    (merging : Merging α) (left right : α) : Except ε (Merging α × Pace) := do
  let rightPrecedes <- precedes right left
  if rightPrecedes == (side == .back) then
    let pace := if threshold ≤ lefts + 1 then .seekingLeft else .stepping (lefts + 1) 0
    .ok (merging.takeLeft side 1, pace)
  else
    let pace := if threshold ≤ rights + 1 then .seekingLeft else .stepping 0 (rights + 1)
    .ok (merging.takeRight side 1, pace)

/-- Go on with a merge that is not decided.  The threshold falls while stretches pay and rises
when they do not. -/
def advance (precedes : α -> α -> Except ε Bool) (side : Side) (merging : Merging α) (pace : Pace)
    (threshold : Nat) : Except ε (Merging α × Pace × Nat) :=
  match side.item? merging.left, side.item? merging.right with
  | some left, some right =>
    match pace with
    | .stepping lefts rights => do
      let (next, pace) <- stepOnce precedes side threshold lefts rights merging left right
      .ok (next, pace, threshold)
    | .seekingLeft => do
      let count <- side.stretch (fun item => (precedes right item).map not) merging.left
      .ok ((merging.takeLeft side count).takeRight side 1, .seekingRight count, threshold)
    | .seekingRight lefts => do
      let count <- side.stretch (fun item => precedes item left) merging.right
      let next := (merging.takeRight side count).takeLeft side 1
      if usualThreshold ≤ lefts || usualThreshold ≤ count then
        .ok (next, .seekingLeft, if 1 < threshold then threshold - 1 else threshold)
      else .ok (next, .stepping 0 0, threshold + 1)
  | _, _ => .ok (merging, pace, threshold)

def finish (precedes : α -> α -> Except ε Bool) (side : Side) :
    (fuel : Nat) -> Merging α -> Pace -> (threshold : Nat) -> Except ε (Array α × Nat)
  | 0, merging, _, threshold => .ok (merging.result side, threshold)
  | fuel + 1, merging, pace, threshold =>
    if merging.isDecided side then .ok (merging.result side, threshold)
    else do
      let (next, pace, threshold) <- merging.advance precedes side pace threshold
      next.finish precedes side fuel pace threshold

end Merging

/-- Merge two runs of which the first item is on the right and the last one on the left. -/
def mergeCrossed (precedes : α -> α -> Except ε Bool) (left right : Array α) (threshold : Nat) :
    Except ε (Array α × Nat) :=
  let start : Merging α := ⟨left, right, []⟩
  let fuel := left.size + right.size
  if left.size ≤ right.size then
    (start.takeRight .front 1).finish precedes .front fuel (.stepping 0 0) threshold
  else (start.takeLeft .back 1).finish precedes .back fuel (.stepping 0 0) threshold

def mergeRuns (precedes : α -> α -> Except ε Bool) (left right : Array α) (threshold : Nat) :
    Except ε (Array α × Nat) :=
  match right[0]?, left.back? with
  | some first, some last => do
    let before <- countBelow (fun item => (precedes first item).map not) left 0
    if left.size ≤ before then .ok (left ++ right, threshold)
    else
      let among <- countBelow (fun item => precedes item last) right (right.size - 1)
      if among = 0 then .ok (left ++ right, threshold)
      else
        let (merged, threshold) <- mergeCrossed precedes (left.extract before left.size)
          (right.extract 0 among) threshold
        .ok (left.extract 0 before ++ merged ++ right.extract among right.size, threshold)
  | _, _ => .ok (left ++ right, threshold)

end TraceView.Sorting

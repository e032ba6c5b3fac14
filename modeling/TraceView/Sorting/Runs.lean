import TraceView.Sorting.Merge

namespace TraceView.Sorting

/-!
# Sorting by runs

A list is cut into runs that ascend already, or descend strictly and are turned round, and runs wait
on a stack until they are merged with their neighbours.  The order of the comparisons matters only
because a comparison may have no answer; the first one without an answer is that of the whole.
-/

variable {α ε : Type}

/-- The items that continue a run after its last item, and the items after it. -/
def continueRun (precedes : α -> α -> Except ε Bool) (falling : Bool) (last : α) :
    List α -> Except ε (List α × List α)
  | [] => .ok ([], [])
  | item :: rest => do
    if (<- precedes item last) == falling then
      let (more, left) <- continueRun precedes falling item rest
      .ok (item :: more, left)
    else .ok ([], item :: rest)

/-- The run that a list begins with, in ascending order, and the items after it. -/
def firstRun (precedes : α -> α -> Except ε Bool) : List α -> Except ε (List α × List α)
  | first :: second :: rest => do
    let falling <- precedes second first
    let (more, left) <- continueRun precedes falling second rest
    let run := first :: second :: more
    .ok (if falling then run.reverse else run, left)
  | short => .ok (short, [])

/-- Insert an item into a run, after the items that it does not precede. -/
def insert (precedes : α -> α -> Except ε Bool) (run : Array α) (item : α) :
    Except ε (Array α) := do
  let place <- bisect (fun other => (precedes item other).map not) run (run.size + 1) 0 run.size
  .ok (run.extract 0 place ++ #[item] ++ run.extract place run.size)

/-- The run that a list begins with, filled up to a least length, and the items after it. -/
def nextRun (precedes : α -> α -> Except ε Bool) (least : Nat) (items : List α) :
    Except ε (Array α × List α) := do
  let (run, left) <- firstRun precedes items
  let missing := least - run.length
  let filled <- (left.take missing).foldlM (insert precedes) run.toArray
  .ok (filled, left.drop missing)

/-- The least length of a run: a length below 64 into which the list divides almost evenly. -/
def leastLength : (fuel length : Nat) -> (uneven : Bool) -> Nat
  | 0, length, uneven => length + uneven.toNat
  | fuel + 1, length, uneven =>
    if length < 64 then length + uneven.toNat
    else leastLength fuel (length / 2) (uneven || length % 2 == 1)

/-- The depth of the boundary between two runs, given the doubled positions of their middles: the
first binary digit in which the middles, as fractions of the length, differ. -/
def boundaryDepth (length : Nat) : (fuel first second : Nat) -> Nat
  | 0, _, _ => 1
  | fuel + 1, first, second =>
    if length ≤ first then
      boundaryDepth length fuel (2 * (first - length)) (2 * (second - length)) + 1
    else if length ≤ second then 1
    else boundaryDepth length fuel (2 * first) (2 * second) + 1

/-- A run that waits, with the position of its first item and the depth of the boundary below
it. -/
structure Waiting (α : Type) where
  start : Nat
  depth : Nat
  items : Array α

def Waiting.join (precedes : α -> α -> Except ε Bool) (below top : Waiting α) (threshold : Nat) :
    Except ε (Waiting α × Nat) := do
  let (items, threshold) <- mergeRuns precedes below.items top.items threshold
  .ok ({ below with items := items }, threshold)

/-- Merge the top run with those below it, as long as its boundary is deeper than a new one. -/
def joinDeeper (precedes : α -> α -> Except ε Bool) (depth : Nat) (top : Waiting α)
    (threshold : Nat) : List (Waiting α) -> Except ε (List (Waiting α) × Nat)
  | [] => .ok ([top], threshold)
  | below :: rest =>
    if depth < top.depth then do
      let (joined, threshold) <- below.join precedes top threshold
      joinDeeper precedes depth joined threshold rest
    else .ok (top :: below :: rest, threshold)

def push (precedes : α -> α -> Except ε Bool) (length : Nat) (run : Array α) (threshold : Nat) :
    List (Waiting α) -> Except ε (List (Waiting α) × Nat)
  | [] => .ok ([⟨0, 0, run⟩], threshold)
  | top :: rest => do
    let first := 2 * top.start + top.items.size
    let depth := boundaryDepth length length first (first + top.items.size + run.size)
    let (stack, threshold) <- joinDeeper precedes depth top threshold rest
    .ok (⟨top.start + top.items.size, depth, run⟩ :: stack, threshold)

/-- Merge two runs and all below them.  The lower of two boundaries goes first if the run below it
is shorter than the top run. -/
def joinAll (precedes : α -> α -> Except ε Bool) (top below : Waiting α) (threshold : Nat) :
    List (Waiting α) -> Except ε (Array α)
  | [] => do
    let (joined, _) <- below.join precedes top threshold
    .ok joined.items
  | lowest :: rest =>
    if lowest.items.size < top.items.size then do
      let (joined, threshold) <- lowest.join precedes below threshold
      joinAll precedes top joined threshold rest
    else do
      let (joined, threshold) <- below.join precedes top threshold
      joinAll precedes joined lowest threshold rest

/-- Sort items of which some runs are on the stack already. -/
def sortOnto (precedes : α -> α -> Except ε Bool) (length least : Nat) :
    (fuel : Nat) -> List (Waiting α) -> (threshold : Nat) -> List α -> Except ε (Array α)
  | fuel + 1, stack, threshold, item :: rest => do
    let (run, left) <- nextRun precedes least (item :: rest)
    let (stack, threshold) <- push precedes length run threshold stack
    sortOnto precedes length least fuel stack threshold left
  | _, [], _, items => .ok items.toArray
  | _, [only], _, _ => .ok only.items
  | _, top :: below :: rest, threshold, _ => joinAll precedes top below threshold rest

/-- The items in ascending order, those that do not precede each other in their own order. -/
def sorted (precedes : α -> α -> Except ε Bool) (items : List α) : Except ε (List α) :=
  let length := items.length
  (sortOnto precedes length (leastLength length length false) length [] usualThreshold items).map
    Array.toList

end TraceView.Sorting

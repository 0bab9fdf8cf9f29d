namespace CompileJob.Sorting

inductive Side where
  | front
  | back
  deriving DecidableEq

/-- How far from the side that one works from the element lies which halves a range. Of two in the
middle it is the one nearer the back. -/
def Side.half : Side → Nat → Nat
  | .front, size => size / 2
  | .back, size => (size - 1) / 2

variable {α : Type}

/-- Halves the range from `lo` to `hi` until it is empty. As much fuel as its size is enough. -/
def narrow (side : Side) (test : α → Bool) (items : List α) : (fuel lo hi : Nat) → Nat
  | 0, lo, _ => lo
  | fuel + 1, lo, hi =>
      if lo < hi then
        let middle := lo + side.half (hi - lo)
        if items[middle]?.any test then narrow side test items fuel (middle + 1) hi
        else narrow side test items fuel lo middle
      else lo

/-- Strides of doubling size while the test holds: the last position where it did and the next one. -/
def stride (test : α → Bool) (items : List α) : (fuel last next : Nat) → Nat × Nat
  | 0, last, next => (last, next)
  | fuel + 1, last, next =>
      if items[next]?.any test then stride test items fuel next (2 * next + 1)
      else (last, min next items.length)

def leading (side : Side) (test : α → Bool) (items : List α) : Nat :=
  if items.head?.any test then
    let (last, next) := stride test items items.length 0 1
    narrow side test items items.length (last + 1) next
  else 0

def spanNeighbours (next : α → α → Bool) : List α → List α × List α
  | a :: b :: rest =>
      if next a b then
        let (run, later) := spanNeighbours next (b :: rest)
        (a :: run, later)
      else ([a], b :: rest)
  | short => (short, [])

def firstRun (lt : α → α → Bool) : List α → List α × List α
  | a :: b :: rest =>
      if lt b a then
        let (run, later) := spanNeighbours (fun x y => lt y x) (a :: b :: rest)
        (run.reverse, later)
      else spanNeighbours (fun x y => !lt y x) (a :: b :: rest)
  | short => (short, [])

def insertHalving (lt : α → α → Bool) (run : List α) (a : α) : List α :=
  let n := narrow .front (fun b => !lt a b) run run.length 0 run.length
  run.take n ++ a :: run.drop n

def nextRun (lt : α → α → Bool) (shortest : Nat) (items : List α) : List α × List α :=
  let (run, later) := firstRun lt items
  let missing := shortest - run.length
  ((later.take missing).foldl (insertHalving lt) run, later.drop missing)

/-- A length of runs between 32 and 64 such that a power of two of them covers a list, the last one
perhaps shorter. A list of fewer than 64 elements is one run. -/
def shortestRun (size : Nat) : Nat :=
  if size < 64 then size
  else
    let unit := Nat.pow 2 (size.log2 - 5)
    (size + (unit - 1)) / unit

def runs (lt : α → α → Bool) (shortest : Nat) : (fuel : Nat) → List α → List (List α)
  | 0, _ => []
  | _ + 1, [] => []
  | fuel + 1, items =>
      let (run, later) := nextRun lt shortest items
      run :: runs lt shortest fuel later

end CompileJob.Sorting

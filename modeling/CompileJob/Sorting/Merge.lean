import CompileJob.Sorting.Run

/-!
The merge of two neighbouring runs. Elements that stay in place at either end are left out. The rest is
merged from the side of the shorter run: element by element, until one run has given several in a
row, and then by whole stretches, as long as these are long.

How many in a row it takes is called patience. Short stretches make the merge more patient and long
ones less, and it is kept from one merge to the next.
-/
namespace CompileJob.Sorting

/-- Two runs while they are merged, each with the next element to take at its head. -/
structure Merging (α : Type) where
  taken : List α := []
  first : List α
  second : List α

def longStretch : Nat := 7

variable {α : Type}

def Side.prefersFirst (side : Side) (lt : α → α → Bool) (a b : α) : Bool :=
  match side with
  | .front => !lt b a
  | .back => lt b a

namespace Merging

def takeFirst (m : Merging α) (n : Nat) : Merging α :=
  { m with taken := (m.first.take n).reverse ++ m.taken, first := m.first.drop n }

def takeSecond (m : Merging α) (n : Nat) : Merging α :=
  { m with taken := (m.second.take n).reverse ++ m.taken, second := m.second.drop n }

def isOver (side : Side) (m : Merging α) : Bool :=
  match side with
  | .front => m.first.length ≤ 1 || m.second.isEmpty
  | .back => m.first.isEmpty || m.second.length ≤ 1

def result (side : Side) (m : Merging α) : List α :=
  match side with
  | .front => m.taken.reverse ++ m.second ++ m.first
  | .back => m.taken.reverse ++ m.first ++ m.second

def size (m : Merging α) : Nat := m.first.length + m.second.length

def singles (side : Side) (lt : α → α → Bool) (patience : Nat) :
    (fuel firsts seconds : Nat) → Merging α → Merging α
  | 0, _, _, m => m
  | fuel + 1, firsts, seconds, m =>
      if m.isOver side || patience ≤ firsts || patience ≤ seconds then m
      else match m.first, m.second with
        | a :: _, b :: _ =>
            if side.prefersFirst lt a b then
              singles side lt patience fuel (firsts + 1) 0 (m.takeFirst 1)
            else singles side lt patience fuel 0 (seconds + 1) (m.takeSecond 1)
        | _, _ => m

def firstStretch (side : Side) (lt : α → α → Bool) (m : Merging α) : Nat :=
  match m.second with
  | b :: _ => leading side (fun a => side.prefersFirst lt a b) m.first
  | [] => 0

def secondStretch (side : Side) (lt : α → α → Bool) (m : Merging α) : Nat :=
  match m.first with
  | a :: _ => leading side (fun b => !side.prefersFirst lt a b) m.second
  | [] => 0

/-- Takes a stretch of the first run and the element that ends it, then the same of the second. Tells
whether one of the stretches was long. -/
def stretches (side : Side) (lt : α → α → Bool) (m : Merging α) : Merging α × Bool :=
  let n := m.firstStretch side lt
  let m := m.takeFirst n
  if m.isOver side then (m, false)
  else
    let m := m.takeSecond 1
    if m.isOver side then (m, false)
    else
      let k := m.secondStretch side lt
      let m := m.takeSecond k
      if m.isOver side then (m, false)
      else (m.takeFirst 1, longStretch ≤ n || longStretch ≤ k)

def gallop (side : Side) (lt : α → α → Bool) : (fuel patience : Nat) → Merging α → Merging α × Nat
  | 0, patience, m => (m, patience)
  | fuel + 1, patience, m =>
      let (m, long) := m.stretches side lt
      if m.isOver side || !long then (m, patience)
      else gallop side lt fuel (max 1 (patience - 1)) m

def complete (side : Side) (lt : α → α → Bool) : (fuel patience : Nat) → Merging α → List α × Nat
  | 0, patience, m => (m.result side, patience)
  | fuel + 1, patience, m =>
      let m := m.singles side lt patience m.size 0 0
      if m.isOver side then (m.result side, patience)
      else
        let (m, patience) := m.gallop side lt m.size patience
        if m.isOver side then (m.result side, patience)
        else complete side lt fuel (patience + 1) m

end Merging

/-- Merges two runs of which the head of the second is less than that of the first, and the last of the
first not less than that of the second. -/
def mergeMixed (lt : α → α → Bool) (patience : Nat) (first second : List α) : List α × Nat :=
  if first.length ≤ second.length then
    let m : Merging α := { first, second }
    (m.takeSecond 1).complete .front lt m.size patience
  else
    let m : Merging α := { first := first.reverse, second := second.reverse }
    let (merged, patience) := (m.takeFirst 1).complete .back lt m.size patience
    (merged.reverse, patience)

def merge (lt : α → α → Bool) (patience : Nat) (first second : List α) : List α × Nat :=
  match second with
  | [] => (first, patience)
  | head :: _ =>
      let before := leading .front (fun a => !lt head a) first
      match (first.drop before).getLast? with
      | none => (first ++ second, patience)
      | some last =>
          let mixed := second.length - leading .back (fun b => !lt b last) second.reverse
          if mixed = 0 then (first ++ second, patience)
          else
            let (merged, patience) := mergeMixed lt patience (first.drop before) (second.take mixed)
            (first.take before ++ merged ++ second.drop mixed, patience)

end CompileJob.Sorting

import CompileJob.Sorting.Merge

/-!
Sorting by a comparison under which some elements may have no order.

Where every two elements have an order there is one sorted arrangement, and insertion finds it. Where
some have none, the arrangement is the one that merging runs leaves. Each boundary of two runs has a
level, that of the coarsest cut in halves, quarters, eighths and so on of the list which parts the
middles of the two; a run is merged with the one before it as soon as a coarser boundary follows.
-/
namespace CompileJob.Sorting

variable {α : Type}

/-! ### Insertion -/

def insert (lt : α → α → Bool) (a : α) : List α → List α
  | [] => [a]
  | b :: rest => if lt b a then b :: insert lt a rest else a :: b :: rest

def insertAll (lt : α → α → Bool) : List α → List α
  | [] => []
  | a :: rest => insert lt a (insertAll lt rest)

theorem insert_perm (lt : α → α → Bool) (a : α) (items : List α) :
    (insert lt a items).Perm (a :: items) := by
  fun_induction insert lt a items with
  | case1 => exact .refl _
  | case2 b rest _ ih => exact (ih.cons b).trans (.swap a b rest)
  | case3 => exact .refl _

theorem insertAll_perm (lt : α → α → Bool) (items : List α) : (insertAll lt items).Perm items := by
  induction items with
  | nil => exact .refl _
  | cons a rest ih => exact (insert_perm lt a _).trans (ih.cons a)

/-! ### Runs -/

/-- The level of a boundary, from twice the middles of the runs that meet there. -/
def level (size : Nat) : (fuel a b : Nat) → Nat
  | 0, _, _ => 0
  | fuel + 1, a, b => if a / size < b / size then 1 else level size fuel (2 * a) (2 * b) + 1

/-- Runs that wait for their merge: the latest one, and those before it, the nearest first, each with
the level of the boundary behind it. -/
structure Waiting (α : Type) where
  before : List (Nat × List α)
  latest : List α
  start : Nat
  patience : Nat

def settle (lt : α → α → Bool) (coarse patience : Nat) (latest : List α) :
    List (Nat × List α) → List (Nat × List α) × List α × Nat
  | [] => ([], latest, patience)
  | (fine, run) :: before =>
      if coarse < fine then
        let (merged, patience) := merge lt patience run latest
        settle lt coarse patience merged before
      else ((fine, run) :: before, latest, patience)

def Waiting.push (lt : α → α → Bool) (size : Nat) (w : Waiting α) (run : List α) : Waiting α :=
  let middle := 2 * w.start + w.latest.length
  let coarse := level size (size.log2 + 2) middle (middle + w.latest.length + run.length)
  let (before, settled, patience) := settle lt coarse w.patience w.latest w.before
  { before := (coarse, settled) :: before
    latest := run
    start := w.start + w.latest.length
    patience }

def mergeRest (lt : α → α → Bool) (patience : Nat) (run behind : List α) :
    List (List α) → List α
  | [] => (merge lt patience run behind).1
  | nearest :: before =>
      if nearest.length < behind.length then
        let (merged, patience) := merge lt patience nearest run
        mergeRest lt patience merged behind before
      else
        let (merged, patience) := merge lt patience run behind
        mergeRest lt patience nearest merged before

def mergeRuns (lt : α → α → Bool) (items : List α) : List α :=
  let size := items.length
  match runs lt (shortestRun size) size items with
  | [] => []
  | run :: later =>
      let w := later.foldl (Waiting.push lt size) ⟨[], run, 0, longStretch⟩
      match w.before.map (·.2) with
      | [] => w.latest
      | nearest :: before => mergeRest lt w.patience nearest w.latest before

/-! ### Sorting -/

def ordered (lt : α → α → Bool) : List α → Bool
  | [] => true
  | a :: rest => rest.all (fun b => lt a b || lt b a) && ordered lt rest

def sort (lt : α → α → Bool) (items : List α) : List α :=
  if ordered lt items then insertAll lt items else mergeRuns lt items

end CompileJob.Sorting

import CompileJob.Number.Binary64

namespace CompileJob.Decimal

def tenTo (n : Nat) : Nat := Nat.pow 10 n

structure Scientific where
  digits : Nat
  exponent : Int
  deriving DecidableEq

def magnitude (units : Nat) : Int :=
  (Nat.toDigits 10 (units * tenTo 400 / Binary64.unitsPerOne)).length - 400

/-- Whether `x * num / den` units lie where every number rounds to `units`. The bounds are midpoints
to the neighbours, in quarters of a unit; they belong to the interval when the last bit is even. -/
def readsBack (units num den x : Nat) : Bool :=
  let step := Binary64.spacing units
  let low := 4 * units - (if units = twoTo 52 * step ∧ 1 < step then step else 2 * step)
  let high := 4 * units + 2 * step
  let at4 := 4 * x * num
  if units / step % 2 = 0 then low * den ≤ at4 ∧ at4 ≤ high * den
  else low * den < at4 ∧ at4 < high * den

def onGrid (units : Nat) (exponent : Int) : Option Scientific :=
  let num := Binary64.unitsPerOne * tenTo exponent.toNat
  let den := tenTo (-exponent).toNat
  let q := units * den / num
  let lowFits := readsBack units num den q
  let highFits := readsBack units num den (q + 1)
  let nearest := roundHalfEven (units * den) num
  if lowFits && highFits then some ⟨nearest, exponent⟩
  else if lowFits then some ⟨q, exponent⟩
  else if highFits then some ⟨q + 1, exponent⟩
  else none

/-- The first of the grids with one digit, two digits, … up to 17 that holds a number which reads
back. -/
def shortest (units : Nat) : Scientific :=
  let p := magnitude units
  ((List.range 17).findSome? fun n : Nat => onGrid units (p - (n + 1))).getD ⟨0, 0⟩

def digitText (n : Nat) : List Char := Nat.toDigits 10 n

def zeros (n : Nat) : List Char := List.replicate n '0'

/-- A number's text is positional when its point stands after `lowPoint` and up to `highPoint`
places from its first digit, and has an exponent otherwise. -/
structure Layout where
  lowPoint : Int
  highPoint : Int
  exponentWidth : Nat

def Layout.exponentText (layout : Layout) (e : Int) : List Char :=
  let digits := digitText e.natAbs
  (if e < 0 then ['e', '-'] else ['e', '+']) ++ zeros (layout.exponentWidth - digits.length) ++ digits

def Layout.text (layout : Layout) (ds : List Char) (point : Int) : List Char :=
  if layout.lowPoint < point ∧ point ≤ layout.highPoint then
    if point ≤ 0 then ['0', '.'] ++ zeros (-point).toNat ++ ds
    else if ds.length ≤ point.toNat then ds ++ zeros (point.toNat - ds.length) ++ ['.', '0']
    else ds.take point.toNat ++ ['.'] ++ ds.drop point.toNat
  else
    let tail := if ds.length ≤ 1 then [] else '.' :: ds.drop 1
    ds.take 1 ++ tail ++ layout.exponentText (point - 1)

/-- Positional from `0.0001` to below `10 ^ 16`; an exponent has a sign and at least two digits. -/
def plain : Layout := ⟨-4, 16, 2⟩

def dropTrailingZeros (ds : List Char) : List Char := (ds.reverse.dropWhile (· = '0')).reverse

def signText (negative : Bool) : List Char := if negative then ['-'] else []

def text : Binary64 → String
  | .nan .. => "nan"
  | .infinite s => String.ofList (signText s ++ ['i', 'n', 'f'])
  | .finite s 0 => String.ofList (signText s ++ ['0', '.', '0'])
  | .finite s u =>
      let r := shortest u
      let ds := digitText r.digits
      String.ofList (signText s ++ plain.text (dropTrailingZeros ds) (ds.length + r.exponent))

def padLeft (width : Nat) (ds : List Char) : List Char := zeros (width - ds.length) ++ ds

def hundredths : Binary64 → String
  | .nan .. => "nan"
  | .infinite s => String.ofList (signText s ++ ['i', 'n', 'f'])
  | .finite s u =>
      let n := roundHalfEven (u * 100) Binary64.unitsPerOne
      String.ofList (signText s ++ digitText (n / 100) ++ ['.'] ++ padLeft 2 (digitText (n % 100)))

end CompileJob.Decimal

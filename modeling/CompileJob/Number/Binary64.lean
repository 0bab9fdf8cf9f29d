/-!
Binary64 numbers as exact integers.

A finite number is a sign and a count of units of `2 ^ -1074`, the distance of the smallest number
from zero. Every operation computes an exact ratio of integers and rounds it once, to nearest with
ties to even (`nearest`). Bits are only a form of interchange (`ofBits`, `toBits`).
-/
namespace CompileJob

inductive Binary64 where
  | nan (negative : Bool) (payload : Nat)
  | infinite (negative : Bool)
  | finite (negative : Bool) (units : Nat)
  deriving DecidableEq, Inhabited

/-- The quotient rounded to nearest, a tie to the even neighbour. -/
def roundHalfEven (num den : Nat) : Nat :=
  let q := num / den
  let r := num % den
  if 2 * r < den then q else if den < 2 * r then q + 1 else q + q % 2

def twoTo (n : Nat) : Nat := Nat.pow 2 n

namespace Binary64

/-- The units in the number one. -/
def unitsPerOne : Nat := twoTo 1074

def unitsLimit : Nat := twoTo 2098

/-- The spacing of numbers from `units` on: 53 significant bits are kept. -/
def spacing (units : Nat) : Nat := twoTo (units.log2 - 52)

def nearestUnits (num den : Nat) : Nat :=
  let step := spacing (num / den)
  roundHalfEven num (den * step) * step

/-- The number nearest to `num / den` units; past the largest finite number it is infinite. -/
def nearest (negative : Bool) (num den : Nat) : Binary64 :=
  let units := nearestUnits num den
  if units < unitsLimit then .finite negative units else .infinite negative

def zero : Binary64 := .finite false 0

def ofInt (n : Int) : Binary64 := nearest (n < 0) (unitsPerOne * n.natAbs) 1

def quiet (negative : Bool) (payload : Nat) : Binary64 := .nan negative (payload ||| twoTo 51)

def scale (num den : Nat) : Binary64 → Binary64
  | .nan s p => quiet s p
  | .infinite s => .infinite s
  | .finite s u => nearest s (u * num) den

inductive Place where
  | below
  | at (units : Int)
  | above
  deriving DecidableEq

namespace Place

def lt : Place → Place → Bool
  | .below, q => q ≠ .below
  | .at a, .at b => a < b
  | .at _, q => q = .above
  | .above, _ => false

end Place

def signed (negative : Bool) (units : Nat) : Int := if negative then -units else units

def place : Binary64 → Option Place
  | .nan .. => none
  | .infinite s => some (if s then .below else .above)
  | .finite s u => some (.at (signed s u))

def lt (a b : Binary64) : Bool :=
  match a.place, b.place with
  | some p, some q => p.lt q
  | _, _ => false

def neg : Binary64 → Binary64
  | .nan s p => .nan (!s) p
  | .infinite s => .infinite (!s)
  | .finite s u => .finite (!s) u

/-- The exact sum rounded once; a sum of zero is negative only when both terms are. -/
def add : Binary64 → Binary64 → Binary64
  | .nan s p, _ => quiet s p
  | _, .nan s p => quiet s p
  | .infinite s, .infinite t => if s = t then .infinite s else quiet true 0
  | .infinite s, .finite .. => .infinite s
  | .finite .., .infinite t => .infinite t
  | .finite s u, .finite t v =>
      let sum := signed s u + signed t v
      nearest (if sum = 0 then s && t else sum < 0) sum.natAbs 1

def sub (a b : Binary64) : Binary64 := a.add b.neg

def isZero : Binary64 → Bool
  | .finite _ 0 => true
  | _ => false

inductive NotFinite where
  | nan
  | infinite
  deriving DecidableEq

def trunc : Binary64 → Except NotFinite Int
  | .nan .. => .error .nan
  | .infinite _ => .error .infinite
  | .finite s u => .ok (signed s (u / unitsPerOne))

def ceil : Binary64 → Except NotFinite Int
  | .nan .. => .error .nan
  | .infinite _ => .error .infinite
  | .finite true u => .ok (-(u / unitsPerOne : Nat))
  | .finite false u => .ok ((u + (unitsPerOne - 1)) / unitsPerOne : Nat)

def ofBits (bits : Nat) : Binary64 :=
  let negative := bits.testBit 63
  let exponent := bits / twoTo 52 % twoTo 11
  let fraction := bits % twoTo 52
  if exponent = 2047 then
    if fraction = 0 then .infinite negative else .nan negative fraction
  else if exponent = 0 then .finite negative fraction
  else .finite negative ((twoTo 52 + fraction) * twoTo (exponent - 1))

def toBits : Binary64 → Nat
  | .nan s p => s.toNat * twoTo 63 + 2047 * twoTo 52 + p
  | .infinite s => s.toNat * twoTo 63 + 2047 * twoTo 52
  | .finite s u => s.toNat * twoTo 63 + (u.log2 - 52) * twoTo 52 + u / spacing u

end Binary64

end CompileJob

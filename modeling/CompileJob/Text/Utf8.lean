/-!
UTF-8 with replacement of what is ill-formed.

`decode` reads bytes one at a time. A `Pending` sequence says which bytes may follow, so a maximal
ill-formed part is found where the next byte does not fit: it becomes one `replacement`, and that
byte starts anew.
-/
namespace CompileJob.Utf8

def encode (text : List Char) : List UInt8 := text.flatMap String.utf8EncodeChar

def replacement : Char := '\uFFFD'

/-- A sequence whose next byte lies in `low..high`, with `more` bytes after that one; `code` holds
the bits read so far. -/
structure Pending where
  low : Nat
  high : Nat
  more : Nat
  code : Nat
  deriving DecidableEq

/-- The sequence that a first byte starts. Second bytes are limited where overlong forms, surrogates
and codes above `0x10FFFF` would begin. -/
def lead? (b : Nat) : Option Pending :=
  if 0xC2 ≤ b ∧ b ≤ 0xDF then some ⟨0x80, 0xBF, 0, b - 0xC0⟩
  else if b = 0xE0 then some ⟨0xA0, 0xBF, 1, 0⟩
  else if b = 0xED then some ⟨0x80, 0x9F, 1, 0xD⟩
  else if 0xE1 ≤ b ∧ b ≤ 0xEF then some ⟨0x80, 0xBF, 1, b - 0xE0⟩
  else if b = 0xF0 then some ⟨0x90, 0xBF, 2, 0⟩
  else if b = 0xF4 then some ⟨0x80, 0x8F, 2, 4⟩
  else if 0xF1 ≤ b ∧ b ≤ 0xF3 then some ⟨0x80, 0xBF, 2, b - 0xF0⟩
  else none

def start (b : Nat) : List Char × Option Pending :=
  if b < 0x80 then ([Char.ofNat b], none)
  else match lead? b with
    | some p => ([], some p)
    | none => ([replacement], none)

def step : Option Pending → Nat → List Char × Option Pending
  | none, b => start b
  | some p, b =>
      if p.low ≤ b ∧ b ≤ p.high then
        let code := p.code * 64 + (b - 0x80)
        match p.more with
        | 0 => ([Char.ofNat code], none)
        | more + 1 => ([], some ⟨0x80, 0xBF, more, code⟩)
      else (replacement :: (start b).1, (start b).2)

def flush : Option Pending → List Char
  | none => []
  | some _ => [replacement]

def decodeFrom (pending : Option Pending) : List UInt8 → List Char
  | [] => flush pending
  | b :: rest => (step pending b.toNat).1 ++ decodeFrom (step pending b.toNat).2 rest

def decode (bytes : List UInt8) : List Char := decodeFrom none bytes

end CompileJob.Utf8

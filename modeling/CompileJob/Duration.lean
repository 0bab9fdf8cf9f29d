import CompileJob.Value.Number

namespace CompileJob

namespace DecimalDigit

/-- The codes of all zeros, in rising order. -/
def zeros : List Nat := [
  0x30, 0x660, 0x6F0, 0x7C0, 0x966, 0x9E6, 0xA66, 0xAE6, 0xB66, 0xBE6, 0xC66, 0xCE6, 0xD66, 0xDE6,
  0xE50, 0xED0, 0xF20, 0x1040, 0x1090, 0x17E0, 0x1810, 0x1946, 0x19D0, 0x1A80, 0x1A90, 0x1B50,
  0x1BB0, 0x1C40, 0x1C50, 0xA620, 0xA8D0, 0xA900, 0xA9D0, 0xA9F0, 0xAA50, 0xABF0, 0xFF10, 0x104A0,
  0x10D30, 0x11066, 0x110F0, 0x11136, 0x111D0, 0x112F0, 0x11450, 0x114D0, 0x11650, 0x116C0,
  0x11730, 0x118E0, 0x11950, 0x11C50, 0x11D50, 0x11DA0, 0x16A60, 0x16AC0, 0x16B50, 0x1D7CE,
  0x1D7D8, 0x1D7E2, 0x1D7EC, 0x1D7F6, 0x1E140, 0x1E2F0, 0x1E950, 0x1FBF0]

def value? (c : Char) : Option Nat :=
  (zeros.find? fun first => first ≤ c.toNat && c.toNat < first + 10).map (c.toNat - ·)

def byteValue? (b : UInt8) : Option Nat :=
  if 48 ≤ b.toNat && b.toNat < 58 then some (b.toNat - 48) else none

end DecimalDigit

namespace Duration

def seconds (v : Value) : Except Fault Binary64 := do
  return (← (← v.number).toBinary64).scale 1 1000

def wholeSeconds (v : Value) : Except Fault Int := do
  Value.Number.wholeNumber (← seconds v).ceil

/-- As many digits as are read as one number. -/
def digitLimit : Nat := 4300

def digits? {α : Type} [BEq α] (separator : α) (digit? : α → Option Nat) (text : List α) :
    Option (List Nat) := do
  let groups ← (text.splitOn separator).mapM (·.mapM digit?)
  if groups.any (·.isEmpty) then none else some groups.flatten

def ofDigits (digits : List Nat) : Nat := digits.foldl (fun n d => n * 10 + d) 0

/-- The number that a numeral written a thousand times over spells. -/
def thousandfold {α : Type} [BEq α] (separator : α) (digit? : α → Option Nat) (text : List α) :
    Except Fault Int :=
  orFault .badValue do
    let digits ← digits? separator digit? text
    if 1000 * digits.length ≤ digitLimit then
      some (ofDigits (List.replicate 1000 digits).flatten)
    else none

def millis (v : Value) : Except Fault Int :=
  match v, v.number? with
  | _, some (.int n) => .ok (n * 1000)
  | _, some (.float x) => Value.Number.wholeNumber (x.scale 1000 1).trunc
  | .str s, _ => thousandfold '_' DecimalDigit.value? s.toList
  | .bytes content, _ => thousandfold 0x5F DecimalDigit.byteValue? content
  | _, _ => .error .wrongType

end Duration

end CompileJob

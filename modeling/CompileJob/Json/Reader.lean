import CompileJob.Number.Decimal
import CompileJob.Value.Basic
import CompileJob.Text.Utf8

namespace CompileJob.Json

def isBlank (c : Char) : Bool := c = ' ' || c = '\t' || c = '\n' || c = '\r'

def skipBlank (text : List Char) : List Char := text.dropWhile isBlank

def hexDigit? (c : Char) : Option Nat :=
  if '0' ≤ c ∧ c ≤ '9' then some (c.toNat - 48)
  else if 'a' ≤ c ∧ c ≤ 'f' then some (c.toNat - 87)
  else if 'A' ≤ c ∧ c ≤ 'F' then some (c.toNat - 55)
  else none

def hexNumber? (digits : List Char) : Option Nat :=
  digits.foldlM (fun n c => (hexDigit? c).map (n * 16 + ·)) 0

def letterEscape? : Char → Option Nat
  | '"' => some 0x22
  | '\\' => some 0x5C
  | '/' => some 0x2F
  | 'b' => some 0x08
  | 'f' => some 0x0C
  | 'n' => some 0x0A
  | 'r' => some 0x0D
  | 't' => some 0x09
  | _ => none

def readUnits : List Char → Option (List Nat × List Char)
  | [] => none
  | '"' :: rest => some ([], rest)
  | '\\' :: 'u' :: a :: b :: c :: d :: rest => do
      let unit ← hexNumber? [a, b, c, d]
      let (units, rest) ← readUnits rest
      some (unit :: units, rest)
  | '\\' :: c :: rest => do
      let code ← letterEscape? c
      let (units, rest) ← readUnits rest
      some (code :: units, rest)
  | c :: rest => do
      if c.toNat < 0x20 then none
      let (units, rest) ← readUnits rest
      some (c.toNat :: units, rest)

def isHighSurrogate (unit : Nat) : Bool := 0xD800 ≤ unit && unit < 0xDC00

def isLowSurrogate (unit : Nat) : Bool := 0xDC00 ≤ unit && unit < 0xE000

def charOf (unit : Nat) : Char :=
  if isHighSurrogate unit || isLowSurrogate unit then Utf8.replacement else Char.ofNat unit

/-- A high surrogate and the low one after it are one character; one that stands alone is replaced. -/
def joinUnits : List Nat → List Char
  | [] => []
  | high :: low :: rest =>
      if isHighSurrogate high && isLowSurrogate low then
        Char.ofNat (0x10000 + (high - 0xD800) * 0x400 + (low - 0xDC00)) :: joinUnits rest
      else charOf high :: joinUnits (low :: rest)
  | [unit] => [charOf unit]

def readString (text : List Char) : Option (String × List Char) :=
  (readUnits text).map fun (units, rest) => (String.ofList (joinUnits units), rest)

def isDigit (c : Char) : Bool := '0' ≤ c && c ≤ '9'

def digitsValue (digits : List Char) : Nat := digits.foldl (fun n c => n * 10 + (c.toNat - 48)) 0

/-- The number nearest to `digits * 10 ^ exponent`. Exponents far outside the range are decided by
their sign. -/
def nearestDecimal (negative : Bool) (digits : List Char) (exponent : Int) : Binary64 :=
  let m := digitsValue digits
  if m = 0 then .finite negative 0
  else if exponent > 400 then .infinite negative
  else if exponent + digits.length < -400 then .finite negative 0
  else .nearest negative (m * Binary64.unitsPerOne * Decimal.tenTo exponent.toNat)
    (Decimal.tenTo (-exponent).toNat)

def readFraction : List Char → Option (List Char × List Char)
  | '.' :: rest =>
      let digits := rest.takeWhile isDigit
      if digits.isEmpty then none else some (digits, rest.dropWhile isDigit)
  | rest => some ([], rest)

def readSigned (text : List Char) : Bool × List Char :=
  match text with
  | '-' :: rest => (true, rest)
  | '+' :: rest => (false, rest)
  | rest => (false, rest)

def readExponent (text : List Char) : Option (Option Int × List Char) :=
  match text with
  | c :: rest =>
      if c = 'e' || c = 'E' then
        let (negative, rest) := readSigned rest
        let digits := rest.takeWhile isDigit
        if digits.isEmpty then none
        else
          let e : Int := digitsValue digits
          some (some (if negative then -e else e), rest.dropWhile isDigit)
      else some (none, text)
  | [] => some (none, text)

def readNumber (text : List Char) : Option (Value × List Char) := do
  let (negative, text) := match text with
    | '-' :: rest => (true, rest)
    | rest => (false, rest)
  let whole := text.takeWhile isDigit
  if whole.isEmpty then none
  let (fraction, rest) ← readFraction (text.dropWhile isDigit)
  let (exponent, rest) ← readExponent rest
  if fraction.isEmpty && exponent.isNone then
    let n : Int := digitsValue whole
    some (.int (if negative then -n else n), rest)
  else
    some (.float (nearestDecimal negative (whole ++ fraction)
      (exponent.getD 0 - fraction.length)), rest)

mutual

def readValue : Nat → List Char → Option (Value × List Char)
  | 0, _ => none
  | fuel + 1, text =>
      match skipBlank text with
      | 'n' :: 'u' :: 'l' :: 'l' :: rest => some (.null, rest)
      | 't' :: 'r' :: 'u' :: 'e' :: rest => some (.bool true, rest)
      | 'f' :: 'a' :: 'l' :: 's' :: 'e' :: rest => some (.bool false, rest)
      | '"' :: rest => (readString rest).map fun (s, rest) => (.str s, rest)
      | '[' :: rest =>
          match skipBlank rest with
          | ']' :: rest => some (.list [], rest)
          | _ => (readItems fuel rest).map fun (items, rest) => (.list items, rest)
      | '{' :: rest =>
          match skipBlank rest with
          | '}' :: rest => some (.object [], rest)
          | _ => (readFields fuel rest).map fun (fields, rest) => (.object fields, rest)
      | text => readNumber text

def readItems : Nat → List Char → Option (List Value × List Char)
  | 0, _ => none
  | fuel + 1, text => do
      let (v, rest) ← readValue fuel text
      match skipBlank rest with
      | ',' :: rest =>
          let (items, rest) ← readItems fuel rest
          some (v :: items, rest)
      | ']' :: rest => some ([v], rest)
      | _ => none

def readFields : Nat → List Char → Option (Fields × List Char)
  | 0, _ => none
  | fuel + 1, text => do
      let ('"' :: rest) := skipBlank text | none
      let (key, rest) ← readString rest
      let (':' :: rest) := skipBlank rest | none
      let (v, rest) ← readValue fuel rest
      match skipBlank rest with
      | ',' :: rest =>
          let (fields, rest) ← readFields fuel rest
          some ((key, v) :: fields, rest)
      | '}' :: rest => some ([(key, v)], rest)
      | _ => none

end

def read (text : String) : Option Value :=
  match readValue (text.length + 1) text.toList with
  | some (v, rest) => if rest.all isBlank then some v else none
  | none => none

end CompileJob.Json

import CompileJob.Number.Decimal
import CompileJob.Text.Printable
import CompileJob.Value.Basic

namespace CompileJob.Value

def hexDigits (width n : Nat) : List Char := Decimal.padLeft width (Nat.toDigits 16 n)

/-- The single quote, unless the content has one and no double quote. -/
def quoteFor (content : List Char) : Char :=
  if content.contains '\'' && !content.contains '"' then '"' else '\''

def escapeCode (c : Char) : List Char :=
  if c = '\n' then ['\\', 'n']
  else if c = '\r' then ['\\', 'r']
  else if c = '\t' then ['\\', 't']
  else if c.toNat ≤ 0xFF then ['\\', 'x'] ++ hexDigits 2 c.toNat
  else if c.toNat ≤ 0xFFFF then ['\\', 'u'] ++ hexDigits 4 c.toNat
  else ['\\', 'U'] ++ hexDigits 8 c.toNat

def escape (shown : Char → Bool) (quote c : Char) : List Char :=
  if c = quote || c = '\\' then ['\\', c]
  else if shown c then [c]
  else escapeCode c

def quoteChars (shown : Char → Bool) (content : List Char) : List Char :=
  let quote := quoteFor content
  quote :: content.flatMap (escape shown quote) ++ [quote]

def quoteText (s : String) : String := String.ofList (quoteChars Printable.isPrintable s.toList)

def isGraphicAscii (c : Char) : Bool := 0x20 ≤ c.toNat && c.toNat < 0x7F

def quoteBytes (content : List UInt8) : String :=
  "b" ++ String.ofList (quoteChars isGraphicAscii (content.map fun b => Char.ofNat b.toNat))

mutual

def quoted : Value → String
  | .null => "None"
  | .bool b => if b then "True" else "False"
  | .int n => toString n
  | .float x => Decimal.text x
  | .str s => quoteText s
  | .bytes content => quoteBytes content
  | .list items => "[" ++ ", ".intercalate (quotedItems items) ++ "]"
  | .object fields => "\x7b" ++ ", ".intercalate (quotedFields fields) ++ "\x7d"

def quotedItems : List Value → List String
  | [] => []
  | v :: rest => v.quoted :: quotedItems rest

def quotedFields : List (String × Value) → List String
  | [] => []
  | (k, v) :: rest => (quoteText k ++ ": " ++ v.quoted) :: quotedFields rest

end

def text : Value → String
  | .str s => s
  | v => v.quoted

end CompileJob.Value

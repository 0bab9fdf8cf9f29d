import CompileJob.Value.Printer

namespace CompileJob.Json

def unitText (unit : Nat) : List Char := ['\\', 'u'] ++ Value.hexDigits 4 unit

def codeText (code : Nat) : List Char :=
  if code < 0x10000 then unitText code
  else unitText (0xD800 + (code - 0x10000) / 0x400) ++ unitText (0xDC00 + (code - 0x10000) % 0x400)

def escapeChar (c : Char) : List Char :=
  if c = '"' then ['\\', '"']
  else if c = '\\' then ['\\', '\\']
  else if c = '\n' then ['\\', 'n']
  else if c = '\r' then ['\\', 'r']
  else if c = '\t' then ['\\', 't']
  else if c = '\x08' then ['\\', 'b']
  else if c = '\x0c' then ['\\', 'f']
  else if Value.isGraphicAscii c then [c]
  else codeText c.toNat

def quote (text : List Char) : List Char := '"' :: (text.flatMap escapeChar ++ ['"'])

mutual

/-- Bytes are written as the list of their numbers. -/
def writeChars : Value → List Char
  | .null => ['n', 'u', 'l', 'l']
  | .bool true => ['t', 'r', 'u', 'e']
  | .bool false => ['f', 'a', 'l', 's', 'e']
  | .int n => (toString n).toList
  | .float x => (Decimal.text x).toList
  | .str s => quote s.toList
  | .bytes content =>
      '[' :: ([',', ' '].intercalate (content.map fun b => (toString b.toNat).toList) ++ [']'])
  | .list items => '[' :: (writeItems items ++ [']'])
  | .object fields => '{' :: (writeFields fields ++ ['}'])

def writeItems : List Value → List Char
  | [] => []
  | [v] => writeChars v
  | v :: rest => writeChars v ++ ([',', ' '] ++ writeItems rest)

def writeFields : List (String × Value) → List Char
  | [] => []
  | [(k, v)] => quote k.toList ++ ([':', ' '] ++ writeChars v)
  | (k, v) :: rest =>
      quote k.toList ++ ([':', ' '] ++ (writeChars v ++ ([',', ' '] ++ writeFields rest)))

end

def write (v : Value) : String := String.ofList (writeChars v)

end CompileJob.Json

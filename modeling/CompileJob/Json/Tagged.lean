import CompileJob.Json.Writer
import CompileJob.Json.Reader

namespace CompileJob.Json

def floatTag : String := "$float"

def bytesTag : String := "$bytes"

def bytesOfHex : List Char → Option (List UInt8)
  | [] => some []
  | a :: b :: rest => do
      let n ← hexNumber? [a, b]
      let bytes ← bytesOfHex rest
      some (UInt8.ofNat n :: bytes)
  | _ => none

def hexOfBytes (content : List UInt8) : List Char :=
  content.flatMap fun b => Value.hexDigits 2 b.toNat

def tagged? : Fields → Option Value
  | [(key, .str digits)] =>
      if key = floatTag then (hexNumber? digits.toList).map fun n => .float (.ofBits n)
      else if key = bytesTag then (bytesOfHex digits.toList).map .bytes
      else none
  | _ => none

mutual

def untag : Value → Value
  | .list items => .list (untagItems items)
  | .object fields => (tagged? fields).getD (.object (untagFields fields))
  | v => v

def untagItems : List Value → List Value
  | [] => []
  | v :: rest => untag v :: untagItems rest

def untagFields : List (String × Value) → List (String × Value)
  | [] => []
  | (k, v) :: rest => (k, untag v) :: untagFields rest

end

mutual

def tag : Value → Value
  | .float x => .object [(floatTag, .str (String.ofList (Value.hexDigits 16 x.toBits)))]
  | .bytes content => .object [(bytesTag, .str (String.ofList (hexOfBytes content)))]
  | .list items => .list (tagItems items)
  | .object fields => .object (tagFields fields)
  | v => v

def tagItems : List Value → List Value
  | [] => []
  | v :: rest => tag v :: tagItems rest

def tagFields : List (String × Value) → List (String × Value)
  | [] => []
  | (k, v) :: rest => (k, tag v) :: tagFields rest

end

end CompileJob.Json

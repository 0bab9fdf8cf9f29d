import CompileJob.Step
import CompileJob.Text.Path
import CompileJob.Text.Utf8

namespace CompileJob.Value

def item (v : Value) (key : String) : Except Fault Value :=
  match v with
  | .object fields => orFault (.missingField (.str key)) (Table.find? fields key)
  | _ => .error .wrongType

/-- The field of an object, or a default where it is absent. A field that holds null is there. -/
def field (v : Value) (key : String) (default : Value) : Except Fault Value :=
  match v with
  | .object fields => .ok (Table.getD fields key default)
  | _ => .error .unsupported

def hasField (v : Value) (key : String) : Bool :=
  match v with
  | .object fields => Table.has fields key
  | _ => false

def withField (v : Value) (key : String) (content : Value) : Value :=
  match v with
  | .object fields => .object (Table.put fields key content)
  | _ => v

def elements (v : Value) : Except Fault (List Value) := orFault .wrongType v.elements?

def string (v : Value) : Except Fault String :=
  match v with
  | .str s => .ok s
  | _ => .error .wrongType

def prepend (start : String) (v : Value) : Except Fault Value := do
  return .str (start ++ (← v.string))

/-- The entries of an object, or those that a list of pairs spells out. The later of two entries with
equal keys counts, in the place of the first. -/
def entries (v : Value) : Except Fault (Table Value Value) :=
  match v with
  | .object fields => .ok (fields.map fun (k, w) => (.str k, w))
  | _ => do (← v.elements).foldlM (fun table pair => do
      match ← pair.elements with
      | [key, w] => if key.isKey then return Table.put table key w else throw .wrongType
      | _ => throw .badValue) []

def decoded : Value → Value
  | .bytes content => .str (String.ofList (Utf8.decode content))
  | v => v

end CompileJob.Value

namespace CompileJob.Path

def joinValues (dir part : Value) : Except Fault Value :=
  match dir, part with
  | .str d, .str p => .ok (.str (join d p))
  | .bytes d, .bytes p => .ok (.bytes (joinParts 0x2F d p))
  | _, _ => .error .wrongType

end CompileJob.Path

import CompileJob.Executor.Basic
import CompileJob.Sorting.Basic
import CompileJob.Value.Number

namespace CompileJob

structure ToolDescriptor where
  id : Value
  exe : Value
  name : Value
  options : List Value

namespace ToolDescriptor

def make (id exe name options : Value) : Except Fault ToolDescriptor := do
  return { id, exe, name, options := ← options.elements }

def ofConfig (id config : Value) : Except Fault ToolDescriptor :=
  match config with
  | .object fields => do
      make id (← config.item "exe") (Table.getD fields "name" .null)
        (Table.getD fields "options" (.list []))
  | _ => .ok { id, exe := config, name := .null, options := [] }

def equal (a b : ToolDescriptor) : Bool :=
  a.id.equal b.id && a.exe.equal b.exe && a.name.equal b.name &&
    Value.equalItems a.options b.options

end ToolDescriptor

structure Tool where
  descriptor : ToolDescriptor
  executor : Executor

namespace Tool

def runOptions : Fields :=
  [("ignore_errors", .bool true), ("capture_output", .bool true), ("forward_stderr", .bool true)]

def command (tool : Tool) (input : Value) (extra : List Value) : List Value :=
  [tool.descriptor.exe] ++ tool.descriptor.options ++ extra ++ [input]

def callerLang (info : Value) : Except Fault Value := do
  (← info.field "compiler" (.object [])).field "lang" (.str "")

def failureMessage (tool : Tool) (code : Value) : Except Fault String := do
  return "tool " ++ tool.descriptor.id.text ++ " failed with code " ++ (← code.integerText)

/-- A return code other than zero is no fault: it is logged and the result given all the same. -/
def run (tool : Tool) (info input extra : Value) : Step Machine Value := do
  let lang ← callerLang info
  let extra ← extra.elements
  log .debug .tool ("running tool " ++ tool.descriptor.id.text ++ " for " ++ lang.text)
  let result ← tool.executor (.list (tool.command input extra)) runOptions
  let code ← result.item "return_code"
  if code.truthy then logFormatted .debug .tool (tool.failureMessage code)
  return result

end Tool

structure Registry where
  tools : Table Value Tool

namespace Registry

def empty : Registry := ⟨[]⟩

def add (registry : Registry) (tool : Tool) : Except Fault Registry :=
  if tool.descriptor.id.isKey then .ok ⟨Table.put registry.tools tool.descriptor.id tool⟩
  else .error .wrongType

def ofTools (tools : List Tool) : Except Fault Registry := tools.foldlM add empty

def find (registry : Registry) (capability : Value) : Except Fault (Option Tool) :=
  if capability.isKey then .ok (Table.find? registry.tools capability) else .error .wrongType

def size (registry : Registry) : Nat := registry.tools.length

def keyLt {α : Type} (a b : Value × α) : Bool := (a.1.lt? b.1).getD false

def comparable {α : Type} : Table Value α → Bool
  | [] => true
  | first :: rest => rest.all fun other => (first.1.lt? other.1).isSome

/-- The entries in the order of their keys, which has no place for a NaN: where that one comes depends
on the others. -/
def sorted {α : Type} (entries : Table Value α) : Except Fault (Table Value α) :=
  if comparable entries then .ok (Sorting.sort keyLt entries) else .error .wrongType

def converter : String := "wat2wasm"

def converterVariable : String := "WASMWORKERS_WAT2WASM"

def withDefaultConverter (env : Table String String) (config : Table Value Value) :
    Table Value Value :=
  match Table.find? env converterVariable with
  | some exe =>
      if Table.has config (.str converter) || exe.isEmpty then config
      else Table.put config (.str converter) (.str exe)
  | none => config

def ofConfig (executor : Executor) (config : Table Value Value) : Except Fault Registry := do
  (← sorted config).foldlM (fun registry (capability, entry) => do
    registry.add ⟨← ToolDescriptor.ofConfig capability entry, executor⟩) empty

def ofEnviron (executor : Executor) (env : Table String String) (environ : Value) :
    Except Fault Registry := do
  let config ← (← environ.field "tools" (.object [])).entries
  ofConfig executor (withDefaultConverter env config)

def listed (registry : Registry) : Except Fault (List Tool) := do
  return (← sorted registry.tools).map (·.2)

end Registry

end CompileJob

import CompileJob.Compiler

namespace CompileJob

namespace Backend

def entryGroup : String := "wasmworkers.backends"

def register (key : Value) (b : Backend) : Step Machine Unit := do
  if key.isKey then modify fun m => { m with registered := Table.put m.registered key b }
  else throw .wrongType

/-- The first entry point of a name in a group; of any name when that is null. Only that one is
loaded. -/
def firstInstalled (entries : List EntryPoint) (group name : Value) : Except Fault Backend :=
  match entries.find? fun e =>
      group.equal (.str e.group) && (name.isNull || name.equal (.str e.name)) with
  | some e => e.target.mapError (.brokenBackend e.name group)
  | none => .error (.unknownBackend group name)

def lookup (m : Machine) (key : Value) : Except Fault Backend :=
  if key.isKey then
    match Table.find? m.registered key with
    | some b => .ok b
    | none => firstInstalled m.entryPoints (.str entryGroup) key
  else .error .wrongType

end Backend

namespace Job

open Bench

def defaultCompiler (source : String) : String := "default-" ++ Lowercase.lower (Path.extension source)

def withCompiler (environ : Value) : Except Fault Value :=
  match environ with
  | .object fields =>
      if Table.has fields "compiler" then .ok environ
      else do
        let source ← (← environ.item "source_file").string
        return environ.withField "compiler" (.str (defaultCompiler source))
  | _ => .error .wrongType

def backendKey (compiler : Value) : Except Fault String :=
  match compiler with
  | .str s => .ok (String.ofList (s.toList.takeWhile (· ≠ '.')))
  | .bytes _ => .error .wrongType
  | _ => .error .unsupported

def run (tools : Option Registry) (executor : Executor) (environ : Value) : Step Bench Unit := do
  modify fun b => { b with environ := environ, memory := {} }
  let environ ← withCompiler environ
  modify fun b => { b with environ := environ }
  let compiler ← environ.item "compiler"
  let task ← environ.field "task_id" (.str "")
  onMachine (log .debug .job ("running compile job " ++ compiler.text ++ " " ++ task.text))
  let key ← backendKey compiler
  let backend ← Backend.lookup (← get).machine (.str key)
  Compiler.compile { backend, tools, executor } environ

end Job

end CompileJob

import CompileJob.Machine.Basic
import CompileJob.Tool

namespace CompileJob

namespace Value

def fieldsOf (v : Value) : Except Fault Fields :=
  match v with
  | .object fields => .ok fields
  | _ => .error .wrongType

def optional (v : Value) (key : String) : Option Value :=
  match v with
  | .object fields => Table.find? fields key
  | _ => none

def readOptional {α : Type} (v : Value) (key : String) (default : α)
    (read : Value → Except Fault α) : Except Fault α :=
  match v.optional key with
  | some w => read w
  | none => .ok default

def content (v : Value) : Except Fault (List UInt8) :=
  match v with
  | .bytes b => .ok b
  | _ => .error .wrongType

def strings (v : Value) : Except Fault (List String) := do (← v.elements).mapM Value.string

def nullable {α : Type} (read : Value → Except Fault α) (v : Value) : Except Fault (Option α) :=
  match v with
  | .null => .ok none
  | w => some <$> read w

def tableOf {α : Type} (read : Value → Except Fault α) (v : Value) :
    Except Fault (Table String α) := do
  (← v.fieldsOf).mapM fun (k, w) => return (k, ← read w)

def listOf {α : Type} (read : Value → Except Fault α) (v : Value) : Except Fault (List α) :=
  match v with
  | .list items => items.mapM read
  | _ => .error .wrongType

end Value

namespace Backend

def ofValue (v : Value) : Except Fault Backend := do
  let name ← match v with
    | .str s => pure s
    | _ => (← v.item "base").string
  let b := ofToolchain (← orFault .badValue (Toolchain.ofName? name))
  return { b with
    key := (v.optional "key").getD b.key
    lang := (v.optional "lang").getD b.lang
    compiler := (v.optional "compiler").getD b.compiler
    options := (v.optional "options").getD b.options
    subcommand := (v.optional "subcommand").getD b.subcommand }

def toValue (b : Backend) : Value :=
  .object [("base", .str b.toolchain.name), ("key", b.key), ("lang", b.lang),
    ("compiler", b.compiler), ("options", b.options)]

end Backend

namespace ToolDescriptor

def ofValue (v : Value) : Except Fault ToolDescriptor := do
  let id ← orFault .wrongType (v.optional "id")
  match v.optional "config" with
  | some config => ofConfig id config
  | none =>
      make id (← orFault .wrongType (v.optional "exe")) ((v.optional "name").getD .null)
        ((v.optional "options").getD (.list []))

def toValue (d : ToolDescriptor) : Value :=
  .object [("id", d.id), ("exe", d.exe), ("name", d.name), ("options", .list d.options)]

end ToolDescriptor

namespace Registry

def ofValue (executor : Executor) (v : Value) : Except Fault Registry := do
  ofTools (← v.listOf fun w => return ⟨← ToolDescriptor.ofValue w, executor⟩)

def toValue (registry : Registry) : Except Fault Value := do
  return .list ((← registry.listed).map (·.descriptor.toValue))

end Registry

namespace Rule

/-- A program that ends with code zero leaves four bytes, another leaves nothing, unless the
description says otherwise. -/
def ofValue (v : Value) : Except Fault Rule := do
  let code := (v.optional "return_code").getD (.int 0)
  return {
    exe := v.optional "exe"
    spawnError := (v.optional "spawn_error").map Value.text
    duration := (v.optional "duration").getD (.float .zero)
    code
    outputSize := ← v.readOptional "output_size"
      (if code.equal (.int 0) then some (.int 4) else none) (Value.nullable .ok)
    stdout := ← v.readOptional "stdout" [] Value.content
    stderr := ← v.readOptional "stderr" [] Value.content }

end Rule

namespace EntryPoint

def ofValue (v : Value) : Except Fault EntryPoint := do
  let target ← match v.optional "import_error" with
    | some reason => pure (Except.error reason.text)
    | none => Except.ok <$> Backend.ofValue (← v.item "backend")
  return { group := ← (← v.item "group").string, name := ← (← v.item "name").string, target }

def standard : List EntryPoint :=
  let entry (name : String) (t : Toolchain) : EntryPoint :=
    ⟨"wasmworkers.backends", name, .ok (.ofToolchain t)⟩
  [entry "default-wat" .wasmer, entry "default-wasm" .wasmer, entry "default-c" .cc,
    entry "wasmer" .wasmer, entry "cc" .cc]

end EntryPoint

namespace Reply

def ofValue (v : Value) : Except Fault Reply := do
  return { result := v.optional "renv", files := ← v.readOptional "files" [] Value.fieldsOf }

end Reply

namespace Machine

/-- A machine on which nothing has happened yet. Its log is strict. -/
def ofValue (v : Value) : Except Fault Machine := do
  return {
    cwd := ← v.readOptional "cwd" "/cwd" Value.string
    threadDir := (v.optional "tmpdir").getD .null
    env := ← v.readOptional "env" [] (·.tableOf Value.string)
    files := ← v.readOptional "files" [] Value.fieldsOf
    dirs := ["/", "/tmp"] ++ (← v.readOptional "dirs" [] Value.strings)
    clock := (v.optional "clock").getD (.float .zero)
    entryPoints := ← v.readOptional "entry_points" EntryPoint.standard (·.listOf EntryPoint.ofValue)
    registered := []
    rules := ← v.readOptional "processes" [] (·.listOf Rule.ofValue)
    processes := 0
    tempDirs := 0
    scripts := []
    trace := []
    strictLog := true }

/-- The machine with the given parts replaced, some files added and then some removed. -/
def change (m : Machine) (v : Value) : Except Fault Machine := do
  let files ← v.readOptional "files" [] Value.fieldsOf
  let removed ← v.readOptional "remove" [] Value.strings
  return { m with
    cwd := ← v.readOptional "cwd" m.cwd Value.string
    env := ← v.readOptional "env" m.env (·.tableOf Value.string)
    rules := ← v.readOptional "processes" m.rules (·.listOf Rule.ofValue)
    files := removed.foldl Table.erase (Table.putAll m.files files) }

end Machine

end CompileJob

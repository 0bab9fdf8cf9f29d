import CompileJob.Request
import CompileJob.Tool

namespace CompileJob

structure Driver where
  defaultOptions : Value
  tools : Option Registry
  runCompiler : (compiler options input execOptions : Value) → Step Machine Value

namespace Backend

def callerInfo (b : Backend) : Value :=
  .object [("compiler", .object [("lang", b.lang)])]

def findConverter (d : Driver) : Except Fault Tool := do
  let registry ← orFault .unsupported d.tools
  orFault (.missingTool (.str Registry.converter)) (← registry.find (.str Registry.converter))

def convert (b : Backend) (tool : Tool) (input : String) : Step Machine Value := do
  let output := Source.binaryName input
  log .debug .wasm ("converting " ++ input ++ " to " ++ output)
  tool.run b.callerInfo (.str input) (.list [.str "-o", .str output])

def runWasmer (b : Backend) (d : Driver) (compiler options input execOptions : Value) :
    Step Machine Value := do
  let execOptions := if execOptions.isNull then d.defaultOptions else execOptions
  let name ← Source.nameOf input
  if Source.isText name then
    let result ← b.convert (← findConverter d) name
    if (← result.item "return_code").truthy then return result
  d.runCompiler compiler options (.str (Source.binaryName name)) execOptions

def run (b : Backend) (d : Driver) (compiler options input execOptions : Value) :
    Step Machine Value :=
  match b.toolchain with
  | .cc => d.runCompiler compiler options input execOptions
  | .wasmer => b.runWasmer d compiler options input execOptions

end Backend

structure Memory where
  request : Option Request := none
  filters : Option Filters := none
  tools : Option Registry := none
  outputFilename : Option String := none

structure Bench where
  machine : Machine
  environ : Value
  memory : Memory

namespace Bench

def onMachine {α : Type} (step : Step Machine α) : Step Bench α :=
  step.focus Bench.machine fun b m => { b with machine := m }

def remember (f : Memory → Memory) : Step Bench Unit :=
  modify fun b => { b with memory := f b.memory }

def write (key : String) (content : Value) : Step Bench Unit :=
  modify fun b => { b with environ := b.environ.withField key content }

end Bench

structure Compiler where
  backend : Backend
  tools : Option Registry
  executor : Executor

namespace Compiler

open Bench

def argumentGroups (b : Backend) (r : Request) : Except Fault Backend.Groups := do
  let includes ← (← r.includes.elements).mapM (·.prepend "-I")
  let libPaths ← b.libraryPathArguments r.libPaths
  let libLinks ← (← r.libLinks.elements).mapM (·.prepend "-l")
  return {
    includes := .list includes
    libOptions := r.libOptions
    libPaths := .list libPaths
    libLinks := .list libLinks
    userOptions := r.userOptions
    staticLibs := r.staticLibLinks }

def arguments (b : Backend) (r : Request) (flags : List Value) (input : String) :
    Except Fault (List Value) := do
  let options := flags ++ (← b.options.elements)
  b.orderArguments (.list options) (.str input) (← argumentGroups b r)

def extended (v : Value) (ending : String) : Except Fault Value :=
  match v with
  | .str s => .ok (.str (s ++ ending))
  | .list items => .ok (.list (items ++ ending.toList.map fun c => .str (String.singleton c)))
  | _ => .error .wrongType

def exceeds (size limit : Value) : Except Fault Bool := orFault .wrongType (limit.lt? size)

def sizeLimitKey : String := "compilation_result_size_limit"

def tooLarge (m : Machine) (environ : Value) (output : String) : Except Fault Bool :=
  match environ with
  | .object fields =>
      match Table.find? fields sizeLimitKey with
      | some limit => exceeds (m.size output) limit
      | none => .ok false
  | _ => .ok false

def notProduced (output : String) : String :=
  "\nOutput file " ++ Path.basename output ++ " not produced"

def conclude (result : Value) (output : String) : Step Bench Unit := do
  let message := Value.decoded (← result.field "stdout" (.bytes []))
  write "compiler_output" message
  if (← result.item "return_code").truthy then
    write "result_code" (.str "CE")
  else if !(← get).machine.exists? output then
    onMachine (log .warning .compiler ("compiler did not produce " ++ output))
    write "result_code" (.str "CE")
    write "compiler_output" (← extended message (notProduced output))
  else if ← tooLarge (← get).machine (← get).environ output then
    write "result_code" (.str "CE")
    write "compiler_output" (.str "Compiled file size limit exceeded.")
  else
    write "result_code" (.str "OK")
    write "out_file" (.str output)
    write "exec_info" (.object [("mode", .str "object")])

def timeLimit : Int := 30000

def memLimit : Int := 256 * 1024

def outputLimit : Int := 5 * 1024 * 1024

def limitScope : String := "compilation_"

def defaultExecOptions (environ : Value) (memory : Memory) : Fields :=
  [("time_limit", .int timeLimit), ("mem_limit", .int memLimit), ("output_limit", .int outputLimit),
    ("ignore_errors", .bool true), ("capture_output", .bool true), ("forward_stderr", .bool true),
    ("environ", environ), ("environ_prefix", .str limitScope),
    ("cwd", (memory.request.map (·.workingDir)).getD .null)]

def runCompiler (c : Compiler) (defaults : Fields) (compiler options input execOptions : Value) :
    Step Machine Value := do
  log .debug .compiler ("compiling " ++ input.text ++ " with " ++ compiler.text ++ " (" ++
    c.backend.key.text ++ ")")
  let command := Value.list (compiler :: (← options.elements))
  match execOptions with
  | .null => c.executor command defaults
  | .object fields => c.executor command fields
  | _ => throw .wrongType

def driver (c : Compiler) (b : Bench) : Driver :=
  let defaults := defaultExecOptions b.environ b.memory
  { defaultOptions := .object defaults
    tools := b.memory.tools
    runCompiler := c.runCompiler defaults }

def toolsFor (c : Compiler) (m : Machine) (environ : Value) : Except Fault Registry :=
  match c.tools with
  | some registry => .ok registry
  | none => Registry.ofEnviron c.executor m.env environ

def compile (c : Compiler) (environ : Value) : Step Bench Unit := do
  modify fun b => { b with environ := environ }
  let m := (← get).machine
  let request ← Request.ofEnviron m environ
  remember ({ · with request := some request })
  let filters ← Filters.ofEnviron environ
  remember ({ · with filters := some filters, tools := c.tools })
  let tools ← c.toolsFor m environ
  remember ({ · with tools := some tools })
  let input ← (← request.inputFilename m).string
  let output ← c.backend.outputFilename (.str (Path.dirname input)) request.outputFilebase
  remember ({ · with outputFilename := some output })
  let (flags, filters) := c.backend.optionsForFilter filters (.str output)
  remember ({ · with filters := some filters })
  let args ← arguments c.backend request flags input
  let compiler := (← environ.field "compiler_path" .null).orElse c.backend.compiler
  let driver := c.driver (← get)
  let result ← onMachine (c.backend.run driver compiler (.list args) (.str input) .null)
  conclude result output

end Compiler

end CompileJob

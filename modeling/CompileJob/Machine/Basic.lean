import CompileJob.Backend
import CompileJob.Step

namespace CompileJob

inductive Level where
  | debug
  | info
  | warning
  deriving DecidableEq

def Level.name : Level → String
  | .debug => "DEBUG"
  | .info => "INFO"
  | .warning => "WARNING"

inductive Channel where
  | scratch
  | executor
  | tool
  | compiler
  | wasm
  | job
  deriving DecidableEq

def Channel.name : Channel → String
  | .scratch => "wasmworkers.workers.util"
  | .executor => "wasmworkers.workers.executors"
  | .tool => "wasmworkers.workers.tools"
  | .compiler => "wasmworkers.compilers.common"
  | .wasm => "wasmworkers.compilers.wasmer"
  | .job => "wasmworkers.compilers.job"

inductive Resource where
  | memory
  | cpu
  deriving DecidableEq

/-- A process to start. Its output goes to a pipe or nowhere; its messages are merged into the output
or go nowhere. -/
structure Launch where
  /-- The command as it was given: a list of words, or a value that lists texts. -/
  command : Value
  words : List String
  cwd : Value
  env : Table String String
  piped : Bool
  merged : Bool

inductive Event where
  | log (level : Level) (channel : Channel) (message : String)
  | spawn (launch : Launch)
  | setGroup
  | setLimit (resource : Resource) (limit : Int)
  | wait (timeout : Option Binary64)
  | kill (pid : Nat)
  | makeTemp (path : String)
  | makeDir (path : String)
  | removeTree (path : String)
  | call (command : Value) (options : Fields)
  | drive (compiler options input execOptions : Value)
  | print (line : String)

/-- How a program behaves when it is run. A rule without `exe` speaks of every program. Duration, code
and size are handed on as they were given; one that is no number faults where a number is needed. -/
structure Rule where
  exe : Option Value := none
  spawnError : Option String := none
  duration : Value := .float .zero
  code : Value := .int 0
  outputSize : Option Value := some (.int 4)
  stdout : List UInt8 := []
  stderr : List UInt8 := []

structure EntryPoint where
  group : String
  name : String
  target : Except String Backend

structure Reply where
  result : Option Value := none
  files : Table String Value := []

structure Machine where
  cwd : String
  /-- The directory that the running thread was moved to; null or an empty one stands for `cwd`. -/
  threadDir : Value
  env : Table String String
  /-- The size of each file. -/
  files : Table String Value
  dirs : List String
  /-- The time in seconds: an integer as long as all that was added to it were integers. -/
  clock : Value
  entryPoints : List EntryPoint
  registered : Table Value Backend
  rules : List Rule
  processes : Nat
  tempDirs : Nat
  scripts : List (List Reply)
  trace : List Event
  /-- Whether the log lets out the fault of a line that cannot be formatted. Standard logging leaves
  such a line out. -/
  strictLog : Bool := false

namespace Machine

def here (m : Machine) : Value := m.threadDir.orElse (.str m.cwd)

def resolve (m : Machine) (path : Value) : Except Fault Value :=
  if path.isNull then .ok m.here else Path.joinValues m.here path

def isDir (m : Machine) (path : String) : Bool := m.dirs.contains path

def exists? (m : Machine) (path : String) : Bool := Table.has m.files path || m.isDir path

def directorySize : Int := 4096

def size (m : Machine) (path : String) : Value := Table.getD m.files path (.int directorySize)

def record (m : Machine) (e : Event) : Machine := { m with trace := m.trace ++ [e] }

def putFile (m : Machine) (path : String) (size : Value) : Machine :=
  { m with files := Table.put m.files path size }

end Machine

def emit (e : Event) : Step Machine Unit := modify (·.record e)

def log (level : Level) (channel : Channel) (message : String) : Step Machine Unit :=
  emit (.log level channel message)

def logFormatted (level : Level) (channel : Channel) (message : Except Fault String) :
    Step Machine Unit := do
  match message with
  | .ok line => log level channel line
  | .error e => if (← get).strictLog then throw e

end CompileJob

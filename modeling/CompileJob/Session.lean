import CompileJob.Compiler
import CompileJob.Executor.Host
import CompileJob.Job
import CompileJob.ScratchDir

/-!
Sessions: named compilers, registries and scratch directories that live on while jobs come and go.

A job's description is a sheet with a number. Compilers that worked on one sheet share it, so what one
of them writes is seen through the other.
-/
namespace CompileJob

structure Station where
  compiler : Compiler
  memory : Memory := {}
  sheet : Option Nat := none

structure Session where
  machine : Machine
  sheets : List Value := []
  current : Option Nat := none
  stations : Table String Station := []
  registries : Table String Registry := []
  scratchDirs : Table String ScratchDir := []

namespace Session

def sheet (s : Session) (n : Option Nat) : Value := (n.bind (s.sheets[·]?)).getD .null

def onMachine {α : Type} (step : Step Machine α) : Step Session α :=
  step.focus Session.machine fun s m => { s with machine := m }

def named {α : Type} (table : Table String α) (id : String) : Except Fault α :=
  orFault (.missingField (.str id)) (Table.find? table id)

def executorFor (script : Option (List Reply)) : Step Session Executor := do
  match script with
  | none => return Executor.host
  | some replies =>
      let m := (← get).machine
      modify fun s => { s with machine := { m with scripts := m.scripts ++ [replies] } }
      return Executor.scripted m.scripts.length

/-- The sheet of a job: a new one, or the last one again, with some fields changed. Before the first job
the last sheet holds null. -/
def submit (environ : Option Value) (changes : Fields) : Step Session Nat := do
  let s ← get
  let n := match environ, s.current with
    | none, some n => n
    | _, _ => s.sheets.length
  let base := match environ with
    | some v => v
    | none => s.sheet s.current
  let changed := changes.foldl (fun v (k, w) => v.withField k w) base
  let sheets := if n < s.sheets.length then s.sheets.set n changed else s.sheets ++ [changed]
  set { s with sheets, current := some n }
  return n

def onSheet {α : Type} (n : Nat) (step : Step Bench α) : Step Session α :=
  step.focus (fun s => { machine := s.machine, environ := s.sheet (some n), memory := {} })
    fun s b => { s with machine := b.machine, sheets := s.sheets.set n b.environ }

def onStation {α : Type} (id : String) (station : Station) (n : Nat) (step : Step Bench α) :
    Step Session α :=
  step.focus
    (fun s => { machine := s.machine, environ := s.sheet (some n), memory := station.memory })
    fun s b => { s with
      machine := b.machine
      sheets := s.sheets.set n b.environ
      stations := Table.put s.stations id { station with memory := b.memory, sheet := some n } }

def addCompiler (id : String) (compiler : Compiler) : Step Session Unit :=
  modify fun s => { s with stations := Table.put s.stations id { compiler } }

def compile (id : String) (environ : Option Value) (changes : Fields) : Step Session Value := do
  let station ← named (← get).stations id
  let n ← submit environ changes
  onStation id station n do
    Compiler.compile station.compiler (← get).environ
    return (← get).environ

def runJob (environ : Option Value) (changes : Fields) (tools : Except Fault (Option Registry))
    (executor : Executor) : Step Session Value := do
  let n ← submit environ changes
  let tools ← tools
  onSheet n do
    Job.run tools executor (← get).environ
    return (← get).environ

def defaultExecOptions (id : String) : Step Session Fields := do
  let s ← get
  let station ← named s.stations id
  return Compiler.defaultExecOptions (s.sheet station.sheet) station.memory

def runCompiler (id : String) (compiler options input execOptions : Value) :
    Step Session Value := do
  let defaults ← defaultExecOptions id
  let station ← named (← get).stations id
  onMachine (station.compiler.runCompiler defaults compiler options input execOptions)

def putRegistry (id : String) (registry : Registry) : Step Session Unit :=
  modify fun s => { s with registries := Table.put s.registries id registry }

def onScratch {α : Type} (id : String) (dir : ScratchDir) (step : Step ScratchDir.Place α) :
    Step Session α :=
  step.focus (fun s => ⟨s.machine, dir⟩) fun s p => { s with
    machine := p.machine
    scratchDirs := Table.put s.scratchDirs id p.dir }

def enterScratchBy (make : Step Machine String) (id : String) (inner : Value) :
    Step Session ScratchDir := do
  let dir := Table.getD (← get).scratchDirs id { inner }
  onScratch id dir do
    ScratchDir.enter make
    return (← get).dir

def enterScratch (id : String) (inner : Value) : Step Session ScratchDir :=
  enterScratchBy Machine.makeTemp id inner

def exitScratch (id : String) : Step Session Unit := do
  match Table.find? (← get).scratchDirs id with
  | some dir => onScratch id dir ScratchDir.exit
  | none => throw .wrongType

/-- A step in a thread of its own, which starts and ends with no directory. -/
def inThread {α : Type} (step : Step Session α) : Step Session α := fun s =>
  let (r, t) := step { s with machine := { s.machine with threadDir := .null } }
  (r, { t with machine := { t.machine with threadDir := s.machine.threadDir } })

end Session

end CompileJob

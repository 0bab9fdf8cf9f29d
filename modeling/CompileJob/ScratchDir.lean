import CompileJob.Machine.Basic
import CompileJob.Value.Access

namespace CompileJob

structure ScratchDir where
  inner : Value
  path : Option String := none
  before : Value := .null

namespace Machine

def tempStem : String := "/tmp/wasmworkers_"

def makeTemp : Step Machine String := do
  let m ← get
  let path := tempStem ++ toString m.tempDirs
  set { m with tempDirs := m.tempDirs + 1, dirs := m.dirs ++ [path] }
  emit (.makeTemp path)
  return path

def makeDir (path : String) : Step Machine Unit := do
  emit (.makeDir path)
  let m ← get
  if m.exists? path then throw .alreadyExists
  if !m.isDir (Path.dirname path) then throw .noDirectory
  set { m with dirs := m.dirs ++ [path] }

def within (dir path : String) : Bool := path = dir || (dir ++ "/").toList.isPrefixOf path.toList

/-- Removes a directory with all that lies below it; a file of its name goes with it. -/
def removeTree (path : String) : Step Machine Unit := do
  emit (.removeTree path)
  let m ← get
  if !m.isDir path then throw .noDirectory
  set { m with
    dirs := m.dirs.filter fun d => !within path d
    files := m.files.filter fun (f, _) => !within path f }

end Machine

namespace ScratchDir

structure Place where
  machine : Machine
  dir : ScratchDir

def onMachine {α : Type} (step : Step Machine α) : Step Place α :=
  step.focus Place.machine fun p m => { p with machine := m }

def moveThread (dir : Value) : Step Machine Unit :=
  modify fun m => { m with threadDir := dir }

def enter (make : Step Machine String) : Step Place Unit := do
  let path ← onMachine make
  modify fun p => { p with dir := { p.dir with path := some path } }
  onMachine (log .debug .scratch ("Using temporary directory " ++ path))
  let inner := (← get).dir.inner
  let target ← if inner.truthy then Path.join path <$> (inner.string : Except Fault String)
    else pure path
  if inner.truthy then onMachine (Machine.makeDir target)
  let before := (← get).machine.threadDir
  modify fun p => { p with dir := { p.dir with before := before } }
  onMachine (moveThread (.str target))

/-- A directory that was never entered has no path to remove. -/
def exit : Step Place Unit := do
  let dir := (← get).dir
  let path ← orFault .wrongType dir.path
  onMachine (Machine.removeTree path)
  onMachine (moveThread dir.before)

end ScratchDir

end CompileJob

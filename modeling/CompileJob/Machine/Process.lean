import CompileJob.Machine.Basic
import CompileJob.Value.Number

namespace CompileJob

structure Process where
  pid : Nat
  launch : Launch
  rule : Rule
  killed : Bool := false

structure Ending where
  code : Value
  output : Option (List UInt8)

namespace Launch

def program (l : Launch) : Except Fault String :=
  match l.command with
  | .object _ => .error (.missingField (.int 0))
  | _ => orFault .noSuchItem l.words.head?

def outputPath? : List String → Option String
  | [] => none
  | arg :: rest => if arg = "-o" then rest.head? else outputPath? rest

def outputPath (l : Launch) : Except Fault (Option String) :=
  match l.command with
  | .list _ | .str _ => .ok (outputPath? l.words)
  | _ => .error .wrongType

end Launch

namespace Machine

/-- The first rule that speaks of the program; without one it ends at once with code zero. A command
without a first word has no program that a rule could speak of. -/
def ruleFor (rules : List Rule) (l : Launch) : Except Fault Rule :=
  if rules.isEmpty then .ok {}
  else do
    let program ← l.program
    return (rules.find? fun r => r.exe.all (·.equal (.str program))).getD {}

def firstPid : Nat := 101

/-- Starts a process after `limits` has run in it. The text of a failure to start is returned; a fault
of `limits` is always `limitRefused`. -/
def launch (l : Launch) (limits : Step Machine Unit) : Step Machine (Except String Process) := do
  if l.words.any (·.toList.contains '\x00') then throw .badValue
  emit (.spawn l)
  let rule ← ruleFor (← get).rules l
  match rule.spawnError with
  | some reason => return .error reason
  | none =>
      tryCatch limits fun _ => throw .limitRefused
      let started := (← get).processes
      modify fun m => { m with processes := started + 1 }
      return .ok { pid := firstPid + started, launch := l, rule }

def limitBound : Int := 9223372036854775808

def setLimit (resource : Resource) (limit : Int) : Step Machine Unit := do
  if -limitBound ≤ limit ∧ limit < limitBound then emit (.setLimit resource limit)
  else throw .limitRefused

end Machine

namespace Process

def killedCode : Int := -9

def output (p : Process) : Option (List UInt8) :=
  if p.launch.piped then
    some (p.rule.stdout ++ if p.launch.merged then p.rule.stderr else [])
  else none

def expires (p : Process) (timeout : Option Binary64) : Except Fault Bool :=
  match timeout with
  | some t => do return (Value.Number.float t).lt (← p.rule.duration.number)
  | none => .ok false

def leaveOutput (p : Process) : Step Machine Unit := do
  match p.rule.outputSize with
  | none => return ()
  | some size =>
      match ← p.launch.outputPath with
      | none => return ()
      | some path => modify (·.putFile path size)

def advance (time : Value) : Step Machine Unit := do
  let clock ← (← get).clock.plus time
  modify fun m => { m with clock }

/-- The end of the process, or nothing when the timeout passes before it. A bound of the system on the
time that piped output can be waited for, `2 ^ 31 - 1` milliseconds, is left out. -/
def wait (p : Process) (timeout : Option Binary64) : Step Machine (Option Ending) := do
  emit (.wait timeout)
  if p.killed then return some ⟨.int killedCode, p.output⟩
  if ← p.expires timeout then
    advance (.float (timeout.getD .zero))
    return none
  advance p.rule.duration
  p.leaveOutput
  return some ⟨p.rule.code, p.output⟩

def kill (p : Process) : Step Machine Process := do
  emit (.kill p.pid)
  return { p with killed := true }

end Process

end CompileJob

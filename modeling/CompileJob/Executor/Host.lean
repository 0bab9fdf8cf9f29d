import CompileJob.Duration
import CompileJob.Executor.Basic
import CompileJob.Machine.Process
import CompileJob.Text.Utf8

/-!
The executor that runs a command as a process of the machine.

A process that does not end within the limit on the time that passes is killed with its group and
waited for again, without a timeout. Memory is limited in kibibytes and time in milliseconds.
-/
namespace CompileJob.Executor

def processEnv (env : Table String String) : Table String String :=
  Table.put (Table.put env "LC_ALL" "en_US.UTF-8") "LANGUAGE" "en_US.UTF-8"

def memoryBytes (limit : Value) : Except Fault Int :=
  match limit.number? with
  | some (.int n) => .ok (n * 1024)
  | _ => .error .limitRefused

/-- What a new process does before its program runs. -/
def applyLimits (limits : Limits) : Step Machine Unit := do
  emit .setGroup
  if limits.mem.truthy then Machine.setLimit .memory (← memoryBytes limits.mem)
  if limits.time.truthy then Machine.setLimit .cpu (← Duration.wholeSeconds limits.time)

/-- The first bytes up to a limit; a negative limit leaves that many off the end. -/
def takeBytes (content : List UInt8) (limit : Int) : List UInt8 :=
  if 0 ≤ limit then content.take limit.toNat else content.take (content.length - limit.natAbs)

def limitOutput (output : List UInt8) (limit : Value) : Except Fault (List UInt8) :=
  if limit.truthy then
    match limit.number? with
    | some (.int n) => .ok (takeBytes output n)
    | _ => .error .wrongType
  else .ok output

def waitOrKill (p : Process) (timeout : Option Binary64) : Step Machine (Ending × Bool) := do
  match ← p.wait timeout with
  | some ending => return (ending, false)
  | none =>
      let p ← p.kill
      match ← p.wait none with
      | some ending => return (ending, true)
      | none => return (⟨.int Process.killedCode, p.output⟩, true)

def notStartedResult (reason : String) : Value :=
  .object [("return_code", .int 127), ("real_time_used", .int 0),
    ("stdout", .bytes (Utf8.encode reason.toList))]

def endedMessage (program : String) (code elapsed : Value) : Except Fault String := do
  return "Command \"" ++ program ++ "\" exited with code " ++ (← code.integerText) ++ ", took " ++
    (← elapsed.hundredths) ++ "s"

def reportedOutput (o : ExecOptions) (limits : Limits) (ending : Ending) : Except Fault Fields :=
  if o.captureOutput.truthy then do
    return [("stdout", .bytes (← limitOutput (ending.output.getD []) limits.output))]
  else .ok []

def realTimeout (limits : Limits) : Except Fault (Option Binary64) :=
  if limits.real.truthy then some <$> Duration.seconds limits.real else .ok none

def endedResult (killed : Bool) (code : Value) (used : Int) (stdout : Fields) : Value :=
  .object ((if killed then [("real_time_killed", .bool true)] else []) ++
    [("return_code", code), ("real_time_used", .int used)] ++ stdout)

def supervise (o : ExecOptions) (limits : Limits) (start : Value) (p : Process) :
    Step Machine Value := do
  let timeout ← realTimeout limits
  let (ending, killed) ← waitOrKill p timeout
  let elapsed ← (← get).clock.minus start
  let used ← Duration.millis elapsed
  let program ← p.launch.program
  logFormatted .debug .executor (endedMessage program ending.code elapsed)
  let stdout ← reportedOutput o limits ending
  if ending.code.truthy && !o.ignoreErrors.truthy then throw (.failed p.launch.command ending.code)
  return endedResult killed ending.code used stdout

def wordsOf (command : Value) : Except Fault (List String) := do
  (← command.elements).mapM Value.string

def host : Executor := fun command options => do
  let o ← ExecOptions.ofFields options
  let limits ← o.limits
  let words ← wordsOf command
  log .info .executor ("Executing: " ++ " ".intercalate words)
  let m ← get
  let launch : Launch := {
    command
    words
    cwd := o.cwd.orElse m.here
    env := processEnv m.env
    piped := o.captureOutput.truthy
    merged := o.forwardStderr.truthy }
  match ← Machine.launch launch (applyLimits limits) with
  | .ok p => supervise o limits m.clock p
  | .error reason =>
      if o.ignoreErrors.truthy then return notStartedResult reason
      else throw (.notStarted command reason)

end CompileJob.Executor

import CompileJob.Machine.Basic

namespace CompileJob

abbrev Executor := Value → Fields → Step Machine Value

namespace Executor

def takeReply (script : Nat) : Step Machine Reply := do
  let m ← get
  match m.scripts[script]? with
  | some (reply :: rest) =>
      set { m with scripts := m.scripts.set script rest }
      return reply
  | _ => return {}

/-- An executor that runs nothing. It answers what its script says, and success at the end of it. -/
def scripted (script : Nat) : Executor := fun command options => do
  if Table.has options "command" || Table.has options "self" then throw .wrongType
  emit (.call command options)
  let reply ← takeReply script
  modify fun m => { m with files := Table.putAll m.files reply.files }
  return reply.result.getD (.object [("return_code", .int 0)])

end Executor

structure ExecOptions where
  ignoreErrors : Value
  captureOutput : Value
  forwardStderr : Value
  memLimit : Value
  timeLimit : Value
  realTimeLimit : Value
  outputLimit : Value
  environ : Value
  scope : Value
  cwd : Value

/-- The limits of one run; `real` is that on the time that passes. -/
structure Limits where
  mem : Value
  time : Value
  real : Value
  output : Value

namespace ExecOptions

def names : List String :=
  ["ignore_errors", "capture_output", "forward_stderr", "mem_limit", "time_limit",
    "real_time_limit", "output_limit", "environ", "environ_prefix", "cwd"]

def ofFields (fields : Fields) : Except Fault ExecOptions :=
  if fields.all fun (name, _) => names.contains name then
    .ok {
      ignoreErrors := Table.getD fields "ignore_errors" (.bool false)
      captureOutput := Table.getD fields "capture_output" (.bool false)
      forwardStderr := Table.getD fields "forward_stderr" (.bool false)
      memLimit := Table.getD fields "mem_limit" .null
      timeLimit := Table.getD fields "time_limit" .null
      realTimeLimit := Table.getD fields "real_time_limit" .null
      outputLimit := Table.getD fields "output_limit" .null
      environ := Table.getD fields "environ" .null
      scope := Table.getD fields "environ_prefix" (.str "")
      cwd := Table.getD fields "cwd" .null }
  else .error .wrongType

def override (o : ExecOptions) (name : String) (given : Value) : Except Fault Value :=
  if o.environ.truthy then
    match o.environ with
    | .object fields => do return Table.getD fields ((← o.scope.string) ++ name) given
    | _ => .error .unsupported
  else .ok given

/-- Two times a limit. A text or list is doubled in length, as any of them will be refused later. -/
def double : Value → Except Fault Value
  | .bool b => .ok (.int (2 * b.toInt))
  | .int n => .ok (.int (2 * n))
  | .float x => .ok (.float (x.scale 2 1))
  | .str s => .ok (.str (s ++ s))
  | .bytes content => .ok (.bytes (content ++ content))
  | .list items => .ok (.list (items ++ items))
  | _ => .error .wrongType

def realLimit (time real : Value) : Except Fault Value :=
  if time.truthy && real.isNull then double time else .ok real

def limits (o : ExecOptions) : Except Fault Limits := do
  let mem ← o.override "mem_limit" o.memLimit
  let time ← o.override "time_limit" o.timeLimit
  let real ← o.override "real_time_limit" o.realTimeLimit
  let output ← o.override "output_limit" o.outputLimit
  return { mem, time, real := ← realLimit time real, output }

end ExecOptions

end CompileJob

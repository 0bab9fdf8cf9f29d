import CompileJob.Proofs.Compiler.Launches
import CompileJob.Proofs.Executor.Enforcement

namespace CompileJob

open Machine Executor Bench

namespace Compiler

variable {c : Compiler} {environ : Value} {p : Plan} {m n : Machine} {b : Bench}

def jobOptions (environ : Value) (p : Plan) : ExecOptions where
  ignoreErrors := .bool true
  captureOutput := .bool true
  forwardStderr := .bool true
  memLimit := .int 262144
  timeLimit := .int 30000
  realTimeLimit := .null
  outputLimit := .int outputLimit
  environ := environ
  scope := .str "compilation_"
  cwd := p.request.workingDir

theorem jobOptions_eq (environ : Value) (p : Plan) :
    ExecOptions.ofFields (defaultExecOptions environ p.memory) = .ok (jobOptions environ p) := rfl

def mainLogged (c : Compiler) (p : Plan) (m : Machine) : Machine :=
  m.record (.log .debug .compiler ("compiling " ++ c.mainInput p ++ " with " ++ p.exe.text ++ " (" ++
    c.backend.key.text ++ ")"))

theorem mainStep_eq (c : Compiler) (environ : Value) (p : Plan) (m : Machine) :
    c.mainStep environ p m =
      c.executor p.command (defaultExecOptions environ p.memory) (c.mainLogged p m) := rfl

theorem runPlan_of_ready (ready : Ready c environ p m n) :
    c.runPlan environ p m = c.mainStep environ p n := by
  rw [runPlan_eq]
  cases ready with
  | direct source =>
    cases toolchain : c.backend.toolchain with
    | cc => exact (Backend.Protocol.plain toolchain).run_eq
    | wasmer =>
      have binary : Source.isText p.input = false := by simpa [toolchain] using source
      exact (Backend.Protocol.binary toolchain binary).run_eq
  | converted toolchain converts answer reports zero =>
    have same : Backend.Converts
        { c.driverOf environ p with runCompiler := fun _ _ _ _ => c.mainStep environ p }
        p.input _ := ⟨converts.text, converts.found⟩
    exact (Backend.Protocol.converted toolchain same answer reports zero).run_eq

theorem mainStep_trace_prefix (planned : c.plan b.machine environ = .ok p)
    (ready : Ready c environ p b.machine n) :
    (c.mainStep environ p n).2.trace <+: (c.compile environ b).2.machine.trace := by
  have since := since_runPlan (P := fun _ => True) planned
  obtain ⟨events, trace, -⟩ := since.launches
  rw [runPlan_of_ready ready] at trace
  exact ⟨events, trace.symm⟩

/-! ## The main step -/

def JobAmounts (environ : Value) (mem time real : Int) : Prop :=
  Amounts ((environ.optional "compilation_mem_limit").getD (.int 262144))
    ((environ.optional "compilation_time_limit").getD (.int 30000))
    ((environ.optional "compilation_real_time_limit").getD .null) mem time real

variable {mem time real : Int}

theorem JobAmounts.real_eq_zero_iff (amounts : JobAmounts environ mem time real)
    (timed : time ≠ 0) :
    real = 0 ↔ ∃ v, environ.optional "compilation_real_time_limit" = some v ∧
      v.number? = some (.int 0) := by
  have passing := amounts.passing
  cases found : environ.optional "compilation_real_time_limit" with
  | none =>
    rw [found] at passing
    have doubled : real = 2 * time := (passing.resolve_right fun number => nomatch number.1).2
    constructor
    · intro zero
      exact absurd (doubled.symm.trans zero) (by omega)
    · rintro ⟨v, given, -⟩
      cases given
  | some v =>
    rw [found, Option.getD_some] at passing
    constructor
    · rintro rfl
      rcases passing with ⟨-, doubled⟩ | ⟨number, -⟩
      · exact absurd doubled (by omega)
      · exact ⟨v, rfl, number⟩
    · rintro ⟨v, given, zero⟩
      cases given
      rcases passing with ⟨rfl, -⟩ | ⟨number, -⟩
      · cases zero
      · rw [zero] at number
        cases number
        rfl

theorem mainStep_enforced {o : ExecOptions} {limits : Limits} {main : Process} {left : Machine}
    (runs : c.executor = host) (planned : c.plan b.machine environ = .ok p)
    (ready : Ready c environ p b.machine n)
    (starts : Starts o limits p.command (defaultExecOptions environ p.memory) (c.mainLogged p n) main
      left) (amounts : JobAmounts environ mem time real) :
    ∃ secs timeout rest ended,
      Enforced mem time real secs timeout rest main.launch (c.mainLogged p n) ended ∧
      ended.trace <+: (c.compile environ b).2.machine.trace ∧
      (time ≠ 0 → (timeout = none ↔ ∃ v,
        environ.optional "compilation_real_time_limit" = some v ∧ v.number? = some (.int 0))) := by
  obtain ⟨fields, rfl⟩ := plan_object planned
  obtain rfl : jobOptions (.object fields) p = o := Except.ok.inj starts.call
  have described : (jobOptions (.object fields) p).Described := Or.inr ⟨fields, _, rfl, rfl⟩
  obtain ⟨secs, timeout, rest, enforced⟩ := starts.enforced described amounts
  have inside := mainStep_trace_prefix planned ready
  rw [mainStep_eq, runs] at inside
  refine ⟨secs, timeout, rest, _, enforced, inside, fun timed => ?_⟩
  rw [← amounts.real_eq_zero_iff timed]
  refine ⟨fun none => Classical.byContradiction fun limited => ?_, enforced.unlimited⟩
  obtain ⟨t, -, some⟩ := enforced.limited limited
  rw [none] at some
  cases some

end Compiler

/-- A limit in force is that of the description under the scope's name, also when it is null there, or
else that of the call; nothing else of the description matters to a call. A process that was started is
put under the limits on memory and processor time first, and the first wait for it has the limit on the
time that passes. So the main step of a job that limits its processor time does without that limit
only if the description sets it to zero. -/
theorem limits_are_enforced :
    (∀ (o : ExecOptions) (scope : String), o.Described → o.scope = .str scope → ∀ name given,
      o.override name given = .ok (o.inForce name given) ∧
        o.inForce name given = (o.environ.optional (scope ++ name)).getD given) ∧
    (∀ (o : ExecOptions) (environ : Value) (scope : String) (options options' : Fields),
      o.Described → { o with environ }.Described → o.scope = .str scope →
      ExecOptions.ofFields options = .ok o → ExecOptions.ofFields options' = .ok { o with environ } →
      (∀ name ∈ ExecOptions.limitNames,
        environ.optional (scope ++ name) = o.environ.optional (scope ++ name)) →
      ∀ command, host command options' = host command options) ∧
    (∀ (o : ExecOptions) (limits : Limits) (command : Value) (options : Fields) (m n : Machine)
      (p : Process) (mem time real : Int), o.Described →
      Amounts (o.inForce "mem_limit" o.memLimit) (o.inForce "time_limit" o.timeLimit)
        (o.inForce "real_time_limit" o.realTimeLimit) mem time real →
      Starts o limits command options m p n →
      ∃ secs timeout rest,
        Enforced mem time real secs timeout rest p.launch m (host command options m).2) ∧
    (∀ (c : Compiler) (environ : Value) (b : Bench) (p : Plan) (n left : Machine) (o : ExecOptions)
      (limits : Limits) (main : Process) (mem time real : Int), c.executor = host →
      c.plan b.machine environ = .ok p → Compiler.Ready c environ p b.machine n →
      Starts o limits p.command (Compiler.defaultExecOptions environ p.memory) (c.mainLogged p n)
        main left →
      Compiler.JobAmounts environ mem time real →
      ∃ secs timeout rest ended,
        Enforced mem time real secs timeout rest main.launch (c.mainLogged p n) ended ∧
        ended.trace <+: (c.compile environ b).2.machine.trace ∧
        (time ≠ 0 → (timeout = none ↔ ∃ v,
          environ.optional "compilation_real_time_limit" = some v ∧ v.number? = some (.int 0)))) :=
  ⟨fun _ _ described scope_eq name given =>
      ⟨ExecOptions.override_eq described, ExecOptions.inForce_eq scope_eq name given⟩,
    fun _ _ _ _ _ => host_congr,
    fun _ _ _ _ _ _ _ _ _ _ described amounts starts => starts.enforced described amounts,
    fun _ _ _ _ _ _ _ _ _ _ _ _ => Compiler.mainStep_enforced⟩

theorem limits_are_enforced_by_default : ∃ l t, Duration.seconds (.int 60000) = .ok t ∧
    [.spawn l, .setGroup, .setLimit .memory 268435456, .setLimit .cpu 30, .wait (some t)] <:+:
      (Compiler.cOnHost.compile Compiler.sourceAlone ⟨blank, .null, {}⟩).2.machine.trace := by
  let words := ["cc", "-c", "-o", "/cwd/output.o", "-O2", "/cwd/a.c"]
  obtain ⟨p, planned, command⟩ : ∃ p, Compiler.cOnHost.plan blank Compiler.sourceAlone = .ok p ∧
      p.command = texts words := ⟨_, rfl, rfl⟩
  have amounts : Compiler.JobAmounts Compiler.sourceAlone 262144 30000 60000 :=
    ⟨Or.inr rfl, Or.inr rfl, Or.inl ⟨rfl, rfl⟩⟩
  have half : Duration.wholeSeconds (.int 30000) = .ok 30 := by
    have converts : (Duration.wholeSeconds (.int 30000)).toOption = some 30 := by decide +kernel
    cases whole : Duration.wholeSeconds (.int 30000) with
    | error e =>
      rw [whole] at converts
      cases converts
    | ok secs =>
      rw [whole] at converts
      cases converts
      rfl
  have described : (Compiler.jobOptions Compiler.sourceAlone p).Described :=
    Or.inr ⟨_, _, rfl, rfl⟩
  obtain ⟨main, left, starts⟩ := exists_starts (m := Compiler.cOnHost.mainLogged p blank)
    (Compiler.jobOptions_eq _ p) described amounts (by decide) (fun _ => ⟨30, half, by decide⟩)
    (wordsOf_texts words) (by decide) rfl rfl
  rw [← command] at starts
  obtain ⟨secs, timeout, rest, ended, enforced, inside, -⟩ := limits_are_enforced.2.2.2 _ _
    ⟨blank, .null, {}⟩ _ _ _ _ _ _ _ _ _ rfl planned (.direct (Or.inl rfl)) starts amounts
  obtain ⟨t, converted, rfl⟩ := enforced.limited (by decide)
  obtain rfl : secs = 30 := Except.ok.inj ((enforced.cpu (by decide)).symm.trans half)
  obtain ⟨more, whole⟩ := inside
  refine ⟨main.launch, t, converted, (Compiler.cOnHost.mainLogged p blank).trace ++
    [executing main.launch.words], rest ++ more, ?_⟩
  rw [← whole, enforced.trace_eq]
  simp [limitEvent]

end CompileJob

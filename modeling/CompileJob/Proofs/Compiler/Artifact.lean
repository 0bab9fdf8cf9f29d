import CompileJob.Proofs.Compiler.Verdict
import CompileJob.Proofs.Executor.Host
import CompileJob.Proofs.Tool.Registry

namespace CompileJob.Compiler

open Machine Executor

/-- All that the compiler runs, its tools included, are processes of the machine. -/
structure OnHost (c : Compiler) : Prop where
  executor : c.executor = host
  tools : ∀ registry, c.tools = some registry → registry.RunBy host

variable {c : Compiler} {environ : Value} {p : Plan} {m n started : Machine} {path : String}

theorem OnHost.tools_runBy (onHost : c.OnHost) (planned : c.plan m environ = .ok p) :
    p.tools.RunBy host := by
  obtain ⟨asked, given, planned⟩ := plan_ok planned
  have tools := planned.tools
  unfold toolsFor at tools
  cases own : c.tools with
  | some registry =>
    rw [own] at tools
    cases tools
    exact onHost.tools p.tools own
  | none =>
    rw [own, onHost.executor] at tools
    exact Registry.runBy_ofEnviron tools

/-! ## The conversion -/

theorem OnHost.conversion_eq {tool : Tool} (onHost : c.OnHost)
    (planned : c.plan m environ = .ok p)
    (converts : Backend.Converts (c.driverOf environ p) p.input tool) :
    c.backend.conversion tool p.input n = host (Backend.conversionCommand tool p.input)
      Tool.runOptions (c.backend.announced tool p.input n) := by
  obtain ⟨registry, tools, found⟩ := converts.found
  cases tools
  have runBy := (onHost.tools_runBy planned).find found
  rw [Backend.conversion, runBy]

theorem OnHost.conversion_reported {tool : Tool} {result : Value} (onHost : c.OnHost)
    (planned : c.plan m environ = .ok p)
    (converts : Backend.Converts (c.driverOf environ p) p.input tool)
    (answer : c.backend.conversion tool p.input m = (.ok result, n)) :
    Reported (Backend.conversionCommand tool p.input)
      (c.backend.announced tool p.input m) result n := by
  rw [onHost.conversion_eq planned converts] at answer
  exact host_ok answer

theorem announced_recorded (b : Backend) (tool : Tool) (input : String) (m : Machine) :
    m.Recorded (b.announced tool input m) :=
  (recorded_record m _).trans (recorded_record _ _)

def ConversionWrites (p : Plan) (m n : Machine) (path : String) : Prop :=
  ∃ (tool : Tool) (conversion : Process),
    Spawned (Backend.conversionCommand tool p.input) m n conversion.launch conversion.rule ∧
      conversion.Writes path

theorem OnHost.ready_later (onHost : c.OnHost) (planned : c.plan m environ = .ok p)
    (ready : Ready c environ p m started) : m.Later started := by
  cases ready with
  | direct => exact (Quiet.refl m).later
  | converted _ converts answer =>
    have reported := onHost.conversion_reported planned converts answer
    exact (announced_recorded _ _ _ m).quiet.later.trans reported.later

theorem OnHost.exists_of_ready (onHost : c.OnHost) (planned : c.plan m environ = .ok p)
    (ready : Ready c environ p m started) (there : started.exists? path = true) :
    m.exists? path = true ∨ ConversionWrites p m started path := by
  cases ready with
  | direct => exact Or.inl there
  | @converted tool _ _ _ _ converts answer =>
    have announced := (announced_recorded c.backend tool p.input m).quiet
    have reported := onHost.conversion_reported planned converts answer
    rcases reported.exists_of_exists there with before | ⟨conversion, spawned, writes⟩
    · rw [announced.exists_eq] at before
      exact Or.inl before
    · have stays := (Quiet.refl started).later
      exact Or.inr ⟨tool, conversion, spawned.widen announced.later stays, writes⟩

/-! ## The main step -/

theorem OnHost.mainStep_reported {result : Value} (onHost : c.OnHost)
    (answer : c.mainStep environ p started = (.ok result, n)) :
    ∃ logged, started.Recorded logged ∧ Reported p.command logged result n := by
  obtain ⟨_, logged, log, answer⟩ := Step.run_bind_eq_ok.mp answer
  rw [onHost.executor] at answer
  cases log
  exact ⟨_, recorded_record started _, host_ok answer⟩

theorem Concluded.produced_of_ok {fields : Fields} {output : String} {message code final : Value}
    (h : Concluded (.object fields) output m message code final)
    (ok : final.optional "result_code" = some (.str "OK")) :
    code.truthy = false ∧ m.exists? output = true ∧
      final.optional "out_file" = some (.str output) := by
  cases h with
  | produced zero there => exact ⟨zero, there, by simp [Table.find?_put]⟩
  | failed | missing | large => simp [Table.find?_put] at ok

/-- A job with the verdict `OK` had its command started as a process that ended of itself with a
code of zero. Its artifact was written by that process, unless it was there before: from before the
job, or written by the job's own conversion. -/
theorem artifact_of_ok {b b' : Bench} (onHost : c.OnHost)
    (done : c.compile environ b = (.ok (), b'))
    (ok : b'.environ.optional "result_code" = some (.str "OK")) :
    ∃ (p : Plan) (main : Process), c.plan b.machine environ = .ok p ∧
      b'.environ.optional "out_file" = some (.str p.output) ∧
      Spawned p.command b.machine b'.machine main.launch main.rule ∧
      main.rule.code.truthy = false ∧
      (∃ before left, main.Leaves before left ∧ left.Recorded b'.machine) ∧
      (main.Writes p.output ∨ b.machine.exists? p.output = true ∨
        ConversionWrites p b.machine b'.machine p.output) := by
  obtain ⟨p, result, n, planned, ran, concluded⟩ := compile_ok done
  obtain ⟨-, recorded, stdout, code, -, reports, verdict⟩ := conclude_ok concluded
  obtain ⟨fields, rfl⟩ := plan_object planned
  obtain ⟨zero, there, artifact⟩ := verdict.produced_of_ok ok
  cases runPlan_ok ran with
  | conversion _ _ _ reports' nonzero =>
    cases reports.symm.trans reports'
    rw [zero] at nonzero
    cases nonzero
  | main ready answer =>
    obtain ⟨logged, log, reported⟩ := onHost.mainStep_reported answer
    obtain ⟨main, before, left, spawned, code_eq, quiet, leaves, ended⟩ :=
      reported.ended_of_zero reports zero
    have since := (onHost.ready_later planned ready).trans log.quiet.later
    have spawned := spawned.widen since recorded.quiet.later
    refine ⟨p, main, planned, artifact, spawned, code_eq ▸ zero,
      ⟨before, left, leaves, ended.trans recorded⟩, ?_⟩
    change n.exists? p.output = true at there
    rw [ended.quiet.exists_eq] at there
    rcases leaves.exists_of_exists there with old | writes
    · rw [quiet.exists_eq, log.quiet.exists_eq] at old
      rcases onHost.exists_of_ready planned ready old with before | ⟨tool, process, spawn, writes⟩
      · exact Or.inr (Or.inl before)
      · have until_end := (log.quiet.later.trans reported.later).trans recorded.quiet.later
        have stays := (Quiet.refl b.machine).later
        exact Or.inr (Or.inr ⟨tool, process, spawn.widen stays until_end, writes⟩)
    · exact Or.inl writes

/-! ## Two jobs -/

def cOnHost : Compiler := ⟨Backend.ofToolchain .cc, none, host⟩

theorem onHost_cOnHost : cOnHost.OnHost := ⟨rfl, nofun⟩

def benchLeaving (size : Option Value) (files : Table String Value) : Bench where
  machine := { Machine.blank with files, rules := [{ outputSize := size }] }
  environ := .null
  memory := {}

theorem artifact_of_fresh_ok :
    let b := benchLeaving (some (.int 4)) []
    ∃ (p : Plan) (main : Process) (b' : Bench), cOnHost.compile sourceAlone b = (.ok (), b') ∧
      b'.environ.optional "result_code" = some (.str "OK") ∧
      Spawned p.command b.machine b'.machine main.launch main.rule ∧
      main.rule.code.truthy = false ∧ b'.environ.optional "out_file" = some (.str p.output) := by
  intro b
  have done : cOnHost.compile sourceAlone b = (.ok (), (cOnHost.compile sourceAlone b).2) :=
    Step.run_eq_of_isOk (by decide +kernel)
  have ok : (cOnHost.compile sourceAlone b).2.environ.optional "result_code" = some (.str "OK") :=
    Value.optional_eq_of_equal (by decide +kernel)
  obtain ⟨p, main, -, artifact, spawned, zero, -⟩ := artifact_of_ok onHost_cOnHost done ok
  exact ⟨p, main, _, done, ok, spawned, zero, artifact⟩

theorem old_file_passes_for_artifact :
    ¬ ∀ (environ : Value) (b b' : Bench) (p : Plan),
      cOnHost.compile environ b = (.ok (), b') → cOnHost.plan b.machine environ = .ok p →
      b'.environ.optional "result_code" = some (.str "OK") →
      ∃ main : Process, Spawned p.command b.machine b'.machine main.launch main.rule ∧
        main.Writes p.output := by
  intro claim
  have done : cOnHost.compile sourceAlone (benchLeaving none [("/cwd/output.o", .int 7)]) =
      (.ok (), (cOnHost.compile sourceAlone (benchLeaving none [("/cwd/output.o", .int 7)])).2) :=
    Step.run_eq_of_isOk (by decide +kernel)
  obtain ⟨main, spawned, writes, -⟩ := claim _ _ _ _ done rfl
    (Value.optional_eq_of_equal (by decide +kernel))
  have rule_eq : ruleFor [{ outputSize := none }] main.launch = .ok main.rule := spawned.rule_eq
  obtain ⟨program, -, found⟩ := Except.bind_eq_ok.mp rule_eq
  have silent : main.rule.outputSize = none := congrArg Rule.outputSize (Except.ok.inj found).symm
  exact writes silent

end CompileJob.Compiler

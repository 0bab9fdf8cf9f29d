import CompileJob.Job
import CompileJob.Proofs.Compiler.Artifact
import CompileJob.Proofs.Executor.Report

namespace CompileJob

open Bench Executor

def SizeLimited (environ : Value) : Prop :=
  ∀ limit, environ.optional "compilation_result_size_limit" = some limit → limit.IsNumber

namespace Compiler

variable {c : Compiler} {environ : Value} {p : Plan} {m n : Machine} {result : Value}

/-! ## The last step -/

theorem OnHost.conversion_sized {tool : Tool} (onHost : c.OnHost)
    (planned : c.plan m environ = .ok p)
    (converts : Backend.Converts (c.driverOf environ p) p.input tool)
    (answer : c.backend.conversion tool p.input m = (.ok result, n)) (sized : m.Sized) :
    n.Sized := by
  have announced := (announced_recorded c.backend tool p.input m).quiet
  exact (onHost.conversion_reported planned converts answer).sized (sized.quiet announced)

theorem OnHost.sized_of_ready (onHost : c.OnHost) (planned : c.plan m environ = .ok p)
    (ready : Ready c environ p m n) (sized : m.Sized) : n.Sized := by
  cases ready with
  | direct => exact sized
  | converted _ converts answer => exact onHost.conversion_sized planned converts answer sized

theorem OnHost.mainStep_gives (onHost : c.OnHost) (environ : Value) (p : Plan) :
    (c.mainStep environ p).Gives Conclusive := by
  unfold mainStep
  rw [onHost.executor]
  exact gives_bind fun _ => host_gives _ _

theorem OnHost.conclusive (onHost : c.OnHost) (planned : c.plan m environ = .ok p)
    (last : LastStep c environ p m result n) : Conclusive result := by
  cases last with
  | conversion _ converts answer =>
    rw [onHost.conversion_eq planned converts] at answer
    exact host_gives _ _ _ _ _ answer
  | main ready answer => exact onHost.mainStep_gives _ _ _ _ _ answer

theorem OnHost.sized_of_lastStep (onHost : c.OnHost) (planned : c.plan m environ = .ok p)
    (last : LastStep c environ p m result n) (sized : m.Sized) : n.Sized := by
  cases last with
  | conversion _ converts answer =>
    have left := onHost.conversion_sized planned converts answer sized
    exact left.quiet (Machine.recorded_recordAll _ _).quiet
  | main ready answer =>
    have started := onHost.sized_of_ready planned ready sized
    obtain ⟨logged, log, reported⟩ := onHost.mainStep_reported answer
    exact reported.sized (started.quiet log.quiet)

/-! ## The verdict -/

theorem exists_tooLarge {fields : Fields} (output : String) (message : Value) (sized : m.Sized)
    (limited : SizeLimited (.object fields)) :
    ∃ large, tooLarge m ((Value.object fields).withField "compiler_output" message) output =
      .ok large := by
  have limit : Table.find? (Table.put fields "compiler_output" message) sizeLimitKey =
      Table.find? fields "compilation_result_size_limit" :=
    Table.find?_put fields "compiler_output" sizeLimitKey message
  simp only [tooLarge, Value.withField_object, limit]
  cases found : Table.find? fields "compilation_result_size_limit" with
  | none => exact ⟨false, rfl⟩
  | some limit =>
    obtain ⟨less, compared⟩ := (limited limit found).exists_lt? (sized.size output)
    exact ⟨less, orFault_eq_ok.mpr compared⟩

theorem conclude_completes {fields : Fields} {memory : Memory} (output : String)
    (conclusive : Conclusive result) (sized : m.Sized) (limited : SizeLimited (.object fields)) :
    ∃ b, conclude result output ⟨m, .object fields, memory⟩ = (.ok (), b) := by
  obtain ⟨code, reports⟩ := conclusive.code
  obtain ⟨content, spoken⟩ := conclusive.output
  obtain ⟨large, compared⟩ :=
    exists_tooLarge output (Value.decoded (.bytes content)) sized limited
  -- After the first write only the code, the longer message and the sizes could still fail.
  unfold conclude
  rw [Step.run_lift_bind_of_ok spoken, Step.run_bind_of_ok (run_write _ _ _),
    Step.run_lift_bind_of_ok reports]
  split
  · exact ⟨_, rfl⟩
  · rw [Step.run_bind_of_ok (Step.run_get _)]
    split
    · exact ⟨_, rfl⟩
    · rw [Step.run_bind_of_ok (Step.run_get _), Step.run_bind_of_ok (Step.run_get _),
        Step.run_lift_bind_of_ok compared]
      cases large <;> exact ⟨_, rfl⟩

/-! ## Failures -/

theorem OnHost.compile_error {b b' : Bench} {e : Fault} (onHost : c.OnHost)
    (sized : b.machine.Sized) (limited : SizeLimited environ)
    (failed : c.compile environ b = (.error e, b')) : b'.environ = environ := by
  have course := c.compile_course environ b
  rw [failed] at course
  cases course with
  | unplanned | broken => rfl
  | concluded planned ran concluded =>
    obtain ⟨fields, rfl⟩ := plan_object planned
    have last := runPlan_ok ran
    have left := onHost.sized_of_lastStep planned last sized
    obtain ⟨done, completed⟩ :=
      conclude_completes _ (onHost.conclusive planned last) left limited
    rw [completed] at concluded
    cases concluded

end Compiler

namespace Job

inductive Named (environ : Value) : Value → Prop
  | own : Named environ environ
  | default {source : String} (absent : environ.hasField "compiler" = false)
      (source_eq : environ.item "source_file" = .ok (.str source)) :
      Named environ (environ.withField "compiler"
        (.str ("default-" ++ Lowercase.lower (Path.extension source))))

variable {environ named : Value}

theorem withCompiler_ok (h : withCompiler environ = .ok named) : Named environ named := by
  unfold withCompiler at h
  split at h
  · split at h
    · cases h
      exact .own
    · rename_i fields absent
      obtain ⟨given, source_eq, h⟩ := Except.bind_eq_ok.mp h
      obtain ⟨source, text, h⟩ := Except.bind_eq_ok.mp h
      cases given with
      | str s =>
        cases text
        cases h
        exact .default (Bool.eq_false_iff.mpr absent) source_eq
      | _ => cases text
  · cases h

theorem Named.sizeLimited (h : Named environ named) (limited : SizeLimited environ) :
    SizeLimited named := by
  cases h with
  | own => exact limited
  | default absent source_eq =>
    obtain ⟨fields, rfl⟩ := Value.exists_object_of_item source_eq
    intro limit found
    refine limited limit ?_
    simpa [Table.find?_put] using found

theorem named_of_error {tools : Option Registry} {b b' : Bench} {e : Fault}
    (runBy : ∀ registry, tools = some registry → registry.RunBy host) (sized : b.machine.Sized)
    (limited : SizeLimited environ) (failed : run tools host environ b = (.error e, b')) :
    Named environ b'.environ := by
  unfold run at failed
  rw [Step.run_bind_of_ok (Step.run_modify _ _)] at failed
  rcases Step.run_lift_bind_eq_error.mp failed with ⟨-, rfl⟩ | ⟨named, given, failed⟩
  · exact .own
  have names := withCompiler_ok given
  rw [Step.run_bind_of_ok (Step.run_modify _ _)] at failed
  rcases Step.run_lift_bind_eq_error.mp failed with ⟨-, rfl⟩ | ⟨compiler, -, failed⟩
  · exact names
  rcases Step.run_lift_bind_eq_error.mp failed with ⟨-, rfl⟩ | ⟨task, -, failed⟩
  · exact names
  rw [Step.run_bind_of_ok (run_onMachine (run_log _ _ _ _))] at failed
  rcases Step.run_lift_bind_eq_error.mp failed with ⟨-, rfl⟩ | ⟨key, -, failed⟩
  · exact names
  rw [Step.run_bind_of_ok (Step.run_get _)] at failed
  rcases Step.run_lift_bind_eq_error.mp failed with ⟨-, rfl⟩ | ⟨backend, -, failed⟩
  · exact names
  have onHost : Compiler.OnHost ⟨backend, tools, host⟩ := ⟨rfl, runBy⟩
  have logged (event : Event) := sized.quiet (Machine.recorded_record b.machine event).quiet
  rw [onHost.compile_error (logged _) (names.sizeLimited limited) failed]
  exact names

end Job

/-- A compile that fails leaves the description as it was, and a job that fails has added the
default compiler at most. -/
theorem failed_job_keeps_description {tools : Option Registry} {environ : Value} {b : Bench}
    (runBy : ∀ registry, tools = some registry → registry.RunBy host)
    (limited : SizeLimited environ) (sized : b.machine.Sized) :
    (∀ backend e b', Compiler.compile ⟨backend, tools, host⟩ environ b = (.error e, b') →
      b'.environ = environ) ∧
    (∀ e b', Job.run tools host environ b = (.error e, b') → Job.Named environ b'.environ) := by
  constructor
  · intro backend e b' failed
    have onHost : Compiler.OnHost ⟨backend, tools, host⟩ := ⟨rfl, runBy⟩
    exact onHost.compile_error sized limited failed
  · intro e b' failed
    exact Job.named_of_error runBy sized limited failed

def unlimitedModule : Value :=
  .object [("source_file", .str "a.wat"), ("tools", .object [("wat2wasm", .str "wat2wasm")]),
    ("compilation_real_time_limit", .int (Decimal.tenTo 400))]

def wasmBench : Bench where
  machine := { Machine.blank with
    registered := [(.str "default-wat", Backend.ofToolchain .wasmer)] }
  environ := .null
  memory := {}

theorem failed_module_keeps_description :
    ∃ e b, Job.run none host unlimitedModule wasmBench = (.error e, b) ∧
      b.environ = unlimitedModule.withField "compiler" (.str "default-wat") := by
  have runBy : ∀ registry, none = some registry → Registry.RunBy host registry := nofun
  have sized : wasmBench.machine.Sized := ⟨nofun, nofun⟩
  have limited : SizeLimited unlimitedModule := nofun
  have fails : (Job.run none host unlimitedModule wasmBench).1.isOk = false := by decide +kernel
  have given :
      (Job.run none host unlimitedModule wasmBench).2.environ.hasField "compiler" = true := by
    decide +kernel
  cases run : Job.run none host unlimitedModule wasmBench with
  | mk r b =>
    rw [run] at fails given
    cases r with
    | ok u => cases fails
    | error e =>
      refine ⟨e, b, rfl, ?_⟩
      have named := (failed_job_keeps_description runBy limited sized).2 e b run
      generalize b.environ = environ at named given ⊢
      cases named with
      | own => cases given
      | default absent source_eq =>
        cases source_eq
        rfl

end CompileJob

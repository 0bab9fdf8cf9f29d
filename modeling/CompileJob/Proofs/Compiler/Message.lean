import CompileJob.Proofs.Compiler.Enforcement
import CompileJob.Proofs.Executor.Result
import CompileJob.Proofs.Text.Utf8

namespace CompileJob

open Machine Executor Bench

/-! ## The output of a process -/

theorem ExecOptions.limits_output {o : ExecOptions} {limits : Limits} {scope : String}
    (described : o.Described) (scope_eq : o.scope = .str scope) (h : o.limits = .ok limits) :
    limits.output = (o.environ.optional (scope ++ "output_limit")).getD o.outputLimit := by
  unfold ExecOptions.limits at h
  simp only [override_of_described described scope_eq, Except.bind_eq_ok] at h
  obtain ⟨_, -, _, -, _, -, output, same, real, -, h⟩ := h
  cases h
  exact (Except.ok.inj same).symm

namespace Executor

variable {o : ExecOptions} {limits : Limits} {command : Value} {options : Fields} {m n : Machine}
  {p : Process} {content : List UInt8} {limit : Nat}

theorem Starts.output_eq (starts : Starts o limits command options m p n) :
    p.output = if o.captureOutput.truthy then
      some (p.rule.stdout ++ if o.forwardStderr.truthy then p.rule.stderr else []) else none := by
  obtain ⟨words, -, launched⟩ := starts.launched
  obtain ⟨launch_eq, -, -⟩ := launched_done launched
  have output : p.output = if p.launch.piped then
    some (p.rule.stdout ++ if p.launch.merged then p.rule.stderr else []) else none := rfl
  rw [output, launch_eq]
  rfl

theorem Starts.exists_program {first : Value} {rest : List Value}
    (starts : Starts o limits (.list (first :: rest)) options m p n) :
    ∃ program, p.launch.program = .ok program := by
  obtain ⟨words, spoken, launched⟩ := starts.launched
  obtain ⟨launch_eq, -, -⟩ := launched_done launched
  change (first :: rest).mapM Value.string = .ok words at spoken
  rw [List.mapM_cons] at spoken
  obtain ⟨program, -, spoken⟩ := Except.bind_eq_ok.mp spoken
  obtain ⟨others, -, spoken⟩ := Except.bind_eq_ok.mp spoken
  cases spoken
  exact ⟨program, by rw [launch_eq]; rfl⟩

theorem reportedOutput_of_positive {ending : Ending} (captured : o.captureOutput.truthy = true)
    (output : ending.output = some content) (number : limits.output.number? = some (.int limit))
    (positive : 0 < limit) :
    reportedOutput o limits ending = .ok [("stdout", .bytes (content.take limit))] := by
  rw [reportedOutput, if_pos captured, output, Option.getD_some,
    limitOutput_of_positive number positive]
  rfl

end Executor

namespace Compiler

variable {c : Compiler} {environ : Value} {p : Plan} {n left : Machine} {b : Bench}
  {limits : Limits} {main : Process}

theorem conclude_of_failed {result stdout code : Value} {output : String} {b : Bench}
    (spoken : result.field "stdout" (.bytes []) = .ok stdout)
    (reports : result.item "return_code" = .ok code) (nonzero : code.truthy = true) :
    conclude result output b = (.ok (), ⟨b.machine,
      decidedAs "CE" (b.environ.withField "compiler_output" stdout.decoded), b.memory⟩) := by
  unfold conclude
  simp [Step.run_bind, spoken, reports, nonzero]

structure Complains (limits : Limits) (main : Process) (s : String) : Prop where
  timely : ∀ t, realTimeout limits = .ok (some t) → ¬ main.rule.Outlasts t
  printed : main.rule.stdout ++ main.rule.stderr = Utf8.encode s.toList
  failed : ∃ code, main.rule.code = .int code ∧ code ≠ 0

def OutputLimited (environ : Value) (limit : Nat) : Prop :=
  0 < limit ∧ ((environ.optional "compilation_output_limit").getD (.int outputLimit)).number? =
    some (.int limit)

variable {s : String} {limit : Nat}

def failedResult (main : Process) (used : Int) (content : List UInt8) : Value :=
  endedResult false main.rule.code used [("stdout", .bytes content)]

theorem compile_of_failed {used code : Int} {content : List UInt8} {ended : Machine}
    (planned : c.plan b.machine environ = .ok p) (ready : Ready c environ p b.machine n)
    (reports : main.rule.code = .int code) (nonzero : code ≠ 0)
    (answer : c.mainStep environ p n = (.ok (failedResult main used content), ended)) :
    c.compile environ b = (.ok (), ⟨ended, decidedAs "CE"
      (environ.withField "compiler_output" (.str (Utf8.text content))), p.memory⟩) := by
  have ran := run_onMachine (b := ⟨b.machine, environ, p.memory⟩)
    ((runPlan_of_ready ready).trans answer)
  rw [compile_of_plan planned, Step.run_bind_of_ok ran]
  have spoken : (failedResult main used content).field "stdout" (.bytes []) =
    .ok (.bytes content) := rfl
  refine conclude_of_failed spoken rfl ?_
  exact (congrArg Value.truthy reports).trans ((truthy_int code).mpr nonzero)

section
variable {fields : Fields}
variable (runs : c.executor = host)
  (starts : Starts (jobOptions (.object fields) p) limits p.command
    (defaultExecOptions (.object fields) p.memory) (c.mainLogged p n) main left)
  (complains : Complains limits main s) (limited : OutputLimited (.object fields) limit)

include starts complains limited

theorem reportedOutput_of_complains :
    reportedOutput (jobOptions (.object fields) p) limits ⟨main.rule.code, main.output⟩ =
      .ok [("stdout", .bytes ((Utf8.encode s.toList).take limit))] := by
  have described : (jobOptions (.object fields) p).Described := Or.inr ⟨fields, _, rfl, rfl⟩
  have output : main.output = some (Utf8.encode s.toList) := by
    rw [starts.output_eq, ← complains.printed]
    rfl
  have number : limits.output.number? = some (.int limit) := by
    rw [ExecOptions.limits_output described rfl starts.limited]
    exact limited.2
  exact reportedOutput_of_positive rfl output number limited.1

include runs

theorem mainStep_of_complains {result : Value} {ended : Machine}
    (h : c.mainStep (.object fields) p n = (.ok result, ended)) :
    ∃ used, result = failedResult main used ((Utf8.encode s.toList).take limit) := by
  rw [mainStep_eq, runs, starts.host_eq] at h
  obtain ⟨alive, -⟩ := starts.process
  obtain ⟨used, stdout, reported, rfl⟩ := supervise_ok_of_timely alive complains.timely h
  rw [reportedOutput_of_complains starts complains limited] at reported
  cases reported
  exact ⟨used, rfl⟩

theorem exists_mainStep_of_complains {timeout : Option Binary64}
    (converts : realTimeout limits = .ok timeout) (clock : n.clock.Below 1000)
    (duration : main.rule.duration.Below 1000) :
    ∃ used ended, c.mainStep (.object fields) p n =
      (.ok (failedResult main used ((Utf8.encode s.toList).take limit)), ended) := by
  obtain ⟨alive, command_eq, clock_eq, -⟩ := starts.process
  obtain ⟨code, code_eq, -⟩ := complains.failed
  have timely (t : Binary64) (same : timeout = some t) : ¬ main.rule.Outlasts t :=
    complains.timely t (same ▸ converts)
  obtain ⟨_, number, -⟩ := id duration
  have clock_left : left.clock.Below 1000 := clock_eq ▸ clock
  have searched : main.launch.outputPath = .ok (Launch.outputPath? main.launch.words) := by
    rw [Launch.outputPath, command_eq, Plan.command]
  obtain ⟨program, named⟩ := starts.exists_program
  have finite : main.rule.code.IsFinite := code_eq ▸ Value.isFinite_int code
  obtain ⟨used, message, ended, run, -⟩ := exists_supervise_of_reported alive converts
    (Process.expires_of_not_outlasts number timely) clock_left duration finite named searched
    (reportedOutput_of_complains starts complains limited)
  refine ⟨used, ended, ?_⟩
  rw [mainStep_eq, runs, starts.host_eq, ← clock_eq, run, outcome]
  simp [failedResult, jobOptions, Value.truthy]

end

/-- The message is the text that the compiler printed, or what the limit leaves of it: the
characters of which all bytes are within it, and a replacement for the one that it goes through. -/
theorem failure_message_is_cut (runs : c.executor = host)
    (planned : c.plan b.machine environ = .ok p) (ready : Ready c environ p b.machine n)
    (starts : Starts (jobOptions environ p) limits p.command
      (defaultExecOptions environ p.memory) (c.mainLogged p n) main left)
    (complains : Complains limits main s) (limited : OutputLimited environ limit) :
    (∀ b', c.compile environ b = (.ok (), b') →
      ∃ cut, b'.environ.optional "compiler_output" = some (.str cut) ∧
        Utf8.IsCut limit s.toList cut.toList ∧
        ((Utf8.encode s.toList).length ≤ limit → cut = s)) ∧
    ((∃ timeout, realTimeout limits = .ok timeout) → n.clock.Below 1000 →
      main.rule.duration.Below 1000 → ∃ b', c.compile environ b = (.ok (), b')) := by
  obtain ⟨fields, rfl⟩ := plan_object planned
  obtain ⟨code, reports, nonzero⟩ := complains.failed
  constructor
  · intro b' done
    obtain ⟨p', result, m, planned', ran, -⟩ := compile_ok done
    obtain rfl : p = p' := Except.ok.inj (planned.symm.trans planned')
    rw [runPlan_of_ready ready] at ran
    obtain ⟨used, rfl⟩ := mainStep_of_complains runs starts complains limited ran
    rw [compile_of_failed planned ready reports nonzero ran] at done
    cases done
    have cut := Utf8.isCut_decode limit s.toList
    refine ⟨Utf8.text ((Utf8.encode s.toList).take limit), ?_, ?_, fun enough => ?_⟩
    · simp [Table.find?_put]
    · rwa [Utf8.text, String.toList_ofList]
    · rw [Utf8.text, cut.eq_self enough, String.ofList_toList]
  · rintro ⟨timeout, converts⟩ clock duration
    obtain ⟨used, ended, answer⟩ :=
      exists_mainStep_of_complains runs starts complains limited converts clock duration
    exact ⟨_, compile_of_failed planned ready reports nonzero answer⟩

def complaint (s : String) : Rule := { code := .int 1, stdout := Utf8.encode s.toList }

def complaining (s : String) : Machine := { blank with rules := [complaint s] }

def terse : Value := .object [("source_file", .str "a.c"), ("compilation_output_limit", .int 2),
  ("compilation_time_limit", .int 0), ("compilation_mem_limit", .int 0)]

theorem failure_message_is_cut_inside : ∃ b',
    cOnHost.compile terse ⟨complaining "né", .null, {}⟩ = (.ok (), b') ∧
      b'.environ.optional "compiler_output" = some (.str "n\uFFFD") := by
  let limits : Limits := ⟨.int 0, .int 0, .null, .int 2⟩
  obtain ⟨p, planned, command⟩ : ∃ p, cOnHost.plan (complaining "né") terse = .ok p ∧
      p.command = texts ["cc", "-c", "-o", "/cwd/output.o", "-O2", "/cwd/a.c"] := ⟨_, rfl, rfl⟩
  obtain ⟨main, left, starts, rule_eq⟩ : ∃ main left, Starts (jobOptions terse p) limits p.command
      (defaultExecOptions terse p.memory) (cOnHost.mainLogged p (complaining "né")) main left ∧
      main.rule = complaint "né" := by
    rw [command]
    exact ⟨_, _, ⟨rfl, rfl, _, rfl, rfl⟩, rfl⟩
  have complains : Complains limits main "né" := by
    refine ⟨nofun, ?_, 1, ?_, by decide⟩
    · rw [rule_eq]
      exact List.append_nil _
    · rw [rule_eq]
      rfl
  have duration : main.rule.duration.Below 1000 := rule_eq ▸ below_zero
  obtain ⟨shown, ends⟩ := failure_message_is_cut (b := ⟨complaining "né", .null, {}⟩) rfl planned
    (.direct (Or.inl rfl)) starts complains ⟨by decide, rfl⟩
  obtain ⟨b', done⟩ := ends ⟨none, rfl⟩ below_zero duration
  obtain ⟨cut, message, left, -⟩ := shown b' done
  have cut_eq : cut = "n\uFFFD" := by
    rw [← String.toList_inj, left.unique (Utf8.isCut_decode 2 _)]
    decide
  exact ⟨b', done, cut_eq ▸ message⟩

end Compiler

end CompileJob

import CompileJob.Proofs.Compiler.Memory

namespace CompileJob

def Value.artifact (environ : Value) : Option Value × Option Value :=
  (environ.optional "out_file", environ.optional "exec_info")

def artifactAt (output : String) : Option Value × Option Value :=
  (some (.str output), some (.object [("mode", .str "object")]))

theorem Value.optional_withField_of_ne {key other : String} (different : key ≠ other)
    (environ content : Value) :
    (environ.withField key content).optional other = environ.optional other := by
  cases environ with
  | object fields => simp [Table.find?_put, different]
  | _ => rfl

namespace Compiler

open Bench

variable {c : Compiler} {environ : Value} {b b' : Bench} {e : Fault}

/-! ## One job -/

theorem conclude_error {result : Value} {output key : String} (message_ne : key ≠ "compiler_output")
    (code_ne : key ≠ "result_code") (h : conclude result output b = (.error e, b')) :
    b'.environ.optional key = b.environ.optional key := by
  have message (content : Value) :
      (b.environ.withField "compiler_output" content).optional key = b.environ.optional key :=
    Value.optional_withField_of_ne message_ne.symm _ content
  unfold conclude at h
  rcases Step.run_lift_bind_eq_error.mp h with ⟨-, rfl⟩ | ⟨stdout, -, h⟩
  · rfl
  rw [Step.run_bind_of_ok (run_write _ _ _)] at h
  rcases Step.run_lift_bind_eq_error.mp h with ⟨-, rfl⟩ | ⟨code, -, h⟩
  · exact message _
  split at h
  · cases h
  rw [Step.run_bind_of_ok (Step.run_get _)] at h
  split at h
  · rw [Step.run_bind_of_ok (run_onMachine (run_log _ _ _ _)),
      Step.run_bind_of_ok (run_write _ _ _)] at h
    rcases Step.run_lift_bind_eq_error.mp h with ⟨-, rfl⟩ | ⟨longer, -, h⟩
    · exact (Value.optional_withField_of_ne code_ne.symm _ _).trans (message _)
    · cases h
  · rw [Step.run_bind_of_ok (Step.run_get _), Step.run_bind_of_ok (Step.run_get _)] at h
    rcases Step.run_lift_bind_eq_error.mp h with ⟨-, rfl⟩ | ⟨large, -, h⟩
    · exact message _
    · split at h <;> cases h

theorem compile_error_keeps {key : String} (message_ne : key ≠ "compiler_output")
    (code_ne : key ≠ "result_code") (failed : c.compile environ b = (.error e, b')) :
    b'.environ.optional key = environ.optional key := by
  have course := c.compile_course environ b
  rw [failed] at course
  cases course with
  | unplanned | broken => rfl
  | concluded planned ran concluded => exact conclude_error message_ne code_ne concluded

theorem compile_error_artifact (failed : c.compile environ b = (.error e, b')) :
    b'.environ.artifact = environ.artifact :=
  Prod.ext (compile_error_keeps (by decide) (by decide) failed)
    (compile_error_keeps (by decide) (by decide) failed)

theorem compile_keeps (c : Compiler) (environ : Value) (b : Bench) {key : String}
    (message_ne : key ≠ "compiler_output") (code_ne : key ≠ "result_code")
    (artifact_ne : key ≠ "out_file" ∧ key ≠ "exec_info") :
    (c.compile environ b).2.environ.optional key = environ.optional key := by
  refine (compile_leaves c environ b).environ.optional_eq ?_
  simp [answerKeys, message_ne, code_ne, artifact_ne]

inductive Names (environ : Value) (run : Except Fault Unit × Bench) : Prop
  | produced {output : String} (done : run.1 = .ok ())
      (verdict : run.2.environ.optional "result_code" = some (.str "OK"))
      (output_eq : run.2.memory.outputFilename = some output)
      (artifact_eq : run.2.environ.artifact = artifactAt output) : Names environ run
  | rejected (done : run.1 = .ok ())
      (verdict : run.2.environ.optional "result_code" = some (.str "CE"))
      (artifact_eq : run.2.environ.artifact = environ.artifact) : Names environ run
  | broken {e : Fault} (failed : run.1 = .error e)
      (artifact_eq : run.2.environ.artifact = environ.artifact) : Names environ run

theorem compile_names (c : Compiler) (environ : Value) (b : Bench) :
    Names environ (c.compile environ b) := by
  cases run : c.compile environ b with
  | mk r b' =>
    cases r with
    | error e => exact .broken rfl (compile_error_artifact run)
    | ok u =>
      obtain ⟨p, result, n, planned, ran, concluded⟩ := compile_ok run
      obtain ⟨memory, -, stdout, code, -, -, verdict⟩ := conclude_ok concluded
      obtain ⟨fields, rfl⟩ := plan_object planned
      cases verdict.decided with
      | inl ok =>
        obtain ⟨file, info⟩ := verdict.artifact ok
        exact .produced rfl ok (by rw [memory]; rfl) (Prod.ext file info)
      | inr ce =>
        have unwritten (key : String) (ok : b'.environ.optional "result_code" = some (.str "OK")) :
            key ≠ "out_file" ∧ key ≠ "exec_info" := by
          simp [ok] at ce
        have file := verdict.kept (by decide) (by decide) (unwritten "out_file")
        have info := verdict.kept (by decide) (by decide) (unwritten "exec_info")
        exact .rejected rfl ce (Prod.ext file info)

/-! ## Many jobs -/

/-- The description at hand is given to a compiler, after the machine has changed in some way. -/
structure Submission where
  compiler : Compiler
  change : Machine → Machine

namespace Submission

def run (s : Submission) (b : Bench) : Except Fault Unit × Bench :=
  s.compiler.compile b.environ { b with machine := s.change b.machine }

def output (s : Submission) (b : Bench) : Option String :=
  match (s.run b).1, (s.run b).2.environ.optional "result_code" with
  | .ok (), some (.str "OK") => (s.run b).2.memory.outputFilename
  | _, _ => none

theorem names_run (s : Submission) (b : Bench) : Names b.environ (s.run b) :=
  compile_names s.compiler b.environ _

theorem artifact_run (s : Submission) (b : Bench) :
    (s.run b).2.environ.artifact = ((s.output b).map artifactAt).getD b.environ.artifact := by
  unfold output
  cases s.names_run b with
  | produced done verdict output_eq artifact_eq =>
    rw [artifact_eq, done, verdict, output_eq]
    rfl
  | rejected done verdict artifact_eq =>
    rw [artifact_eq, done, verdict]
    rfl
  | broken failed artifact_eq =>
    rw [artifact_eq, failed]
    rfl

end Submission

def afterAll (b : Bench) (history : List Submission) : Bench :=
  history.foldl (fun b s => (s.run b).2) b

def lastOutput (b : Bench) : List Submission → Option String
  | [] => none
  | s :: rest => (lastOutput (s.run b).2 rest).or (s.output b)

theorem artifact_afterAll (history : List Submission) (b : Bench) :
    (afterAll b history).environ.artifact =
      ((lastOutput b history).map artifactAt).getD b.environ.artifact := by
  induction history generalizing b with
  | nil => rfl
  | cons s rest ih =>
    change (afterAll (s.run b).2 rest).environ.artifact = _
    rw [ih, s.artifact_run, lastOutput]
    cases lastOutput (s.run b).2 rest <;> rfl

/-- After any jobs with one description, a job that succeeds names its own output, and one that does
not leaves the output of the last success, or what the description named at first. -/
theorem artifact_of_last_success (history : List Submission) (s : Submission) (b b' : Bench)
    (done : s.run (afterAll b history) = (.ok (), b')) :
    (b'.environ.optional "result_code" = some (.str "OK") ∧
      ∃ output, b'.memory.outputFilename = some output ∧
        b'.environ.artifact = artifactAt output) ∨
    (b'.environ.optional "result_code" = some (.str "CE") ∧
      b'.environ.artifact = ((lastOutput b history).map artifactAt).getD b.environ.artifact) := by
  have names := s.names_run (afterAll b history)
  rw [done] at names
  cases names with
  | produced _ verdict output_eq artifact_eq =>
    exact Or.inl ⟨verdict, _, output_eq, artifact_eq⟩
  | rejected _ verdict artifact_eq =>
    exact Or.inr ⟨verdict, artifact_eq.trans (artifact_afterAll history b)⟩
  | broken failed => cases failed

def onCode (code : Int) : Submission where
  compiler := cOnHost
  change m := { m with rules := [{ code := .int code }] }

def newJob : Bench := ⟨Machine.blank, sourceAlone, {}⟩

theorem newJob_fails_after_success :
    (onCode 1).run (afterAll newJob [onCode 0]) =
      (.ok (), ((onCode 1).run (afterAll newJob [onCode 0])).2) :=
  Step.run_eq_of_isOk (by decide +kernel)

theorem newJob_is_rejected :
    ((onCode 1).run (afterAll newJob [onCode 0])).2.environ.optional "result_code" =
      some (.str "CE") :=
  Value.optional_eq_of_equal (by decide +kernel)

theorem artifact_of_last_success_resubmitted :
    (onCode 1).run (afterAll newJob [onCode 0]) =
      (.ok (), ((onCode 1).run (afterAll newJob [onCode 0])).2) ∧
    ((onCode 1).run (afterAll newJob [onCode 0])).2.environ.artifact =
      artifactAt "/cwd/output.o" := by
  have produced : lastOutput newJob [onCode 0] = some "/cwd/output.o" := by decide +kernel
  refine ⟨newJob_fails_after_success, ?_⟩
  rcases artifact_of_last_success [onCode 0] (onCode 1) newJob _ newJob_fails_after_success with
    ⟨ok, -⟩ | ⟨-, artifact_eq⟩
  · rw [newJob_is_rejected] at ok
    simp at ok
  · rw [artifact_eq, produced]
    rfl

theorem rejected_job_names_old_artifact :
    ¬ ∀ (history : List Submission) (s : Submission) (b b' : Bench),
      b.environ.artifact = (none, none) → s.run (afterAll b history) = (.ok (), b') →
      b'.environ.optional "result_code" = some (.str "CE") →
      b'.environ.artifact = (none, none) := by
  intro claim
  have nothing := claim [onCode 0] (onCode 1) newJob _ rfl newJob_fails_after_success
    newJob_is_rejected
  have named : ((onCode 1).run (afterAll newJob [onCode 0])).2.environ.optional "out_file" =
      some (.str "/cwd/output.o") :=
    Value.optional_eq_of_equal (by decide +kernel)
  rw [Value.artifact, named] at nothing
  cases nothing

end Compiler

end CompileJob

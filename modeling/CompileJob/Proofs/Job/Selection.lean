import CompileJob.Proofs.Backend.Lookup
import CompileJob.Proofs.Job.Dispatch

namespace CompileJob

namespace Job

open Bench

variable {environ : Value} {compiler key : String} {b : Bench} {tools : Option Registry}
  {executor : Executor}

def BeforeDot (name start : String) : Prop :=
  '.' ∉ start.toList ∧ (name = start ∨ ∃ rest, name = start ++ "." ++ rest)

theorem exists_beforeDot (name : String) : ∃ start, BeforeDot name start := by
  have split := List.takeWhile_append_dropWhile (p := (· ≠ '.')) (l := name.toList)
  have ends := List.head?_dropWhile_not (· ≠ '.') name.toList
  refine ⟨String.ofList (name.toList.takeWhile (· ≠ '.')), ?_, ?_⟩
  · rw [String.toList_ofList]
    exact fun member => absurd (List.mem_takeWhile_imp member) (by decide)
  · cases rest : name.toList.dropWhile (· ≠ '.') with
    | nil =>
      rw [rest, List.append_nil] at split
      exact Or.inl (by rw [split, String.ofList_toList])
    | cons dot rest' =>
      rw [rest] at split ends
      obtain rfl : dot = '.' := by simpa using ends
      refine Or.inr ⟨String.ofList rest', ?_⟩
      rw [← String.toList_inj]
      simpa using split.symm

theorem backendKey_of_beforeDot (h : BeforeDot compiler key) :
    backendKey (.str compiler) = .ok key := by
  obtain ⟨dotless, whole⟩ := h
  have before : ∀ c ∈ key.toList, decide (c ≠ '.') = true := by
    intro c member
    apply decide_eq_true
    rintro rfl
    exact dotless member
  have start : compiler.toList.takeWhile (· ≠ '.') = key.toList := by
    rcases whole with rfl | ⟨rest, rfl⟩
    · exact List.takeWhile_eq_self_iff.mpr before
    · rw [String.toList_append, String.toList_append, List.append_assoc,
        List.takeWhile_append_of_pos before]
      simp
  rw [backendKey, start, String.ofList_toList]

def logged (environ : Value) (compiler : String) (m : Machine) : Machine :=
  m.record (.log .debug .job ("running compile job " ++ compiler ++ " " ++
    ((environ.optional "task_id").getD (.str "")).text))

theorem run_of_compiler (given : environ.optional "compiler" = some (.str compiler))
    (start : backendKey (.str compiler) = .ok key) (b : Bench) :
    run tools executor environ b = (do
      let backend ← Backend.lookup b.machine (.str key)
      Compiler.compile { backend, tools, executor } environ : Step Bench Unit)
        ⟨logged environ compiler b.machine, environ, {}⟩ := by
  have named : withCompiler environ = .ok environ := by
    obtain ⟨fields, rfl⟩ := Value.exists_object_of_item (Value.item_of_optional given)
    have there : Table.has fields "compiler" = true := by
      rw [Table.has_eq]
      exact congrArg Option.isSome given
    rw [withCompiler, if_pos there]
  unfold run
  rw [Step.run_bind_of_ok (Step.run_modify _ _), Step.run_lift_bind_of_ok named,
    Step.run_bind_of_ok (Step.run_modify _ _),
    Step.run_lift_bind_of_ok (Value.item_of_optional given),
    Step.run_lift_bind_of_ok (Value.field_of_optional given _ _),
    Step.run_bind_of_ok (run_onMachine (run_log _ _ _ _)), Step.run_lift_bind_of_ok start]
  rfl

theorem run_of_found {backend : Backend}
    (given : environ.optional "compiler" = some (.str compiler)) (start : BeforeDot compiler key)
    (found : Backend.lookup b.machine (.str key) = .ok backend) :
    run tools executor environ b =
      Compiler.compile { backend, tools, executor } environ
        ⟨logged environ compiler b.machine, environ, {}⟩ := by
  rw [run_of_compiler given (backendKey_of_beforeDot start), Step.run_lift_bind_of_ok found]

theorem run_of_not_found {e : Fault} (given : environ.optional "compiler" = some (.str compiler))
    (start : BeforeDot compiler key) (fails : Backend.lookup b.machine (.str key) = .error e) :
    run tools executor environ b =
      (.error e, ⟨logged environ compiler b.machine, environ, {}⟩) := by
  rw [run_of_compiler given (backendKey_of_beforeDot start), fails]
  rfl

end Job

open Backend

/-- A name finds the backend that was registered under it last, whatever was registered under other
names, or else the first installed one, which must load. A job runs with the backend found under the
part of its compiler's name before the first dot; without one nothing but the log shows of it. -/
theorem backend_of_name :
    (∀ history m key,
      (∀ before backend after, history = before ++ (.str key, backend) :: after →
        (∀ r ∈ after, r.1 ≠ .str key) → ∀ entryPoints,
        lookup { registerAll history m with entryPoints } (.str key) = .ok backend) ∧
      (∀ history', history'.filter (·.1 == .str key) = history.filter (·.1 == .str key) →
        lookup (registerAll history' m) (.str key) = lookup (registerAll history m) (.str key)) ∧
      (Unregistered m history key → ∀ before e after, m.entryPoints = before ++ e :: after →
        Offers e key → (∀ other ∈ before, ¬ Offers other key) →
        lookup (registerAll history m) (.str key) =
          e.target.mapError (.brokenBackend key (.str "wasmworkers.backends"))) ∧
      ((∃ group name, lookup (registerAll history m) (.str key) =
          .error (.unknownBackend group name)) ↔
        Unregistered m history key ∧ ∀ e ∈ m.entryPoints, ¬ Offers e key)) ∧
    (∀ compiler, ∃ key, Job.BeforeDot compiler key) ∧
    (∀ environ compiler key, environ.optional "compiler" = some (.str compiler) →
      Job.BeforeDot compiler key → ∀ tools executor b,
        (∀ backend, lookup b.machine (.str key) = .ok backend →
          Job.run tools executor environ b = Compiler.compile { backend, tools, executor } environ
            ⟨Job.logged environ compiler b.machine, environ, {}⟩) ∧
        ∀ e, lookup b.machine (.str key) = .error e →
          Job.run tools executor environ b =
            (.error e, ⟨Job.logged environ compiler b.machine, environ, {}⟩)) := by
  refine ⟨fun history m key => ⟨?_, ?_, ?_, lookup_unknown_iff⟩, Job.exists_beforeDot, ?_⟩
  · rintro before backend after rfl last entryPoints
    exact lookup_of_last m last entryPoints
  · exact fun history' same => lookup_congr m same
  · intro unregistered before e after installed offers first
    rw [lookup_of_unregistered unregistered, installed]
    exact firstInstalled_of_first offers first
  · intro environ compiler key given start tools executor b
    exact ⟨fun backend found => Job.run_of_found given start found,
      fun e fails => Job.run_of_not_found given start fails⟩

def brokenFirst : Machine :=
  { Machine.blank with entryPoints := [⟨"other", "b", .ok (.ofToolchain .cc)⟩,
      ⟨"wasmworkers.backends", "b", .error "gone"⟩,
      ⟨"wasmworkers.backends", "b", .ok (.ofToolchain .cc)⟩] }

def forBroken : Value := .object [("source_file", .str "a.c"), ("compiler", .str "b.1")]

theorem backend_of_name_broken :
    (∀ entryPoints, lookup { registerAll [(.str "b", .ofToolchain .wasmer),
        (.int 1, .ofToolchain .cc), (.str "b", .ofToolchain .cc),
        (.str "a", .ofToolchain .wasmer)] brokenFirst with entryPoints } (.str "b") =
          .ok (.ofToolchain .cc)) ∧
      Job.run none Executor.host forBroken ⟨brokenFirst, .null, {}⟩ =
        (.error (.brokenBackend "b" (.str "wasmworkers.backends") "gone"),
          ⟨Job.logged forBroken "b.1" brokenFirst, forBroken, {}⟩) := by
  obtain ⟨ofHistory, -, ofJob⟩ := backend_of_name
  constructor
  · exact (ofHistory _ brokenFirst "b").1 [_, _] _ [_] rfl (by simp)
  · have unregistered : Unregistered brokenFirst [] "b" := ⟨rfl, nofun⟩
    have broken := (ofHistory [] brokenFirst "b").2.2.1 unregistered [_] _ [_] rfl ⟨rfl, rfl⟩
      (by simp [Offers])
    have start : Job.BeforeDot "b.1" "b" := ⟨by decide, Or.inr ⟨"1", rfl⟩⟩
    exact (ofJob _ _ _ rfl start none Executor.host ⟨brokenFirst, .null, {}⟩).2 _ broken

end CompileJob

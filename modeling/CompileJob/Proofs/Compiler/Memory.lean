import CompileJob.Proofs.Compiler.History
import CompileJob.Proofs.Compiler.Artifact

namespace CompileJob

theorem Except.toOption_eq_some {α : Type} {x : Except Fault α} {a : α} :
    x.toOption = some a ↔ x = .ok a := by
  cases x <;> simp [Except.toOption]

def answerKeys : List String := ["compiler_output", "result_code", "out_file", "exec_info"]

inductive Value.Answered (environ : Value) : Value → Prop
  | unanswered : Answered environ environ
  | write {answered : Value} {key : String} (content : Value) (before : Answered environ answered)
      (answer : key ∈ answerKeys) : Answered environ (answered.withField key content)

theorem Value.Answered.trans {v w x : Value} (first : Answered v w) (rest : Answered w x) :
    Answered v x := by
  induction rest with
  | unanswered => exact first
  | write content _ answer before => exact .write content before answer

theorem Value.Answered.optional_eq {v w : Value} {key : String} (h : Answered v w)
    (unasked : key ∉ answerKeys) : w.optional key = v.optional key := by
  induction h with
  | unanswered => rfl
  | @write answered other content _ answer ih =>
    have different : other ≠ key := by
      rintro rfl
      exact unasked answer
    rw [← ih]
    cases answered with
    | object fields =>
      simp [Value.withField_object, Value.optional_object, Table.find?_put, different]
    | _ => rfl

namespace Compiler

open Bench

/-! ## One job -/

structure Arrival where
  machine : Machine
  environ : Value

namespace Arrival

def directory (a : Arrival) : Except Fault Value := do
  a.machine.resolve (← a.environ.field "working_dir" .null)

def request? (a : Arrival) : Option Request := (Request.ofEnviron a.machine a.environ).toOption

def filters? (a : Arrival) : Option Filters := (Filters.ofEnviron a.environ).toOption

/-- The tools that a compiler has after the job, which are none where they cannot be made. Nothing
is said for a job that does not come to them. -/
def tools? (c : Compiler) (a : Arrival) : Option (Option Registry) :=
  a.request?.bind fun _ => a.filters?.map fun _ => (c.toolsFor a.machine a.environ).toOption

def Read (a : Arrival) : Prop := a.request?.isSome = true ∧ a.filters?.isSome = true

end Arrival

structure Answers (b b' : Bench) : Prop where
  environ : b.environ.Answered b'.environ
  request : b'.memory.request = b.memory.request
  tools : b'.memory.tools = b.memory.tools

theorem Answers.refl (b : Bench) : Answers b b := ⟨.unanswered, rfl, rfl⟩

theorem Answers.trans {b b' b'' : Bench} (first : Answers b b') (rest : Answers b' b'') :
    Answers b b'' :=
  ⟨first.environ.trans rest.environ, rest.request.trans first.request,
    rest.tools.trans first.tools⟩

theorem answers_onMachine {α : Type} (step : Step Machine α) : (onMachine step).Along Answers :=
  fun b => by
    cases run : step b.machine with
    | mk r m =>
      rw [run_onMachine run]
      exact ⟨.unanswered, rfl, rfl⟩

theorem Written.answer {stdout content : Value} {key : String} (h : Written stdout key content) :
    key ∈ answerKeys := by
  cases h <;> decide

theorem answers_conclude (result : Value) (output : String) :
    (conclude result output).Along Answers :=
  along_conclude .refl .trans (fun _ => answers_onMachine _)
    (fun _ _ content _ written _ => ⟨.write content .unanswered written.answer, rfl, rfl⟩) output

/-- How a job leaves a compiler that remembered this before. -/
structure Leaves (c : Compiler) (a : Arrival) (before : Memory) (after : Bench) : Prop where
  environ : a.environ.Answered after.environ
  request : after.memory.request = a.request?.or before.request
  tools : after.memory.tools = (a.tools? c).getD before.tools

theorem toolsFor_error {c : Compiler} {m : Machine} {environ : Value} {e : Fault}
    (h : c.toolsFor m environ = .error e) : c.tools = none := by
  unfold toolsFor at h
  split at h
  · cases h
  · assumption

theorem run_remember (f : Memory → Memory) (b : Bench) :
    remember f b = (.ok (), { b with memory := f b.memory }) := rfl

theorem Leaves.of_answers {α : Type} {c : Compiler} {a : Arrival} {before : Memory}
    {step : Step Bench α} {b : Bench} (answers : step.Along Answers)
    (settled : Leaves c a before b) : Leaves c a before (step b).2 where
  environ := settled.environ.trans (answers b).environ
  request := (answers b).request.trans settled.request
  tools := (answers b).tools.trans settled.tools

theorem compile_leaves (c : Compiler) (environ : Value) (b : Bench) :
    Leaves c ⟨b.machine, environ⟩ b.memory (c.compile environ b).2 := by
  rw [compile, Step.run_bind_of_ok (Step.run_modify _ _), Step.run_bind_of_ok (Step.run_get _)]
  cases asked : Request.ofEnviron b.machine environ with
  | error e =>
    rw [Step.run_bind_of_error (Step.run_lift _ _)]
    constructor <;> simp [Arrival.tools?, Arrival.request?, asked, Except.toOption,
      Value.Answered.unanswered]
  | ok request =>
    rw [Step.run_lift_bind_of_ok rfl, Step.run_bind_of_ok (run_remember _ _)]
    cases filtered : Filters.ofEnviron environ with
    | error e =>
      rw [Step.run_bind_of_error (Step.run_lift _ _)]
      constructor <;> simp [Arrival.tools?, Arrival.request?, Arrival.filters?, asked, filtered,
        Except.toOption, Value.Answered.unanswered]
    | ok filters =>
      rw [Step.run_lift_bind_of_ok rfl, Step.run_bind_of_ok (run_remember _ _)]
      cases equipped : c.toolsFor b.machine environ with
      | error e =>
        rw [Step.run_bind_of_error (Step.run_lift _ _)]
        constructor <;> simp [Arrival.tools?, Arrival.request?, Arrival.filters?, asked, filtered,
          equipped, toolsFor_error equipped, Except.toOption, Value.Answered.unanswered]
      | ok tools =>
        rw [Step.run_lift_bind_of_ok rfl, Step.run_bind_of_ok (run_remember _ _)]
        refine .of_answers ?_ ?_
        · refine along_lift_bind .refl fun name _ => along_lift_bind .refl fun input _ => ?_
          refine along_lift_bind .refl fun output _ => ?_
          refine along_bind .trans (fun _ => ⟨.unanswered, rfl, rfl⟩) fun _ => ?_
          refine along_bind .trans (fun _ => ⟨.unanswered, rfl, rfl⟩) fun _ => ?_
          refine along_lift_bind .refl fun args _ => along_lift_bind .refl fun given _ => ?_
          refine along_bind .trans .refl fun _ => ?_
          exact along_bind .trans (answers_onMachine _) fun _ => answers_conclude _ _
        · constructor <;> simp [Arrival.tools?, Arrival.request?, Arrival.filters?, asked, filtered,
            equipped, Except.toOption, Value.Answered.unanswered]

/-! ## Any jobs -/

def Turn.arrival (turn : Turn) (b : Bench) : Arrival := ⟨turn.change b.machine, turn.environ⟩

def arrivals (c : Compiler) : Bench → List Turn → List Arrival
  | _, [] => []
  | b, turn :: rest => turn.arrival b :: arrivals c (c.serve b turn) rest

theorem serve_leaves (c : Compiler) (b : Bench) (turn : Turn) :
    Leaves c (turn.arrival b) b.memory (c.serve b turn) :=
  compile_leaves c turn.environ { b with machine := turn.change b.machine }

theorem getLast?_filterMap_cons {α β : Type} (f : α → Option β) (first : α) (rest : List α) :
    ((first :: rest).filterMap f).getLast? = (rest.filterMap f).getLast?.or (f first) := by
  rw [List.filterMap_cons]
  cases f first with
  | none => simp
  | some b => cases last : (rest.filterMap f).getLast? <;> simp [List.getLast?_cons, last]

theorem remembered_afterAll (c : Compiler) (history : List Turn) (b : Bench) :
    (history.foldl c.serve b).memory.request =
        ((c.arrivals b history).filterMap Arrival.request?).getLast?.or b.memory.request ∧
      (history.foldl c.serve b).memory.tools =
        ((c.arrivals b history).filterMap (Arrival.tools? c)).getLast?.getD b.memory.tools := by
  induction history generalizing b with
  | nil => exact ⟨rfl, rfl⟩
  | cons turn rest ih =>
    obtain ⟨request, tools⟩ := ih (c.serve b turn)
    have leaves := c.serve_leaves b turn
    rw [List.foldl_cons, request, tools, leaves.request, leaves.tools, arrivals,
      getLast?_filterMap_cons, getLast?_filterMap_cons, Option.or_assoc, Option.getD_or]
    exact ⟨rfl, rfl⟩

def execOptions (b : Bench) : Value := .object (defaultExecOptions b.environ b.memory)

theorem execOptions_environ (b : Bench) : (execOptions b).optional "environ" = some b.environ := rfl

theorem execOptions_cwd (b : Bench) :
    (execOptions b).optional "cwd" = some ((b.memory.request.map (·.workingDir)).getD .null) := rfl

structure OfOneJob (c : Compiler) (a : Arrival) (b : Bench) : Prop where
  environ : ∃ environ, (execOptions b).optional "environ" = some environ ∧
    a.environ.Answered environ
  cwd : ∀ dir, (execOptions b).optional "cwd" = some dir → dir = .null ∨ a.directory = .ok dir
  tools : ∀ registry, b.memory.tools = some registry →
    c.toolsFor a.machine a.environ = .ok registry

theorem directory_of_request {a : Arrival} {request : Request}
    (asked : Request.ofEnviron a.machine a.environ = .ok request) :
    a.directory = .ok request.workingDir := by
  simp only [Request.ofEnviron, Except.bind_eq_ok] at asked
  obtain ⟨_, _, _, _, _, _, _, _, _, _, _, _, _, _, _, _, given, found, dir, resolved, rest⟩ :=
    asked
  cases rest
  exact Except.bind_eq_ok.mpr ⟨given, found, resolved⟩

theorem Leaves.ofOneJob {c : Compiler} {a : Arrival} {before : Memory} {b : Bench}
    (leaves : Leaves c a before b) (read : a.Read) : OfOneJob c a b := by
  obtain ⟨request, asked⟩ := Option.isSome_iff_exists.mp read.1
  obtain ⟨filters, filtered⟩ := Option.isSome_iff_exists.mp read.2
  refine ⟨⟨_, execOptions_environ b, leaves.environ⟩, ?_, ?_⟩
  · intro dir cwd
    rw [execOptions_cwd, leaves.request, asked] at cwd
    cases cwd
    exact Or.inr (directory_of_request (Except.toOption_eq_some.mp asked))
  · intro registry equipped
    rw [leaves.tools, Arrival.tools?, asked, filtered] at equipped
    exact Except.toOption_eq_some.mp equipped

/-- After any jobs a compiler tells of the last description, of the directory in the last request
that could be read, and of the tools of the last job that came to them. So it tells of the last job
alone if that one could be read. -/
theorem state_after_jobs (c : Compiler) (earlier : List Turn) (last : Turn) (start : Machine) :
    let a := last.arrival (c.benchAfter earlier start)
    let after := c.benchAfter (earlier ++ [last]) start
    let all := c.arrivals (newBench start) (earlier ++ [last])
    (∃ environ, (execOptions after).optional "environ" = some environ ∧
      a.environ.Answered environ) ∧
    (execOptions after).optional "cwd" =
      some (((all.filterMap Arrival.request?).getLast?.map (·.workingDir)).getD .null) ∧
    after.memory.tools = (all.filterMap (Arrival.tools? c)).getLast?.getD none ∧
    (a.Read → OfOneJob c a after) := by
  intro a after all
  have served : after = c.serve (c.benchAfter earlier start) last := List.foldl_append
  have leaves : Leaves c a _ after := served ▸ c.serve_leaves _ last
  obtain ⟨remembered, tools⟩ := c.remembered_afterAll (earlier ++ [last]) (newBench start)
  have request : after.memory.request = (all.filterMap Arrival.request?).getLast? :=
    remembered.trans Option.or_none
  refine ⟨⟨_, execOptions_environ after, leaves.environ⟩, ?_, tools, leaves.ofOneJob⟩
  rw [execOptions_cwd, request]

def turnIn (source : String) (dir : Value) : Turn where
  change := id
  environ := .object [("source_file", .str source), ("working_dir", dir)]

theorem state_after_jobs_elsewhere :
    let a := (turnIn "b.c" (.str "/v")).arrival
      (cOnHost.benchAfter [turnIn "a.c" (.str "/w")] Machine.blank)
    a.Read ∧ OfOneJob cOnHost a
      (cOnHost.benchAfter ([turnIn "a.c" (.str "/w")] ++ [turnIn "b.c" (.str "/v")])
        Machine.blank) := by
  intro a
  have read : a.Read := ⟨by decide +kernel, by decide +kernel⟩
  exact ⟨read, (state_after_jobs cOnHost [turnIn "a.c" (.str "/w")] (turnIn "b.c" (.str "/v"))
    Machine.blank).2.2.2 read⟩

theorem unread_job_runs_elsewhere :
    ¬ ∀ (c : Compiler) (earlier : List Turn) (last : Turn) (start : Machine),
      OfOneJob c (last.arrival (c.benchAfter earlier start))
        (c.benchAfter (earlier ++ [last]) start) := by
  intro claim
  have one := claim cOnHost [turnIn "a.c" (.str "/w")] (turnIn "b.c" (.int 5)) Machine.blank
  have unresolved : ((turnIn "b.c" (.int 5)).arrival
      (cOnHost.benchAfter [turnIn "a.c" (.str "/w")] Machine.blank)).directory.isOk = false := by
    decide +kernel
  have left : (execOptions (cOnHost.benchAfter
      ([turnIn "a.c" (.str "/w")] ++ [turnIn "b.c" (.int 5)]) Machine.blank)).optional "cwd" =
      some (.str "/w") :=
    Value.optional_eq_of_equal (by decide +kernel)
  cases one.cwd _ left with
  | inl blank => cases blank
  | inr own =>
    rw [own] at unresolved
    cases unresolved

end Compiler

end CompileJob

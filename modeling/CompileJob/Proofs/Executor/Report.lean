import CompileJob.Proofs.Executor.Ending

namespace CompileJob

open Machine

/-! ## Results -/

/-- A verdict can be reached on the result: it holds a code, and bytes where it holds an output. -/
structure Conclusive (result : Value) : Prop where
  code : ∃ code, result.item "return_code" = .ok code
  output : ∃ content, result.field "stdout" (.bytes []) = .ok (.bytes content)

namespace Executor

variable {o : ExecOptions} {limits : Limits} {ending : Ending} {stdout : Fields}

theorem reportedOutput_ok (h : reportedOutput o limits ending = .ok stdout) :
    stdout = [] ∨ ∃ content, stdout = [("stdout", .bytes content)] := by
  unfold reportedOutput at h
  split at h
  · obtain ⟨content, -, h⟩ := Except.bind_eq_ok.mp h
    cases h
    exact Or.inr ⟨content, rfl⟩
  · cases h
    exact Or.inl rfl

theorem conclusive_endedResult (killed : Bool) (code : Value) (used : Int)
    (reported : stdout = [] ∨ ∃ content, stdout = [("stdout", .bytes content)]) :
    Conclusive (endedResult killed code used stdout) := by
  rcases reported with rfl | ⟨content, rfl⟩
  · cases killed <;> exact ⟨⟨code, rfl⟩, [], rfl⟩
  · cases killed <;> exact ⟨⟨code, rfl⟩, content, rfl⟩

theorem report_gives (o : ExecOptions) (limits : Limits) (start : Value) (p : Process)
    (ending : Ending) (killed : Bool) :
    (report o limits start p ending killed).Gives Conclusive := by
  unfold report
  refine gives_bind fun m => gives_bind fun elapsed => gives_bind fun used => ?_
  refine gives_bind fun program => gives_bind fun _ => gives_lift_bind fun stdout reported => ?_
  have conclusive := conclusive_endedResult killed ending.code used (reportedOutput_ok reported)
  split
  · exact gives_bind fun _ => gives_pure conclusive
  · exact gives_pure conclusive

theorem host_gives (command : Value) (options : Fields) :
    (host command options).Gives Conclusive := by
  unfold host
  refine gives_bind fun o => gives_bind fun limits => gives_bind fun words => ?_
  refine gives_bind fun _ => gives_bind fun m => gives_bind fun started => ?_
  cases started with
  | ok p =>
    dsimp only
    rw [supervise_eq]
    exact gives_bind fun timeout => gives_bind fun ended => report_gives _ _ _ _ _ _
  | error reason =>
    dsimp only
    split
    · exact gives_pure ⟨⟨.int 127, rfl⟩, _, rfl⟩
    · exact gives_throw _

end Executor

/-! ## Sizes -/

def Value.IsNumber (v : Value) : Prop := ∃ x, v.number? = some x

theorem Value.IsNumber.exists_lt? {v w : Value} (hv : v.IsNumber) (hw : w.IsNumber) :
    ∃ less, v.lt? w = some less := by
  obtain ⟨x, hx⟩ := hv
  obtain ⟨y, hy⟩ := hw
  refine ⟨x.lt y, ?_⟩
  unfold lt?
  split
  · cases hx
  · cases hx
  · rw [hx, hy]

structure Machine.Sized (m : Machine) : Prop where
  files : ∀ file ∈ m.files, file.2.IsNumber
  outputs : ∀ rule ∈ m.rules, ∀ size, rule.outputSize = some size → size.IsNumber

namespace Machine

variable {m n : Machine}

theorem Sized.size (h : m.Sized) (path : String) : (m.size path).IsNumber := by
  unfold Machine.size Table.getD Table.find?
  cases found : List.find? (·.1 == path) m.files with
  | none => exact ⟨.int directorySize, rfl⟩
  | some file => exact h.files file (List.mem_of_find?_eq_some found)

theorem Sized.quiet (h : m.Sized) (quiet : m.Quiet n) : n.Sized := by
  obtain ⟨clock, processes, events, rfl⟩ := quiet
  exact ⟨h.files, h.outputs⟩

theorem Sized.output (h : m.Sized) {rule : Rule} (origin : rule ∈ m.rules ∨ rule = {})
    {size : Value} (left : rule.outputSize = some size) : size.IsNumber := by
  rcases origin with member | rfl
  · exact h.outputs rule member size left
  · cases left
    exact ⟨.int 4, rfl⟩

theorem Sized.leaves (h : m.Sized) {p : Process} (origin : p.rule ∈ m.rules ∨ p.rule = {})
    (leaves : p.Leaves m n) : n.Sized := by
  cases leaves with
  | nothing => exact h
  | file size_eq =>
    refine ⟨?_, h.outputs⟩
    intro file member
    rcases Table.mem_put member with before | same
    · exact h.files file before
    · rw [same]
      exact h.output origin size_eq

end Machine

theorem Executor.Reported.sized {command result : Value} {m n : Machine}
    (h : Reported command m result n) (sized : m.Sized) : n.Sized := by
  cases h with
  | notStarted _ _ recorded => exact sized.quiet recorded.quiet
  | killed _ _ quiet => exact sized.quiet quiet
  | ended p spawned quiet leaves recorded =>
    have origin := mem_of_ruleFor spawned.rule_eq
    rw [← quiet.later.rules_eq] at origin
    exact ((sized.quiet quiet).leaves origin leaves).quiet recorded.quiet

end CompileJob

import CompileJob.Proofs.Step
import CompileJob.Proofs.Table

namespace CompileJob

theorem foldlM_ok {σ α : Type} {f : σ → α → Except Fault σ} {P : σ → Prop}
    (keeps : ∀ {s x t}, P s → f s x = .ok t → P t) {xs : List α} {s t : σ} (start : P s)
    (h : xs.foldlM f s = .ok t) : P t := by
  induction xs generalizing s with
  | nil =>
    cases h
    exact start
  | cons x xs ih =>
    rw [List.foldlM_cons] at h
    obtain ⟨next, step, rest⟩ := Except.bind_eq_ok.mp h
    exact ih (keeps start step) rest

namespace Registry

variable {executor : Executor} {registry next : Registry} {tool : Tool}

def RunBy (executor : Executor) (registry : Registry) : Prop :=
  ∀ entry ∈ registry.tools, entry.2.executor = executor

theorem runBy_empty (executor : Executor) : RunBy executor empty := nofun

theorem RunBy.find {key : Value} (h : RunBy executor registry)
    (found : Table.find? registry.tools key = some tool) : tool.executor = executor := by
  obtain ⟨entry, first, rfl⟩ := Option.map_eq_some_iff.mp found
  exact h entry (List.mem_of_find?_eq_some first)

theorem RunBy.add (h : RunBy executor registry) (same : tool.executor = executor)
    (added : registry.add tool = .ok next) : RunBy executor next := by
  unfold Registry.add at added
  split at added
  · cases added
    intro entry member
    rcases Table.mem_put member with before | new
    · exact h entry before
    · rw [new, same]
  · cases added

theorem runBy_ofConfig {config : Table Value Value} (h : ofConfig executor config = .ok registry) :
    RunBy executor registry := by
  obtain ⟨entries, -, h⟩ := Except.bind_eq_ok.mp h
  refine foldlM_ok ?_ (runBy_empty executor) h
  intro registry entry next runBy step
  obtain ⟨descriptor, -, added⟩ := Except.bind_eq_ok.mp step
  exact runBy.add rfl added

theorem runBy_ofEnviron {env : Table String String} {environ : Value}
    (h : ofEnviron executor env environ = .ok registry) : RunBy executor registry := by
  obtain ⟨tools, -, h⟩ := Except.bind_eq_ok.mp h
  obtain ⟨config, -, h⟩ := Except.bind_eq_ok.mp h
  exact runBy_ofConfig h

end Registry

end CompileJob

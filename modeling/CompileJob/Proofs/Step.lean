import CompileJob.Compiler

namespace CompileJob

variable {σ τ α β : Type}

theorem Except.bind_eq_ok {x : Except Fault α} {next : α → Except Fault β} {b : β} :
    (x >>= next) = .ok b ↔ ∃ a, x = .ok a ∧ next a = .ok b := by
  cases x with
  | error e => exact ⟨nofun, fun ⟨_, h, _⟩ => nomatch h⟩
  | ok a => exact ⟨fun h => ⟨a, rfl, h⟩, fun ⟨_, h, h'⟩ => by cases h; exact h'⟩

theorem orFault_eq_ok {e : Fault} {x : Option α} {a : α} : orFault e x = .ok a ↔ x = some a := by
  cases x <;> simp [orFault]

namespace Step

@[simp] theorem run_lift (r : Except Fault α) (s : σ) : (liftM r : Step σ α) s = (r, s) := rfl

theorem run_bind_eq_ok {step : Step σ α} {next : α → Step σ β} {s t : σ} {b : β} :
    (step >>= next) s = (.ok b, t) ↔
      ∃ a s', step s = (.ok a, s') ∧ next a s' = (.ok b, t) := by
  rw [run_bind]
  cases h : step s with
  | mk r s' =>
    cases r with
    | error e => simp
    | ok a => exact ⟨fun h' => ⟨a, s', rfl, h'⟩, fun ⟨_, _, h', h''⟩ => by cases h'; exact h''⟩

theorem run_bind_of_ok {step : Step σ α} {next : α → Step σ β} {s s' : σ} {a : α}
    (h : step s = (.ok a, s')) : (step >>= next) s = next a s' := by
  rw [run_bind, h]

theorem run_bind_of_error {step : Step σ α} {next : α → Step σ β} {s s' : σ} {e : Fault}
    (h : step s = (.error e, s')) : (step >>= next) s = (.error e, s') := by
  rw [run_bind, h]

theorem run_lift_bind_of_ok {r : Except Fault α} {next : α → Step σ β} {a : α}
    (h : r = .ok a) (s : σ) : (liftM r >>= next) s = next a s := by
  rw [run_bind, run_lift, h]

theorem run_lift_bind_eq_ok {r : Except Fault α} {next : α → Step σ β} {s t : σ} {b : β} :
    (liftM r >>= next) s = (.ok b, t) ↔ ∃ a, r = .ok a ∧ next a s = (.ok b, t) := by
  cases r with
  | error e => exact ⟨nofun, fun ⟨_, h, _⟩ => nomatch h⟩
  | ok a => exact ⟨fun h => ⟨a, rfl, h⟩, fun ⟨_, h, h'⟩ => by cases h; exact h'⟩

theorem run_lift_bind_eq_error {r : Except Fault α} {next : α → Step σ β} {s t : σ} {e : Fault} :
    (liftM r >>= next) s = (.error e, t) ↔
      (r = .error e ∧ t = s) ∨ ∃ a, r = .ok a ∧ next a s = (.error e, t) := by
  rw [run_bind, run_lift]
  cases r with
  | error e' => simp [eq_comm]
  | ok a => simp

theorem run_tryCatch_throw_eq_ok {step : Step σ α} {e : Fault} {s t : σ} {a : α} :
    (tryCatch step fun _ => throw e) s = (.ok a, t) ↔ step s = (.ok a, t) := by
  simp only [tryCatch, tryCatchThe, MonadExceptOf.tryCatch]
  cases step s with
  | mk r s' => cases r <;> simp

theorem run_tryCatch_throw_of_error {step : Step σ α} {e e' : Fault} {s t : σ}
    (h : step s = (.error e', t)) : (tryCatch step fun _ => throw e) s = (.error e, t) := by
  simp only [tryCatch, tryCatchThe, MonadExceptOf.tryCatch, h]
  rfl

theorem run_focus_eq_ok {get : τ → σ} {put : τ → σ → τ} {step : Step σ α} {t t' : τ} {a : α} :
    step.focus get put t = (.ok a, t') ↔ ∃ s, step (get t) = (.ok a, s) ∧ t' = put t s := by
  unfold focus
  obtain ⟨r, s⟩ := step (get t)
  constructor
  · intro h
    cases h
    exact ⟨s, rfl, rfl⟩
  · rintro ⟨s', h, rfl⟩
    cases h
    rfl

theorem run_eq_of_isOk {step : Step σ Unit} {s : σ} (h : (step s).1.isOk = true) :
    step s = (.ok (), (step s).2) := by
  cases run : step s with
  | mk r t =>
    rw [run] at h
    cases r with
    | error e => cases h
    | ok u => rfl

end Step

/-! ## What a step gives -/

def Step.Gives (P : α → Prop) (step : Step σ α) : Prop :=
  ∀ s a t, step s = (.ok a, t) → P a

section
variable {P : β → Prop} {step : Step σ α} {next : α → Step σ β}

theorem gives_bind (h : ∀ a, (next a).Gives P) : (step >>= next).Gives P := by
  intro s b t run
  obtain ⟨a, s', -, rest⟩ := Step.run_bind_eq_ok.mp run
  exact h a s' b t rest

theorem gives_lift_bind {r : Except Fault α} (h : ∀ a, r = .ok a → (next a).Gives P) :
    (liftM r >>= next).Gives P := by
  intro s b t run
  obtain ⟨a, given, rest⟩ := Step.run_lift_bind_eq_ok.mp run
  exact h a given s b t rest

theorem gives_pure {b : β} (h : P b) : (pure b : Step σ β).Gives P := by
  intro s b' t run
  cases run
  exact h

theorem gives_throw (e : Fault) : (throw e : Step σ β).Gives P := nofun

end

/-! ## Where a step leads -/

/-- However it ends, the step leads to a state in this relation to the first. -/
def Step.Along (R : σ → σ → Prop) (step : Step σ α) : Prop := ∀ s, R s (step s).2

section
variable {R : σ → σ → Prop} {step : Step σ α} {next : α → Step σ β}

theorem along_bind (trans : ∀ {s t u}, R s t → R t u → R s u) (first : step.Along R)
    (rest : ∀ a, (next a).Along R) : (step >>= next).Along R := by
  intro s
  have led := first s
  rw [Step.run_bind]
  cases run : step s with
  | mk r t =>
    rw [run] at led
    cases r with
    | error e => exact led
    | ok a => exact trans led (rest a t)

theorem along_lift_bind {r : Except Fault α} (refl : ∀ s, R s s)
    (rest : ∀ a, r = .ok a → (next a).Along R) : (liftM r >>= next).Along R := by
  intro s
  rw [Step.run_bind, Step.run_lift]
  cases r with
  | error e => exact refl s
  | ok a => exact rest a rfl s

end

/-! ## What a step leaves as it is -/

def Step.Keeps {γ : Type} (part : σ → γ) (step : Step σ α) : Prop :=
  step.Along fun s t => part t = part s

section
variable {γ : Type} {part : σ → γ} {step : Step σ α} {next : α → Step σ β}

theorem Step.Keeps.bind (h : step.Keeps part) (h' : ∀ a, (next a).Keeps part) :
    (step >>= next).Keeps part :=
  along_bind (fun first rest => rest.trans first) h h'

theorem keeps_lift_bind {r : Except Fault α} (h : ∀ a, r = .ok a → (next a).Keeps part) :
    (liftM r >>= next).Keeps part :=
  along_lift_bind (fun _ => rfl) h

theorem keeps_get_bind {next : σ → Step σ β} (h : ∀ s, (next s).Keeps part) :
    (get >>= next).Keeps part :=
  fun s => h s s

theorem keeps_pure (a : α) : (pure a : Step σ α).Keeps part := fun _ => rfl

theorem keeps_throw (e : Fault) : (throw e : Step σ α).Keeps part := fun _ => rfl

theorem keeps_modify {f : σ → σ} (kept : ∀ s, part (f s) = part s) :
    (modify f : Step σ Unit).Keeps part := kept

theorem keeps_tryCatch {e : Fault} (h : step.Keeps part) :
    (tryCatch step fun _ => throw e).Keeps part := by
  intro s
  have kept := h s
  cases run : step s with
  | mk r t =>
    rw [run] at kept
    cases r with
    | error e' =>
      rw [Step.run_tryCatch_throw_of_error run]
      exact kept
    | ok a =>
      rw [Step.run_tryCatch_throw_eq_ok.mpr run]
      exact kept

end

/-! ## Steps on a machine -/

theorem Bench.run_onMachine {step : Step Machine α} {b : Bench} {r : Except Fault α} {m : Machine}
    (h : step b.machine = (r, m)) : onMachine step b = (r, { b with machine := m }) := by
  unfold onMachine Step.focus
  rw [h]

theorem Bench.run_onMachine_eq_ok {step : Step Machine α} {b b' : Bench} {a : α} :
    onMachine step b = (.ok a, b') ↔
      ∃ m, step b.machine = (.ok a, m) ∧ b' = { b with machine := m } :=
  Step.run_focus_eq_ok

@[simp] theorem run_emit (e : Event) (m : Machine) : emit e m = (.ok (), m.record e) := rfl

@[simp] theorem run_log (level : Level) (channel : Channel) (message : String) (m : Machine) :
    log level channel message m = (.ok (), m.record (.log level channel message)) := rfl

end CompileJob

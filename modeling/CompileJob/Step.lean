import CompileJob.Value.Printer

namespace CompileJob

inductive Fault where
  | missingField (key : Value)
  | unknownBackend (group name : Value)
  | brokenBackend (entry : String) (group : Value) (reason : String)
  | notStarted (command : Value) (reason : String)
  | failed (command : Value) (code : Value)
  | missingTool (capability : Value)
  | wrongType
  /-- A value does not offer what is asked of it. -/
  | unsupported
  | badValue
  | outOfRange
  | noSuchItem
  | immutable
  | limitRefused
  | noDirectory
  | alreadyExists
  | exit (code : Int)

namespace Fault

def message? : Fault → Option String
  | .missingField key => some key.quoted
  | .unknownBackend group name =>
      some (Value.quoteText ("Module implementing " ++ group.text ++ " " ++ name.text ++
        " not found."))
  | .brokenBackend entry group reason =>
      some ("ImportError while loading entry point " ++ Value.quoteText entry ++ " from group " ++
        group.quoted ++ ": " ++ reason)
  | .notStarted command reason =>
      some ("Failed to execute command: " ++ command.text ++ " (" ++ reason ++ ")")
  | .failed command code =>
      some ("Failed to execute command: " ++ command.text ++ ". Returned with code " ++
        code.text ++ "\n")
  | .missingTool capability => some (capability.text ++ " not found")
  | _ => none

end Fault

def orFault {α : Type} (fault : Fault) : Option α → Except Fault α
  | some a => .ok a
  | none => .error fault

def Step (σ α : Type) : Type := σ → Except Fault α × σ

namespace Step

variable {σ τ α β : Type}

instance : Monad (Step σ) where
  pure a := fun s => (.ok a, s)
  bind step next := fun s =>
    match step s with
    | (.ok a, s') => next a s'
    | (.error e, s') => (.error e, s')

instance : MonadStateOf σ (Step σ) where
  get := fun s => (.ok s, s)
  set s := fun _ => (.ok (), s)
  modifyGet f := fun s => let (a, s') := f s; (.ok a, s')

/-- A handler starts from the state that the fault left. -/
instance : MonadExceptOf Fault (Step σ) where
  throw e := fun s => (.error e, s)
  tryCatch step handler := fun s =>
    match step s with
    | (.ok a, s') => (.ok a, s')
    | (.error e, s') => handler e s'

instance : MonadLift (Except Fault) (Step σ) where
  monadLift r := fun s => (r, s)

def focus (get : τ → σ) (put : τ → σ → τ) (step : Step σ α) : Step τ α := fun t =>
  let (r, s) := step (get t)
  (r, put t s)

@[simp] theorem run_pure (a : α) (s : σ) : (pure a : Step σ α) s = (.ok a, s) := rfl

theorem run_bind (step : Step σ α) (next : α → Step σ β) (s : σ) :
    (step >>= next) s = match step s with
      | (.ok a, s') => next a s'
      | (.error e, s') => (.error e, s') := rfl

@[simp] theorem run_throw (e : Fault) (s : σ) : (throw e : Step σ α) s = (.error e, s) := rfl

@[simp] theorem run_get (s : σ) : (get : Step σ σ) s = (.ok s, s) := rfl

@[simp] theorem run_modify (f : σ → σ) (s : σ) : (modify f : Step σ Unit) s = (.ok (), f s) := rfl

private theorem map_id_run (step : Step σ α) : id <$> step = step := by
  funext s
  change (step >>= fun a => pure (id a)) s = step s
  rw [run_bind]
  rcases step s with ⟨_ | _, _⟩ <;> rfl

private theorem bind_assoc_run {γ : Type} (step : Step σ α) (f : α → Step σ β)
    (g : β → Step σ γ) : step >>= f >>= g = step >>= fun a => f a >>= g := by
  funext s
  simp only [run_bind]
  rcases step s with ⟨_ | _, _⟩ <;> rfl

instance : LawfulMonad (Step σ) :=
  LawfulMonad.mk' _ map_id_run (fun _ _ => rfl) bind_assoc_run

end Step

end CompileJob

import CompileJob.Proofs.Compiler.Plan

namespace CompileJob.Compiler

structure Turn where
  change : Machine → Machine
  environ : Value

/-- The runs end alike on the machine and in the description. A run that failed may have remembered
less than the other. -/
structure EndAlike (run other : Except Fault Unit × Bench) : Prop where
  result : run.1 = other.1
  machine : run.2.machine = other.2.machine
  environ : run.2.environ = other.2.environ
  memory : run.1 = .ok () → run.2.memory = other.2.memory

theorem compile_alike (c : Compiler) (environ : Value) (b other : Bench)
    (same : b.machine = other.machine) :
    EndAlike (c.compile environ b) (c.compile environ other) := by
  -- A plan is made from the machine and the description, and its memory replaces the one before.
  cases planned : c.plan b.machine environ with
  | error e =>
    obtain ⟨memory, failed⟩ := compile_of_no_plan planned
    obtain ⟨memory', failed'⟩ := compile_of_no_plan (same ▸ planned)
    rw [failed, failed']
    exact ⟨rfl, same, rfl, nofun⟩
  | ok p =>
    rw [compile_of_plan planned, compile_of_plan (same ▸ planned), same]
    exact ⟨rfl, rfl, rfl, fun _ => rfl⟩

def newBench (m : Machine) : Bench := ⟨m, .null, {}⟩

def serve (c : Compiler) (b : Bench) (turn : Turn) : Bench :=
  (c.compile turn.environ { b with machine := turn.change b.machine }).2

def benchAfter (c : Compiler) (history : List Turn) (m : Machine) : Bench :=
  history.foldl c.serve (newBench m)

/-- After any history, the next job on any machine ends as it does with a new compiler. -/
theorem compile_forgets (c : Compiler) (history : List Turn) (start next : Machine)
    (environ : Value) :
    EndAlike (c.compile environ { c.benchAfter history start with machine := next })
      (c.compile environ (newBench next)) :=
  compile_alike c environ _ (newBench next) rfl

def outcomes (c : Compiler) (again : Memory → Memory) :
    Bench → List Turn → List (Except Fault Unit × Machine × Value)
  | _, [] => []
  | b, turn :: rest =>
      let run := c.compile turn.environ
        { b with machine := turn.change b.machine, memory := again b.memory }
      (run.1, run.2.machine, run.2.environ) :: outcomes c again run.2 rest

theorem outcomes_of_new_compilers (c : Compiler) (history : List Turn) (b other : Bench)
    (same : b.machine = other.machine) :
    c.outcomes id b history = c.outcomes (fun _ => {}) other history := by
  induction history generalizing b other with
  | nil => rfl
  | cons turn rest ih =>
    have changed : turn.change b.machine = turn.change other.machine := by rw [same]
    have alike := compile_alike c turn.environ { b with machine := turn.change b.machine }
      { other with machine := turn.change other.machine, memory := {} } changed
    simp only [outcomes, id]
    rw [alike.result, alike.machine, alike.environ, ih _ _ alike.machine]

end CompileJob.Compiler

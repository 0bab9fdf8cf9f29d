import CompileJob.CommandLine
import CompileJob.Proofs.Job.Printing
import CompileJob.Proofs.Value.Texts

namespace CompileJob.CommandLine

open Bench Machine

inductive Asks (source : String) : List String → Value → Prop
  | alone : Asks source []
      (.object [("source_file", .str source), ("extra_compilation_args", texts [])])
  | kind {name lowered : String} {args : List String} (lowered_eq : Lowercase.lower name = lowered)
      (kind : lowered = "wat" ∨ lowered = "wasm" ∨ lowered = "c") : Asks source (name :: args)
      (.object [("source_file", .str source), ("extra_compilation_args", texts args),
        ("compiler", .str ("default-" ++ lowered))])
  | other {name lowered : String} {args : List String} (lowered_eq : Lowercase.lower name = lowered)
      (kind : ¬ (lowered = "wat" ∨ lowered = "wasm" ∨ lowered = "c")) : Asks source (name :: args)
      (.object [("source_file", .str source), ("extra_compilation_args", texts args),
        ("compiler", .str lowered)])

theorem asks_environOf (source : String) (rest : List String) :
    Asks source rest (environOf source rest) := by
  cases rest with
  | nil => exact .alone
  | cons name args =>
    by_cases kind : ["wat", "wasm", "c"].contains (Lowercase.lower name) = true
    · have compiler : compilerName name = "default-" ++ Lowercase.lower name := by
        rw [compilerName, if_pos kind]
      have asks : Asks source (name :: args) _ := .kind rfl (by simpa using kind)
      rwa [← compiler] at asks
    · have compiler : compilerName name = Lowercase.lower name := by
        rw [compilerName, if_neg kind]
      have asks : Asks source (name :: args) _ := .other rfl (by simpa using kind)
      rwa [← compiler] at asks

theorem native_texts (args : List String) : Json.Native (texts args) := by
  refine .list fun v member => ?_
  obtain ⟨arg, -, rfl⟩ := List.mem_map.mp member
  exact .str arg

theorem Asks.native {source : String} {rest : List String} {environ : Value}
    (h : Asks source rest environ) : Json.Native environ := by
  cases h with
  | alone => exact .object (by simp [Json.Native.str, native_texts])
  | kind | other => exact .object (by simp [Json.Native.str, native_texts])

def inCurrentDirectory (b : Bench) : Bench :=
  { b with machine := { b.machine with threadDir := .str b.machine.cwd } }

/-- How the command line ends on `b` after its job: as the job does where that fails, or else with one
line of text more, which tells the description. -/
inductive Completes (b : Bench) (job : Except Fault Unit × Bench) :
    Except Fault Unit × Bench → Prop
  | failed {e : Fault} {b' : Bench} (failed : job = (.error e, b'))
      (silent : b'.machine.printed = b.machine.printed) : Completes b job (.error e, b')
  | done {b' last : Bench} {text : String} (done : job = (.ok (), b'))
      (last_eq : last = { b' with machine := b'.machine.record (.print text) })
      (once : last.machine.printed = b.machine.printed ++ [text])
      (plain : ∀ c ∈ text.toList, 0x20 ≤ c.toNat ∧ c.toNat ≤ 0x7E)
      (tells : Json.read text = some b'.environ) : Completes b job (.ok (), last)

theorem main_eq (program source : String) (rest : List String) (b : Bench) :
    main (program :: source :: rest) b = (do
      Job.run none Executor.host (environOf source rest)
      onMachine (emit (.print (Json.write (← get).environ)))) (inCurrentDirectory b) := rfl

/-- The command line runs the job that its arguments ask for in the current directory. It prints
nothing but the description of a job that is done, and this is what a reader of JSON finds there. -/
theorem main_runs_job (program source : String) (rest : List String) (b : Bench) :
    ∃ environ, Asks source rest environ ∧
      Completes b (Job.run none Executor.host environ (inCurrentDirectory b))
        (main (program :: source :: rest) b) := by
  have asks := asks_environOf source rest
  refine ⟨_, asks, ?_⟩
  have runBy : ∀ registry, none = some registry → Registry.RunBy Executor.host registry := nofun
  obtain ⟨silent, native⟩ := Job.run_printable runBy asks.native (inCurrentDirectory b)
  rw [main_eq]
  cases run : Job.run none Executor.host (environOf source rest) (inCurrentDirectory b) with
  | mk r b' =>
    rw [run] at silent native
    cases r with
    | error e =>
      rw [Step.run_bind_of_error run]
      exact .failed rfl silent
    | ok u =>
      rw [Step.run_bind_of_ok run]
      refine .done rfl rfl ?_ ?_ (Json.read_write native)
      · have line : (b'.machine.record (.print (Json.write b'.environ))).printed =
            b'.machine.printed ++ [Json.write b'.environ] := by
          simp [printed, record, Event.line?]
        rw [line, silent]
        rfl
      · intro c member
        have graphic := Json.graphic_write native c member
        simp only [Value.isGraphicAscii, Bool.and_eq_true, decide_eq_true_eq] at graphic
        omega

end CompileJob.CommandLine

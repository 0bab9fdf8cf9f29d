import CompileJob.Compiler
import CompileJob.Proofs.Backend.Pipeline

/-!
A compile in three parts: the plan, which only reads; the run of the backend; the verdict.
-/
namespace CompileJob

structure Plan where
  request : Request
  filters : Filters
  tools : Registry
  input : String
  output : String
  exe : Value
  args : List Value

def Plan.memory (p : Plan) : Memory :=
  ⟨some p.request, some p.filters, some p.tools, some p.output⟩

def Plan.command (p : Plan) : Value := .list (p.exe :: p.args)

theorem Value.exists_object_of_item {v w : Value} {key : String} (h : v.item key = .ok w) :
    ∃ fields, v = .object fields := by
  cases v with
  | object fields => exact ⟨fields, rfl⟩
  | _ => cases h

namespace Compiler

open Bench

def plan (c : Compiler) (m : Machine) (environ : Value) : Except Fault Plan := do
  let request ← Request.ofEnviron m environ
  let filters ← Filters.ofEnviron environ
  let tools ← c.toolsFor m environ
  let input ← (← request.inputFilename m).string
  let output ← c.backend.outputFilename (.str (Path.dirname input)) request.outputFilebase
  let (flags, filters) := c.backend.optionsForFilter filters (.str output)
  let args ← arguments c.backend request flags input
  let exe := (← environ.field "compiler_path" .null).orElse c.backend.compiler
  return { request, filters, tools, input, output, exe, args }

def driverOf (c : Compiler) (environ : Value) (p : Plan) : Driver where
  defaultOptions := .object (defaultExecOptions environ p.memory)
  tools := some p.tools
  runCompiler := c.runCompiler (defaultExecOptions environ p.memory)

def runPlan (c : Compiler) (environ : Value) (p : Plan) : Step Machine Value :=
  c.backend.run (c.driverOf environ p) p.exe (.list p.args) (.str p.input) .null

/-- Where `x` fails, the step ends with its fault and has changed nothing but the memory. -/
def FailsWith {α β : Type} (x : Except Fault α) (step : Step Bench β) (b : Bench) : Prop :=
  ∀ e, x = .error e → ∃ memory, step b = (.error e, ⟨b.machine, b.environ, memory⟩)

section
variable {α β γ : Type} {x : Except Fault α} {b : Bench}

theorem failsWith_lift {next : α → Except Fault γ} {rest : α → Step Bench β}
    (h : ∀ a, FailsWith (next a) (rest a) b) :
    FailsWith (x >>= next) (liftM x >>= rest) b := by
  intro e fails
  cases x with
  | error e' =>
    cases fails
    exact ⟨b.memory, rfl⟩
  | ok a => exact h a e fails

theorem failsWith_remember {f : Memory → Memory} {rest : Unit → Step Bench β}
    (h : FailsWith x (rest ()) { b with memory := f b.memory }) :
    FailsWith x (remember f >>= rest) b := h

theorem failsWith_submit {environ : Value} {rest : Unit → Step Bench β}
    (h : FailsWith x (rest ()) { b with environ }) (e : Fault) (fails : x = .error e) :
    ∃ memory, ((modify fun b => { b with environ }) >>= rest) b =
      (.error e, ⟨b.machine, environ, memory⟩) :=
  h e fails

theorem failsWith_get {rest : Bench → Step Bench β} (h : FailsWith x (rest b) b) :
    FailsWith x (get >>= rest) b := h

theorem failsWith_ok {a : α} {step : Step Bench β} : FailsWith (.ok a : Except Fault α) step b :=
  nofun

end

theorem compile_of_no_plan {c : Compiler} {environ : Value} {b : Bench} {e : Fault}
    (h : c.plan b.machine environ = .error e) :
    ∃ memory, c.compile environ b = (.error e, ⟨b.machine, environ, memory⟩) := by
  unfold plan at h
  unfold compile
  refine failsWith_submit (failsWith_get ?_) e h
  refine failsWith_lift fun request => failsWith_remember ?_
  refine failsWith_lift fun filters => failsWith_remember ?_
  refine failsWith_lift fun tools => failsWith_remember ?_
  refine failsWith_lift fun name => failsWith_lift fun input => ?_
  refine failsWith_lift fun output => failsWith_remember (failsWith_remember ?_)
  refine failsWith_lift fun args => failsWith_lift fun exe => ?_
  exact failsWith_ok

structure Planned (c : Compiler) (m : Machine) (environ : Value) (asked : Filters) (given : Value)
    (p : Plan) : Prop where
  request : Request.ofEnviron m environ = .ok p.request
  filters : Filters.ofEnviron environ = .ok asked
  filters_eq : p.filters = (c.backend.optionsForFilter asked (.str p.output)).2
  tools : c.toolsFor m environ = .ok p.tools
  input : p.request.inputFilename m = .ok (.str p.input)
  output : c.backend.outputFilename (.str (Path.dirname p.input)) p.request.outputFilebase =
    .ok p.output
  args : arguments c.backend p.request (c.backend.optionsForFilter asked (.str p.output)).1
    p.input = .ok p.args
  path : environ.field "compiler_path" .null = .ok given
  exe_eq : p.exe = given.orElse c.backend.compiler

theorem plan_ok {c : Compiler} {m : Machine} {environ : Value} {p : Plan}
    (h : c.plan m environ = .ok p) : ∃ asked given, c.Planned m environ asked given p := by
  simp only [plan, Except.bind_eq_ok] at h
  obtain ⟨request, hr, asked, hf, tools, ht, name, hn, input, hi, output, ho, args, ha, given, hg,
    h⟩ := h
  cases h
  have input_eq : name = .str input := by
    cases name with
    | str s => rw [Except.ok.inj hi]
    | _ => cases hi
  exact ⟨asked, given, hr, hf, rfl, ht, input_eq ▸ hn, ho, ha, hg, rfl⟩

theorem plan_object {c : Compiler} {m : Machine} {environ : Value} {p : Plan}
    (h : c.plan m environ = .ok p) : ∃ fields, environ = .object fields := by
  obtain ⟨asked, given, planned⟩ := plan_ok h
  obtain ⟨source, item, -⟩ := Except.bind_eq_ok.mp planned.request
  exact Value.exists_object_of_item item

theorem compile_of_plan {c : Compiler} {environ : Value} {b : Bench} {p : Plan}
    (h : c.plan b.machine environ = .ok p) :
    c.compile environ b = (do
      let result ← onMachine (c.runPlan environ p)
      conclude result p.output) ⟨b.machine, environ, p.memory⟩ := by
  obtain ⟨asked, given, planned⟩ := plan_ok h
  have input : (Value.str p.input).string = .ok p.input := rfl
  unfold compile
  simp only [Step.run_bind, Step.run_modify, Step.run_lift, Step.run_get, remember, planned.request,
    planned.filters, planned.tools, planned.input, input, planned.output, planned.args,
    planned.path, ← planned.exe_eq, ← planned.filters_eq]
  rfl

inductive Course (c : Compiler) (environ : Value) (b : Bench) : Except Fault Unit × Bench → Prop
  | unplanned {e : Fault} {memory : Memory} (fails : c.plan b.machine environ = .error e) :
      Course c environ b (.error e, ⟨b.machine, environ, memory⟩)
  | broken {p : Plan} {e : Fault} {n : Machine} (planned : c.plan b.machine environ = .ok p)
      (ran : c.runPlan environ p b.machine = (.error e, n)) :
      Course c environ b (.error e, ⟨n, environ, p.memory⟩)
  | concluded {p : Plan} {result : Value} {n : Machine} {run : Except Fault Unit × Bench}
      (planned : c.plan b.machine environ = .ok p)
      (ran : c.runPlan environ p b.machine = (.ok result, n))
      (concluded : conclude result p.output ⟨n, environ, p.memory⟩ = run) : Course c environ b run

theorem compile_course (c : Compiler) (environ : Value) (b : Bench) :
    Course c environ b (c.compile environ b) := by
  cases planned : c.plan b.machine environ with
  | error e =>
    obtain ⟨memory, failed⟩ := compile_of_no_plan planned
    rw [failed]
    exact .unplanned planned
  | ok p =>
    rw [compile_of_plan planned]
    cases ran : c.runPlan environ p b.machine with
    | mk r n =>
      have onBench := run_onMachine (b := ⟨b.machine, environ, p.memory⟩) ran
      cases r with
      | error e =>
        rw [Step.run_bind_of_error onBench]
        exact .broken planned ran
      | ok result =>
        rw [Step.run_bind_of_ok onBench]
        exact .concluded planned ran rfl

theorem compile_ok {c : Compiler} {environ : Value} {b b' : Bench}
    (h : c.compile environ b = (.ok (), b')) :
    ∃ p result n, c.plan b.machine environ = .ok p ∧
      c.runPlan environ p b.machine = (.ok result, n) ∧
      conclude result p.output ⟨n, environ, p.memory⟩ = (.ok (), b') := by
  have course := c.compile_course environ b
  rw [h] at course
  cases course with
  | concluded planned ran concluded => exact ⟨_, _, _, planned, ran, concluded⟩

/-! ## The steps of a plan -/

def mainInput (c : Compiler) (p : Plan) : String :=
  match c.backend.toolchain with
  | .cc => p.input
  | .wasmer => Source.binaryName p.input

def mainStep (c : Compiler) (environ : Value) (p : Plan) : Step Machine Value := do
  log .debug .compiler ("compiling " ++ c.mainInput p ++ " with " ++ p.exe.text ++ " (" ++
    c.backend.key.text ++ ")")
  c.executor p.command (defaultExecOptions environ p.memory)

inductive Ready (c : Compiler) (environ : Value) (p : Plan) (m : Machine) : Machine → Prop
  | direct (source : c.backend.toolchain = .cc ∨ Source.isText p.input = false) :
      Ready c environ p m m
  | converted {tool : Tool} {result code : Value} {n : Machine}
      (toolchain : c.backend.toolchain = .wasmer)
      (converts : Backend.Converts (c.driverOf environ p) p.input tool)
      (answer : c.backend.conversion tool p.input m = (.ok result, n))
      (reports : result.item "return_code" = .ok code) (zero : code.truthy = false) :
      Ready c environ p m n

/-- The last step of a plan for `m`, with its result and the machine after it: a conversion that
failed, or else the main step. -/
inductive LastStep (c : Compiler) (environ : Value) (p : Plan) (m : Machine) :
    Value → Machine → Prop
  | conversion {tool : Tool} {result code : Value} {n : Machine}
      (toolchain : c.backend.toolchain = .wasmer)
      (converts : Backend.Converts (c.driverOf environ p) p.input tool)
      (answer : c.backend.conversion tool p.input m = (.ok result, n))
      (reports : result.item "return_code" = .ok code) (nonzero : code.truthy = true)
      (lenient : n.strictLog = true → ∃ line, tool.failureMessage code = .ok line) :
      LastStep c environ p m result (Backend.failureLogged tool code n)
  | main {started n : Machine} {result : Value} (ready : Ready c environ p m started)
      (answer : c.mainStep environ p started = (.ok result, n)) : LastStep c environ p m result n

theorem runCompiler_eq_mainStep {c : Compiler} {environ : Value} {p : Plan} {given : Value}
    {name : String} (input : c.mainInput p = name)
    (options : given = .null ∨ given = (c.driverOf environ p).optionsFor .null) :
    (c.driverOf environ p).runCompiler p.exe (.list p.args) (.str name) given =
      c.mainStep environ p := by
  subst input
  rcases options with rfl | rfl <;> rfl

/-- The rest of a job with a plan, where `main` is done for the main step whenever there is one. -/
def finish (c : Compiler) (environ : Value) (p : Plan) (main : Step Machine Value) :
    Step Bench Unit := do
  let driver := { c.driverOf environ p with runCompiler := fun _ _ _ _ => main }
  let result ← onMachine (c.backend.run driver p.exe (.list p.args) (.str p.input) .null)
  conclude result p.output

theorem runPlan_eq (c : Compiler) (environ : Value) (p : Plan) :
    c.runPlan environ p =
      c.backend.run { c.driverOf environ p with runCompiler := fun _ _ _ _ => c.mainStep environ p }
        p.exe (.list p.args) (.str p.input) .null := by
  -- The backend hands its driver the very arguments of the plan, so only the input's name and the
  -- options are left to compare.
  unfold runPlan Backend.run
  cases toolchain : c.backend.toolchain with
  | cc => exact runCompiler_eq_mainStep (by rw [mainInput, toolchain]) (Or.inl rfl)
  | wasmer =>
    have main : (c.driverOf environ p).runCompiler p.exe (.list p.args)
        (.str (Source.binaryName p.input)) ((c.driverOf environ p).optionsFor .null) =
        c.mainStep environ p :=
      runCompiler_eq_mainStep (by rw [mainInput, toolchain]) (Or.inr rfl)
    rw [Driver.optionsFor] at main
    dsimp only [Backend.runWasmer, Source.nameOf]
    funext m
    simp only [Step.run_bind, Step.run_lift, main]
    rfl

theorem runPlan_ok {c : Compiler} {environ : Value} {p : Plan} {m n : Machine} {result : Value}
    (h : c.runPlan environ p m = (.ok result, n)) : LastStep c environ p m result n := by
  obtain ⟨calls, r, protocol⟩ := Backend.exists_protocol c.backend (c.driverOf environ p) p.exe
    (.list p.args) p.input .null m
  have run : r = (.ok result, n) := protocol.run_eq.symm.trans h
  cases protocol with
  | plain toolchain =>
    rw [runCompiler_eq_mainStep (by rw [mainInput, toolchain]) (Or.inl rfl)] at run
    exact .main (.direct (Or.inl toolchain)) run
  | binary toolchain binary =>
    have name : c.mainInput p = p.input := by
      rw [mainInput, toolchain]
      exact Source.binaryName_of_not_isText binary
    rw [runCompiler_eq_mainStep name (Or.inr rfl)] at run
    exact .main (.direct (Or.inr binary)) run
  | failed toolchain converts answer reports nonzero lenient =>
    cases run
    exact .conversion toolchain converts answer reports nonzero lenient
  | converted toolchain converts answer reports zero =>
    rw [runCompiler_eq_mainStep (by rw [mainInput, toolchain]) (Or.inr rfl)] at run
    exact .main (.converted toolchain converts answer reports zero) run
  | unequipped | missing | broken | codeless | unlogged => cases run

end Compiler

end CompileJob

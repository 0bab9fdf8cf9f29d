import CompileJob.Job
import CompileJob.Proofs.Compiler.Artifact
import CompileJob.Proofs.Executor.Launches

namespace CompileJob

open Machine Executor Bench

/-! ## Launches of a step on a bench -/

def Bench.Launches {α : Type} (site : Site) (P : Launch → Prop) (step : Step Bench α) : Prop :=
  step.Along fun b b' => b.machine.site = site → b.machine.Since P b'.machine

section
variable {α β : Type} {site : Site} {P : Launch → Prop} {step : Step Bench α}
  {next : α → Step Bench β}

theorem Bench.since_trans {b b' b'' : Bench}
    (first : b.machine.site = site → b.machine.Since P b'.machine)
    (rest : b'.machine.site = site → b'.machine.Since P b''.machine)
    (at_site : b.machine.site = site) : b.machine.Since P b''.machine := by
  have led := first at_site
  exact led.trans (rest (led.site.trans at_site))

theorem Bench.Launches.bind (h : Bench.Launches site P step)
    (h' : ∀ a, Bench.Launches site P (next a)) : Bench.Launches site P (step >>= next) :=
  along_bind Bench.since_trans h h'

theorem Bench.launches_lift_bind {r : Except Fault α}
    (h : ∀ a, r = .ok a → Bench.Launches site P (next a)) :
    Bench.Launches site P (liftM r >>= next) := by
  refine along_lift_bind ?_ h
  exact fun b _ => .refl P b.machine

theorem Bench.launches_get_bind {next : Bench → Step Bench β}
    (h : ∀ b, Bench.Launches site P (next b)) : Bench.Launches site P (get >>= next) :=
  fun b => h b b

theorem Bench.launches_keep {f : Bench → Bench} (kept : ∀ b, (f b).machine = b.machine) :
    Bench.Launches site P (modify f : Step Bench Unit) := by
  intro b _
  change b.machine.Since P (f b).machine
  rw [kept b]
  exact .refl P b.machine

theorem Bench.launches_keep_bind {f : Bench → Bench} {next : Unit → Step Bench β}
    (kept : ∀ b, (f b).machine = b.machine) (h : Bench.Launches site P (next ())) :
    Bench.Launches site P (modify f >>= next) :=
  (Bench.launches_keep kept).bind fun _ => h

theorem Bench.launches_onMachine {step : Step Machine α} (h : step.Launches site P) :
    Bench.Launches site P (onMachine step) := by
  intro b at_site
  have led := h b.machine at_site
  rw [run_onMachine (r := (step b.machine).1) (m := (step b.machine).2) rfl]
  exact led

end

namespace Compiler

variable {c : Compiler} {environ : Value} {p : Plan} {m n : Machine} {site : Site}
  {P : Launch → Prop} {tool : Tool}

theorem launches_conclude (result : Value) (output : String) :
    Bench.Launches site P (conclude result output) := by
  refine along_conclude (R := fun b b' => b.machine.site = site → b.machine.Since P b'.machine)
    (fun b _ => .refl P b.machine) Bench.since_trans ?_ ?_ output
  · exact fun _ => Bench.launches_onMachine (launches_log _ _ _)
  · exact fun _ _ _ _ _ => Bench.launches_keep fun _ => rfl

/-! ## The processes of a job -/

inductive JobLaunch (c : Compiler) (environ : Value) (m : Machine) (l : Launch) : Prop
  | conversion {p : Plan} {tool : Tool} (planned : c.plan m environ = .ok p)
      (converts : Backend.Converts (c.driverOf environ p) p.input tool)
      (launch : HostLaunch m.site (Backend.conversionCommand tool p.input) Tool.runOptions l)
  | main {p : Plan} (planned : c.plan m environ = .ok p)
      (launch : HostLaunch m.site p.command (defaultExecOptions environ p.memory) l)

theorem OnHost.launches_mainStep (onHost : c.OnHost) (environ : Value) (p : Plan) (site : Site) :
    (c.mainStep environ p).Launches site
      (HostLaunch site p.command (defaultExecOptions environ p.memory)) := by
  unfold mainStep
  rw [onHost.executor]
  exact (launches_log _ _ _).bind fun _ => launches_host site _ _

structure Converting (c : Compiler) (m : Machine) (environ : Value) (p : Plan) (tool : Tool) :
    Prop where
  planned : c.plan m environ = .ok p
  toolchain : c.backend.toolchain = .wasmer
  converts : Backend.Converts (c.driverOf environ p) p.input tool

theorem OnHost.since_conversion (onHost : c.OnHost) (converting : c.Converting m environ p tool) :
    m.Since (HostLaunch m.site (Backend.conversionCommand tool p.input) Tool.runOptions)
      (c.backend.conversion tool p.input m).2 := by
  rw [onHost.conversion_eq converting.planned converting.converts]
  have announced : m.Since (HostLaunch m.site (Backend.conversionCommand tool p.input)
      Tool.runOptions) (c.backend.announced tool p.input m) :=
    ⟨rfl, [_, _], List.append_assoc _ [_] [_], by simp⟩
  exact announced.trans (launches_host m.site _ _ _ rfl)

theorem since_convert (b : Backend) (tool : Tool) (input : String) (m : Machine) :
    (b.conversion tool input m).2.Since P (b.convert tool input m).2 := by
  rw [Backend.run_convert]
  cases b.conversion tool input m with
  | mk r n =>
    cases r with
    | error e => exact .refl P n
    | ok result =>
      dsimp only
      cases result.item "return_code" with
      | error e => exact .refl P n
      | ok code =>
        dsimp only
        split
        · have quiet : n.Since P (logFormatted .debug .tool (tool.failureMessage code) n).2 :=
            launches_logFormatted _ _ _ n rfl
          rcases logged : logFormatted .debug .tool (tool.failureMessage code) n with ⟨_ | _, n'⟩
          all_goals
            rw [logged] at quiet
            exact quiet
        · exact .refl P n

theorem OnHost.since_converted (onHost : c.OnHost) (converting : c.Converting m environ p tool) :
    (c.backend.conversion tool p.input m).2.Since
      (HostLaunch m.site p.command (defaultExecOptions environ p.memory))
      (c.runPlan environ p m).2 := by
  have at_site := (onHost.since_conversion converting).site
  have converts : Backend.Converts
      { c.driverOf environ p with runCompiler := fun _ _ _ _ => c.mainStep environ p }
      p.input tool :=
    ⟨converting.converts.text, converting.converts.found⟩
  have quiet := since_convert (P := HostLaunch m.site p.command
    (defaultExecOptions environ p.memory)) c.backend tool p.input m
  rw [runPlan_eq, Backend.run_of_converts converting.toolchain converts]
  cases answer : c.backend.convert tool p.input m with
  | mk r n =>
    rw [answer] at quiet
    cases r with
    | error e => exact quiet
    | ok result =>
      dsimp only
      cases result.item "return_code" with
      | error e => exact quiet
      | ok code =>
        dsimp only
        split
        · exact quiet
        · exact quiet.trans (onHost.launches_mainStep environ p m.site n
            (quiet.site.trans at_site))

theorem OnHost.since_job (onHost : c.OnHost) (planned : c.plan m environ = .ok p) :
    m.Since (c.JobLaunch environ m) (c.runPlan environ p m).2 := by
  have main : m.Since (c.JobLaunch environ m) (c.mainStep environ p m).2 :=
    (onHost.launches_mainStep environ p m.site m rfl).mono fun l launch => .main planned launch
  rw [runPlan_eq]
  obtain ⟨calls, r, protocol⟩ := Backend.exists_protocol c.backend
    { c.driverOf environ p with runCompiler := fun _ _ _ _ => c.mainStep environ p } p.exe
    (.list p.args) p.input .null m
  have run := protocol.run_eq
  cases protocol with
  | plain | binary =>
    rw [run]
    exact main
  | unequipped | missing =>
    rw [run]
    exact .refl _ m
  | broken toolchain converts | codeless toolchain converts | failed toolchain converts
  | unlogged toolchain converts | converted toolchain converts =>
    have converting : c.Converting m environ p _ :=
      ⟨planned, toolchain, ⟨converts.text, converts.found⟩⟩
    have first := (onHost.since_conversion converting).mono fun l launch =>
      JobLaunch.conversion planned converting.converts launch
    have rest := (onHost.since_converted converting).mono fun l launch =>
      JobLaunch.main planned launch
    rw [runPlan_eq] at rest
    exact first.trans rest

theorem since_runPlan {b : Bench} (planned : c.plan b.machine environ = .ok p) :
    (c.runPlan environ p b.machine).2.Since P (c.compile environ b).2.machine := by
  rw [compile_of_plan planned]
  cases ran : c.runPlan environ p b.machine with
  | mk r n =>
    have onBench := run_onMachine (b := ⟨b.machine, environ, p.memory⟩) ran
    cases r with
    | error e =>
      rw [Step.run_bind_of_error onBench]
      exact .refl P n
    | ok result =>
      rw [Step.run_bind_of_ok onBench]
      exact launches_conclude result p.output ⟨n, environ, p.memory⟩ rfl

theorem OnHost.since_start (onHost : c.OnHost) (environ : Value) (b : Bench) :
    b.machine.Since (c.JobLaunch environ b.machine) (c.compile environ b).2.machine := by
  cases planned : c.plan b.machine environ with
  | error e =>
    obtain ⟨memory, unplanned⟩ := compile_of_no_plan planned
    rw [unplanned]
    exact .refl _ b.machine
  | ok p => exact (onHost.since_job planned).trans (since_runPlan planned)

theorem JobLaunch.env_eq {l : Launch} (h : c.JobLaunch environ m l) : l.env = processEnv m.env := by
  cases h with
  | conversion _ _ launch => exact launch.env_eq
  | main _ launch => exact launch.env_eq

end Compiler

theorem Job.launches_run {tools : Option Registry}
    (runBy : ∀ registry, tools = some registry → registry.RunBy host) (environ : Value)
    (site : Site) :
    Bench.Launches site (fun l => l.env = processEnv site.env) (Job.run tools host environ) := by
  unfold Job.run
  refine Bench.launches_keep_bind ?_ (Bench.launches_lift_bind fun named _ => ?_)
  · exact fun _ => rfl
  refine Bench.launches_keep_bind ?_ ?_
  · exact fun _ => rfl
  refine Bench.launches_lift_bind fun compiler _ => Bench.launches_lift_bind fun task _ => ?_
  refine (Bench.launches_onMachine (launches_log _ _ _)).bind fun _ => ?_
  refine Bench.launches_lift_bind fun key _ => Bench.launches_get_bind fun b => ?_
  refine Bench.launches_lift_bind fun backend _ => ?_
  have onHost : Compiler.OnHost ⟨backend, tools, host⟩ := ⟨rfl, runBy⟩
  intro b at_site
  refine (onHost.since_start named b).mono fun l launch => ?_
  rw [launch.env_eq, ← at_site]
  rfl

end CompileJob

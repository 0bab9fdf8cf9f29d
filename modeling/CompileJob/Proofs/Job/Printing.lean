import CompileJob.Proofs.Compiler.Rollback
import CompileJob.Proofs.Executor.Enforcement
import CompileJob.Proofs.Json.Roundtrip

namespace CompileJob

open Machine Executor Bench

def Event.line? : Event → Option String
  | .print line => some line
  | _ => none

def Machine.printed (m : Machine) : List String := m.trace.filterMap Event.line?

/-! ## Steps that print nothing -/

section
variable {α : Type} {step : Step Machine α}

theorem printed_of_trace {m n : Machine} {events : List Event}
    (trace : n.trace = m.trace ++ events) (silent : ∀ e ∈ events, e.line? = none) :
    n.printed = m.printed := by
  rw [printed, trace, List.filterMap_append, List.filterMap_eq_nil_iff.mpr silent,
    List.append_nil, printed]

theorem printed_record {e : Event} (silent : e.line? = none) (m : Machine) :
    (m.record e).printed = m.printed :=
  printed_of_trace rfl (List.forall_mem_singleton.mpr silent)

theorem printed_failureLogged (tool : Tool) (code : Value) (m : Machine) :
    (Backend.failureLogged tool code m).printed = m.printed :=
  printed_of_trace rfl (forall_mem_lineEvents (fun _ => rfl) (tool.failureMessage code))

theorem keeps_emit {e : Event} (silent : e.line? = none) : (emit e).Keeps printed :=
  printed_record silent

theorem keeps_log (level : Level) (channel : Channel) (message : String) :
    (log level channel message).Keeps printed := keeps_emit rfl

theorem Step.Emits.keeps (h : step.Emits (·.line? = none)) : step.Keeps printed := by
  intro m
  obtain ⟨events, trace, silent⟩ := h m
  exact printed_of_trace trace silent

theorem keeps_launch {limits : Step Machine Unit} (l : Launch) (h : limits.Keeps printed) :
    (launch l limits).Keeps printed := by
  unfold launch
  split
  · exact keeps_throw _
  · refine (keeps_emit rfl).bind fun _ => keeps_get_bind fun m => ?_
    refine keeps_lift_bind fun rule _ => ?_
    split
    · exact keeps_pure _
    · refine (keeps_tryCatch h).bind fun _ => keeps_get_bind fun m => ?_
      dsimp only
      refine (keeps_modify ?_).bind fun _ => keeps_pure _
      exact fun _ => rfl

namespace Executor

theorem keeps_applyLimits (limits : Limits) : (applyLimits limits).Keeps printed := by
  have limitWhere (wanted : Bool) (resource : Resource) (limit : Except Fault Int) :
      (limitWhere wanted resource limit).Keeps printed := by
    unfold Executor.limitWhere
    split
    · refine keeps_lift_bind fun amount _ => ?_
      unfold setLimit
      split
      · exact keeps_emit rfl
      · exact keeps_throw _
    · exact keeps_pure _
  rw [applyLimits_eq]
  exact (keeps_emit rfl).bind fun _ => (limitWhere _ _ _).bind fun _ => limitWhere _ _ _

theorem keeps_supervise (o : ExecOptions) (limits : Limits) (start : Value) (p : Process) :
    (supervise o limits start p).Keeps printed := by
  rw [supervise_eq]
  refine keeps_lift_bind fun timeout _ => ?_
  have waited : (waitOrKill p timeout).Opens (.wait timeout) (·.line? = none) :=
    opens_waitOrKill (P := (·.line? = none)) (fun _ => rfl) rfl p timeout
  have reported (ended : Ending × Bool) :
      (report o limits start p ended.1 ended.2).Emits (·.line? = none) :=
    emits_report (P := (·.line? = none)) (fun _ => rfl) o limits start p ended.1 ended.2
  exact (waited.emits rfl).keeps.bind fun ended => (reported ended).keeps

theorem keeps_host (command : Value) (options : Fields) :
    (host command options).Keeps printed := by
  unfold host
  refine keeps_lift_bind fun o _ => keeps_lift_bind fun limits _ => ?_
  refine keeps_lift_bind fun words _ => (keeps_log _ _ _).bind fun _ => keeps_get_bind fun m => ?_
  refine (keeps_launch _ (keeps_applyLimits limits)).bind fun started => ?_
  split
  · exact keeps_supervise _ _ _ _
  · split
    · exact keeps_pure _
    · exact keeps_throw _

end Executor

end

namespace Compiler

variable {c : Compiler} {environ : Value} {p : Plan} {m n : Machine} {result : Value}

/-! ## One job -/

theorem OnHost.keeps_mainStep (onHost : c.OnHost) (environ : Value) (p : Plan) :
    (c.mainStep environ p).Keeps printed := by
  unfold mainStep
  rw [onHost.executor]
  exact (keeps_log _ _ _).bind fun _ => keeps_host _ _

theorem OnHost.conversion_printed {tool : Tool} {r : Except Fault Value}
    (onHost : c.OnHost) (planned : c.plan m environ = .ok p)
    (converts : Backend.Converts (c.driverOf environ p) p.input tool)
    (answer : c.backend.conversion tool p.input m = (r, n)) : n.printed = m.printed := by
  have announced : (c.backend.announced tool p.input m).printed = m.printed :=
    (printed_record rfl _).trans (printed_record rfl m)
  have kept := keeps_host (Backend.conversionCommand tool p.input) Tool.runOptions
    (c.backend.announced tool p.input m)
  rw [← onHost.conversion_eq planned converts, answer] at kept
  exact kept.trans announced

theorem OnHost.runPlan_printed (onHost : c.OnHost) (planned : c.plan m environ = .ok p) :
    (c.runPlan environ p m).2.printed = m.printed := by
  have main := onHost.keeps_mainStep environ p
  rw [runPlan_eq]
  obtain ⟨calls, r, protocol⟩ := Backend.exists_protocol c.backend
    { c.driverOf environ p with runCompiler := fun _ _ _ _ => c.mainStep environ p } p.exe
    (.list p.args) p.input .null m
  rw [protocol.run_eq]
  cases protocol with
  | plain | binary => exact main m
  | unequipped | missing => rfl
  | broken toolchain converts answer | codeless toolchain converts answer
  | unlogged toolchain converts answer =>
    exact onHost.conversion_printed planned ⟨converts.text, converts.found⟩ answer
  | failed toolchain converts answer =>
    have converted := onHost.conversion_printed planned ⟨converts.text, converts.found⟩ answer
    exact (printed_failureLogged _ _ _).trans converted
  | converted toolchain converts answer =>
    have converted := onHost.conversion_printed planned ⟨converts.text, converts.found⟩ answer
    exact (main _).trans converted

/-! ## The description -/

theorem native_withField {v w : Value} (key : String) (h : Json.Native v) (content : Json.Native w) :
    Json.Native (v.withField key w) := by
  cases h with
  | object each =>
    refine .object fun field member => ?_
    rcases Table.mem_put member with before | rfl
    · exact each field before
    · exact content
  | list each => exact .list each
  | _ => constructor

structure Printable (b b' : Bench) : Prop where
  printed : b'.machine.printed = b.machine.printed
  native : Json.Native b.environ → Json.Native b'.environ

theorem Printable.refl (b : Bench) : Printable b b := ⟨rfl, id⟩

theorem Printable.trans {b b' b'' : Bench} (first : Printable b b') (rest : Printable b' b'') :
    Printable b b'' :=
  ⟨rest.printed.trans first.printed, fun native => rest.native (first.native native)⟩

theorem Printable.of_along {α : Type} {step : Step Bench α} {b : Bench}
    (h : step.Along Printable) (native : Json.Native b.environ) :
    (step b).2.machine.printed = b.machine.printed ∧ Json.Native (step b).2.environ :=
  ⟨(h b).printed, (h b).native native⟩

theorem printable_onMachine {α : Type} {step : Step Machine α} (h : step.Keeps printed) :
    (onMachine step).Along Printable := by
  intro b
  have kept := h b.machine
  cases run : step b.machine with
  | mk r m =>
    rw [run] at kept
    rw [run_onMachine run]
    exact ⟨kept, id⟩

theorem Written.native {content stdout : Value} {key : String} {spoken : List UInt8}
    (h : Written stdout key content) (stdout_eq : stdout = .bytes spoken) :
    Json.Native content := by
  subst stdout_eq
  cases h with
  | message | large | code | file => exact .str _
  | longer longer =>
    cases longer
    exact .str _
  | info => exact .object (List.forall_mem_singleton.mpr (.str _))

theorem printable_conclude (conclusive : Conclusive result) (output : String) :
    (conclude result output).Along Printable := by
  obtain ⟨content, spoken⟩ := conclusive.output
  refine along_conclude .refl .trans (fun _ => printable_onMachine (keeps_log _ _ _)) ?_ output
  intro stdout key content given written b
  have native := written.native (Except.ok.inj (given.symm.trans spoken))
  exact ⟨rfl, fun before => native_withField key before native⟩

theorem OnHost.compile_printable (onHost : c.OnHost) (environ : Value) (b : Bench) :
    Printable { b with environ } (c.compile environ b).2 := by
  have kept {p : Plan} {r : Except Fault Value} {n : Machine}
      (planned : c.plan b.machine environ = .ok p)
      (ran : c.runPlan environ p b.machine = (r, n)) : n.printed = b.machine.printed := by
    have same := onHost.runPlan_printed planned
    rwa [ran] at same
  have course := c.compile_course environ b
  generalize c.compile environ b = run at course ⊢
  cases course with
  | unplanned => exact ⟨rfl, id⟩
  | broken planned ran => exact ⟨kept planned ran, id⟩
  | @concluded p result n _ planned ran concluded =>
    have conclusive := onHost.conclusive planned (runPlan_ok ran)
    have led := printable_conclude conclusive p.output ⟨n, environ, p.memory⟩
    rw [concluded] at led
    exact ⟨led.printed.trans (kept planned ran), led.native⟩

end Compiler

namespace Job

open Compiler

theorem Named.native {environ named : Value} (h : Named environ named)
    (native : Json.Native environ) : Json.Native named := by
  cases h with
  | own => exact native
  | default => exact native_withField _ native (.str _)

theorem run_printable {tools : Option Registry} {environ : Value}
    (runBy : ∀ registry, tools = some registry → registry.RunBy host)
    (native : Json.Native environ) (b : Bench) :
    (run tools host environ b).2.machine.printed = b.machine.printed ∧
      Json.Native (run tools host environ b).2.environ := by
  have rest {named : Value} (native : Json.Native named) (backend : Backend) :
      (Compiler.compile ⟨backend, tools, host⟩ named).Along Printable := by
    intro b
    have onHost : OnHost ⟨backend, tools, host⟩ := ⟨rfl, runBy⟩
    have compiled := onHost.compile_printable named b
    exact ⟨compiled.printed, fun _ => compiled.native native⟩
  unfold run
  rw [Step.run_bind_of_ok (Step.run_modify _ _)]
  refine Printable.of_along ?_ native
  refine along_lift_bind .refl fun named given => ?_
  have named_native := (withCompiler_ok given).native native
  refine along_bind .trans (fun _ => ⟨rfl, fun _ => named_native⟩) fun _ => ?_
  refine along_lift_bind .refl fun compiler _ => along_lift_bind .refl fun task _ => ?_
  refine along_bind .trans (printable_onMachine (keeps_log _ _ _)) fun _ => ?_
  refine along_lift_bind .refl fun key _ => along_bind .trans .refl fun _ => ?_
  exact along_lift_bind .refl fun backend _ => rest named_native backend

end Job

end CompileJob

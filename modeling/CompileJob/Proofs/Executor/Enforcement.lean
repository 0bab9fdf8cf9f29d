import CompileJob.Description
import CompileJob.Proofs.Executor.Reaping
import CompileJob.Proofs.Tool.Trail

namespace CompileJob

open Machine

/-! ## Limits from a description -/

namespace ExecOptions

variable {o : ExecOptions} {scope name : String} {given environ : Value}

def limitNames : List String := ["mem_limit", "time_limit", "real_time_limit", "output_limit"]

theorem inForce_eq (scope_eq : o.scope = .str scope) (name : String) (given : Value) :
    o.inForce name given = (o.environ.optional (scope ++ name)).getD given := by
  unfold inForce
  rw [scope_eq]
  cases o.environ with
  | object fields => rfl
  | _ => rfl

theorem override_of_described (described : o.Described) (scope_eq : o.scope = .str scope)
    (name : String) (given : Value) :
    o.override name given = .ok ((o.environ.optional (scope ++ name)).getD given) := by
  rw [override_eq described, inForce_eq scope_eq]

theorem limits_congr (described : o.Described) (described' : { o with environ }.Described)
    (scope_eq : o.scope = .str scope)
    (same : ∀ name ∈ limitNames, environ.optional (scope ++ name) =
      o.environ.optional (scope ++ name)) :
    { o with environ }.limits = o.limits := by
  have override (name : String) (given : Value) (listed : name ∈ limitNames) :
      { o with environ }.override name given = o.override name given := by
    rw [override_of_described described' scope_eq, override_of_described described scope_eq]
    exact congrArg (fun found => Except.ok (Option.getD found given)) (same name listed)
  unfold limits
  rw [override _ _ (by decide), override _ _ (by decide), override _ _ (by decide),
    override _ _ (by decide)]

end ExecOptions

theorem Executor.host_congr {o : ExecOptions} {environ : Value} {scope : String}
    {options options' : Fields} (described : o.Described)
    (described' : { o with environ }.Described) (scope_eq : o.scope = .str scope)
    (call : ExecOptions.ofFields options = .ok o)
    (call' : ExecOptions.ofFields options' = .ok { o with environ })
    (same : ∀ name ∈ ExecOptions.limitNames, environ.optional (scope ++ name) =
      o.environ.optional (scope ++ name)) (command : Value) :
    host command options' = host command options := by
  funext m
  unfold host
  rw [Step.run_lift_bind_of_ok call, Step.run_lift_bind_of_ok call',
    ExecOptions.limits_congr described described' scope_eq same]
  rfl

/-! ## Events of a step -/

/-- However it ends, the step adds only events of this kind. -/
def Step.Emits {α : Type} (P : Event → Prop) (step : Step Machine α) : Prop :=
  step.Along fun m n => ∃ events, n.trace = m.trace ++ events ∧ ∀ e ∈ events, P e

def Step.Opens {α : Type} (first : Event) (P : Event → Prop) (step : Step Machine α) : Prop :=
  step.Along fun m n => ∃ rest, n.trace = m.trace ++ first :: rest ∧ ∀ e ∈ rest, P e

section
variable {α β : Type} {P : Event → Prop} {first : Event} {step : Step Machine α}
  {next : α → Step Machine β}

theorem Step.Emits.bind (h : step.Emits P) (h' : ∀ a, (next a).Emits P) :
    (step >>= next).Emits P := by
  refine along_bind ?_ h h'
  rintro m n o ⟨events, trace, kind⟩ ⟨events', trace', kind'⟩
  refine ⟨events ++ events', by rw [trace', trace, List.append_assoc], ?_⟩
  intro e member
  exact (List.mem_append.mp member).elim (kind e) (kind' e)

theorem emits_lift_bind {r : Except Fault α} (h : ∀ a, r = .ok a → (next a).Emits P) :
    (liftM r >>= next).Emits P := by
  refine along_lift_bind ?_ h
  exact fun m => ⟨[], (List.append_nil _).symm, nofun⟩

theorem emits_pure (a : α) : (pure a : Step Machine α).Emits P :=
  fun _ => ⟨[], (List.append_nil _).symm, nofun⟩

theorem emits_throw (e : Fault) : (throw e : Step Machine α).Emits P :=
  fun _ => ⟨[], (List.append_nil _).symm, nofun⟩

theorem emits_emit (allowed : P first) : (emit first).Emits P :=
  fun _ => ⟨[first], rfl, fun _ member => List.mem_singleton.mp member ▸ allowed⟩

theorem emits_of_adds
    (adds : ∀ m : Machine, ∃ events, m.Adds events (step m) ∧ ∀ e ∈ events, P e) :
    step.Emits P := by
  intro m
  obtain ⟨events, added, kind⟩ := adds m
  unfold Machine.Adds at added
  split at added
  · exact ⟨events, added, kind⟩
  · obtain ⟨part, initial, trace⟩ := added
    exact ⟨part, trace, fun e member => kind e (initial.subset member)⟩

theorem opens_emit_bind {next : Unit → Step Machine β} (h : (next ()).Emits P) :
    (emit first >>= next).Opens first P := by
  intro m
  obtain ⟨rest, trace, kind⟩ := h (m.record first)
  refine ⟨rest, ?_, kind⟩
  rw [Step.run_bind_of_ok (run_emit _ _), trace]
  exact List.append_assoc m.trace [first] rest

theorem Step.Opens.emits (h : step.Opens first P) (allowed : P first) : step.Emits P := by
  intro m
  obtain ⟨rest, trace, kind⟩ := h m
  exact ⟨first :: rest, trace, List.forall_mem_cons.mpr ⟨allowed, kind⟩⟩

theorem Step.Opens.bind (h : step.Opens first P) (h' : ∀ a, (next a).Emits P) :
    (step >>= next).Opens first P := by
  intro m
  have opened := h m
  rw [Step.run_bind]
  cases run : step m with
  | mk r n =>
    rw [run] at opened
    cases r with
    | error e => exact opened
    | ok a =>
      obtain ⟨rest, trace, kind⟩ := opened
      obtain ⟨events, trace', kind'⟩ := h' a n
      refine ⟨rest ++ events, ?_, ?_⟩
      · rw [trace', trace, List.append_assoc, List.cons_append]
      · intro e member
        exact (List.mem_append.mp member).elim (kind e) (kind' e)

end

/-! ## A process to its end -/

namespace Executor

variable {o : ExecOptions} {limits : Limits} {p : Process} {timeout : Option Binary64}

theorem opens_wait {P : Event → Prop} (p : Process) (timeout : Option Binary64) :
    (p.wait timeout).Opens (.wait timeout) P := by
  have advance (time : Value) : (Process.advance time).Emits P :=
    emits_of_adds fun m => ⟨[], Process.advance_adds time m, List.forall_mem_nil P⟩
  unfold Process.wait
  refine opens_emit_bind ?_
  split
  · exact emits_pure _
  · refine emits_lift_bind fun expires _ => ?_
    split
    · exact (advance _).bind fun _ => emits_pure _
    · have left : p.leaveOutput.Emits P :=
        emits_of_adds fun m => ⟨[], Process.leaveOutput_adds p m, List.forall_mem_nil P⟩
      exact (advance _).bind fun _ => left.bind fun _ => emits_pure _

theorem opens_waitOrKill {P : Event → Prop} (kills : ∀ pid, P (.kill pid))
    (waits : P (.wait none)) (p : Process) (timeout : Option Binary64) :
    (waitOrKill p timeout).Opens (.wait timeout) P := by
  unfold waitOrKill
  refine (opens_wait p timeout).bind fun ending => ?_
  split
  · exact emits_pure _
  · have killed : p.kill.Emits P := (emits_emit (kills _)).bind fun _ => emits_pure _
    have waited (dead : Process) : (dead.wait none).Emits P := (opens_wait dead none).emits waits
    refine killed.bind fun dead => (waited dead).bind fun ending => ?_
    split <;> exact emits_pure _

theorem emits_report {P : Event → Prop} (logs : ∀ message, P (.log .debug .executor message))
    (o : ExecOptions) (limits : Limits) (start : Value) (p : Process) (ending : Ending)
    (killed : Bool) : (report o limits start p ending killed).Emits P := by
  refine emits_of_adds fun m => ?_
  obtain ⟨message, added⟩ := exists_report_adds o limits start p ending killed m
  exact ⟨_, added, forall_mem_lineEvents logs message⟩

theorem opens_supervise (converts : realTimeout limits = .ok timeout) (start : Value) :
    (supervise o limits start p).Opens (.wait timeout) (¬ IsSetting ·) := by
  rw [supervise_eq]
  intro m
  rw [Step.run_lift_bind_of_ok converts]
  have waited : (waitOrKill p timeout).Opens (.wait timeout) (¬ IsSetting ·) :=
    opens_waitOrKill (by simp [IsSetting]) (by simp [IsSetting]) p timeout
  have reported (ended : Ending × Bool) :
      (report o limits start p ended.1 ended.2).Emits (¬ IsSetting ·) :=
    emits_report (by simp [IsSetting]) o limits start p ended.1 ended.2
  exact waited.bind reported m

/-! ## A process from its start -/

variable {command : Value} {options : Fields} {m n : Machine} {wanted : Bool} {resource : Resource}
  {limit : Except Fault Int}

theorem limitWhere_done (h : limitWhere wanted resource limit m = (.ok (), n)) :
    n = m.recordAll (limitEvents wanted resource limit) ∧
      (wanted = true → ∃ amount, limit = .ok amount ∧ Settable amount) := by
  cases wanted with
  | false =>
    cases h
    cases limit <;> exact ⟨(recordAll_nil m).symm, nofun⟩
  | true =>
    obtain ⟨amount, rfl, set⟩ := Step.run_lift_bind_eq_ok.mp h
    unfold setLimit at set
    split at set
    · rename_i settable
      cases set
      exact ⟨rfl, fun _ => ⟨amount, rfl, settable⟩⟩
    · cases set

theorem applyLimits_done (h : applyLimits limits m = (.ok (), n)) :
    n = m.recordAll (settingEvents limits) ∧ (limits.time.truthy = true →
      ∃ secs, Duration.wholeSeconds limits.time = .ok secs ∧ Settable secs) := by
  rw [applyLimits_eq, Step.run_bind_of_ok (run_emit _ _)] at h
  obtain ⟨_, limited, memory, cpu⟩ := Step.run_bind_eq_ok.mp h
  obtain ⟨limited_eq, -⟩ := limitWhere_done memory
  obtain ⟨n_eq, settable⟩ := limitWhere_done cpu
  refine ⟨?_, settable⟩
  rw [n_eq, limited_eq, record_eq_recordAll]
  simp [settingEvents]

theorem launched_done {l : Launch} (h : launch l (applyLimits limits) m = (.ok (.ok p), n)) :
    p.launch = l ∧ n.trace = m.trace ++ .spawn l :: settingEvents limits ∧
      (limits.time.truthy = true →
        ∃ secs, Duration.wholeSeconds limits.time = .ok secs ∧ Settable secs) := by
  -- No process is started whose words have a null character in them.
  have plain : ∀ w ∈ l.words, '\x00' ∉ w.toList := by
    refine Classical.byContradiction fun null => ?_
    rw [launch_of_null null] at h
    cases h
  cases launch_ok h applyLimits_ok with
  | started same _ _ rule_eq spawns =>
    rw [launch_eq plain rule_eq, spawns] at h
    obtain ⟨_, limited, caught, started⟩ := Step.run_bind_eq_ok.mp h
    obtain ⟨limited_eq, settable⟩ := applyLimits_done (Step.run_tryCatch_throw_eq_ok.mp caught)
    obtain rfl : { limited with processes := limited.processes + 1 } = n :=
      congrArg Prod.snd started
    refine ⟨same, ?_, settable⟩
    rw [limited_eq]
    simp [record]

theorem Starts.trace_eq (starts : Starts o limits command options m p n) :
    n.trace = m.trace ++ executing p.launch.words :: .spawn p.launch :: settingEvents limits ∧
      (limits.time.truthy = true →
        ∃ secs, Duration.wholeSeconds limits.time = .ok secs ∧ Settable secs) := by
  obtain ⟨words, -, launched⟩ := starts.launched
  obtain ⟨launch_eq, trace, settable⟩ := launched_done launched
  refine ⟨?_, settable⟩
  rw [trace, launch_eq]
  exact List.append_assoc m.trace [_] _

/-! ## The limits as numbers -/

/-- These are the limits in kibibytes and milliseconds, with zero for none. Where none is given on the
time that passes, it is twice that on the processor time. -/
structure Amounts (memLimit timeLimit realLimit : Value) (mem time real : Int) : Prop where
  memory : memLimit.Amount mem
  cpu : timeLimit.Amount time
  passing : realLimit = .null ∧ real = 2 * time ∨
    realLimit.number? = some (.int real) ∧ ∃ t, Duration.seconds (.int real) = .ok t

def limitEvent (resource : Resource) (given amount : Int) : List Event :=
  if given = 0 then [] else [.setLimit resource amount]

structure Enforced (mem time real secs : Int) (timeout : Option Binary64) (rest : List Event)
    (l : Launch) (m n : Machine) : Prop where
  cpu : time ≠ 0 → Duration.wholeSeconds (.int time) = .ok secs
  unlimited : real = 0 → timeout = none
  limited : real ≠ 0 → ∃ t, Duration.seconds (.int real) = .ok t ∧ timeout = some t
  trace_eq : n.trace = m.trace ++ [executing l.words, .spawn l, .setGroup] ++
    limitEvent .memory mem (mem * 1024) ++ limitEvent .cpu time secs ++ .wait timeout :: rest
  settled : ∀ e ∈ rest, ¬ IsSetting e

variable {mem time real secs : Int}

theorem limitEvents_eq {v : Value} {n amount : Int} (given : v.Amount n)
    (converts : n ≠ 0 → limit = .ok amount) :
    limitEvents v.truthy resource limit = limitEvent resource n amount := by
  by_cases zero : n = 0
  · subst zero
    rw [given.truthy_eq_false]
    rfl
  · rw [given.truthy_iff.mpr zero, converts zero, limitEvent, if_neg zero]
    rfl

theorem Amounts.realInForce {memLimit timeLimit realLimit : Value}
    (amounts : Amounts memLimit timeLimit realLimit mem time real) :
    (ExecOptions.realInForce timeLimit realLimit).Amount real := by
  rcases amounts.passing with ⟨rfl, rfl⟩ | ⟨number, -⟩
  · rcases amounts.cpu with ⟨rfl, rfl⟩ | number
    · exact Or.inl ⟨rfl, rfl⟩
    · have doubled : ExecOptions.realInForce timeLimit .null =
          if time = 0 then .null else .int (2 * time) := by
        rw [ExecOptions.realInForce, number]
        rfl
      rw [doubled]
      split
      · rename_i zero
        exact Or.inl ⟨rfl, by omega⟩
      · exact Or.inr rfl
  · have own : ExecOptions.realInForce timeLimit realLimit = realLimit := by
      cases realLimit with
      | null => cases number
      | _ => rfl
    rw [own]
    exact Or.inr number

theorem exists_timeout (amount : limits.real.Amount real)
    (converts : real ≠ 0 → ∃ t, Duration.seconds (.int real) = .ok t) :
    ∃ timeout, realTimeout limits = .ok timeout ∧ (real = 0 → timeout = none) ∧
      (real ≠ 0 → ∃ t, Duration.seconds (.int real) = .ok t ∧ timeout = some t) := by
  by_cases zero : real = 0
  · refine ⟨none, ?_, fun _ => rfl, fun nonzero => absurd zero nonzero⟩
    rw [realTimeout, if_neg fun set => amount.truthy_iff.mp set zero]
  · obtain ⟨t, converted⟩ := converts zero
    refine ⟨some t, ?_, fun none => absurd none zero, fun _ => ⟨t, converted, rfl⟩⟩
    rw [realTimeout, if_pos (amount.truthy_iff.mpr zero),
      Duration.seconds_of_int (amount.number zero), converted]
    rfl

theorem exists_seconds_of_settable {v : Value} (number : v.number? = some (.int time))
    (whole : Duration.wholeSeconds v = .ok secs) (settable : Settable secs) :
    ∃ t, Duration.seconds (.int (2 * time)) = .ok t := by
  -- From `2 ^ 74` milliseconds on there are `2 ^ 64` seconds, which is beyond what can be set.
  have small : time.natAbs < twoTo 74 := by
    refine Nat.not_le.mp fun large => ?_
    have far := Duration.wholeSeconds_of_large (k := 64) number large whole
    have bound : twoTo 64 = 18446744073709551616 := by decide +kernel
    unfold Settable limitBound at settable
    omega
  have below : (Value.int (2 * time)).Below 75 := by
    refine ⟨.int (2 * time), rfl, ?_⟩
    change (2 * time).natAbs < twoTo (74 + 1)
    rw [twoTo_succ]
    omega
  obtain ⟨t, converted, -⟩ := Duration.exists_seconds below (by omega)
  exact ⟨t, converted⟩

/-- A process that was started is under the limits in force, and they are enforced in this order: on
memory and processor time before it runs, and on the time that passes by the first wait for it. -/
theorem Starts.enforced (described : o.Described)
    (amounts : Amounts (o.inForce "mem_limit" o.memLimit) (o.inForce "time_limit" o.timeLimit)
      (o.inForce "real_time_limit" o.realTimeLimit) mem time real)
    (starts : Starts o limits command options m p n) :
    ∃ secs timeout rest,
      Enforced mem time real secs timeout rest p.launch m (host command options m).2 := by
  obtain rfl : o.limitsInForce = limits :=
    Except.ok.inj ((ExecOptions.limits_eq described amounts.cpu).symm.trans starts.limited)
  obtain ⟨trace, settable⟩ := starts.trace_eq
  have number (nonzero : time ≠ 0) : o.limitsInForce.time.number? = some (.int time) :=
    amounts.cpu.number nonzero
  have exists_cpu : ∃ secs, time ≠ 0 → Duration.wholeSeconds (.int time) = .ok secs := by
    by_cases zero : time = 0
    · exact ⟨0, fun nonzero => absurd zero nonzero⟩
    · obtain ⟨secs, whole, -⟩ := settable (amounts.cpu.truthy_iff.mpr zero)
      exact ⟨secs, fun _ => (Duration.wholeSeconds_of_int (number zero)).symm.trans whole⟩
  -- A limit that is twice that on the processor time converts because the latter could be set.
  have converts (nonzero : real ≠ 0) : ∃ t, Duration.seconds (.int real) = .ok t := by
    rcases amounts.passing with ⟨-, rfl⟩ | ⟨-, converts⟩
    · have timed : time ≠ 0 := by omega
      obtain ⟨secs, whole, settable⟩ := settable (amounts.cpu.truthy_iff.mpr timed)
      exact exists_seconds_of_settable (number timed) whole settable
    · exact converts
  obtain ⟨secs, cpu⟩ := exists_cpu
  have passing : o.limitsInForce.real.Amount real := amounts.realInForce
  obtain ⟨timeout, converted, unlimited, limited⟩ := exists_timeout passing converts
  obtain ⟨rest, trace', settled⟩ := opens_supervise (o := o) (p := p) converted m.clock n
  refine ⟨secs, timeout, rest, cpu, unlimited, limited, ?_, settled⟩
  have memory : limitEvents o.limitsInForce.mem.truthy .memory
      (memoryBytes o.limitsInForce.mem) = limitEvent .memory mem (mem * 1024) :=
    limitEvents_eq amounts.memory fun nonzero => memoryBytes_of_int (amounts.memory.number nonzero)
  have processor : limitEvents o.limitsInForce.time.truthy .cpu
      (Duration.wholeSeconds o.limitsInForce.time) = limitEvent .cpu time secs :=
    limitEvents_eq amounts.cpu fun nonzero =>
      (Duration.wholeSeconds_of_int (number nonzero)).trans (cpu nonzero)
  rw [starts.host_eq, trace', trace, settingEvents, memory, processor]
  simp

theorem exists_starts {words : List String} {rule : Rule}
    (call : ExecOptions.ofFields options = .ok o) (described : o.Described)
    (amounts : Amounts (o.inForce "mem_limit" o.memLimit) (o.inForce "time_limit" o.timeLimit)
      (o.inForce "real_time_limit" o.realTimeLimit) mem time real)
    (memory : Settable (mem * 1024))
    (cpu : time ≠ 0 → ∃ secs, Duration.wholeSeconds (.int time) = .ok secs ∧ Settable secs)
    (spoken : wordsOf command = .ok words) (plain : ∀ w ∈ words, '\x00' ∉ w.toList)
    (ruled : ruleFor m.rules (launchOf o command words m) = .ok rule)
    (spawns : rule.spawnError = none) :
    ∃ p n, Starts o o.limitsInForce command options m p n := by
  have memory (set : o.limitsInForce.mem.truthy = true) :
      ∃ amount, memoryBytes o.limitsInForce.mem = .ok amount ∧ Settable amount := by
    have nonzero := amounts.memory.truthy_iff.mp set
    exact ⟨mem * 1024, memoryBytes_of_int (amounts.memory.number nonzero), memory⟩
  have cpu (set : o.limitsInForce.time.truthy = true) :
      ∃ amount, Duration.wholeSeconds o.limitsInForce.time = .ok amount ∧ Settable amount := by
    have nonzero := amounts.cpu.truthy_iff.mp set
    have number : o.limitsInForce.time.number? = some (.int time) := amounts.cpu.number nonzero
    rw [Duration.wholeSeconds_of_int number]
    exact cpu nonzero
  have limited := applyLimits_of_accepted
    (m := (m.record (executing words)).record (.spawn (launchOf o command words m))) memory cpu
  have launched := launch_of_limited (m := m.record (executing words)) plain ruled spawns limited
  exact ⟨_, _, call, ExecOptions.limits_eq described amounts.cpu, words, spoken, launched⟩

end Executor

end CompileJob

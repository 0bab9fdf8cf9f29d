import CompileJob.Proofs.Executor.Ending

namespace CompileJob

open Machine

structure Site where
  cwd : String
  threadDir : Value
  env : Table String String
  dirs : List String

def Site.here (site : Site) : Value := site.threadDir.orElse (.str site.cwd)

def Machine.site (m : Machine) : Site := ⟨m.cwd, m.threadDir, m.env, m.dirs⟩

theorem Machine.here_eq_of_site {m : Machine} {site : Site} (h : m.site = site) :
    m.here = site.here := by
  rw [← h]
  rfl

structure Machine.Since (P : Launch → Prop) (m n : Machine) : Prop where
  site : n.site = m.site
  launches : ∃ events, n.trace = m.trace ++ events ∧ ∀ l, .spawn l ∈ events → P l

theorem Machine.Since.refl (P : Launch → Prop) (m : Machine) : m.Since P m :=
  ⟨rfl, [], by simp, nofun⟩

theorem Machine.Since.trans {P : Launch → Prop} {m n o : Machine} (h : m.Since P n)
    (h' : n.Since P o) : m.Since P o := by
  obtain ⟨first, trace, launched⟩ := h.launches
  obtain ⟨second, trace', launched'⟩ := h'.launches
  refine ⟨h'.site.trans h.site, first ++ second, by rw [trace', trace, List.append_assoc], ?_⟩
  intro l member
  rcases List.mem_append.mp member with before | after
  · exact launched l before
  · exact launched' l after

theorem Machine.Since.mono {P Q : Launch → Prop} {m n : Machine} (h : m.Since P n)
    (weaker : ∀ l, P l → Q l) : m.Since Q n := by
  obtain ⟨events, trace, launched⟩ := h.launches
  exact ⟨h.site, events, trace, fun l member => weaker l (launched l member)⟩

/-- On a machine at this site the step launches only processes of this kind, and stays there. -/
def Step.Launches {α : Type} (site : Site) (P : Launch → Prop) (step : Step Machine α) : Prop :=
  step.Along fun m n => m.site = site → m.Since P n

section
variable {α β : Type} {site : Site} {P : Launch → Prop} {step : Step Machine α}

theorem Step.Launches.bind {next : α → Step Machine β} (h : step.Launches site P)
    (h' : ∀ a, (next a).Launches site P) : (step >>= next).Launches site P := by
  refine along_bind ?_ h h'
  intro m n o first rest at_site
  have led := first at_site
  exact led.trans (rest (led.site.trans at_site))

theorem launches_lift_bind {r : Except Fault α} {next : α → Step Machine β}
    (h : ∀ a, r = .ok a → (next a).Launches site P) : (liftM r >>= next).Launches site P := by
  refine along_lift_bind ?_ h
  exact fun m _ => .refl P m

theorem launches_get_bind {next : Machine → Step Machine β}
    (h : ∀ m, m.site = site → (next m).Launches site P) : (get >>= next).Launches site P :=
  fun m at_site => h m at_site m at_site

theorem launches_pure (a : α) : (pure a : Step Machine α).Launches site P := fun m _ => .refl P m

theorem launches_throw (e : Fault) : (throw e : Step Machine α).Launches site P :=
  fun m _ => .refl P m

theorem launches_modify {f : Machine → Machine}
    (kept : ∀ m, (f m).site = m.site ∧ (f m).trace = m.trace) :
    (modify f : Step Machine Unit).Launches site P :=
  fun m _ => ⟨(kept m).1, [], by simp [(kept m).2], nofun⟩

theorem launches_emit {e : Event} (allowed : ∀ l, e = .spawn l → P l) :
    (emit e).Launches site P := by
  intro m _
  refine ⟨rfl, [e], rfl, ?_⟩
  intro l member
  exact allowed l (List.mem_singleton.mp member).symm

theorem launches_log (level : Level) (channel : Channel) (message : String) :
    (log level channel message).Launches site P := launches_emit nofun

theorem launches_logFormatted (level : Level) (channel : Channel)
    (message : Except Fault String) : (logFormatted level channel message).Launches site P := by
  intro m _
  rw [run_logFormatted]
  refine ⟨rfl, _, rfl, ?_⟩
  intro l member
  exact forall_mem_lineEvents (P := fun e => e = .spawn l → P l) nofun message _ member rfl

theorem launches_tryCatch {e : Fault} (h : step.Launches site P) :
    (tryCatch step fun _ => throw e).Launches site P := by
  intro m at_site
  have kept := h m at_site
  cases run : step m with
  | mk r n =>
    rw [run] at kept
    cases r with
    | error e' =>
      rw [Step.run_tryCatch_throw_of_error run]
      exact kept
    | ok a =>
      rw [Step.run_tryCatch_throw_eq_ok.mpr run]
      exact kept

/-! ## Processes -/

theorem launches_setLimit (resource : Resource) (limit : Int) :
    (setLimit resource limit).Launches site P := by
  unfold setLimit
  split
  · exact launches_emit nofun
  · exact launches_throw _

theorem launches_launch {l : Launch} {limits : Step Machine Unit} (allowed : P l)
    (limited : limits.Launches site P) : (launch l limits).Launches site P := by
  unfold launch
  split
  · exact fun m _ => .refl P m
  · refine (launches_emit ?_).bind fun _ => launches_get_bind fun m _ => ?_
    · intro l' same
      cases same
      exact allowed
    · refine launches_lift_bind fun rule _ => ?_
      split
      · exact launches_pure _
      · refine (launches_tryCatch limited).bind fun _ => launches_get_bind fun m _ => ?_
        dsimp only
        refine (launches_modify ?_).bind fun _ => launches_pure _
        exact fun _ => ⟨rfl, rfl⟩

theorem launches_advance (time : Value) : (Process.advance time).Launches site P :=
  launches_get_bind fun _ _ => launches_lift_bind fun _ _ => launches_modify fun _ => ⟨rfl, rfl⟩

theorem launches_leaveOutput (p : Process) : p.leaveOutput.Launches site P := by
  unfold Process.leaveOutput
  split
  · exact launches_pure _
  · refine launches_lift_bind fun path _ => ?_
    split
    · exact launches_pure _
    · exact launches_modify fun _ => ⟨rfl, rfl⟩

theorem launches_wait (p : Process) (timeout : Option Binary64) :
    (p.wait timeout).Launches site P := by
  unfold Process.wait
  refine (launches_emit nofun).bind fun _ => ?_
  split
  · exact launches_pure _
  · refine launches_lift_bind fun expires _ => ?_
    split
    · exact (launches_advance _).bind fun _ => launches_pure _
    · refine (launches_advance _).bind fun _ => ?_
      exact (launches_leaveOutput p).bind fun _ => launches_pure _

namespace Executor

theorem launches_applyLimits (limits : Limits) : (applyLimits limits).Launches site P := by
  have limitWhere (wanted : Bool) (resource : Resource) (limit : Except Fault Int) :
      (limitWhere wanted resource limit).Launches site P := by
    unfold Executor.limitWhere
    split
    · exact launches_lift_bind fun _ _ => launches_setLimit _ _
    · exact launches_pure _
  rw [applyLimits_eq]
  refine (launches_emit nofun).bind fun _ => (limitWhere _ _ _).bind fun _ => limitWhere _ _ _

theorem launches_waitOrKill (p : Process) (timeout : Option Binary64) :
    (waitOrKill p timeout).Launches site P := by
  unfold waitOrKill
  refine (launches_wait p timeout).bind fun ending => ?_
  split
  · exact launches_pure _
  · have killed : p.kill.Launches site P := (launches_emit nofun).bind fun _ => launches_pure _
    refine killed.bind fun dead => (launches_wait dead none).bind fun ending => ?_
    split <;> exact launches_pure _

theorem launches_supervise (o : ExecOptions) (limits : Limits) (start : Value) (p : Process) :
    (supervise o limits start p).Launches site P := by
  unfold supervise
  refine launches_lift_bind fun timeout _ => (launches_waitOrKill p timeout).bind fun ended => ?_
  refine launches_get_bind fun m _ => launches_lift_bind fun elapsed _ => ?_
  refine launches_lift_bind fun used _ => launches_lift_bind fun program _ => ?_
  refine (launches_logFormatted _ _ _).bind fun _ => launches_lift_bind fun stdout _ => ?_
  split
  · exact (launches_throw _).bind fun _ => launches_pure _
  · exact launches_pure _

structure HostLaunch (site : Site) (command : Value) (options : Fields) (l : Launch) : Prop where
  command_eq : l.command = command
  words : wordsOf command = .ok l.words
  env_eq : l.env = processEnv site.env
  placed : ∃ o, ExecOptions.ofFields options = .ok o ∧ l.cwd = o.cwd.orElse site.here ∧
    l.piped = o.captureOutput.truthy ∧ l.merged = o.forwardStderr.truthy

theorem launches_host (site : Site) (command : Value) (options : Fields) :
    (host command options).Launches site (HostLaunch site command options) := by
  unfold host
  refine launches_lift_bind fun o call => launches_lift_bind fun limits _ => ?_
  refine launches_lift_bind fun words spoken => (launches_log _ _ _).bind fun _ => ?_
  refine launches_get_bind fun m at_site => (launches_launch ?_ (launches_applyLimits _)).bind
    fun started => ?_
  · have here := here_eq_of_site at_site
    exact ⟨rfl, spoken, congrArg (fun s => processEnv s.env) at_site, o, call,
      congrArg o.cwd.orElse here, rfl, rfl⟩
  · split
    · exact launches_supervise _ _ _ _
    · split
      · exact launches_pure _
      · exact launches_throw _

end Executor

end

end CompileJob

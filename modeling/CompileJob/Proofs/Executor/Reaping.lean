import CompileJob.Proofs.Executor.Ending

namespace CompileJob

open Machine

structure Machine.Timed (m : Machine) : Prop where
  clock : m.clock.IsReal
  durations : ∀ rule ∈ m.rules, rule.duration.IsReal

theorem Machine.Timed.duration {m : Machine} {rule : Rule} (timed : m.Timed)
    (origin : rule ∈ m.rules ∨ rule = {}) : rule.duration.IsReal := by
  rcases origin with member | rfl
  · exact timed.durations rule member
  · exact ⟨.float .zero, .zero, rfl, rfl⟩

/-! ## Steps that only record -/

def Step.Records {α : Type} (step : Step Machine α) : Prop := ∀ m : Machine, m.Recorded (step m).2

section
variable {α β : Type} {step : Step Machine α} {next : α → Step Machine β}

theorem Step.Records.bind (first : step.Records) (rest : ∀ a, (next a).Records) :
    (step >>= next).Records := along_bind Recorded.trans first rest

theorem records_pure (a : α) : (pure a : Step Machine α).Records := Recorded.refl

theorem records_throw (e : Fault) : (throw e : Step Machine α).Records := Recorded.refl

theorem records_get : (get : Step Machine Machine).Records := Recorded.refl

theorem records_lift (r : Except Fault α) : (liftM r : Step Machine α).Records := Recorded.refl

theorem records_logFormatted (level : Level) (channel : Channel)
    (message : Except Fault String) : (logFormatted level channel message).Records := by
  intro m
  rw [run_logFormatted]
  exact recorded_recordAll m _

end

theorem Executor.records_report (o : ExecOptions) (limits : Limits) (start : Value) (p : Process)
    (ending : Ending) (killed : Bool) : (report o limits start p ending killed).Records := by
  unfold report
  refine records_get.bind fun m => (records_lift _).bind fun elapsed => ?_
  refine (records_lift _).bind fun used => (records_lift _).bind fun program => ?_
  refine (records_logFormatted _ _ _).bind fun _ => (records_lift _).bind fun stdout => ?_
  split
  · exact (records_throw _).bind fun _ => records_pure _
  · exact records_pure _

/-! ## Waiting until the end -/

/-- Between `m` and `n` a wait for the process has come to its end, for the process had ended by
itself or had been killed. -/
inductive Process.Reaped (p : Process) (m : Machine) : Machine → Prop
  | itself {timeout : Option Binary64} {ending : Ending} {reaped n : Machine}
      (waited : p.wait timeout m = (.ok (some ending), reaped)) (recorded : reaped.Recorded n) :
      Reaped p m n
  | killed {timeout : Option Binary64} {ending : Ending} {waited reaped n : Machine}
      (expired : p.wait timeout m = (.ok none, waited))
      (again : { p with killed := true }.wait none (waited.record (.kill p.pid)) =
        (.ok (some ending), reaped)) (recorded : reaped.Recorded n) : Reaped p m n

namespace Process

variable {p : Process} {m n o : Machine} {timeout : Option Binary64}

theorem Reaped.until_recorded (h : p.Reaped m n) (further : n.Recorded o) : p.Reaped m o := by
  cases h with
  | itself waited recorded => exact .itself waited (recorded.trans further)
  | killed expired again recorded => exact .killed expired again (recorded.trans further)

theorem Waited.later {ending : Option Ending} (h : p.Waited m ending n) : m.Later n := by
  cases h with
  | reaped _ quiet => exact quiet.later
  | expired _ quiet => exact quiet.later
  | ended _ quiet leaves => exact quiet.later.trans leaves.later

theorem added_wait {ending : Option Ending} (h : p.wait timeout m = (.ok ending, n)) :
    m.Added n (.wait timeout) :=
  (added_record m _).until_later (wait_ok h).later

theorem Reaped.added_wait (h : p.Reaped m n) : ∃ timeout, m.Added n (.wait timeout) := by
  cases h with
  | itself waited recorded =>
    exact ⟨_, (Process.added_wait waited).until_later recorded.quiet.later⟩
  | killed expired again recorded =>
    have later := (recorded_record _ _).quiet.later.trans (wait_ok again).later
    refine ⟨_, (Process.added_wait expired).until_later ?_⟩
    exact ((recorded_record _ _).quiet.later.trans later).trans recorded.quiet.later

theorem not_reaped_self : ¬ p.Reaped m m := by
  intro reaped
  -- A wait is an event, so it shows in the trace.
  obtain ⟨timeout, events, trace, member⟩ := reaped.added_wait
  have none : events = [] := by simpa using trace
  rw [none] at member
  cases member

end Process

namespace Executor

variable {o : ExecOptions} {limits : Limits} {command : Value} {options : Fields} {m n : Machine}
  {p : Process}

theorem exists_waitOrKill {path : Option String} (timeout : Option Binary64)
    (alive : p.killed = false) (clock : m.clock.IsReal) (duration : p.rule.duration.IsReal)
    (searched : p.launch.outputPath = .ok path) :
    ∃ ending killed reaped,
      waitOrKill p timeout m = (.ok (ending, killed), reaped) ∧ p.Reaped m reaped := by
  by_cases outlasts : ∃ t, timeout = some t ∧ p.rule.Outlasts t
  · obtain ⟨t, rfl, outlasts⟩ := outlasts
    -- No bound on the timeout is needed: as a binary64 number it can be added to any clock.
    obtain ⟨later, advanced⟩ := clock.exists_plus (w := .float t) ⟨.float t, t, rfl, rfl⟩
    have expired := Process.wait_of_outlasts alive outlasts advanced
    refine ⟨_, _, _, waitOrKill_of_outlasts alive outlasts advanced, ?_⟩
    refine .killed expired (Process.wait_of_killed rfl) ?_
    simp [record_eq_recordAll, recordAll]
    exact .refl _
  · have timely : ∀ t, timeout = some t → ¬ p.rule.Outlasts t := fun t same longer =>
      outlasts ⟨t, same, longer⟩
    obtain ⟨later, advanced⟩ := clock.exists_plus duration
    obtain ⟨_, _, number, -⟩ := duration
    have expires := Process.expires_of_not_outlasts number timely
    obtain ⟨files, ended⟩ := Process.exists_wait_of_timely alive expires advanced searched
    exact ⟨_, _, _, waitOrKill_of_ended ended, .itself ended (.refl _)⟩

structure Starts (o : ExecOptions) (limits : Limits) (command : Value) (options : Fields)
    (m : Machine) (p : Process) (n : Machine) : Prop where
  call : ExecOptions.ofFields options = .ok o
  limited : o.limits = .ok limits
  launched : ∃ words, wordsOf command = .ok words ∧
    launch (launchOf o command words m) (applyLimits limits) (m.record (executing words)) =
      (.ok (.ok p), n)

theorem Starts.host_eq (starts : Starts o limits command options m p n) :
    host command options m = supervise o limits m.clock p n := by
  obtain ⟨words, spoken, launched⟩ := starts.launched
  rw [Executor.host_eq starts.call starts.limited spoken, Step.run_bind_of_ok launched]
  rfl

theorem Starts.process (starts : Starts o limits command options m p n) :
    p.killed = false ∧ p.launch.command = command ∧ n.clock = m.clock ∧
      (p.rule ∈ m.rules ∨ p.rule = {}) := by
  obtain ⟨words, spoken, launched⟩ := starts.launched
  cases launch_ok launched applyLimits_ok with
  | started launch_eq pid_eq alive rule_eq spawnError recorded counted =>
    obtain ⟨events, rfl⟩ := recorded
    subst counted
    exact ⟨alive, by rw [launch_eq]; rfl, rfl, mem_of_ruleFor rule_eq⟩

theorem Starts.host_of_error {e : Fault} (starts : Starts o limits command options m p n)
    (fails : realTimeout limits = .error e) : host command options m = (.error e, n) := by
  rw [starts.host_eq, supervise_eq, Step.run_bind, Step.run_lift, fails]

theorem Starts.reaped {timeout : Option Binary64} (starts : Starts o limits command options m p n)
    (timed : m.Timed) (listed : (∃ items, command = .list items) ∨ ∃ text, command = .str text)
    (converts : realTimeout limits = .ok timeout) : p.Reaped n (host command options m).2 := by
  obtain ⟨alive, command_eq, clock, origin⟩ := starts.process
  have searched : ∃ path, p.launch.outputPath = .ok path := by
    unfold Launch.outputPath
    rw [command_eq]
    rcases listed with ⟨items, rfl⟩ | ⟨text, rfl⟩ <;> exact ⟨_, rfl⟩
  obtain ⟨path, searched⟩ := searched
  obtain ⟨ending, killed, reaped, waited, ended⟩ :=
    exists_waitOrKill timeout alive (clock ▸ timed.clock) (timed.duration origin) searched
  rw [starts.host_eq, supervise_eq, Step.run_lift_bind_of_ok converts, Step.run_bind_of_ok waited]
  exact ended.until_recorded (records_report o limits m.clock p ending killed _)

theorem realTimeout_of_large {limit : Int} (number : limits.real.number? = some (.int limit))
    (large : twoTo 1024 ≤ limit.natAbs) : realTimeout limits = .error .outOfRange := by
  have nonzero : limit ≠ 0 := by
    rintro rfl
    exact absurd large (Nat.not_le.mpr (twoTo_pos 1024))
  have set : limits.real.truthy = true := (Value.truthy_of_number? number).mpr nonzero
  rw [realTimeout, if_pos set, Duration.seconds_of_large number large]
  rfl

/-- A started process is waited for until it ends exactly when its limit can be taken as a number of
seconds. -/
theorem host_reaps_iff (starts : Starts o limits command options m p n) (timed : m.Timed)
    (listed : (∃ items, command = .list items) ∨ ∃ text, command = .str text) :
    p.Reaped n (host command options m).2 ↔ ∃ timeout, realTimeout limits = .ok timeout := by
  constructor
  · intro reaped
    cases converted : realTimeout limits with
    | ok timeout => exact ⟨timeout, rfl⟩
    | error e =>
      rw [starts.host_of_error converted] at reaped
      exact absurd reaped Process.not_reaped_self
  · rintro ⟨timeout, converts⟩
    exact starts.reaped timed listed converts

theorem timed_blank : blank.Timed := ⟨⟨.float .zero, .zero, rfl, rfl⟩, nofun⟩

theorem host_reaps_unlimited :
    ∃ o limits p n, Starts o limits (texts ["cc"]) [] blank p n ∧
      p.Reaped n (host (texts ["cc"]) [] blank).2 := by
  have starts : Starts _ ⟨.null, .null, .null, .null⟩ (texts ["cc"]) [] blank _ _ :=
    ⟨rfl, rfl, ["cc"], rfl, rfl⟩
  have listed : (∃ items, texts ["cc"] = .list items) ∨ ∃ text, texts ["cc"] = .str text :=
    Or.inl ⟨_, rfl⟩
  exact ⟨_, _, _, _, starts, (host_reaps_iff starts timed_blank listed).mpr ⟨none, rfl⟩⟩

theorem started_process_is_abandoned :
    ¬ ∀ (o : ExecOptions) (limits : Limits) (words : List String) (options : Fields)
      (m n : Machine) (p : Process), Starts o limits (texts words) options m p n →
      p.Reaped n (host (texts words) options m).2 := by
  intro claim
  let limit : Int := Decimal.tenTo 400
  let limits : Limits := ⟨.null, .null, .int limit, .null⟩
  have starts : Starts _ limits (texts ["cc"]) [("real_time_limit", .int limit)] blank _ _ :=
    ⟨rfl, rfl, ["cc"], rfl, rfl⟩
  have large : twoTo 1024 ≤ limit.natAbs := by decide +kernel
  have fails : realTimeout limits = .error .outOfRange := realTimeout_of_large rfl large
  have reaped := claim _ _ _ _ _ _ _ starts
  rw [starts.host_of_error fails] at reaped
  exact Process.not_reaped_self reaped

end Executor

end CompileJob

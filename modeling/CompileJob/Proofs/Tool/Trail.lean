import CompileJob.Proofs.Executor.Ending
import CompileJob.Tool

namespace CompileJob

open Machine

/-- A run on `m` added these events; one that failed may have added only the first of them. -/
def Machine.Adds {α : Type} (m : Machine) (events : List Event) (run : Except Fault α × Machine) :
    Prop :=
  match run.1 with
  | .ok _ => run.2.trace = m.trace ++ events
  | .error _ => ∃ part, part <+: events ∧ run.2.trace = m.trace ++ part

section
variable {α β : Type} {m n : Machine} {step : Step Machine α} {next : α → Step Machine β}
  {first second events : List Event}

theorem Machine.Adds.since {run : Except Fault α × Machine} (rest : n.Adds second run)
    (trace : n.trace = m.trace ++ first) : m.Adds (first ++ second) run := by
  unfold Machine.Adds at rest ⊢
  split at rest
  · rw [rest, trace, List.append_assoc]
  · obtain ⟨part, initial, trace'⟩ := rest
    refine ⟨first ++ part, (List.prefix_append_right_inj first).mpr initial, ?_⟩
    rw [trace', trace, List.append_assoc]

theorem adds_bind (led : m.Adds first (step m))
    (rest : ∀ a n, step m = (.ok a, n) → n.Adds second (next a n)) :
    m.Adds (first ++ second) ((step >>= next) m) := by
  cases run : step m with
  | mk r n =>
    rw [run] at led
    cases r with
    | error e =>
      obtain ⟨part, initial, trace⟩ := led
      rw [Step.run_bind_of_error run]
      exact ⟨part, initial.trans (List.prefix_append _ _), trace⟩
    | ok a =>
      rw [Step.run_bind_of_ok run]
      exact (rest a n run).since led

theorem adds_pure (a : α) (m : Machine) : m.Adds [] ((pure a : Step Machine α) m) :=
  (List.append_nil _).symm

theorem adds_error (e : Fault) (m : Machine) (events : List Event) :
    m.Adds events ((.error e, m) : Except Fault α × Machine) :=
  ⟨[], List.nil_prefix, (List.append_nil _).symm⟩

theorem adds_emit (e : Event) (m : Machine) : m.Adds [e] (emit e m) := rfl

theorem adds_logFormatted (level : Level) (channel : Channel) (message : Except Fault String)
    (m : Machine) : m.Adds (lineEvents level channel message) (logFormatted level channel message m) := by
  rw [run_logFormatted]
  cases message with
  | ok line => cases m.strictLog <;> rfl
  | error e =>
    cases m.strictLog with
    | false => rfl
    | true => exact ⟨[], List.nil_prefix, rfl⟩

theorem adds_lift_bind {r : Except Fault α} (rest : ∀ a, r = .ok a → m.Adds events (next a m)) :
    m.Adds events ((liftM r >>= next) m) := by
  rw [Step.run_bind, Step.run_lift]
  cases r with
  | error e => exact adds_error e m events
  | ok a => exact rest a rfl

theorem exists_adds_lift_bind {r : Except Fault α} {events : Except Fault String → List Event}
    (rest : ∀ a, r = .ok a → ∃ message, m.Adds (events message) (next a m)) :
    ∃ message, m.Adds (events message) ((liftM r >>= next) m) := by
  rw [Step.run_bind, Step.run_lift]
  cases r with
  | error e => exact ⟨.error e, adds_error e m _⟩
  | ok a => exact rest a rfl

end

/-! ## Waiting without a timeout -/

namespace Process

variable {p : Process} {m n : Machine}

theorem advance_adds (time : Value) (m : Machine) : m.Adds [] (advance time m) := by
  unfold advance
  rw [Step.run_bind_of_ok (Step.run_get m)]
  exact adds_lift_bind fun clock _ => (List.append_nil _).symm

theorem leaveOutput_adds (p : Process) (m : Machine) : m.Adds [] (p.leaveOutput m) := by
  unfold leaveOutput
  cases p.rule.outputSize with
  | none => exact adds_pure () m
  | some size =>
    refine adds_lift_bind fun path _ => ?_
    cases path with
    | none => exact adds_pure () m
    | some path => exact (List.append_nil _).symm

theorem wait_none_eq (alive : p.killed = false) :
    p.wait none = (do
      emit (.wait none)
      advance p.rule.duration
      p.leaveOutput
      return some ⟨p.rule.code, p.output⟩) := by
  unfold wait
  rw [alive]
  rfl

theorem wait_none_adds (alive : p.killed = false) (m : Machine) :
    m.Adds [.wait none] (p.wait none m) := by
  rw [wait_none_eq alive]
  refine adds_bind (adds_emit (.wait none) m) fun _ n _ => ?_
  refine adds_bind (advance_adds _ n) fun _ n _ => ?_
  exact adds_bind (leaveOutput_adds p n) fun _ n _ => adds_pure _ n

theorem wait_none_ok {ending : Option Ending} (alive : p.killed = false)
    (waited : p.wait none m = (.ok ending, n)) : ending = some ⟨p.rule.code, p.output⟩ := by
  rw [wait_none_eq alive] at waited
  obtain ⟨_, _, _, waited⟩ := Step.run_bind_eq_ok.mp waited
  obtain ⟨_, _, _, waited⟩ := Step.run_bind_eq_ok.mp waited
  obtain ⟨_, _, _, waited⟩ := Step.run_bind_eq_ok.mp waited
  cases waited
  rfl

end Process

namespace Executor

variable {p : Process} {m : Machine}

theorem waitOrKill_none_adds (alive : p.killed = false) (m : Machine) :
    m.Adds [.wait none] (waitOrKill p none m) := by
  unfold waitOrKill
  refine adds_bind (p.wait_none_adds alive m) fun ending n waited => ?_
  rw [p.wait_none_ok alive waited]
  exact adds_pure _ n

theorem exists_report_adds (o : ExecOptions) (limits : Limits) (start : Value) (p : Process)
    (ending : Ending) (killed : Bool) (m : Machine) : ∃ message,
      m.Adds (lineEvents .debug .executor message) (report o limits start p ending killed m) := by
  unfold report
  rw [Step.run_bind_of_ok (Step.run_get m)]
  refine exists_adds_lift_bind fun elapsed _ => exists_adds_lift_bind fun used _ => ?_
  refine exists_adds_lift_bind fun program _ => ⟨endedMessage program ending.code elapsed, ?_⟩
  rw [← List.append_nil (lineEvents _ _ _)]
  refine adds_bind (adds_logFormatted _ _ _ m) fun _ n _ => adds_lift_bind fun stdout _ => ?_
  split
  · exact adds_error _ n []
  · exact adds_pure _ n

theorem exists_supervise_adds {limits : Limits} (o : ExecOptions) (start : Value)
    (alive : p.killed = false) (unlimited : realTimeout limits = .ok none) (m : Machine) :
    ∃ message, m.Adds (.wait none :: lineEvents .debug .executor message)
      (supervise o limits start p m) := by
  rw [supervise_eq, Step.run_lift_bind_of_ok unlimited]
  have adds := waitOrKill_none_adds alive m
  cases waited : waitOrKill p none m with
  | mk r n =>
    rw [waited] at adds
    cases r with
    | error e =>
      obtain ⟨part, initial, trace⟩ := adds
      rw [Step.run_bind_of_error waited]
      exact ⟨.error e, part, initial.trans (List.prefix_append [_] _), trace⟩
    | ok ended =>
      obtain ⟨message, reported⟩ := exists_report_adds o limits start p ended.1 ended.2 n
      rw [Step.run_bind_of_ok waited]
      exact ⟨message, reported.since adds⟩

end Executor

/-! ## Failing to start -/

namespace Machine

variable {l : Launch} {limits : Step Machine Unit} {m : Machine}

theorem launch_of_null (null : ¬ ∀ w ∈ l.words, '\x00' ∉ w.toList) :
    launch l limits m = (.error .badValue, m) := by
  have found : (l.words.any (·.toList.contains '\x00')) = true := by simpa using null
  unfold launch
  rw [found]
  rfl

theorem launch_of_unruled {e : Fault} (plain : ∀ w ∈ l.words, '\x00' ∉ w.toList)
    (unruled : ruleFor m.rules l = .error e) :
    launch l limits m = (.error e, m.record (.spawn l)) := by
  have clean : (l.words.any (·.toList.contains '\x00')) = false := by simpa using plain
  have lifted : (liftM (ruleFor (m.record (.spawn l)).rules l) : Step Machine Rule)
      (m.record (.spawn l)) = (.error e, m.record (.spawn l)) :=
    congrArg (·, m.record (.spawn l)) unruled
  unfold launch
  rw [clean]
  simp only [Bool.false_eq_true, if_false]
  rw [Step.run_bind_of_ok (run_emit _ _), Step.run_bind_of_ok (Step.run_get _)]
  exact Step.run_bind_of_error lifted

end Machine

/-! ## A tool -/

namespace Executor

variable {m : Machine}

def toolLaunch (command : Value) (words : List String) (m : Machine) : Launch where
  command := command
  words := words
  cwd := m.here
  env := processEnv m.env
  piped := true
  merged := true

def unlimitedEvents (l : Launch) (message : Except Fault String) : List Event :=
  [executing l.words, .spawn l, .setGroup, .wait none] ++ lineEvents .debug .executor message

/-- How the run of a tool comes out, with its events. It breaks off where the machine has no way to
start the process or to tell the time, and under a strict log also where the line on the end of the
process cannot be formatted. -/
inductive Trail (l : Launch) (message : Except Fault String) : Except Fault Value → List Event → Prop
  | notStarted (reason : String) :
      Trail l message (.ok (notStartedResult reason)) [executing l.words, .spawn l]
  | ended (result : Value) : Trail l message (.ok result) (unlimitedEvents l message)
  | broken (e : Fault) {events : List Event} (part : events <+: unlimitedEvents l message) :
      Trail l message (.error e) events

theorem exists_trail_of_adds {l : Launch} {message : Except Fault String} {run : Except Fault Value × Machine}
    (adds : m.Adds (unlimitedEvents l message) run) :
    ∃ events, run.2.trace = m.trace ++ events ∧ Trail l message run.1 events := by
  obtain ⟨r, n⟩ := run
  cases r with
  | ok result => exact ⟨_, adds, .ended result⟩
  | error e =>
    obtain ⟨part, initial, trace⟩ := adds
    exact ⟨part, trace, .broken e initial⟩

def toolOptions : ExecOptions where
  ignoreErrors := .bool true
  captureOutput := .bool true
  forwardStderr := .bool true
  memLimit := .null
  timeLimit := .null
  realTimeLimit := .null
  outputLimit := .null
  environ := .null
  scope := .str ""
  cwd := .null

theorem toolOptions_eq : ExecOptions.ofFields Tool.runOptions = .ok toolOptions := rfl

def unlimited : Limits := ⟨.null, .null, .null, .null⟩

theorem toolOptions_limits : toolOptions.limits = .ok unlimited := rfl

theorem realTimeout_unlimited : realTimeout unlimited = .ok none := rfl

theorem applyLimits_unlimited (m : Machine) :
    applyLimits unlimited m = (.ok (), m.record .setGroup) := rfl

theorem host_of_unspoken {command : Value} {e : Fault} (unspoken : wordsOf command = .error e)
    (m : Machine) : host command Tool.runOptions m = (.error e, m) := by
  unfold host
  rw [Step.run_lift_bind_of_ok toolOptions_eq, Step.run_lift_bind_of_ok toolOptions_limits,
    Step.run_bind, Step.run_lift, unspoken]

theorem exists_trail_of_started {p : Process} {l : Launch} {n : Machine} (start : Value)
    (alive : p.killed = false)
    (trace : n.trace = m.trace ++ [executing l.words, .spawn l, .setGroup]) :
    ∃ message events, (supervise toolOptions unlimited start p n).2.trace = m.trace ++ events ∧
      Trail l message (supervise toolOptions unlimited start p n).1 events := by
  obtain ⟨message, adds⟩ := exists_supervise_adds toolOptions start alive realTimeout_unlimited n
  exact ⟨message, exists_trail_of_adds (adds.since trace)⟩

theorem exists_host_trail {command : Value} {words : List String}
    (spoken : wordsOf command = .ok words) (m : Machine) :
    ∃ message events, (host command Tool.runOptions m).2.trace = m.trace ++ events ∧
      Trail (toolLaunch command words m) message (host command Tool.runOptions m).1 events := by
  let l := toolLaunch command words m
  have host_eq : host command Tool.runOptions m =
      (launch l (applyLimits unlimited) >>= attend toolOptions unlimited command m.clock)
        (m.record (executing words)) :=
    Executor.host_eq toolOptions_eq toolOptions_limits spoken
  rw [host_eq]
  by_cases plain : ∀ w ∈ l.words, '\x00' ∉ w.toList
  · cases ruled : ruleFor (m.record (executing words)).rules l with
    | error e =>
      rw [Step.run_bind_of_error (launch_of_unruled plain ruled)]
      refine ⟨.error e, [executing l.words, .spawn l], ?_, .broken e (List.prefix_append [_, _] _)⟩
      exact List.append_assoc _ [_] [_]
    | ok rule =>
      cases refused : rule.spawnError with
      | some reason =>
        rw [Step.run_bind_of_ok (launch_of_spawnError plain ruled refused)]
        exact ⟨.ok "", _, List.append_assoc _ [_] [_], .notStarted reason⟩
      | none =>
        have limited := applyLimits_unlimited ((m.record (executing words)).record (.spawn l))
        rw [Step.run_bind_of_ok (launch_of_limited plain ruled refused limited)]
        exact exists_trail_of_started _ rfl (by simp [record, l, toolLaunch])
  · rw [Step.run_bind_of_error (launch_of_null plain)]
    exact ⟨.ok "", [executing l.words], rfl, .broken _ (List.prefix_append [_] _)⟩

end Executor

end CompileJob

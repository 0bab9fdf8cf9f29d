import CompileJob.Proofs.Executor.Limits
import CompileJob.Proofs.Value.Texts

namespace CompileJob

open Machine

def Rule.Outlasts (rule : Rule) (t : Binary64) : Prop :=
  ∃ duration, rule.duration.number? = some duration ∧ (Value.Number.float t).lt duration = true

/-! ## Waiting -/

namespace Process

variable {p : Process} {m n : Machine} {t : Binary64} {timeout : Option Binary64} {clock : Value}

theorem advance_eq {time : Value} (h : m.clock.plus time = .ok clock) :
    advance time m = (.ok (), { m with clock }) := by
  unfold advance
  rw [Step.run_bind_of_ok (Step.run_get m), Step.run_bind, Step.run_lift, h]
  rfl

theorem wait_of_killed (dead : p.killed = true) :
    p.wait timeout m = (.ok (some ⟨.int killedCode, p.output⟩), m.record (.wait timeout)) := by
  unfold wait
  rw [Step.run_bind_of_ok (run_emit _ _), dead]
  rfl

theorem expires_of_not_outlasts {duration : Value.Number}
    (number : p.rule.duration.number? = some duration)
    (timely : ∀ t, timeout = some t → ¬ p.rule.Outlasts t) :
    p.expires timeout = .ok false := by
  cases timeout with
  | none => rfl
  | some t =>
    have shorter : (Value.Number.float t).lt duration = false := by
      rw [Bool.eq_false_iff]
      exact fun longer => timely t rfl ⟨duration, number, longer⟩
    simp only [Process.expires, Value.number_of_number? number]
    exact congrArg Except.ok shorter

theorem outlasts_of_expires (h : p.expires timeout = .ok true) :
    ∃ t, timeout = some t ∧ p.rule.Outlasts t := by
  cases timeout with
  | none => cases h
  | some t =>
    obtain ⟨duration, number, longer⟩ := Except.bind_eq_ok.mp h
    exact ⟨t, rfl, duration, orFault_eq_ok.mp number, Except.ok.inj longer⟩

theorem wait_ok_of_timely {ending : Option Ending} (alive : p.killed = false)
    (timely : ∀ t, timeout = some t → ¬ p.rule.Outlasts t)
    (h : p.wait timeout m = (.ok ending, n)) : ending = some ⟨p.rule.code, p.output⟩ := by
  unfold wait at h
  rw [Step.run_bind_of_ok (run_emit _ _), alive] at h
  obtain ⟨expired, expires, h⟩ := Step.run_lift_bind_eq_ok.mp h
  cases expired with
  | true =>
    obtain ⟨t, limited, outlasts⟩ := outlasts_of_expires expires
    exact absurd outlasts (timely t limited)
  | false =>
    obtain ⟨_, _, -, h⟩ := Step.run_bind_eq_ok.mp h
    obtain ⟨_, _, -, h⟩ := Step.run_bind_eq_ok.mp h
    cases h
    rfl

theorem wait_of_outlasts (alive : p.killed = false) (outlasts : p.rule.Outlasts t)
    (advanced : m.clock.plus (.float t) = .ok clock) :
    p.wait (some t) m = (.ok none, { m.record (.wait (some t)) with clock }) := by
  obtain ⟨duration, number, longer⟩ := outlasts
  have expires : p.expires (some t) = .ok true := by
    simp only [Process.expires, Value.number_of_number? number]
    exact congrArg Except.ok longer
  have advance := advance_eq (m := m.record (.wait (some t))) advanced
  unfold wait
  rw [Step.run_bind_of_ok (run_emit _ _), alive]
  simp only [Bool.false_eq_true, if_false, Step.run_bind, Step.run_lift, expires, if_true,
    Option.getD_some, advance]
  rfl

theorem exists_leaveOutput {path : Option String} (searched : p.launch.outputPath = .ok path) :
    ∃ files, p.leaveOutput m = (.ok (), { m with files }) := by
  unfold leaveOutput
  cases p.rule.outputSize with
  | none => exact ⟨m.files, rfl⟩
  | some size =>
    simp only [searched]
    cases path with
    | none => exact ⟨m.files, rfl⟩
    | some path => exact ⟨_, rfl⟩

theorem exists_wait_of_timely {path : Option String} (alive : p.killed = false)
    (timely : p.expires timeout = .ok false)
    (advanced : m.clock.plus p.rule.duration = .ok clock)
    (searched : p.launch.outputPath = .ok path) :
    ∃ files, p.wait timeout m =
      (.ok (some ⟨p.rule.code, p.output⟩), { m.record (.wait timeout) with clock, files }) := by
  have advance := advance_eq (m := m.record (.wait timeout)) advanced
  obtain ⟨files, left⟩ := exists_leaveOutput (m := { m.record (.wait timeout) with clock }) searched
  refine ⟨files, ?_⟩
  unfold wait
  rw [Step.run_bind_of_ok (run_emit _ _), alive]
  simp only [Bool.false_eq_true, if_false, Step.run_bind, Step.run_lift, timely, advance, left]
  rfl

end Process

/-! ## Starting -/

namespace Machine

variable {l : Launch} {limits : Step Machine Unit} {rule : Rule} {m n : Machine}

theorem launch_eq (plain : ∀ w ∈ l.words, '\x00' ∉ w.toList)
    (rule_eq : ruleFor m.rules l = .ok rule) :
    launch l limits m = (match rule.spawnError with
      | some reason => return .error reason
      | none => do
          tryCatch limits fun _ => throw .limitRefused
          let started := (← get).processes
          modify fun m => { m with processes := started + 1 }
          return .ok { pid := firstPid + started, launch := l, rule } :
        Step Machine (Except String Process)) (m.record (.spawn l)) := by
  have clean : (l.words.any (·.toList.contains '\x00')) = false := by simpa using plain
  unfold launch
  rw [clean]
  simp only [Bool.false_eq_true, if_false]
  rw [Step.run_bind_of_ok (run_emit _ _), Step.run_bind_of_ok (Step.run_get _)]
  exact Step.run_lift_bind_of_ok rule_eq _

theorem launch_of_spawnError {reason : String} (plain : ∀ w ∈ l.words, '\x00' ∉ w.toList)
    (rule_eq : ruleFor m.rules l = .ok rule) (refused : rule.spawnError = some reason) :
    launch l limits m = (.ok (.error reason), m.record (.spawn l)) := by
  rw [launch_eq plain rule_eq, refused]
  rfl

theorem launch_of_refused {e : Fault} (plain : ∀ w ∈ l.words, '\x00' ∉ w.toList)
    (rule_eq : ruleFor m.rules l = .ok rule) (spawns : rule.spawnError = none)
    (refused : limits (m.record (.spawn l)) = (.error e, n)) :
    launch l limits m = (.error .limitRefused, n) := by
  rw [launch_eq plain rule_eq, spawns]
  exact Step.run_bind_of_error (Step.run_tryCatch_throw_of_error refused)

theorem launch_of_limited (plain : ∀ w ∈ l.words, '\x00' ∉ w.toList)
    (rule_eq : ruleFor m.rules l = .ok rule) (spawns : rule.spawnError = none)
    (limited : limits (m.record (.spawn l)) = (.ok (), n)) :
    launch l limits m =
      (.ok (.ok ⟨firstPid + n.processes, l, rule, false⟩),
        { n with processes := n.processes + 1 }) := by
  rw [launch_eq plain rule_eq, spawns]
  exact Step.run_bind_of_ok (Step.run_tryCatch_throw_eq_ok.mpr limited)

end Machine

namespace Executor

variable {o : ExecOptions} {limits : Limits} {command start : Value} {words : List String}
  {options : Fields} {m n : Machine} {p : Process}

def launchOf (o : ExecOptions) (command : Value) (words : List String) (m : Machine) : Launch where
  command := command
  words := words
  cwd := o.cwd.orElse m.here
  env := processEnv m.env
  piped := o.captureOutput.truthy
  merged := o.forwardStderr.truthy

def executing (words : List String) : Event :=
  .log .info .executor ("Executing: " ++ " ".intercalate words)

def attend (o : ExecOptions) (limits : Limits) (command start : Value)
    (started : Except String Process) : Step Machine Value :=
  match started with
  | .ok p => supervise o limits start p
  | .error reason =>
      if o.ignoreErrors.truthy then return notStartedResult reason
      else throw (.notStarted command reason)

theorem host_eq (call : ExecOptions.ofFields options = .ok o) (limited : o.limits = .ok limits)
    (spoken : wordsOf command = .ok words) :
    host command options m =
      (launch (launchOf o command words m) (applyLimits limits) >>=
        attend o limits command m.clock) (m.record (executing words)) := by
  unfold host
  rw [Step.run_lift_bind_of_ok call, Step.run_lift_bind_of_ok limited,
    Step.run_lift_bind_of_ok spoken]
  rfl

/-! ## Waiting, perhaps twice -/

section
variable {t : Binary64} {timeout : Option Binary64} {clock : Value}

theorem waitOrKill_of_outlasts (alive : p.killed = false) (outlasts : p.rule.Outlasts t)
    (advanced : m.clock.plus (.float t) = .ok clock) :
    waitOrKill p (some t) m = (.ok (⟨.int (-9), p.output⟩, true),
      { m.recordAll [.wait (some t), .kill p.pid, .wait none] with clock }) := by
  unfold waitOrKill
  rw [Step.run_bind_of_ok (Process.wait_of_outlasts alive outlasts advanced)]
  simp only [Process.kill, Step.run_bind, run_emit, Step.run_pure]
  rw [Process.wait_of_killed rfl]
  simp [record_eq_recordAll, recordAll, Process.killedCode]
  rfl

theorem waitOrKill_of_ended {ending : Ending} (ended : p.wait timeout m = (.ok (some ending), n)) :
    waitOrKill p timeout m = (.ok (ending, false), n) := by
  unfold waitOrKill
  rw [Step.run_bind_of_ok ended]
  rfl

theorem exists_waitOrKill_of_timely {path : Option String} (alive : p.killed = false)
    (timely : p.expires timeout = .ok false)
    (advanced : m.clock.plus p.rule.duration = .ok clock)
    (searched : p.launch.outputPath = .ok path) :
    ∃ files, waitOrKill p timeout m = (.ok (⟨p.rule.code, p.output⟩, false),
      { m.record (.wait timeout) with clock, files }) := by
  obtain ⟨files, waited⟩ := Process.exists_wait_of_timely alive timely advanced searched
  exact ⟨files, waitOrKill_of_ended waited⟩

end

/-! ## The result -/

def outcome (o : ExecOptions) (command : Value) (killed : Bool) (code : Value) (used : Int)
    (stdout : Fields) : Except Fault Value :=
  if code.truthy && !o.ignoreErrors.truthy then .error (.failed command code)
  else .ok (endedResult killed code used stdout)

theorem exists_reportedOutput (ending : Ending) (output : limits.output.IsLimit) :
    ∃ stdout, reportedOutput o limits ending = .ok stdout := by
  unfold reportedOutput
  split
  · unfold limitOutput
    split
    · rename_i set
      obtain ⟨n, number, -⟩ := output.exists_int set
      rw [number]
      exact ⟨_, rfl⟩
    · exact ⟨_, rfl⟩
  · exact ⟨[], rfl⟩

theorem exists_endedMessage {code elapsed : Value} (program : String) (finite : code.IsFinite)
    (below : elapsed.Below 1010) : ∃ message, endedMessage program code elapsed = .ok message := by
  obtain ⟨whole, whole_eq⟩ := finite.exists_integerText
  obtain ⟨seconds, seconds_eq⟩ := below.exists_hundredths (by omega)
  unfold endedMessage
  rw [whole_eq, seconds_eq]
  exact ⟨_, rfl⟩

theorem exists_supervise_of_waitOrKill {timeout : Option Binary64} {ending : Ending} {killed : Bool}
    {program : String} {stdout : Fields} (limited : realTimeout limits = .ok timeout)
    (waited : waitOrKill p timeout m = (.ok (ending, killed), n)) (clock : m.clock.Below 1000)
    (later : n.clock.Below 1006) (named : p.launch.program = .ok program)
    (code : ending.code.IsFinite) (reported : reportedOutput o limits ending = .ok stdout) :
    ∃ used message, supervise o limits m.clock p m =
      (outcome o p.launch.command killed ending.code used stdout,
        n.record (.log .debug .executor message)) := by
  -- What follows a wait fails on numbers that are too large only, and none here is.
  obtain ⟨elapsed, took, below⟩ := later.minus (clock.mono (by omega)) (by omega)
  obtain ⟨used, millis⟩ := Duration.exists_millis below (by omega)
  obtain ⟨message, shown⟩ := exists_endedMessage program code (below.mono (by omega))
  refine ⟨used, message, ?_⟩
  rw [supervise_eq, Step.run_lift_bind_of_ok limited, Step.run_bind_of_ok waited]
  show report o limits m.clock p ending killed n = _
  unfold report outcome
  rw [Step.run_bind_of_ok (Step.run_get n), Step.run_lift_bind_of_ok took,
    Step.run_lift_bind_of_ok millis, Step.run_lift_bind_of_ok named,
    Step.run_bind_of_ok (run_logFormatted_of_ok shown _ _ _),
    Step.run_lift_bind_of_ok reported]
  split <;> rfl

theorem exists_supervise_of_outlasts {program : String} {t : Binary64} (alive : p.killed = false)
    (limited : realTimeout limits = .ok (some t)) (small : (Value.Number.float t).Below 1003)
    (outlasts : p.rule.Outlasts t) (clock : m.clock.Below 1000)
    (named : p.launch.program = .ok program) (output : limits.output.IsLimit) :
    ∃ used stdout message n, supervise o limits m.clock p m =
      (outcome o p.launch.command true (.int (-9)) used stdout, n) ∧
      n.trace = m.trace ++
        [.wait (some t), .kill p.pid, .wait none, .log .debug .executor message] := by
  have earlier : m.clock.Below 1003 := clock.mono (by omega)
  have limit : (Value.float t).Below 1003 := ⟨.float t, rfl, small⟩
  obtain ⟨later, advanced, later_below⟩ := earlier.plus limit (by omega)
  have waited := waitOrKill_of_outlasts alive outlasts advanced
  have code : (Value.int (-9)).IsFinite := ⟨4, .int (-9), rfl, show 9 < 16 by omega⟩
  obtain ⟨stdout, reported⟩ := exists_reportedOutput (o := o) _ output
  obtain ⟨used, message, run⟩ := exists_supervise_of_waitOrKill limited waited clock later_below named
    code reported
  refine ⟨used, stdout, message, _, run, ?_⟩
  simp [record, recordAll]

theorem exists_supervise_of_reported {program : String} {path : Option String}
    {timeout : Option Binary64} {stdout : Fields} (alive : p.killed = false)
    (limited : realTimeout limits = .ok timeout) (timely : p.expires timeout = .ok false)
    (clock : m.clock.Below 1000) (duration : p.rule.duration.Below 1000)
    (code : p.rule.code.IsFinite) (named : p.launch.program = .ok program)
    (searched : p.launch.outputPath = .ok path)
    (reported : reportedOutput o limits ⟨p.rule.code, p.output⟩ = .ok stdout) :
    ∃ used message n, supervise o limits m.clock p m =
      (outcome o p.launch.command false p.rule.code used stdout, n) ∧
      n.trace = m.trace ++ [.wait timeout, .log .debug .executor message] := by
  obtain ⟨later, advanced, later_below⟩ := clock.plus duration (by omega)
  obtain ⟨files, waited⟩ := exists_waitOrKill_of_timely alive timely advanced searched
  obtain ⟨used, message, run⟩ := exists_supervise_of_waitOrKill limited waited clock
    (later_below.mono (by omega)) named code reported
  refine ⟨used, message, _, run, ?_⟩
  simp [record]

theorem exists_supervise_of_timely {program : String} {path : Option String}
    {timeout : Option Binary64} (alive : p.killed = false)
    (limited : realTimeout limits = .ok timeout) (timely : p.expires timeout = .ok false)
    (clock : m.clock.Below 1000) (duration : p.rule.duration.Below 1000)
    (code : p.rule.code.IsFinite) (named : p.launch.program = .ok program)
    (searched : p.launch.outputPath = .ok path) (output : limits.output.IsLimit) :
    ∃ used stdout message n, supervise o limits m.clock p m =
      (outcome o p.launch.command false p.rule.code used stdout, n) ∧
      n.trace = m.trace ++ [.wait timeout, .log .debug .executor message] := by
  obtain ⟨stdout, reported⟩ := exists_reportedOutput (o := o) ⟨p.rule.code, p.output⟩ output
  obtain ⟨used, run⟩ := exists_supervise_of_reported alive limited timely clock duration code named
    searched reported
  exact ⟨used, stdout, run⟩

theorem supervise_ok_of_timely {result : Value} (alive : p.killed = false)
    (timely : ∀ t, realTimeout limits = .ok (some t) → ¬ p.rule.Outlasts t)
    (h : supervise o limits start p m = (.ok result, n)) :
    ∃ used stdout, reportedOutput o limits ⟨p.rule.code, p.output⟩ = .ok stdout ∧
      result = endedResult false p.rule.code used stdout := by
  rw [supervise_eq] at h
  obtain ⟨timeout, limited, h⟩ := Step.run_lift_bind_eq_ok.mp h
  obtain ⟨⟨ending, killed⟩, ended, waited, h⟩ := Step.run_bind_eq_ok.mp h
  obtain ⟨-, used, stdout, reported, rfl⟩ := report_ok h
  obtain ⟨first, _, wait, rest⟩ := Step.run_bind_eq_ok.mp waited
  have within (t : Binary64) (same : timeout = some t) : ¬ p.rule.Outlasts t :=
    timely t (same ▸ limited)
  obtain rfl := Process.wait_ok_of_timely alive within wait
  cases rest
  exact ⟨used, stdout, reported, rfl⟩

/-! ## A call -/

/-- The time and all durations are of a magnitude below the thousandth power of two, and return codes
are finite. -/
structure Sound (m : Machine) : Prop where
  clock : m.clock.Below 1000
  durations : ∀ rule ∈ m.rules, rule.duration.Below 1000
  codes : ∀ rule ∈ m.rules, rule.code.IsFinite

theorem exists_program (o : ExecOptions) (m : Machine) (nonempty : words ≠ []) :
    ∃ program, (launchOf o (texts words) words m).program = .ok program := by
  obtain ⟨word, rest, rfl⟩ := List.exists_cons_of_ne_nil nonempty
  exact ⟨word, rfl⟩

theorem exists_ruleFor {l : Launch} {program : String} (rules : List Rule)
    (named : l.program = .ok program) : ∃ rule, ruleFor rules l = .ok rule := by
  unfold ruleFor
  split
  · exact ⟨_, rfl⟩
  · rw [named]
    exact ⟨_, rfl⟩

theorem below_zero : (Value.float .zero).Below 1000 :=
  ⟨.float .zero, rfl, Nat.mul_pos (twoTo_pos 1000) (twoTo_pos 1074)⟩

theorem Sound.duration {rule : Rule} (sound : Sound m) (ruled : rule ∈ m.rules ∨ rule = {}) :
    rule.duration.Below 1000 := by
  rcases ruled with member | rfl
  · exact sound.durations rule member
  · exact below_zero

theorem Sound.code {rule : Rule} (sound : Sound m) (ruled : rule ∈ m.rules ∨ rule = {}) :
    rule.code.IsFinite := by
  rcases ruled with member | rfl
  · exact sound.codes rule member
  · exact ⟨0, .int 0, rfl, twoTo_pos 0⟩

theorem exists_realTimeout (whole : o.Whole) :
    ∃ timeout, realTimeout o.limitsInForce = .ok timeout ∧
      ∀ t, timeout = some t → (Value.Number.float t).Below 1003 := by
  unfold realTimeout
  split
  · rename_i set
    have below : o.limitsInForce.real.Below 1001 :=
      ExecOptions.realInForce_below whole.time whole.real set
    obtain ⟨t, converted, small⟩ := Duration.exists_seconds below (by omega)
    refine ⟨some t, congrArg (some <$> ·) converted, ?_⟩
    intro t' same
    cases same
    exact small
  · exact ⟨none, rfl, nofun⟩

theorem wordsOf_texts (words : List String) : wordsOf (texts words) = .ok words :=
  texts_strings words

/-- The ways in which a call can end, each with its condition: the process is not started, it cannot
be put under its limits, it is killed, or it ends of itself. -/
structure Ends (o : ExecOptions) (words : List String) (m : Machine) (rule : Rule)
    (timeout : Option Binary64) (run : Except Fault Value × Machine) : Prop where
  notStarted : ∀ reason, rule.spawnError = some reason →
    run.1 = (if o.ignoreErrors.truthy then .ok (notStartedResult reason)
      else .error (.notStarted (texts words) reason)) ∧
    run.2.trace = m.trace ++
      [executing words, .spawn (launchOf o (texts words) words m)]
  refused : rule.spawnError = none →
    MemoryRefused o.limitsInForce ∨ CpuRefused o.limitsInForce →
    run.1 = .error .limitRefused ∧ ∃ settings, (∀ e ∈ settings, IsSetting e) ∧
      run.2.trace = m.trace ++
        [executing words, .spawn (launchOf o (texts words) words m)] ++ settings
  killed : rule.spawnError = none → ¬ MemoryRefused o.limitsInForce → ¬ CpuRefused o.limitsInForce →
    ∀ t, timeout = some t → rule.Outlasts t → ∃ used stdout message,
      run.1 = outcome o (texts words) true (.int (-9)) used stdout ∧
      run.2.trace = m.trace ++
        [executing words, .spawn (launchOf o (texts words) words m)] ++
        settingEvents o.limitsInForce ++
        [.wait (some t), .kill (firstPid + m.processes), .wait none, .log .debug .executor message]
  ended : rule.spawnError = none → ¬ MemoryRefused o.limitsInForce → ¬ CpuRefused o.limitsInForce →
    (∀ t, timeout = some t → ¬ rule.Outlasts t) → ∃ used stdout message,
      run.1 = outcome o (texts words) false rule.code used stdout ∧
      run.2.trace = m.trace ++
        [executing words, .spawn (launchOf o (texts words) words m)] ++
        settingEvents o.limitsInForce ++ [.wait timeout, .log .debug .executor message]

/-! ### By what the machine does -/

def processOf (o : ExecOptions) (words : List String) (m : Machine) (rule : Rule) : Process :=
  ⟨firstPid + m.processes, launchOf o (texts words) words m, rule, false⟩

def startedOn (o : ExecOptions) (words : List String) (m : Machine) : Machine :=
  { m.recordAll ([executing words, .spawn (launchOf o (texts words) words m)] ++
      settingEvents o.limitsInForce) with processes := m.processes + 1 }

section
variable {rule : Rule}
variable (call : ExecOptions.ofFields options = .ok o) (described : o.Described) (whole : o.Whole)
  (plain : ∀ w ∈ words, '\x00' ∉ w.toList)
  (ruled : ruleFor m.rules (launchOf o (texts words) words m) = .ok rule)

include call described whole in
theorem host_of_launch :
    host (texts words) options m =
      (launch (launchOf o (texts words) words m) (applyLimits o.limitsInForce) >>=
        attend o o.limitsInForce (texts words) m.clock) (m.record (executing words)) := by
  obtain ⟨t, time⟩ := whole.time.exists_amount
  exact host_eq call (ExecOptions.limits_eq described time) (wordsOf_texts words)

include call described whole plain ruled

theorem host_of_spawnError {reason : String} (refused : rule.spawnError = some reason) :
    host (texts words) options m =
      (if o.ignoreErrors.truthy then .ok (notStartedResult reason)
        else .error (.notStarted (texts words) reason),
        m.recordAll [executing words, .spawn (launchOf o (texts words) words m)]) := by
  have launched : launch _ (applyLimits o.limitsInForce) (m.record (executing words)) = _ :=
    launch_of_spawnError plain ruled refused
  rw [host_of_launch call described whole, Step.run_bind_of_ok launched, record_eq_recordAll,
    record_eq_recordAll, recordAll_recordAll]
  unfold attend
  dsimp only
  split <;> rfl

theorem exists_host_of_refused (spawns : rule.spawnError = none)
    (refused : MemoryRefused o.limitsInForce ∨ CpuRefused o.limitsInForce) :
    ∃ settings, (∀ e ∈ settings, IsSetting e) ∧
      host (texts words) options m = (.error .limitRefused,
        m.recordAll ([executing words, .spawn (launchOf o (texts words) words m)] ++ settings)) := by
  obtain ⟨settings, setting, limited⟩ := applyLimits_of_refused
    (m := (m.record (executing words)).record (.spawn (launchOf o (texts words) words m)))
    whole.mem refused
  refine ⟨settings, setting, ?_⟩
  have launched := launch_of_refused (m := m.record (executing words)) plain ruled spawns limited
  rw [host_of_launch call described whole, Step.run_bind_of_error launched]
  simp [record_eq_recordAll]

theorem host_of_limited (spawns : rule.spawnError = none)
    (memory : ¬ MemoryRefused o.limitsInForce) (cpu : ¬ CpuRefused o.limitsInForce) :
    host (texts words) options m =
      supervise o o.limitsInForce (startedOn o words m).clock (processOf o words m rule)
        (startedOn o words m) := by
  have limited := applyLimits_of_settable
    (m := (m.record (executing words)).record (.spawn (launchOf o (texts words) words m)))
    whole.mem whole.time memory cpu
  have launched := launch_of_limited (m := m.record (executing words)) plain ruled spawns limited
  rw [host_of_launch call described whole, Step.run_bind_of_ok launched]
  simp only [record_eq_recordAll, recordAll_recordAll]
  rfl

end

/-- A call on a machine with finite times and limits ends in exactly one of these ways. -/
theorem host_ends (nonempty : words ≠ []) (plain : ∀ w ∈ words, '\x00' ∉ w.toList)
    (call : ExecOptions.ofFields options = .ok o) (described : o.Described) (whole : o.Whole)
    (sound : Sound m) :
    ∃ rule timeout, ruleFor m.rules (launchOf o (texts words) words m) = .ok rule ∧
      realTimeout o.limitsInForce = .ok timeout ∧
      Ends o words m rule timeout (host (texts words) options m) := by
  obtain ⟨program, named⟩ := exists_program o m nonempty
  obtain ⟨rule, ruled⟩ := exists_ruleFor m.rules named
  have origin := mem_of_ruleFor ruled
  obtain ⟨timeout, limited, small⟩ := exists_realTimeout whole
  have started := host_of_limited call described whole plain ruled
  refine ⟨rule, timeout, ruled, limited, ?_, ?_, ?_, ?_⟩
  · intro reason refused
    rw [host_of_spawnError call described whole plain ruled refused]
    exact ⟨rfl, rfl⟩
  · intro spawns refused
    obtain ⟨settings, setting, run⟩ :=
      exists_host_of_refused call described whole plain ruled spawns refused
    rw [run]
    refine ⟨rfl, settings, setting, ?_⟩
    simp
  · rintro spawns memory cpu t rfl outlasts
    obtain ⟨used, stdout, message, n, run, trace⟩ := exists_supervise_of_outlasts
      (p := processOf o words m rule) (m := startedOn o words m) (o := o) rfl limited
      (small t rfl) outlasts sound.clock named whole.output
    rw [started spawns memory cpu, run]
    refine ⟨used, stdout, message, rfl, ?_⟩
    rw [trace]
    simp [startedOn, processOf]
  · intro spawns memory cpu timely
    have duration := sound.duration origin
    obtain ⟨_, number, -⟩ := id duration
    have lasts := Process.expires_of_not_outlasts (p := processOf o words m rule) number timely
    obtain ⟨used, stdout, message, n, run, trace⟩ := exists_supervise_of_timely
      (m := startedOn o words m) (o := o) rfl limited lasts sound.clock duration (sound.code origin)
      named rfl whole.output
    rw [started spawns memory cpu, run]
    refine ⟨used, stdout, message, rfl, ?_⟩
    rw [trace]
    simp [startedOn]

def slow : Machine := { blank with rules := [{ duration := .int 2 }] }

theorem sound_slow : Sound slow where
  clock := below_zero
  durations := by
    intro rule member
    cases List.mem_singleton.mp member
    exact ⟨.int 2, rfl, show 2 < twoTo 1000 by decide +kernel⟩
  codes := by
    intro rule member
    cases List.mem_singleton.mp member
    exact ⟨0, .int 0, rfl, twoTo_pos 0⟩

theorem host_ends_slow :
    (host (texts ["cc"]) [("real_time_limit", .int 1000)] slow).1 =
      .error (.failed (texts ["cc"]) (.int (-9))) := by
  have call : ExecOptions.ofFields [("real_time_limit", .int 1000)] =
      .ok ⟨.bool false, .bool false, .bool false, .null, .null, .int 1000, .null, .null, .str "",
        .null⟩ := rfl
  have real : Value.IsLimit (.int 1000) := Or.inr ⟨1000, rfl, by decide +kernel⟩
  have plain : ∀ w ∈ ["cc"], '\x00' ∉ w.toList := by decide
  obtain ⟨rule, timeout, ruled, limited, ends⟩ := host_ends (List.cons_ne_nil _ _) plain call
    (Or.inl rfl) ⟨Or.inl rfl, Or.inl rfl, real, Or.inl rfl⟩ sound_slow
  cases ruled
  have expires : (realTimeout ⟨.null, .null, .int 1000, .null⟩).toOption.any
      (·.any fun t => (Value.Number.float t).lt (.int 2)) = true := by decide +kernel
  change realTimeout ⟨.null, .null, .int 1000, .null⟩ = .ok timeout at limited
  rw [limited] at expires
  cases timeout with
  | none => cases expires
  | some t =>
    have unlimited : ¬ (Value.truthy .null = true) := nofun
    obtain ⟨used, stdout, message, result, -⟩ :=
      ends.killed rfl (fun memory => unlimited memory.1) (fun cpu => unlimited cpu.1) t rfl
        ⟨.int 2, rfl, expires⟩
    exact result

end Executor

end CompileJob

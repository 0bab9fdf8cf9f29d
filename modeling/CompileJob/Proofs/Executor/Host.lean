import CompileJob.Executor.Host
import CompileJob.Proofs.Machine
import CompileJob.Proofs.Step
import CompileJob.Proofs.Table

namespace CompileJob

open Machine

/-! ## The file of a process -/

inductive Process.Leaves (p : Process) (m : Machine) : Machine → Prop
  | nothing (silent : p.rule.outputSize = none ∨ p.launch.outputPath = .ok none) : Leaves p m m
  | file {path : String} {size : Value} (size_eq : p.rule.outputSize = some size)
      (path_eq : p.launch.outputPath = .ok (some path)) : Leaves p m (m.putFile path size)

def Process.Writes (p : Process) (path : String) : Prop :=
  p.rule.outputSize ≠ none ∧ p.launch.outputPath = .ok (some path)

variable {p : Process} {m n : Machine}

theorem Process.leaveOutput_ok (h : p.leaveOutput m = (.ok (), n)) : p.Leaves m n := by
  unfold leaveOutput at h
  cases size : p.rule.outputSize with
  | none =>
    rw [size] at h
    cases h
    exact .nothing (Or.inl size)
  | some bytes =>
    rw [size] at h
    obtain ⟨found, path, h⟩ := Step.run_lift_bind_eq_ok.mp h
    cases found with
    | none =>
      cases h
      exact .nothing (Or.inr path)
    | some name =>
      cases h
      exact .file size path

theorem Process.Leaves.later (h : p.Leaves m n) : m.Later n := by
  cases h <;> exact ⟨rfl, List.prefix_rfl⟩

theorem Process.Leaves.exists_of_exists {path : String} (h : p.Leaves m n)
    (there : n.exists? path = true) : m.exists? path = true ∨ p.Writes path := by
  cases h with
  | nothing => exact Or.inl there
  | file size_eq path_eq =>
    rename_i written size
    by_cases same : written = path
    · subst same
      exact Or.inr ⟨by simp [size_eq], path_eq⟩
    · refine Or.inl ?_
      simp only [Machine.exists?, putFile, Table.has_put] at there
      simpa [Machine.exists?, isDir, same] using there

/-! ## Starting a process -/

theorem Machine.mem_of_ruleFor {rules : List Rule} {l : Launch} {rule : Rule}
    (h : ruleFor rules l = .ok rule) : rule ∈ rules ∨ rule = {} := by
  unfold ruleFor at h
  split at h
  · cases h
    exact Or.inr rfl
  · obtain ⟨program, -, h⟩ := Except.bind_eq_ok.mp h
    cases found : rules.find? fun r => r.exe.all (·.equal (.str program)) with
    | none =>
      rw [found] at h
      cases h
      exact Or.inr rfl
    | some first =>
      rw [found] at h
      cases h
      exact Or.inl (List.mem_of_find?_eq_some found)

inductive Launched (l : Launch) (m : Machine) : Except String Process → Machine → Prop
  | refused {rule : Rule} {reason : String} (rule_eq : ruleFor m.rules l = .ok rule)
      (spawnError : rule.spawnError = some reason) :
      Launched l m (.error reason) (m.record (.spawn l))
  | started {p : Process} {limited n : Machine} (launch_eq : p.launch = l)
      (pid_eq : p.pid = firstPid + limited.processes) (alive : p.killed = false)
      (rule_eq : ruleFor m.rules l = .ok p.rule) (spawnError : p.rule.spawnError = none)
      (limits : (m.record (.spawn l)).Recorded limited)
      (counted : n = { limited with processes := limited.processes + 1 }) : Launched l m (.ok p) n

theorem setLimit_ok {resource : Resource} {limit : Int}
    (h : setLimit resource limit m = (.ok (), n)) : m.Recorded n := by
  unfold setLimit at h
  split at h
  · cases h
    exact recorded_record _ _
  · cases h

namespace Executor

def limitWhere (wanted : Bool) (resource : Resource) (limit : Except Fault Int) :
    Step Machine Unit :=
  if wanted then do setLimit resource (← limit) else pure ()

theorem applyLimits_eq (limits : Limits) :
    applyLimits limits = (do
      emit .setGroup
      limitWhere limits.mem.truthy .memory (memoryBytes limits.mem)
      limitWhere limits.time.truthy .cpu (Duration.wholeSeconds limits.time)) := by
  unfold applyLimits limitWhere
  cases limits.mem.truthy with
  | false => rfl
  | true =>
    simp only [if_true, bind_assoc]

theorem limitWhere_ok {wanted : Bool} {resource : Resource} {limit : Except Fault Int}
    (h : limitWhere wanted resource limit m = (.ok (), n)) : m.Recorded n := by
  cases wanted with
  | false =>
    cases h
    exact .refl m
  | true =>
    obtain ⟨amount, -, set⟩ := Step.run_lift_bind_eq_ok.mp h
    exact setLimit_ok set

theorem applyLimits_ok {limits : Limits} (h : applyLimits limits m = (.ok (), n)) :
    m.Recorded n := by
  rw [applyLimits_eq] at h
  obtain ⟨_, grouped, group, h⟩ := Step.run_bind_eq_ok.mp h
  obtain ⟨_, limited, memory, cpu⟩ := Step.run_bind_eq_ok.mp h
  have recorded : m.Recorded grouped := by
    cases group
    exact recorded_record _ _
  exact (recorded.trans (limitWhere_ok memory)).trans (limitWhere_ok cpu)

end Executor

theorem Machine.launch_ok {l : Launch} {limits : Step Machine Unit}
    {started : Except String Process} (h : launch l limits m = (.ok started, n))
    (recorded : ∀ {m n}, limits m = (.ok (), n) → m.Recorded n) : Launched l m started n := by
  unfold launch at h
  split at h
  · cases h
  · obtain ⟨_, spawned, spawn, h⟩ := Step.run_bind_eq_ok.mp h
    cases spawn
    rw [Step.run_bind_of_ok (Step.run_get _)] at h
    obtain ⟨rule, rule_eq, h⟩ := Step.run_lift_bind_eq_ok.mp h
    cases spawnError : rule.spawnError with
    | some reason =>
      rw [spawnError] at h
      cases h
      exact .refused rule_eq spawnError
    | none =>
      rw [spawnError] at h
      obtain ⟨_, limited, caught, h⟩ := Step.run_bind_eq_ok.mp h
      have limit := Step.run_tryCatch_throw_eq_ok.mp caught
      cases h
      exact .started rfl rfl rfl rule_eq spawnError (recorded limit) rfl

/-! ## Waiting for it -/

inductive Process.Waited (p : Process) (m : Machine) : Option Ending → Machine → Prop
  | reaped {n : Machine} (killed : p.killed = true) (quiet : m.Quiet n) :
      Waited p m (some ⟨.int killedCode, p.output⟩) n
  | expired {n : Machine} (alive : p.killed = false) (quiet : m.Quiet n) : Waited p m none n
  | ended {before n : Machine} (alive : p.killed = false) (quiet : m.Quiet before)
      (leaves : p.Leaves before n) : Waited p m (some ⟨p.rule.code, p.output⟩) n

theorem Process.advance_ok {time : Value} (h : advance time m = (.ok (), n)) : m.Quiet n := by
  unfold advance at h
  rw [Step.run_bind_of_ok (Step.run_get _)] at h
  obtain ⟨clock, -, h⟩ := Step.run_lift_bind_eq_ok.mp h
  cases h
  exact ⟨clock, m.processes, [], by simp⟩

theorem Process.wait_ok {timeout : Option Binary64} {ending : Option Ending}
    (h : p.wait timeout m = (.ok ending, n)) : p.Waited (m.record (.wait timeout)) ending n := by
  unfold wait at h
  rw [Step.run_bind_of_ok (run_emit _ _)] at h
  cases killed : p.killed with
  | true =>
    rw [killed] at h
    cases h
    exact .reaped killed (.refl _)
  | false =>
    rw [killed] at h
    obtain ⟨expires, -, h⟩ := Step.run_lift_bind_eq_ok.mp h
    cases expires with
    | true =>
      obtain ⟨_, _, advanced, h⟩ := Step.run_bind_eq_ok.mp h
      cases h
      exact .expired killed (advance_ok advanced)
    | false =>
      obtain ⟨_, before, advanced, h⟩ := Step.run_bind_eq_ok.mp h
      obtain ⟨_, _, left, h⟩ := Step.run_bind_eq_ok.mp h
      cases h
      exact .ended killed (advance_ok advanced) (leaveOutput_ok left)

inductive Process.Ended (p : Process) (m : Machine) : Ending → Bool → Machine → Prop
  | itself {before n : Machine} (quiet : m.Quiet before) (leaves : p.Leaves before n) :
      Ended p m ⟨p.rule.code, p.output⟩ false n
  | killed {n : Machine} (quiet : m.Quiet n) : Ended p m ⟨.int killedCode, p.output⟩ true n

namespace Executor

theorem waitOrKill_ok {timeout : Option Binary64} {ending : Ending} {killed : Bool}
    (alive : p.killed = false) (h : waitOrKill p timeout m = (.ok (ending, killed), n)) :
    p.Ended m ending killed n := by
  unfold waitOrKill at h
  obtain ⟨first, waited, wait, h⟩ := Step.run_bind_eq_ok.mp h
  have began := (recorded_record m (.wait timeout)).quiet
  cases Process.wait_ok wait with
  | reaped dead =>
    rw [alive] at dead
    cases dead
  | ended _ quiet leaves =>
    cases h
    exact .itself (began.trans quiet) leaves
  | expired _ quiet =>
    obtain ⟨dead, signalled, kill, h⟩ := Step.run_bind_eq_ok.mp h
    cases kill
    have killing := (recorded_record waited (.kill p.pid)).quiet
    have waiting := (recorded_record (waited.record (.kill p.pid)) (.wait none)).quiet
    obtain ⟨second, _, wait, h⟩ := Step.run_bind_eq_ok.mp h
    cases Process.wait_ok wait with
    | reaped _ further =>
      cases h
      exact .killed (((began.trans quiet).trans killing).trans (waiting.trans further))
    | ended alive => cases alive
    | expired alive => cases alive

def report (o : ExecOptions) (limits : Limits) (start : Value) (p : Process) (ending : Ending)
    (killed : Bool) : Step Machine Value := do
  let elapsed ← (← get).clock.minus start
  let used ← Duration.millis elapsed
  let program ← p.launch.program
  logFormatted .debug .executor (endedMessage program ending.code elapsed)
  let stdout ← reportedOutput o limits ending
  if ending.code.truthy && !o.ignoreErrors.truthy then throw (.failed p.launch.command ending.code)
  return endedResult killed ending.code used stdout

theorem supervise_eq (o : ExecOptions) (limits : Limits) (start : Value) (p : Process) :
    supervise o limits start p = (do
      let timeout ← realTimeout limits
      let (ending, killed) ← waitOrKill p timeout
      report o limits start p ending killed) := rfl

theorem report_ok {o : ExecOptions} {limits : Limits} {start result : Value} {ending : Ending}
    {killed : Bool} (h : report o limits start p ending killed m = (.ok result, n)) :
    m.Recorded n ∧ ∃ used stdout, reportedOutput o limits ending = .ok stdout ∧
      result = endedResult killed ending.code used stdout := by
  unfold report at h
  rw [Step.run_bind_of_ok (Step.run_get _)] at h
  obtain ⟨elapsed, -, h⟩ := Step.run_lift_bind_eq_ok.mp h
  obtain ⟨used, -, h⟩ := Step.run_lift_bind_eq_ok.mp h
  obtain ⟨program, -, h⟩ := Step.run_lift_bind_eq_ok.mp h
  obtain ⟨_, later, log, h⟩ := Step.run_bind_eq_ok.mp h
  obtain ⟨stdout, reported, h⟩ := Step.run_lift_bind_eq_ok.mp h
  have recorded : m.Recorded later := by
    rw [run_logFormatted] at log
    rw [← (Prod.mk.inj log).2]
    exact recorded_recordAll _ _
  have same : later = n ∧ result = endedResult killed ending.code used stdout := by
    split at h <;> cases h
    exact ⟨rfl, rfl⟩
  obtain ⟨rfl, rfl⟩ := same
  exact ⟨recorded, used, stdout, reported, rfl⟩

theorem supervise_ok {o : ExecOptions} {limits : Limits} {start result : Value}
    (alive : p.killed = false) (h : supervise o limits start p m = (.ok result, n)) :
    ∃ ending killed ended used stdout, p.Ended m ending killed ended ∧ ended.Recorded n ∧
      result = endedResult killed ending.code used stdout := by
  rw [supervise_eq] at h
  obtain ⟨timeout, -, h⟩ := Step.run_lift_bind_eq_ok.mp h
  obtain ⟨⟨ending, killed⟩, ended, waited, h⟩ := Step.run_bind_eq_ok.mp h
  obtain ⟨recorded, used, stdout, -, rfl⟩ := report_ok h
  exact ⟨ending, killed, ended, used, stdout, waitOrKill_ok alive waited, recorded, rfl⟩

/-! ## The result -/

/-- Between `m` and `n` the command was given to the machine to be started, whose rule for it is
`rule`. -/
structure Spawned (command : Value) (m n : Machine) (l : Launch) (rule : Rule) : Prop where
  command_eq : l.command = command
  rule_eq : ruleFor m.rules l = .ok rule
  added : m.Added n (.spawn l)

theorem Spawned.widen {command : Value} {l : Launch} {rule : Rule} {m' n' : Machine}
    (earlier : m.Later m') (h : Spawned command m' n' l rule) (later : n'.Later n) :
    Spawned command m n l rule :=
  ⟨h.command_eq, earlier.rules_eq ▸ h.rule_eq, (h.added.until_later later).since_earlier earlier⟩

inductive Reported (command : Value) (m : Machine) : Value → Machine → Prop
  | notStarted {n : Machine} {l : Launch} {rule : Rule} {reason : String}
      (spawned : Spawned command m n l rule) (spawnError : rule.spawnError = some reason)
      (recorded : m.Recorded n) : Reported command m (notStartedResult reason) n
  | killed {n : Machine} {used : Int} {stdout : Fields} (p : Process)
      (spawned : Spawned command m n p.launch p.rule) (quiet : m.Quiet n) :
      Reported command m (endedResult true (.int Process.killedCode) used stdout) n
  | ended {before left n : Machine} {used : Int} {stdout : Fields} (p : Process)
      (spawned : Spawned command m n p.launch p.rule) (quiet : m.Quiet before)
      (leaves : p.Leaves before left) (recorded : left.Recorded n) :
      Reported command m (endedResult false p.rule.code used stdout) n

theorem reported_of_supervise {command start result : Value} {o : ExecOptions} {limits : Limits}
    {started : Machine} (before : m.Quiet started)
    (spawned : Spawned command m started p.launch p.rule) (alive : p.killed = false)
    (h : supervise o limits start p started = (.ok result, n)) : Reported command m result n := by
  obtain ⟨ending, killed, ended, used, stdout, came, reported, rfl⟩ := supervise_ok alive h
  have stays := (Quiet.refl m).later
  cases came with
  | itself quiet leaves =>
    have later := (quiet.later.trans leaves.later).trans reported.quiet.later
    exact .ended p (spawned.widen stays later) (before.trans quiet) leaves reported
  | killed quiet =>
    have quiet := quiet.trans reported.quiet
    exact .killed p (spawned.widen stays quiet.later) (before.trans quiet)

theorem host_ok {command result : Value} {options : Fields}
    (h : host command options m = (.ok result, n)) : Reported command m result n := by
  unfold host at h
  obtain ⟨o, -, h⟩ := Step.run_lift_bind_eq_ok.mp h
  obtain ⟨limits, -, h⟩ := Step.run_lift_bind_eq_ok.mp h
  obtain ⟨words, -, h⟩ := Step.run_lift_bind_eq_ok.mp h
  obtain ⟨_, logged, log, h⟩ := Step.run_bind_eq_ok.mp h
  rw [Step.run_bind_of_ok (Step.run_get _)] at h
  obtain ⟨started, launched, launch, h⟩ := Step.run_bind_eq_ok.mp h
  have recorded : m.Recorded logged := by
    cases log
    exact recorded_record _ _
  have rules := recorded.quiet.later.rules_eq
  have spawn (l : Launch) : m.Added (logged.record (.spawn l)) (.spawn l) :=
    (added_record logged (.spawn l)).since_earlier recorded.quiet.later
  -- The rules are read after the first log line, which leaves them as they were on `m`.
  cases launch_ok launch applyLimits_ok with
  | refused rule_eq spawnError =>
    dsimp only at h
    split at h
    · cases h
      exact .notStarted ⟨rfl, rules ▸ rule_eq, spawn _⟩ spawnError
        (recorded.trans (recorded_record logged (.spawn _)))
    · cases h
  | started launch_eq pid_eq alive rule_eq spawnError limited counted =>
    rename_i p limited_machine
    have after : (logged.record (.spawn p.launch)).Quiet launched := by
      rw [launch_eq, counted]
      exact limited.quiet.trans
        ⟨limited_machine.clock, limited_machine.processes + 1, [], by simp⟩
    have before := (recorded.trans (recorded_record logged (.spawn p.launch))).quiet.trans after
    have spawned : Spawned command m launched p.launch p.rule :=
      ⟨by rw [launch_eq], by rw [launch_eq, ← rules, rule_eq], (spawn _).until_later after.later⟩
    exact reported_of_supervise before spawned alive h

/-! ## What holds of every result -/

variable {command result : Value}

theorem Reported.later (h : Reported command m result n) : m.Later n := by
  cases h with
  | notStarted spawned spawnError recorded => exact recorded.quiet.later
  | killed p spawned quiet => exact quiet.later
  | ended p spawned quiet leaves recorded =>
    exact (quiet.later.trans leaves.later).trans recorded.quiet.later

theorem Reported.exists_of_exists {path : String} (h : Reported command m result n)
    (there : n.exists? path = true) : m.exists? path = true ∨
      ∃ p : Process, Spawned command m n p.launch p.rule ∧ p.Writes path := by
  cases h with
  | notStarted spawned spawnError recorded =>
    rw [recorded.quiet.exists_eq] at there
    exact Or.inl there
  | killed p spawned quiet =>
    rw [quiet.exists_eq] at there
    exact Or.inl there
  | ended p spawned quiet leaves recorded =>
    rw [recorded.quiet.exists_eq] at there
    rcases leaves.exists_of_exists there with before | writes
    · rw [quiet.exists_eq] at before
      exact Or.inl before
    · exact Or.inr ⟨p, spawned, writes⟩

theorem Reported.ended_of_zero {code : Value} (h : Reported command m result n)
    (reports : result.item "return_code" = .ok code) (zero : code.truthy = false) :
    ∃ (p : Process) (before left : Machine), Spawned command m n p.launch p.rule ∧
      p.rule.code = code ∧ m.Quiet before ∧ p.Leaves before left ∧ left.Recorded n := by
  cases h with
  | notStarted spawned spawnError recorded =>
    cases reports
    cases zero
  | killed p spawned quiet =>
    cases reports
    cases zero
  | ended p spawned quiet leaves recorded =>
    cases reports
    exact ⟨p, _, _, spawned, rfl, quiet, leaves, recorded⟩

end Executor

end CompileJob

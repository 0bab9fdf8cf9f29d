import CompileJob.Proofs.Executor.Report
import Mathlib.Tactic.Lift

namespace CompileJob.Executor

variable {o : ExecOptions} {limits : Limits} {command result : Value} {options : Fields}
  {m n : Machine} {reason : String}

structure Documented (o : ExecOptions) (limits : Limits) (result : Value) : Prop where
  code : result.hasField "return_code" = true
  time : result.hasField "real_time_used" = true
  output_iff : result.hasField "stdout" = true ↔ o.captureOutput.truthy = true
  within : ∀ content limit, result.item "stdout" = .ok (.bytes content) →
    limits.output.number? = some (.int limit) → 0 < limit → content.length ≤ limit

def Refused (o : ExecOptions) (command : Value) (m : Machine) (reason : String) : Prop :=
  ∃ words rule, wordsOf command = .ok words ∧
    Machine.ruleFor m.rules (launchOf o command words m) = .ok rule ∧
    rule.spawnError = some reason

theorem Refused.exists_rule {words : List String} (h : Refused o command m reason)
    (spoken : wordsOf command = .ok words) :
    ∃ rule, Machine.ruleFor m.rules (launchOf o command words m) = .ok rule ∧
      rule.spawnError = some reason := by
  obtain ⟨words', rule, spoken', ruled, refused⟩ := h
  rw [spoken] at spoken'
  cases spoken'
  exact ⟨rule, ruled, refused⟩

theorem Refused.unique {other : String} (h : Refused o command m reason)
    (h' : Refused o command m other) : reason = other := by
  obtain ⟨words, rule, spoken, ruled, refused⟩ := h
  obtain ⟨rule', ruled', refused'⟩ := h'.exists_rule spoken
  rw [← Except.ok.inj (ruled.symm.trans ruled'), refused] at refused'
  exact Option.some.inj refused'

/-! ## Commands that were started -/

def OfProcess (o : ExecOptions) (limits : Limits) (result : Value) : Prop :=
  ∃ ending killed used stdout, reportedOutput o limits ending = .ok stdout ∧
    result = endedResult killed ending.code used stdout

theorem supervise_gives (o : ExecOptions) (limits : Limits) (start : Value) (p : Process) :
    (supervise o limits start p).Gives (OfProcess o limits) := by
  rw [supervise_eq]
  refine gives_bind fun timeout => gives_bind fun ended => ?_
  intro m result n run
  obtain ⟨-, used, stdout, reported, rfl⟩ := report_ok run
  exact ⟨ended.1, ended.2, used, stdout, reported, rfl⟩

theorem limitOutput_of_positive {content : List UInt8} {v : Value} {limit : Nat}
    (number : v.number? = some (.int limit)) (positive : 0 < limit) :
    limitOutput content v = .ok (content.take limit) := by
  have set : v.truthy = true := (Value.truthy_of_number? number).mpr (by omega)
  simp [limitOutput, set, number, takeBytes]

theorem limitOutput_length {content cut : List UInt8} {v : Value} {limit : Int}
    (h : limitOutput content v = .ok cut) (number : v.number? = some (.int limit))
    (positive : 0 < limit) : cut.length ≤ limit := by
  lift limit to Nat using by omega
  rw [limitOutput_of_positive number (by omega)] at h
  cases h
  rw [List.length_take]
  omega

theorem documented_of_output {killed : Bool} {code : Value} {used : Int} {content : List UInt8}
    (captured : o.captureOutput.truthy = true)
    (short : ∀ limit : Int, limits.output.number? = some (.int limit) → 0 < limit →
      content.length ≤ limit) :
    Documented o limits (endedResult killed code used [("stdout", .bytes content)]) := by
  cases killed <;> exact ⟨rfl, rfl, ⟨fun _ => captured, fun _ => rfl⟩, fun _ limit held => by
    cases held
    exact short limit⟩

theorem documented_of_silence {killed : Bool} {code : Value} {used : Int}
    (uncaptured : ¬ o.captureOutput.truthy = true) :
    Documented o limits (endedResult killed code used []) := by
  cases killed <;> exact ⟨rfl, rfl, ⟨nofun, fun captured => absurd captured uncaptured⟩, nofun⟩

theorem OfProcess.documented (h : OfProcess o limits result) : Documented o limits result := by
  obtain ⟨ending, killed, used, stdout, reported, rfl⟩ := h
  unfold reportedOutput at reported
  split at reported
  · rename_i captured
    obtain ⟨content, cut, reported⟩ := Except.bind_eq_ok.mp reported
    cases reported
    exact documented_of_output captured fun limit number => limitOutput_length cut number
  · rename_i uncaptured
    cases reported
    exact documented_of_silence uncaptured

/-! ## Results -/

theorem host_result (call : ExecOptions.ofFields options = .ok o) (limited : o.limits = .ok limits)
    (returned : host command options m = (.ok result, n)) :
    (∃ reason, Refused o command m reason ∧ result = notStartedResult reason) ∨
      (∀ reason, ¬ Refused o command m reason) ∧ OfProcess o limits result := by
  have run := returned
  unfold host at run
  rw [Step.run_lift_bind_of_ok call, Step.run_lift_bind_of_ok limited] at run
  obtain ⟨words, spoken, -⟩ := Step.run_lift_bind_eq_ok.mp run
  rw [host_eq call limited spoken] at returned
  obtain ⟨started, launched, launch, attended⟩ := Step.run_bind_eq_ok.mp returned
  cases Machine.launch_ok launch applyLimits_ok with
  | refused ruled refused =>
    refine Or.inl ⟨_, ⟨words, _, spoken, ruled, refused⟩, ?_⟩
    unfold attend at attended
    dsimp only at attended
    split at attended <;> cases attended
    rfl
  | started _ _ _ ruled spawns =>
    refine Or.inr ⟨?_, supervise_gives _ _ _ _ _ _ _ attended⟩
    intro reason refused
    obtain ⟨rule, ruled', refused⟩ := refused.exists_rule spoken
    rw [Except.ok.inj (ruled'.symm.trans ruled), spawns] at refused
    cases refused

theorem documented_notStarted_iff (o : ExecOptions) (limits : Limits) (reason : String) :
    Documented o limits (notStartedResult reason) ↔ o.captureOutput.truthy = true ∧
      ∀ limit : Int, limits.output.number? = some (.int limit) → 0 < limit →
        ((Utf8.encode reason.toList).length : Int) ≤ limit := by
  constructor
  · intro documented
    exact ⟨documented.output_iff.mp rfl, fun limit => documented.within _ limit rfl⟩
  · rintro ⟨captured, short⟩
    refine ⟨rfl, rfl, ⟨fun _ => captured, fun _ => rfl⟩, ?_⟩
    intro content limit held
    cases held
    exact short limit

/-- Every result holds a code and a time. It is otherwise as documented too, unless the machine
refused to start the command: then it is so just when the output was asked for and the reason is not
longer than the limit. -/
theorem documented_iff (call : ExecOptions.ofFields options = .ok o)
    (limited : o.limits = .ok limits) (returned : host command options m = (.ok result, n)) :
    result.hasField "return_code" = true ∧ result.hasField "real_time_used" = true ∧
      (Documented o limits result ↔ ∀ reason, Refused o command m reason →
        o.captureOutput.truthy = true ∧
          ∀ limit : Int, limits.output.number? = some (.int limit) → 0 < limit →
            ((Utf8.encode reason.toList).length : Int) ≤ limit) := by
  rcases host_result call limited returned with ⟨reason, refused, rfl⟩ | ⟨started, ended⟩
  · refine ⟨rfl, rfl, ?_⟩
    rw [documented_notStarted_iff]
    constructor
    · intro fits other refused'
      rwa [← refused.unique refused']
    · exact fun fits => fits reason refused
  · have documented := ended.documented
    exact ⟨documented.code, documented.time,
      fun _ reason refused => absurd refused (started reason), fun _ => documented⟩

def talkative : Machine :=
  { Machine.blank with
    rules := [{ duration := .int 2, stdout := [104, 101, 108, 108, 111] }] }

def brief : Fields :=
  [("ignore_errors", .bool true), ("capture_output", .bool true), ("real_time_limit", .int 1000),
    ("output_limit", .int 3)]

theorem documented_iff_killed :
    ∃ o limits result n, ExecOptions.ofFields brief = .ok o ∧ o.limits = .ok limits ∧
      host (texts ["cc"]) brief talkative = (.ok result, n) ∧ Documented o limits result := by
  have returns : (host (texts ["cc"]) brief talkative).1.isOk = true := by decide +kernel
  cases run : host (texts ["cc"]) brief talkative with
  | mk r n =>
    rw [run] at returns
    cases r with
    | error e => cases returns
    | ok result =>
      refine ⟨_, _, result, n, rfl, rfl, rfl, ?_⟩
      refine (documented_iff rfl rfl run).2.2.mpr fun reason refused => ?_
      obtain ⟨rule, ruled, refused⟩ := refused.exists_rule rfl
      cases ruled
      cases refused

def refusing : Machine := { Machine.blank with rules := [{ spawnError := some "No such file" }] }

theorem reason_reported_unasked :
    ¬ ∀ (o : ExecOptions) (limits : Limits) (command result : Value) (options : Fields)
      (m n : Machine), ExecOptions.ofFields options = .ok o → o.limits = .ok limits →
      host command options m = (.ok result, n) → Documented o limits result := by
  intro claim
  have documented := claim _ _ (texts ["nope"]) _ [("ignore_errors", .bool true)] refusing _ rfl rfl
    rfl
  exact absurd (documented.output_iff.mp rfl) nofun

end CompileJob.Executor

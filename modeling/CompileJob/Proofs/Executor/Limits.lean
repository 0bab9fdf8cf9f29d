import CompileJob.Proofs.Executor.Host
import CompileJob.Proofs.Value.Magnitude

namespace CompileJob

/-! ## Limits in force -/

def Value.IsLimit (v : Value) : Prop :=
  v = .null ∨ ∃ n, v.number? = some (.int n) ∧ n.natAbs < twoTo 1000

namespace ExecOptions

def inForce (o : ExecOptions) (name : String) (given : Value) : Value :=
  match o.environ, o.scope with
  | .object fields, .str scope => Table.getD fields (scope ++ name) given
  | _, _ => given

def realInForce (time real : Value) : Value :=
  if real.isNull then
    match time.number? with
    | some (.int t) => if t = 0 then .null else .int (2 * t)
    | _ => .null
  else real

def limitsInForce (o : ExecOptions) : Limits where
  mem := o.inForce "mem_limit" o.memLimit
  time := o.inForce "time_limit" o.timeLimit
  real := realInForce (o.inForce "time_limit" o.timeLimit)
    (o.inForce "real_time_limit" o.realTimeLimit)
  output := o.inForce "output_limit" o.outputLimit

/-- There is nothing to override the options, or an object and a text for the scope. -/
def Described (o : ExecOptions) : Prop :=
  o.environ.truthy = false ∨ ∃ fields scope, o.environ = .object fields ∧ o.scope = .str scope

structure Whole (o : ExecOptions) : Prop where
  mem : (o.inForce "mem_limit" o.memLimit).IsLimit
  time : (o.inForce "time_limit" o.timeLimit).IsLimit
  real : (o.inForce "real_time_limit" o.realTimeLimit).IsLimit
  output : (o.inForce "output_limit" o.outputLimit).IsLimit

variable {o : ExecOptions} {name : String} {given : Value}

theorem inForce_of_not_truthy (h : o.environ.truthy = false) : o.inForce name given = given := by
  unfold inForce
  cases environ : o.environ with
  | object fields =>
    rw [environ] at h
    cases fields with
    | nil => cases o.scope <;> rfl
    | cons => cases h
  | _ => rfl

theorem override_eq (described : o.Described) :
    o.override name given = .ok (o.inForce name given) := by
  rcases described with empty | ⟨fields, scope, environ, scope_eq⟩
  · rw [inForce_of_not_truthy empty, override, empty]
    rfl
  · unfold override inForce
    rw [environ, scope_eq]
    cases fields <;> rfl

end ExecOptions

namespace Value

variable {v : Value} {n : Int}

theorem truthy_of_number? (h : v.number? = some (.int n)) : v.truthy = true ↔ n ≠ 0 := by
  cases v with
  | bool b =>
    cases h
    cases b <;> simp [truthy, Bool.toInt]
  | int m =>
    cases h
    simp [truthy]
  | _ => cases h

theorem double_of_number? (h : v.number? = some (.int n)) :
    ExecOptions.double v = .ok (.int (2 * n)) := by
  cases v with
  | bool | int =>
    cases h
    rfl
  | _ => cases h

def Amount (v : Value) (n : Int) : Prop := v = .null ∧ n = 0 ∨ v.number? = some (.int n)

theorem Amount.truthy_iff (h : v.Amount n) : v.truthy = true ↔ n ≠ 0 := by
  rcases h with ⟨rfl, rfl⟩ | number
  · simp [truthy]
  · exact truthy_of_number? number

theorem Amount.truthy_eq_false (h : v.Amount 0) : v.truthy = false :=
  Bool.eq_false_iff.mpr fun set => h.truthy_iff.mp set rfl

theorem Amount.number (h : v.Amount n) (nonzero : n ≠ 0) : v.number? = some (.int n) :=
  h.resolve_left fun null => nonzero null.2

theorem IsLimit.exists_amount (h : v.IsLimit) : ∃ n, v.Amount n := by
  rcases h with rfl | ⟨n, number, -⟩
  · exact ⟨0, Or.inl ⟨rfl, rfl⟩⟩
  · exact ⟨n, Or.inr number⟩

theorem IsLimit.exists_int (h : v.IsLimit) (set : v.truthy = true) :
    ∃ n, v.number? = some (.int n) ∧ n.natAbs < twoTo 1000 := by
  rcases h with rfl | limit
  · cases set
  · exact limit

theorem IsLimit.below (h : v.IsLimit) (set : v.truthy = true) : v.Below 1000 := by
  obtain ⟨n, number, small⟩ := h.exists_int set
  exact ⟨.int n, number, small⟩

end Value

namespace ExecOptions

variable {o : ExecOptions}

theorem realLimit_eq {time : Value} {t : Int} (amount : time.Amount t) (real : Value) :
    realLimit time real = .ok (realInForce time real) := by
  unfold realLimit realInForce
  cases null : real.isNull with
  | false => simp
  | true =>
    have real_eq : real = .null := by
      cases real with
      | null => rfl
      | _ => cases null
    subst real_eq
    by_cases zero : t = 0
    · subst zero
      rw [amount.truthy_eq_false]
      rcases amount with ⟨rfl, -⟩ | number
      · rfl
      · simp [number]
    · have number := amount.number zero
      simp [amount.truthy_iff.mpr zero, number, zero, Value.double_of_number? number]

theorem limits_eq {t : Int} (described : o.Described)
    (time : (o.inForce "time_limit" o.timeLimit).Amount t) : o.limits = .ok o.limitsInForce := by
  unfold limits
  simp only [override_eq described]
  show (do
    let real ← realLimit (o.inForce "time_limit" o.timeLimit)
      (o.inForce "real_time_limit" o.realTimeLimit)
    return { o.limitsInForce with real }) = _
  rw [realLimit_eq time]
  rfl

theorem realInForce_below {time real : Value} (ht : time.IsLimit) (hr : real.IsLimit)
    (set : (realInForce time real).truthy = true) : (realInForce time real).Below 1001 := by
  rcases hr with rfl | ⟨r, number, small⟩
  · rcases ht with rfl | ⟨t, number, small⟩
    · cases set
    · have doubled : realInForce time .null = if t = 0 then .null else .int (2 * t) := by
        rw [realInForce, number]
        rfl
      rw [doubled] at set ⊢
      by_cases zero : t = 0
      · rw [if_pos zero] at set
        cases set
      · rw [if_neg zero]
        refine ⟨.int (2 * t), rfl, ?_⟩
        show (2 * t).natAbs < twoTo (1000 + 1)
        rw [twoTo_succ]
        omega
  · have own : realInForce time real = real := by
      cases real with
      | null => cases number
      | _ => rfl
    rw [own]
    exact Value.Below.mono ⟨.int r, number, small⟩ (Nat.le_succ 1000)

end ExecOptions

/-! ## Limits on a new process -/

namespace Executor

open Machine

def Settable (limit : Int) : Prop := -limitBound ≤ limit ∧ limit < limitBound

instance (limit : Int) : Decidable (Settable limit) :=
  inferInstanceAs (Decidable (-limitBound ≤ limit ∧ limit < limitBound))

def MemoryRefused (limits : Limits) : Prop :=
  limits.mem.truthy = true ∧ ∃ bytes, memoryBytes limits.mem = .ok bytes ∧ ¬ Settable bytes

def CpuRefused (limits : Limits) : Prop :=
  limits.time.truthy = true ∧
    ∃ secs, Duration.wholeSeconds limits.time = .ok secs ∧ ¬ Settable secs

def limitEvents (wanted : Bool) (resource : Resource) (limit : Except Fault Int) : List Event :=
  match wanted, limit with
  | true, .ok amount => [.setLimit resource amount]
  | _, _ => []

def settingEvents (limits : Limits) : List Event :=
  [.setGroup] ++ limitEvents limits.mem.truthy .memory (memoryBytes limits.mem) ++
    limitEvents limits.time.truthy .cpu (Duration.wholeSeconds limits.time)

def IsSetting (e : Event) : Prop := e = .setGroup ∨ ∃ resource amount, e = .setLimit resource amount

variable {limits : Limits} {resource : Resource} {wanted : Bool} {limit : Except Fault Int}
  {m : Machine}

theorem isSetting_of_mem_limitEvents {e : Event} (h : e ∈ limitEvents wanted resource limit) :
    IsSetting e := by
  unfold limitEvents at h
  split at h
  · exact Or.inr ⟨_, _, List.mem_singleton.mp h⟩
  · cases h

theorem limitWhere_of_settable
    (settable : wanted = true → ∃ amount, limit = .ok amount ∧ Settable amount) :
    limitWhere wanted resource limit m =
      (.ok (), m.recordAll (limitEvents wanted resource limit)) := by
  cases wanted with
  | false =>
    rw [show limitEvents false resource limit = [] by cases limit <;> rfl, recordAll_nil]
    rfl
  | true =>
    obtain ⟨amount, rfl, range⟩ := settable rfl
    unfold Settable at range
    show setLimit resource amount m = _
    unfold setLimit
    rw [if_pos range]
    rfl

theorem limitWhere_of_not_settable {amount : Int} (refused : ¬ Settable amount) :
    limitWhere true resource (.ok amount) m = (.error .limitRefused, m) := by
  unfold Settable at refused
  show setLimit resource amount m = _
  unfold setLimit
  rw [if_neg refused]
  rfl

theorem memoryBytes_of_int {v : Value} {n : Int} (number : v.number? = some (.int n)) :
    memoryBytes v = .ok (n * 1024) := by
  rw [memoryBytes, number]

theorem memory_settable (mem : limits.mem.IsLimit) (settable : ¬ MemoryRefused limits)
    (set : limits.mem.truthy = true) :
    ∃ amount, memoryBytes limits.mem = .ok amount ∧ Settable amount := by
  obtain ⟨n, number, -⟩ := mem.exists_int set
  have bytes : memoryBytes limits.mem = .ok (n * 1024) := memoryBytes_of_int number
  refine ⟨n * 1024, bytes, Classical.byContradiction fun refused => ?_⟩
  exact settable ⟨set, _, bytes, refused⟩

theorem cpu_settable (time : limits.time.IsLimit) (settable : ¬ CpuRefused limits)
    (set : limits.time.truthy = true) :
    ∃ amount, Duration.wholeSeconds limits.time = .ok amount ∧ Settable amount := by
  obtain ⟨n, secs⟩ := Duration.exists_wholeSeconds (time.below set) (by omega)
  refine ⟨n, secs, Classical.byContradiction fun refused => ?_⟩
  exact settable ⟨set, _, secs, refused⟩

theorem applyLimits_of_accepted
    (memory : limits.mem.truthy = true →
      ∃ amount, memoryBytes limits.mem = .ok amount ∧ Settable amount)
    (cpu : limits.time.truthy = true →
      ∃ amount, Duration.wholeSeconds limits.time = .ok amount ∧ Settable amount) :
    applyLimits limits m = (.ok (), m.recordAll (settingEvents limits)) := by
  rw [applyLimits_eq, Step.run_bind_of_ok (run_emit _ _),
    Step.run_bind_of_ok (limitWhere_of_settable memory), limitWhere_of_settable cpu,
    record_eq_recordAll]
  simp [settingEvents]

theorem applyLimits_of_settable (mem : limits.mem.IsLimit) (time : limits.time.IsLimit)
    (memory : ¬ MemoryRefused limits) (cpu : ¬ CpuRefused limits) :
    applyLimits limits m = (.ok (), m.recordAll (settingEvents limits)) :=
  applyLimits_of_accepted (memory_settable mem memory) (cpu_settable time cpu)

theorem applyLimits_of_refused (mem : limits.mem.IsLimit)
    (refused : MemoryRefused limits ∨ CpuRefused limits) :
    ∃ events, (∀ e ∈ events, IsSetting e) ∧
      applyLimits limits m = (.error .limitRefused, m.recordAll events) := by
  rw [applyLimits_eq, Step.run_bind_of_ok (run_emit _ _), record_eq_recordAll]
  by_cases memory : MemoryRefused limits
  · obtain ⟨set, bytes, bytes_eq, out⟩ := memory
    refine ⟨[.setGroup], by simp [IsSetting], ?_⟩
    rw [set, bytes_eq, Step.run_bind, limitWhere_of_not_settable out]
  · obtain ⟨set, secs, secs_eq, out⟩ := refused.resolve_left memory
    refine ⟨.setGroup :: limitEvents limits.mem.truthy .memory (memoryBytes limits.mem), ?_, ?_⟩
    · intro e member
      rcases List.mem_cons.mp member with rfl | member
      · exact Or.inl rfl
      · exact isSetting_of_mem_limitEvents member
    · rw [Step.run_bind_of_ok (limitWhere_of_settable (memory_settable mem memory)), set, secs_eq,
        limitWhere_of_not_settable out, recordAll_recordAll]
      rfl

end Executor

end CompileJob

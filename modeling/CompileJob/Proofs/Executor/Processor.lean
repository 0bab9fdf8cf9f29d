import CompileJob.Proofs.Duration
import CompileJob.Proofs.Executor.Enforcement

namespace CompileJob.Executor

open Machine

variable {limits : Limits} {resource : Resource} {wanted : Bool} {limit : Except Fault Int}
  {m : Machine} {t : Int}

theorem emits_limitWhere {P : Event → Prop}
    (allowed : ∀ amount, limit = .ok amount → P (.setLimit resource amount)) :
    (limitWhere wanted resource limit).Emits P := by
  cases wanted with
  | false => exact emits_pure ()
  | true =>
    refine emits_lift_bind fun amount given => ?_
    unfold setLimit
    split
    · exact emits_emit (allowed amount given)
    · exact emits_throw _

theorem emits_applyLimits (limits : Limits) :
    (applyLimits limits).Emits fun e =>
      ∀ secs, e = .setLimit .cpu secs → Duration.wholeSeconds limits.time = .ok secs := by
  rw [applyLimits_eq]
  refine (emits_emit nofun).bind fun _ => ?_
  refine Step.Emits.bind (emits_limitWhere ?_) fun _ => emits_limitWhere ?_
  · exact fun amount _ secs same => nomatch same
  · intro amount converted secs same
    cases same
    exact converted

theorem wholeSeconds_of_added {secs : Int}
    (added : Added m (applyLimits limits m).2 (.setLimit .cpu secs)) :
    Duration.wholeSeconds limits.time = .ok secs := by
  obtain ⟨events, trace, member⟩ := added
  obtain ⟨events', trace', kind⟩ := emits_applyLimits limits m
  obtain rfl := List.append_cancel_left (trace.symm.trans trace')
  exact kind _ member secs rfl

theorem added_of_accepted (number : limits.time.number? = some (.int t)) (set : t ≠ 0) {secs : Int}
    (memory : limits.mem.truthy = true →
      ∃ bytes, memoryBytes limits.mem = .ok bytes ∧ Settable bytes)
    (whole : Duration.wholeSeconds (.int t) = .ok secs) (settable : Settable secs) :
    (applyLimits limits m).1 = .ok () ∧
      Added m (applyLimits limits m).2 (.setLimit .cpu secs) := by
  have converts : Duration.wholeSeconds limits.time = .ok secs :=
    (Duration.wholeSeconds_of_int number).trans whole
  rw [applyLimits_of_accepted memory fun _ => ⟨secs, converts, settable⟩]
  refine ⟨rfl, settingEvents limits, rfl, ?_⟩
  rw [settingEvents, (Value.truthy_of_number? number).mpr set, converts]
  simp [limitEvents]

/-- The limit on processor time is the ceiling of what was asked for, so it is not shorter and less
than a second longer. When one is asked for it is set, unless that on memory is refused before. -/
theorem processor_limit_is_ceiling {t : Int} (range : |t| ≤ 2 ^ 53) :
    Duration.wholeSeconds (.int t) = .ok ⌈(t / 1000 : Rat)⌉ ∧
      1000 * (⌈(t / 1000 : Rat)⌉ - 1) < t ∧ t ≤ 1000 * ⌈(t / 1000 : Rat)⌉ ∧
      ∀ (limits : Limits) (m : Machine), limits.time.number? = some (.int t) →
        (∀ secs, Added m (applyLimits limits m).2 (.setLimit .cpu secs) →
          t ≤ 1000 * secs ∧ 1000 * secs < t + 1000) ∧
        (t ≠ 0 → (limits.mem.truthy = true →
            ∃ bytes, memoryBytes limits.mem = .ok bytes ∧ Settable bytes) →
          (applyLimits limits m).1 = .ok () ∧
            Added m (applyLimits limits m).2 (.setLimit .cpu ⌈(t / 1000 : Rat)⌉)) := by
  rw [Int.abs_eq_natAbs] at range
  have short : t.natAbs ≤ twoTo 53 := by exact_mod_cast range
  have whole := Duration.wholeSeconds_of_short short
  obtain ⟨more, covers⟩ := Duration.ceil_bounds t
  refine ⟨whole, more, covers, fun limits m number => ⟨?_, ?_⟩⟩
  · intro secs added
    have converts := wholeSeconds_of_added added
    rw [Duration.wholeSeconds_of_int number, whole] at converts
    cases converts
    omega
  · intro set memory
    have settable : Settable ⌈(t / 1000 : Rat)⌉ := by
      unfold Settable limitBound
      omega
    exact added_of_accepted number set memory whole settable

theorem processor_limit_past_power_of_two :
    |(8796093022208001 : Int)| ≤ 2 ^ 53 ∧
      Duration.wholeSeconds (.int 8796093022208001) = .ok 8796093022209 ∧
      Added blank (applyLimits ⟨.null, .int 8796093022208001, .null, .null⟩ blank).2
        (.setLimit .cpu 8796093022209) := by
  have range : |(8796093022208001 : Int)| ≤ 2 ^ 53 := by decide
  have ceiling : ⌈((8796093022208001 : Int) / 1000 : Rat)⌉ = 8796093022209 := by
    rw [Int.ceil_eq_iff]
    norm_num
  obtain ⟨whole, -, -, sets⟩ := processor_limit_is_ceiling range
  rw [ceiling] at whole
  obtain ⟨-, set⟩ := sets ⟨.null, .int 8796093022208001, .null, .null⟩ blank rfl
  obtain ⟨-, added⟩ := set (by decide) nofun
  rw [ceiling] at added
  exact ⟨range, whole, added⟩

end CompileJob.Executor

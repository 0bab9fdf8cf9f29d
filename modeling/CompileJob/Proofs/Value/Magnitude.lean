import CompileJob.Duration
import CompileJob.Proofs.Number.Rounding
import CompileJob.Proofs.Step

namespace CompileJob

namespace Binary64

theorem exists_nearest {num den k : Nat} (positive : 0 < den) (small : num / den < twoTo k)
    (fits : k < 2098) (negative : Bool) :
    ∃ units, nearest negative num den = .finite negative units ∧ units < twoTo (k + 1) := by
  have le : nearestUnits num den ≤ twoTo k :=
    nearestUnits_le_of_le positive (representable_twoTo k)
      ((Nat.div_lt_iff_lt_mul positive).mp small).le
  have finite : nearestUnits num den < unitsLimit := Nat.lt_of_le_of_lt le (twoTo_lt_twoTo fits)
  refine ⟨nearestUnits num den, ?_, Nat.lt_of_le_of_lt le (twoTo_lt_twoTo (Nat.lt_succ_self k))⟩
  simp only [nearest, finite, if_true]

theorem twoTo_le_nearestUnits {num den k : Nat} (large : twoTo k ≤ num / den) :
    twoTo k ≤ nearestUnits num den := by
  have positive : 0 < den := by
    refine Nat.pos_of_ne_zero fun zero => ?_
    rw [zero, Nat.div_zero] at large
    exact absurd large (Nat.not_le.mpr (twoTo_pos k))
  exact le_nearestUnits_of_le positive (representable_twoTo k)
    ((Nat.le_div_iff_mul_le positive).mp large)

theorem nearest_of_large {num : Nat} (large : unitsLimit ≤ num) (negative : Bool) :
    nearest negative num 1 = .infinite negative := by
  rw [← Nat.div_one num] at large
  have beyond : ¬ nearestUnits num 1 < unitsLimit := Nat.not_lt.mpr (twoTo_le_nearestUnits large)
  simp only [nearest, beyond, if_false]

theorem finite_or_infinite (negative : Bool) (num den : Nat) :
    nearest negative num den = .finite negative (nearestUnits num den) ∨
      nearest negative num den = .infinite negative := by
  unfold nearest
  dsimp only
  split
  · exact Or.inl rfl
  · exact Or.inr rfl

theorem natAbs_ceil {s : Bool} {u : Nat} {n : Int} (h : (Binary64.finite s u).ceil = .ok n) :
    u / unitsPerOne ≤ n.natAbs := by
  cases s with
  | true =>
    cases h
    exact Nat.le_of_eq (by rw [Int.natAbs_neg, Int.natAbs_natCast])
  | false =>
    cases h
    rw [Int.natAbs_natCast]
    exact Nat.div_le_div_right (Nat.le_add_right _ _)

end Binary64

namespace Value

/-- The magnitude is below the `k`-th power of two; that of a NaN or an infinity never is. -/
def Number.Below (k : Nat) : Number → Prop
  | .int n => n.natAbs < twoTo k
  | .float (.finite _ units) => units < twoTo k * Binary64.unitsPerOne
  | .float _ => False

def Below (k : Nat) (v : Value) : Prop := ∃ x, v.number? = some x ∧ x.Below k

def IsFinite (v : Value) : Prop := ∃ k, v.Below k

theorem units_lt {k units : Nat} :
    units < twoTo k * Binary64.unitsPerOne ↔ units < twoTo (k + 1074) := by
  rw [twoTo_add]
  rfl

namespace Number

variable {a b x : Number} {j k : Nat}

theorem Below.mono (h : x.Below j) (le : j ≤ k) : x.Below k := by
  have powers := twoTo_le_twoTo le
  cases x with
  | int n => exact Nat.lt_of_lt_of_le h powers
  | float x =>
    cases x with
    | finite s u => exact Nat.lt_of_lt_of_le h (Nat.mul_le_mul_right _ powers)
    | nan | infinite => cases h

theorem exists_finite {y : Binary64} (h : (Number.float y).Below k) :
    ∃ s u, y = .finite s u ∧ u < twoTo (k + 1074) := by
  cases y with
  | finite s u => exact ⟨s, u, rfl, units_lt.mp h⟩
  | nan | infinite => cases h

theorem exists_finiteOfInt {n : Int} (h : n.natAbs < twoTo k) (fits : k < 1024) :
    ∃ s u, finiteOfInt n = .ok (.finite s u) ∧ u < twoTo (k + 1074 + 1) := by
  have units : 0 < Binary64.unitsPerOne := twoTo_pos 1074
  have small : Binary64.unitsPerOne * n.natAbs / 1 < twoTo (k + 1074) := by
    rw [Nat.div_one, Nat.mul_comm]
    exact units_lt.mp (Nat.mul_lt_mul_of_pos_right h units)
  obtain ⟨u, rounds, below⟩ := Binary64.exists_nearest Nat.one_pos small (by omega) (decide (n < 0))
  have rounded : Binary64.ofInt n = .finite (decide (n < 0)) u := rounds
  refine ⟨decide (n < 0), u, ?_, below⟩
  unfold finiteOfInt
  rw [rounded]

theorem finiteOfInt_of_large {n : Int} (large : twoTo 1024 ≤ n.natAbs) :
    finiteOfInt n = .error .outOfRange := by
  have units : Binary64.unitsLimit ≤ Binary64.unitsPerOne * n.natAbs := by
    have split : Binary64.unitsLimit = Binary64.unitsPerOne * twoTo 1024 := by
      unfold Binary64.unitsLimit Binary64.unitsPerOne
      exact twoTo_add 1074 1024
    rw [split]
    exact Nat.mul_le_mul_left _ large
  have rounded : Binary64.ofInt n = .infinite (decide (n < 0)) := Binary64.nearest_of_large units _
  unfold finiteOfInt
  rw [rounded]

theorem finiteOfInt_ok {n : Int} {x : Binary64} (h : finiteOfInt n = .ok x) :
    x = .finite (decide (n < 0)) (Binary64.nearestUnits (Binary64.unitsPerOne * n.natAbs) 1) := by
  unfold finiteOfInt Binary64.ofInt at h
  rcases Binary64.finite_or_infinite (decide (n < 0)) (Binary64.unitsPerOne * n.natAbs) 1 with
    finite | infinite
  · rw [finite] at h
    exact (Except.ok.inj h).symm
  · rw [infinite] at h
    cases h

theorem Below.toBinary64 (h : x.Below k) (fits : k < 1024) :
    ∃ s u, x.toBinary64 = .ok (.finite s u) ∧ u < twoTo (k + 1074 + 1) := by
  cases x with
  | int n =>
    simp only [Number.toBinary64]
    exact exists_finiteOfInt h fits
  | float y =>
    obtain ⟨s, u, rfl, below⟩ := exists_finite h
    exact ⟨s, u, rfl, Nat.lt_of_lt_of_le below (twoTo_le_twoTo (Nat.le_succ _))⟩

theorem exists_add_finite {s t : Bool} {u v i : Nat} (hu : u < twoTo i) (hv : v < twoTo i)
    (fits : i < 2097) :
    ∃ r w, (Binary64.finite s u).add (.finite t v) = .finite r w ∧ w < twoTo (i + 2) := by
  have sum : (Binary64.signed s u + Binary64.signed t v).natAbs / 1 < twoTo (i + 1) := by
    rw [twoTo_succ, Nat.div_one]
    unfold Binary64.signed
    split <;> split <;> omega
  obtain ⟨w, rounds, below⟩ := Binary64.exists_nearest Nat.one_pos sum (by omega)
    (if Binary64.signed s u + Binary64.signed t v = 0 then s && t
      else decide (Binary64.signed s u + Binary64.signed t v < 0))
  exact ⟨_, w, rounds, below⟩

theorem Below.add (ha : a.Below k) (hb : b.Below k) (fits : k < 1021) :
    ∃ c, a.add b = .ok c ∧ c.Below (k + 3) := by
  obtain ⟨s, u, a_eq, hu⟩ := ha.toBinary64 (by omega)
  obtain ⟨t, v, b_eq, hv⟩ := hb.toBinary64 (by omega)
  obtain ⟨r, w, sum, below⟩ := exists_add_finite (s := s) (t := t) hu hv (by omega)
  have float : ∃ c, (do return Number.float ((← a.toBinary64).add (← b.toBinary64))) =
      Except.ok (ε := Fault) c ∧ c.Below (k + 3) := by
    refine ⟨.float (.finite r w), ?_, units_lt.mpr ?_⟩
    · rw [a_eq, b_eq, ← sum]
      rfl
    · rwa [show k + 3 + 1074 = k + 1074 + 1 + 2 by omega]
  cases a with
  | float x => exact float
  | int m =>
    cases b with
    | float x => exact float
    | int n =>
      refine ⟨.int (m + n), rfl, ?_⟩
      have doubled := twoTo_le_twoTo (show k + 1 ≤ k + 3 by omega)
      rw [twoTo_succ] at doubled
      simp only [Number.Below] at ha hb ⊢
      omega

theorem Below.sub (ha : a.Below k) (hb : b.Below k) (fits : k < 1021) :
    ∃ c, a.sub b = .ok c ∧ c.Below (k + 3) := by
  obtain ⟨s, u, a_eq, hu⟩ := ha.toBinary64 (by omega)
  obtain ⟨t, v, b_eq, hv⟩ := hb.toBinary64 (by omega)
  -- A difference is a sum with the sign of one term changed.
  obtain ⟨r, w, sum, below⟩ := exists_add_finite (s := s) (t := !t) hu hv (by omega)
  have float : ∃ c, (do return Number.float ((← a.toBinary64).sub (← b.toBinary64))) =
      Except.ok (ε := Fault) c ∧ c.Below (k + 3) := by
    refine ⟨.float (.finite r w), ?_, units_lt.mpr ?_⟩
    · rw [a_eq, b_eq, ← sum]
      rfl
    · rwa [show k + 3 + 1074 = k + 1074 + 1 + 2 by omega]
  cases a with
  | float x => exact float
  | int m =>
    cases b with
    | float x => exact float
    | int n =>
      refine ⟨.int (m - n), rfl, ?_⟩
      have doubled := twoTo_le_twoTo (show k + 1 ≤ k + 3 by omega)
      rw [twoTo_succ] at doubled
      simp only [Number.Below] at ha hb ⊢
      omega

theorem Below.exists_trunc (h : x.Below k) : ∃ n, x.trunc = .ok n := by
  cases x with
  | int n => exact ⟨n, rfl⟩
  | float y =>
    obtain ⟨s, u, rfl, -⟩ := exists_finite h
    exact ⟨_, rfl⟩

theorem wholeNumber_ok {r : Except Binary64.NotFinite Int} {n : Int}
    (h : wholeNumber r = .ok n) : r = .ok n := by
  cases r with
  | error e => cases h
  | ok a =>
    cases h
    rfl

end Number

variable {v w : Value} {k : Nat}

theorem number_of_number? {x : Number} (h : v.number? = some x) : v.number = .ok x :=
  orFault_eq_ok.mpr h

theorem number?_toValue (x : Number) : x.toValue.number? = some x := by cases x <;> rfl

theorem Below.mono {j : Nat} (h : v.Below j) (le : j ≤ k) : v.Below k := by
  obtain ⟨x, number, below⟩ := h
  exact ⟨x, number, below.mono le⟩

theorem Below.plus (hv : v.Below k) (hw : w.Below k) (fits : k < 1021) :
    ∃ sum, v.plus w = .ok sum ∧ sum.Below (k + 3) := by
  obtain ⟨x, hx, x_below⟩ := hv
  obtain ⟨y, hy, y_below⟩ := hw
  obtain ⟨z, added, z_below⟩ := x_below.add y_below fits
  refine ⟨z.toValue, ?_, z, number?_toValue z, z_below⟩
  rw [Value.plus, number_of_number? hx, number_of_number? hy]
  exact congrArg (Except.map Number.toValue) added

theorem Below.minus (hv : v.Below k) (hw : w.Below k) (fits : k < 1021) :
    ∃ difference, v.minus w = .ok difference ∧ difference.Below (k + 3) := by
  obtain ⟨x, hx, x_below⟩ := hv
  obtain ⟨y, hy, y_below⟩ := hw
  obtain ⟨z, subtracted, z_below⟩ := x_below.sub y_below fits
  refine ⟨z.toValue, ?_, z, number?_toValue z, z_below⟩
  rw [Value.minus, number_of_number? hx, number_of_number? hy]
  exact congrArg (Except.map Number.toValue) subtracted

def IsReal (v : Value) : Prop := ∃ x y, v.number? = some x ∧ x.toBinary64 = .ok y

theorem IsReal.exists_plus (hv : v.IsReal) (hw : w.IsReal) :
    ∃ sum, v.plus w = .ok sum := by
  obtain ⟨a, x, ha, ax⟩ := hv
  obtain ⟨b, y, hb, hy⟩ := hw
  have float : (do return Number.float ((← a.toBinary64).add (← b.toBinary64))) =
      Except.ok (ε := Fault) (.float (x.add y)) := by rw [ax, hy]; rfl
  have added : ∃ c, a.add b = .ok c := by
    cases a with
    | float => exact ⟨_, float⟩
    | int m =>
      cases b with
      | float => exact ⟨_, float⟩
      | int n => exact ⟨.int (m + n), rfl⟩
  obtain ⟨c, added⟩ := added
  refine ⟨c.toValue, ?_⟩
  rw [Value.plus, number_of_number? ha, number_of_number? hb]
  exact congrArg (Except.map Number.toValue) added

theorem Below.exists_hundredths (h : v.Below k) (fits : k < 1024) :
    ∃ text, v.hundredths = .ok text := by
  obtain ⟨x, hx, below⟩ := h
  obtain ⟨s, u, float, -⟩ := below.toBinary64 fits
  refine ⟨Decimal.hundredths (.finite s u), ?_⟩
  rw [Value.hundredths, number_of_number? hx]
  exact congrArg (Except.map Decimal.hundredths) float

theorem isFinite_int (n : Int) : (Value.int n).IsFinite :=
  ⟨n.natAbs, .int n, rfl, Nat.lt_two_pow_self⟩

theorem IsFinite.exists_integerText (h : v.IsFinite) : ∃ text, v.integerText = .ok text := by
  obtain ⟨k, x, hx, below⟩ := h
  obtain ⟨n, whole⟩ := below.exists_trunc
  refine ⟨toString n, ?_⟩
  rw [Value.integerText, number_of_number? hx]
  exact congrArg (Except.map toString) whole

end Value

namespace Duration

variable {v : Value} {k : Nat}

theorem exists_scale {s : Bool} {u i : Nat} (num : Nat) {den : Nat} (positive : 0 < den)
    (small : u * num / den < twoTo i) (fits : i < 2098) :
    ∃ w, (Binary64.finite s u).scale num den = .finite s w ∧ w < twoTo (i + 1) :=
  Binary64.exists_nearest positive small fits s

theorem seconds_of_int {n : Int} (number : v.number? = some (.int n)) :
    seconds v = seconds (.int n) := by
  unfold seconds Value.number
  rw [number]
  rfl

theorem wholeSeconds_of_int {n : Int} (number : v.number? = some (.int n)) :
    wholeSeconds v = wholeSeconds (.int n) := by
  unfold wholeSeconds
  rw [seconds_of_int number]

theorem exists_seconds (h : v.Below k) (fits : k < 1022) :
    ∃ t, seconds v = .ok t ∧ (Value.Number.float t).Below (k + 2) := by
  obtain ⟨x, hx, below⟩ := h
  obtain ⟨s, u, float, hu⟩ := below.toBinary64 (by omega)
  have small : u * 1 / 1000 < twoTo (k + 1074 + 1) := by
    have := Nat.div_le_self (u * 1) 1000
    omega
  obtain ⟨w, scaled, hw⟩ := exists_scale (s := s) 1 (by decide) small (by omega)
  have below : w < twoTo (k + 2 + 1074) := by
    rwa [show k + 2 + 1074 = k + 1074 + 1 + 1 by omega]
  refine ⟨.finite s w, ?_, Value.units_lt.mpr below⟩
  rw [seconds, Value.number_of_number? hx, ← scaled]
  exact congrArg (Except.map (Binary64.scale 1 1000)) float

theorem seconds_of_error {x : Value.Number} {e : Fault} (number : v.number? = some x)
    (fails : x.toBinary64 = .error e) : seconds v = .error e := by
  rw [seconds, Value.number_of_number? number]
  exact congrArg (Except.map (Binary64.scale 1 1000)) fails

theorem seconds_of_large {n : Int} (number : v.number? = some (.int n))
    (large : twoTo 1024 ≤ n.natAbs) : seconds v = .error .outOfRange := by
  refine seconds_of_error number ?_
  simp only [Value.Number.toBinary64]
  exact Value.Number.finiteOfInt_of_large large

theorem seconds_ok {n : Int} {t : Binary64} (number : v.number? = some (.int n))
    (converted : seconds v = .ok t) :
    t = Binary64.nearest (decide (n < 0))
      (Binary64.nearestUnits (Binary64.unitsPerOne * n.natAbs) 1 * 1) 1000 := by
  obtain ⟨x, number_eq, converted⟩ := Except.bind_eq_ok.mp converted
  obtain ⟨y, float, scaled⟩ := Except.bind_eq_ok.mp converted
  cases (Value.number_of_number? number).symm.trans number_eq
  cases scaled
  simp only [Value.Number.toBinary64] at float
  rw [Value.Number.finiteOfInt_ok float, Binary64.scale]

theorem exists_wholeSeconds (h : v.Below k) (fits : k < 1022) : ∃ n, wholeSeconds v = .ok n := by
  obtain ⟨t, converted, below⟩ := exists_seconds h fits
  obtain ⟨s, u, rfl, -⟩ := Value.Number.exists_finite below
  rw [wholeSeconds, converted]
  cases s <;> exact ⟨_, rfl⟩

theorem wholeSeconds_of_large {n secs : Int} {k : Nat} (number : v.number? = some (.int n))
    (large : twoTo (k + 10) ≤ n.natAbs) (converted : wholeSeconds v = .ok secs) :
    twoTo k ≤ secs.natAbs := by
  obtain ⟨t, seconds_eq, whole⟩ := Except.bind_eq_ok.mp converted
  have units : twoTo (1074 + (k + 10)) ≤
      Binary64.nearestUnits (Binary64.unitsPerOne * n.natAbs) 1 := by
    refine Binary64.twoTo_le_nearestUnits ?_
    rw [Nat.div_one, twoTo_add]
    exact Nat.mul_le_mul_left _ large
  have nearest := seconds_ok number seconds_eq
  generalize Binary64.nearestUnits (Binary64.unitsPerOne * n.natAbs) 1 = u at units nearest
  have scaled : twoTo (1074 + k) ≤ Binary64.nearestUnits (u * 1) 1000 := by
    refine Binary64.twoTo_le_nearestUnits ?_
    rw [← Nat.add_assoc, twoTo_add, show twoTo 10 = 1024 from rfl] at units
    omega
  have ceiled := Value.Number.wholeNumber_ok whole
  rcases Binary64.finite_or_infinite (decide (n < 0)) (u * 1) 1000 with finite | infinite
  · rw [nearest, finite] at ceiled
    refine Nat.le_trans ?_ (Binary64.natAbs_ceil ceiled)
    rw [Binary64.unitsPerOne, Nat.le_div_iff_mul_le (twoTo_pos 1074), Nat.mul_comm, ← twoTo_add]
    exact scaled
  · rw [nearest, infinite] at ceiled
    cases ceiled

theorem exists_millis (h : v.Below k) (fits : k < 1013) : ∃ n, millis v = .ok n := by
  obtain ⟨x, hx, below⟩ := h
  cases x with
  | int n =>
    refine ⟨n * 1000, ?_⟩
    unfold millis
    rw [hx]
  | float y =>
    obtain ⟨s, u, rfl, hu⟩ := Value.Number.exists_finite below
    have small : u * 1000 / 1 < twoTo (k + 1074 + 10) := by
      rw [Nat.div_one, twoTo_add, show twoTo 10 = 1024 by rfl]
      omega
    obtain ⟨w, scaled, -⟩ := exists_scale (s := s) 1000 Nat.one_pos small (by omega)
    refine ⟨Binary64.signed s (w / Binary64.unitsPerOne), ?_⟩
    unfold millis
    rw [hx]
    show Value.Number.wholeNumber ((Binary64.finite s u).scale 1000 1).trunc = _
    rw [scaled]
    rfl

end Duration

end CompileJob

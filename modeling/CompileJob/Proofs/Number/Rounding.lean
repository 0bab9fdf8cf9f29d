import CompileJob.Number.Binary64
import Mathlib.Algebra.Order.Field.Rat
import Mathlib.Algebra.Order.Ring.Abs
import Mathlib.Data.Nat.Log
import Mathlib.Order.Monotone.Basic
import Mathlib.Tactic.Linarith

namespace CompileJob

/-! ## Powers of two -/

theorem twoTo_succ (n : Nat) : twoTo (n + 1) = 2 * twoTo n := Nat.pow_succ'

theorem twoTo_add (m n : Nat) : twoTo (m + n) = twoTo m * twoTo n := Nat.pow_add 2 m n

theorem twoTo_pos (n : Nat) : 0 < twoTo n := Nat.two_pow_pos n

theorem twoTo_le_twoTo {m n : Nat} (h : m ≤ n) : twoTo m ≤ twoTo n :=
  Nat.pow_le_pow_right (by decide) h

theorem twoTo_lt_twoTo {m n : Nat} (h : m < n) : twoTo m < twoTo n :=
  Nat.pow_lt_pow_right (by decide) h

/-! ## To integers -/

variable {num den num' den' : Nat}

theorem roundHalfEven_le (num den : Nat) : roundHalfEven num den ≤ num / den + 1 := by
  have parity : num / den % 2 ≤ 1 := by omega
  simp only [roundHalfEven]
  split
  · omega
  · split <;> omega

theorem div_le_roundHalfEven (num den : Nat) : num / den ≤ roundHalfEven num den := by
  simp only [roundHalfEven]
  split
  · omega
  · split <;> omega

theorem roundHalfEven_bounds (num : Nat) (positive : 0 < den) :
    den * (2 * roundHalfEven num den) ≤ 2 * num + den ∧
      2 * num ≤ den * (2 * roundHalfEven num den) + den := by
  have split := Nat.div_add_mod num den
  have rest := Nat.mod_lt num positive
  have even_or_odd : num / den % 2 = 0 ∨ num / den % 2 = 1 := by omega
  simp only [roundHalfEven]
  generalize num / den = q at *
  generalize num % den = r at *
  split
  · constructor <;> linarith
  · split
    · constructor <;> linarith
    · rcases even_or_odd with even | odd
      · rw [even]
        constructor <;> linarith
      · rw [odd]
        constructor <;> linarith

theorem abs_roundHalfEven_sub_le (num : Nat) (positive : 0 < den) :
    |(roundHalfEven num den : Rat) - num / den| ≤ 1 / 2 := by
  obtain ⟨low, high⟩ := roundHalfEven_bounds num positive
  have low : (den : Rat) * (2 * roundHalfEven num den) ≤ 2 * num + den := by exact_mod_cast low
  have high : 2 * (num : Rat) ≤ den * (2 * roundHalfEven num den) + den := by exact_mod_cast high
  have denominator : (0 : Rat) < den := by exact_mod_cast positive
  rw [abs_sub_le_iff]
  constructor
  · rw [sub_le_iff_le_add, ← sub_le_iff_le_add', le_div_iff₀ denominator]
    linarith
  · rw [sub_le_iff_le_add, div_le_iff₀ denominator]
    linarith

theorem abs_roundHalfEven_sub_le_abs (num : Nat) (positive : 0 < den) (k : Nat) :
    |(roundHalfEven num den : Rat) - num / den| ≤ |(k : Rat) - num / den| := by
  by_cases same : roundHalfEven num den = k
  · rw [same]
  · have half := abs_roundHalfEven_sub_le num positive
    have apart : (1 : Rat) ≤ |(roundHalfEven num den : Rat) - k| := by
      have integers : (1 : Int) ≤ |(roundHalfEven num den : Int) - k| := Int.one_le_abs (by omega)
      exact_mod_cast integers
    have through := abs_sub_le (roundHalfEven num den : Rat) (num / den) k
    rw [abs_sub_comm (num / den : Rat) k] at through
    linarith

theorem div_le_div_of_mul_le (positive : 0 < den) (positive' : 0 < den')
    (le : num * den' ≤ num' * den) : num / den ≤ num' / den' := by
  rw [Nat.le_div_iff_mul_le positive']
  refine Nat.le_of_mul_le_mul_right ?_ positive
  calc num / den * den' * den = num / den * den * den' := Nat.mul_right_comm _ _ _
    _ ≤ num * den' := Nat.mul_le_mul_right _ (Nat.div_mul_le_self _ _)
    _ ≤ num' * den := le

theorem roundHalfEven_mono (positive : 0 < den) (positive' : 0 < den')
    (le : num * den' ≤ num' * den) : roundHalfEven num den ≤ roundHalfEven num' den' := by
  have above := roundHalfEven_le num den
  have below := div_le_roundHalfEven num' den'
  rcases Nat.lt_or_eq_of_le (div_le_div_of_mul_le positive positive' le) with less | same
  · omega
  -- With the same integer part the remainders are in order, and so are the halves they pass.
  · have rests : num % den * den' ≤ num' % den' * den := by
      have split := congrArg (· * den') (Nat.div_add_mod num den)
      have split' := congrArg (· * den) (Nat.div_add_mod num' den')
      rw [← same] at split'
      linarith
    have half (h : 2 * (num' % den') ≤ den') : 2 * (num % den) ≤ den := by
      refine Nat.le_of_mul_le_mul_right ?_ positive'
      linarith [Nat.mul_le_mul_right den h]
    have half_lt (h : 2 * (num' % den') < den') : 2 * (num % den) < den := by
      refine Nat.lt_of_mul_lt_mul_right (a := den') ?_
      linarith [Nat.mul_lt_mul_of_pos_right h positive]
    simp only [roundHalfEven] at above below ⊢
    rw [← same] at below ⊢
    split_ifs <;> omega

/-! ## To numbers -/

namespace Binary64

/-- There is a number of this many units: they have at most 53 significant bits. -/
def Representable (units : Nat) : Prop :=
  ∃ digits exponent, digits < twoTo 53 ∧ units = digits * twoTo exponent

variable {units w : Nat}

theorem representable_mul_twoTo (short : units ≤ twoTo 53) (exponent : Nat) :
    Representable (units * twoTo exponent) := by
  rcases Nat.lt_or_eq_of_le short with shorter | rfl
  · exact ⟨units, exponent, shorter, rfl⟩
  · refine ⟨1, 53 + exponent, by decide +kernel, ?_⟩
    rw [Nat.one_mul, twoTo_add]

theorem representable_twoTo (exponent : Nat) : Representable (twoTo exponent) :=
  ⟨1, exponent, by decide +kernel, (Nat.one_mul _).symm⟩

theorem spacing_pos (units : Nat) : 0 < spacing units := twoTo_pos _

theorem nearestUnits_eq (num den : Nat) :
    nearestUnits num den =
      roundHalfEven num (den * spacing (num / den)) * spacing (num / den) := rfl

/-- From the power of two below a ratio on, every number is a multiple of the spacing there. -/
theorem spacing_dvd (number : Representable w) (large : twoTo units.log2 ≤ w) :
    spacing units ∣ w := by
  obtain ⟨digits, exponent, short, rfl⟩ := number
  have small : twoTo units.log2 < twoTo (53 + exponent) := by
    rw [twoTo_add]
    exact Nat.lt_of_le_of_lt large (Nat.mul_lt_mul_of_pos_right short (twoTo_pos exponent))
  have exponents : units.log2 < 53 + exponent := (Nat.pow_lt_pow_iff_right (by decide)).mp small
  exact Nat.dvd_mul_left_of_dvd (Nat.pow_dvd_pow 2 (by omega)) digits

theorem abs_mul_sub_div {step : Nat} (positive : 0 < step) (x : Rat) (num den : Nat) :
    |x * step - num / den| = |x - num / (den * step : Nat)| * step := by
  have nonzero : (step : Rat) ≠ 0 := by exact_mod_cast positive.ne'
  have size : |(step : Rat)| = step := abs_of_nonneg (Nat.cast_nonneg step)
  conv_rhs => rw [← size, ← abs_mul, sub_mul, Nat.cast_mul, div_mul_eq_mul_div,
    mul_div_mul_right _ _ nonzero]

theorem abs_nearestUnits_sub_le_of_dvd (positive : 0 < den) (multiple : spacing (num / den) ∣ w) :
    |(nearestUnits num den : Rat) - num / den| ≤ |(w : Rat) - num / den| := by
  obtain ⟨k, rfl⟩ := multiple
  have step := spacing_pos (num / den)
  have nearest := abs_roundHalfEven_sub_le_abs num (Nat.mul_pos positive step) k
  rw [nearestUnits_eq, Nat.mul_comm _ k, Nat.cast_mul, Nat.cast_mul, abs_mul_sub_div step,
    abs_mul_sub_div step]
  exact mul_le_mul_of_nonneg_right nearest (Nat.cast_nonneg _)

theorem twoTo_log2_mul_le (large : num / den ≠ 0) : twoTo (num / den).log2 * den ≤ num :=
  Nat.le_trans (Nat.mul_le_mul_right den (Nat.log2_self_le large)) (Nat.div_mul_le_self num den)

/-- No number is nearer. -/
theorem abs_nearestUnits_sub_le_abs (num : Nat) (positive : 0 < den) (number : Representable w) :
    |(nearestUnits num den : Rat) - num / den| ≤ |(w : Rat) - num / den| := by
  rcases Nat.lt_or_ge w (twoTo (num / den).log2) with small | large
  · by_cases zero : num / den = 0
    · rw [zero] at small
      obtain rfl : w = 0 := Nat.lt_one_iff.mp small
      exact abs_nearestUnits_sub_le_of_dvd positive (Nat.dvd_zero _)
    -- A number below the power of two is farther than that power, which is a multiple.
    · have power := abs_nearestUnits_sub_le_of_dvd positive
        (spacing_dvd (representable_twoTo (num / den).log2) Nat.le.refl)
      have below : ((twoTo (num / den).log2 : Nat) : Rat) ≤ num / den := by
        rw [le_div_iff₀ (by exact_mod_cast positive)]
        exact_mod_cast twoTo_log2_mul_le zero
      have less : (w : Rat) ≤ (twoTo (num / den).log2 : Nat) := by exact_mod_cast small.le
      rw [abs_of_nonpos (sub_nonpos.mpr below)] at power
      rw [abs_of_nonpos (sub_nonpos.mpr (less.trans below))]
      linarith
  · exact abs_nearestUnits_sub_le_of_dvd positive (spacing_dvd number large)

theorem nearestUnits_le_of_le (positive : 0 < den) (number : Representable w)
    (le : num ≤ w * den) : nearestUnits num den ≤ w := by
  have nearest := abs_nearestUnits_sub_le_abs num positive number
  have below : (num / den : Rat) ≤ w := by
    rw [div_le_iff₀ (by exact_mod_cast positive)]
    exact_mod_cast le
  rw [abs_of_nonneg (sub_nonneg.mpr below)] at nearest
  have units : (nearestUnits num den : Rat) ≤ w := by linarith [(abs_le.mp nearest).2]
  exact_mod_cast units

theorem le_nearestUnits_of_le (positive : 0 < den) (number : Representable w)
    (le : w * den ≤ num) : w ≤ nearestUnits num den := by
  have nearest := abs_nearestUnits_sub_le_abs num positive number
  have above : (w : Rat) ≤ num / den := by
    rw [le_div_iff₀ (by exact_mod_cast positive)]
    exact_mod_cast le
  rw [abs_of_nonpos (sub_nonpos.mpr above)] at nearest
  have units : (w : Rat) ≤ nearestUnits num den := by linarith [(abs_le.mp nearest).1]
  exact_mod_cast units

theorem nearestUnits_mul (positive : 0 < den) (number : Representable units) :
    nearestUnits (units * den) den = units :=
  Nat.le_antisymm (nearestUnits_le_of_le positive number Nat.le.refl)
    (le_nearestUnits_of_le positive number Nat.le.refl)

theorem nearestUnits_mono (positive : 0 < den) (positive' : 0 < den')
    (le : num * den' ≤ num' * den) : nearestUnits num den ≤ nearestUnits num' den' := by
  have logs : (num / den).log2 ≤ (num' / den').log2 := by
    rw [Nat.log2_eq_log_two, Nat.log2_eq_log_two]
    exact Nat.log_mono_right (div_le_div_of_mul_le positive positive' le)
  rcases Nat.lt_or_eq_of_le logs with less | same
  -- The power of two between the ratios is a number.
  · have number := representable_twoTo (num' / den').log2
    have large : num' / den' ≠ 0 := by
      intro zero
      rw [zero] at less
      exact absurd less (Nat.not_lt_zero _)
    have small : num / den < twoTo (num' / den').log2 :=
      Nat.lt_of_lt_of_le Nat.lt_log2_self (twoTo_le_twoTo less)
    have below : num < twoTo (num' / den').log2 * den := (Nat.div_lt_iff_lt_mul positive).mp small
    calc nearestUnits num den ≤ twoTo (num' / den').log2 :=
          nearestUnits_le_of_le positive number below.le
      _ ≤ nearestUnits num' den' :=
          le_nearestUnits_of_le positive' number (twoTo_log2_mul_le large)
  · have steps : spacing (num / den) = spacing (num' / den') := by rw [spacing, same, spacing]
    have step := spacing_pos (num' / den')
    rw [nearestUnits_eq, nearestUnits_eq, steps]
    refine Nat.mul_le_mul_right _ (roundHalfEven_mono (Nat.mul_pos positive step)
      (Nat.mul_pos positive' step) ?_)
    rw [← Nat.mul_assoc, ← Nat.mul_assoc]
    exact Nat.mul_le_mul_right _ le

theorem abs_nearestUnits_sub_le (positive : 0 < den) {k : Nat}
    (small : num < twoTo (k + 53) * den) :
    |(nearestUnits num den : Rat) - num / den| ≤ (twoTo k : Nat) / 2 := by
  have step := spacing_pos (num / den)
  have near := abs_roundHalfEven_sub_le num (Nat.mul_pos positive step)
  have narrow : spacing (num / den) ≤ twoTo k := by
    refine twoTo_le_twoTo ?_
    by_cases zero : num / den = 0
    · rw [zero]
      exact Nat.zero_le _
    · have bits := (Nat.log2_lt zero).mpr ((Nat.div_lt_iff_lt_mul positive).mpr small)
      omega
  have narrow : (spacing (num / den) : Rat) ≤ (twoTo k : Nat) := by exact_mod_cast narrow
  rw [nearestUnits_eq, Nat.cast_mul, abs_mul_sub_div step]
  calc _ ≤ 1 / 2 * (spacing (num / den) : Rat) :=
        mul_le_mul_of_nonneg_right near (Nat.cast_nonneg _)
    _ ≤ (twoTo k : Nat) / 2 := by linarith

/-! ## With a sign -/

theorem signed_natAbs (n : Int) : signed (decide (n < 0)) n.natAbs = n := by
  by_cases negative : n < 0
  · rw [decide_eq_true negative]
    show -(n.natAbs : Int) = n
    omega
  · rw [decide_eq_false negative]
    show (n.natAbs : Int) = n
    omega

theorem signed_mono {f : Nat → Nat} (mono : Monotone f) (zero : f 0 = 0) {s t : Bool} {u v : Nat}
    (le : signed s u ≤ signed t v) : signed s (f u) ≤ signed t (f v) := by
  cases s with
  | false =>
    cases t with
    | false => exact Int.ofNat_le.mpr (mono (Int.ofNat_le.mp le))
    | true =>
      have zeros : (u : Int) ≤ -v := le
      obtain ⟨rfl, rfl⟩ : u = 0 ∧ v = 0 := by omega
      rw [zero]
      exact Int.le_refl 0
  | true =>
    cases t with
    | false =>
      show -(f u : Int) ≤ f v
      omega
    | true =>
      have magnitudes : v ≤ u := Int.ofNat_le.mp (Int.neg_le_neg_iff.mp le)
      exact Int.neg_le_neg (Int.ofNat_le.mpr (mono magnitudes))

end Binary64

end CompileJob

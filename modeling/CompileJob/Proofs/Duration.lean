import CompileJob.Proofs.Value.Magnitude
import Mathlib.Data.Rat.Floor
import Mathlib.Tactic.Ring

/-!
Milliseconds as seconds. Up to `2 ^ 53` of them the rounded quotient lies between the same integers
as the exact one, so the whole seconds are the least that cover them. Up to `2 ^ 52` of them come
back from seconds as they were or one less, and in their order.
-/
namespace CompileJob

/-! ## Thousandths -/

namespace Binary64

variable {n z : Nat}

def thousandths (n : Nat) : Nat := nearestUnits (unitsPerOne * n) 1000

theorem unitsPerOne_pos : 0 < unitsPerOne := twoTo_pos 1074

theorem nearestUnits_ofInt (short : n ≤ twoTo 53) :
    nearestUnits (unitsPerOne * n) 1 = unitsPerOne * n := by
  have number : Representable (unitsPerOne * n) := by
    rw [Nat.mul_comm]
    exact representable_mul_twoTo short 1074
  have exact := nearestUnits_mul Nat.one_pos number
  rwa [Nat.mul_one] at exact

/-- Where `k` bits are left for the fraction, the error is at most half of the last of them. -/
theorem abs_thousandths_sub_le {k : Nat} (fits : k ≤ 1074)
    (small : twoTo k * n < twoTo 53 * 1000) :
    |(thousandths n : Rat) - unitsPerOne * n / 1000| ≤ unitsPerOne / (2 * twoTo k) := by
  have units : unitsPerOne = twoTo (1074 - k) * twoTo k := by
    rw [← twoTo_add, Nat.sub_add_cancel fits, unitsPerOne]
  have below : unitsPerOne * n < twoTo (1074 - k + 53) * 1000 := by
    rw [units, twoTo_add, Nat.mul_assoc, Nat.mul_assoc]
    exact Nat.mul_lt_mul_of_pos_left small (twoTo_pos _)
  have near := abs_nearestUnits_sub_le (by decide : 0 < 1000) below
  have half : (unitsPerOne : Rat) / (2 * twoTo k) = twoTo (1074 - k) / 2 := by
    have nonzero : (twoTo k : Rat) ≠ 0 := by exact_mod_cast (twoTo_pos k).ne'
    rw [units, Nat.cast_mul, mul_div_mul_right _ _ nonzero]
  rw [half]
  push_cast at near
  exact near

theorem abs_thousandths_sub_lt (short : n ≤ twoTo 53) :
    |(thousandths n : Rat) - unitsPerOne * n / 1000| < unitsPerOne / 1000 := by
  have nine : twoTo 9 = 512 := rfl
  have bound : 0 < twoTo 53 := twoTo_pos 53
  have near := abs_thousandths_sub_le (n := n) (show 9 ≤ 1074 by omega) (by rw [nine]; omega)
  rw [nine] at near
  have positive : (0 : Rat) < unitsPerOne := by exact_mod_cast unitsPerOne_pos
  push_cast at near
  linarith

/-- Up to `2 ^ 52` thousandths ten bits are left, and the error times a thousand is below a half. -/
theorem abs_thousandths_mul_sub_lt (short : n ≤ twoTo 52) :
    |(thousandths n : Rat) * 1000 - unitsPerOne * n| < unitsPerOne / 2 := by
  have ten : twoTo 10 = 1024 := rfl
  have bound : 0 < twoTo 52 := twoTo_pos 52
  have double : twoTo 53 = 2 * twoTo 52 := twoTo_succ 52
  have near := abs_thousandths_sub_le (n := n) (show 10 ≤ 1074 by omega) (by rw [ten]; omega)
  rw [ten] at near
  have positive : (0 : Rat) < unitsPerOne := by exact_mod_cast unitsPerOne_pos
  push_cast at near
  obtain ⟨low, high⟩ := abs_le.mp near
  exact abs_lt.mpr ⟨by linarith, by linarith⟩

theorem abs_nearestUnits_thousandths_sub_lt (short : n ≤ twoTo 52) :
    |(nearestUnits (thousandths n * 1000) 1 : Rat) - unitsPerOne * n| < unitsPerOne := by
  obtain ⟨low, high⟩ := abs_lt.mp (abs_thousandths_mul_sub_lt short)
  have small : thousandths n * 1000 < twoTo (1074 + 53) * 1 := by
    have next : (thousandths n * 1000 : Rat) < (n + 1) * unitsPerOne := by linarith
    have next : thousandths n * 1000 < (n + 1) * unitsPerOne := by exact_mod_cast next
    have fits : n + 1 ≤ twoTo 53 := by
      have bound : 0 < twoTo 52 := twoTo_pos 52
      rw [twoTo_succ]
      omega
    rw [Nat.mul_one, twoTo_add, ← unitsPerOne, Nat.mul_comm unitsPerOne]
    exact Nat.lt_of_lt_of_le next (Nat.mul_le_mul_right _ fits)
  have near := abs_nearestUnits_sub_le Nat.one_pos small
  rw [← unitsPerOne] at near
  push_cast at near
  obtain ⟨low', high'⟩ := abs_le.mp near
  exact abs_lt.mpr ⟨by linarith, by linarith⟩

theorem thousandths_mul (short : z ≤ twoTo 53) : thousandths (1000 * z) = z * unitsPerOne := by
  have number : Representable (z * unitsPerOne) := representable_mul_twoTo short 1074
  rw [thousandths, show unitsPerOne * (1000 * z) = z * unitsPerOne * 1000 by ring]
  exact nearestUnits_mul (by decide) number

theorem thousandths_lt (short : n ≤ twoTo 53) (less : n < 1000 * z) :
    thousandths n < z * unitsPerOne := by
  have near := (abs_lt.mp (abs_thousandths_sub_lt short)).2
  have apart : (n : Rat) + 1 ≤ 1000 * z := by exact_mod_cast less
  have scaled := mul_le_mul_of_nonneg_left apart (Nat.cast_nonneg unitsPerOne)
  have units : (thousandths n : Rat) < z * unitsPerOne := by linarith
  exact_mod_cast units

theorem lt_thousandths (short : n ≤ twoTo 53) (less : 1000 * z < n) :
    z * unitsPerOne < thousandths n := by
  have near := (abs_lt.mp (abs_thousandths_sub_lt short)).1
  have apart : 1000 * (z : Rat) + 1 ≤ n := by exact_mod_cast less
  have scaled := mul_le_mul_of_nonneg_left apart (Nat.cast_nonneg unitsPerOne)
  have units : (z : Rat) * unitsPerOne < thousandths n := by linarith
  exact_mod_cast units

theorem thousandths_le_iff (short : n ≤ twoTo 53) :
    thousandths n ≤ z * unitsPerOne ↔ n ≤ 1000 * z := by
  constructor
  · intro le
    exact Nat.not_lt.mp fun greater => Nat.not_lt.mpr le (lt_thousandths short greater)
  · intro le
    rcases Nat.lt_or_eq_of_le le with less | rfl
    · exact (thousandths_lt short less).le
    · exact (thousandths_mul (by omega)).le

theorem le_thousandths_iff (short : n ≤ twoTo 53) :
    z * unitsPerOne ≤ thousandths n ↔ 1000 * z ≤ n := by
  constructor
  · intro le
    exact Nat.not_lt.mp fun less => Nat.not_lt.mpr le (thousandths_lt short less)
  · intro le
    rcases Nat.lt_or_eq_of_le le with less | rfl
    · exact (lt_thousandths short less).le
    · exact (thousandths_mul (by omega)).ge

theorem thousandths_div (short : n ≤ twoTo 53) : thousandths n / unitsPerOne = n / 1000 := by
  refine eq_of_forall_le_iff fun z => ?_
  rw [Nat.le_div_iff_mul_le unitsPerOne_pos, le_thousandths_iff short,
    Nat.le_div_iff_mul_le (by decide), Nat.mul_comm]

theorem thousandths_div_up (short : n ≤ twoTo 53) :
    (thousandths n + (unitsPerOne - 1)) / unitsPerOne = (n + 999) / 1000 := by
  refine eq_of_forall_ge_iff fun z => ?_
  rw [Nat.div_le_iff_le_mul_add_pred unitsPerOne_pos, Nat.add_le_add_iff_right, Nat.mul_comm,
    thousandths_le_iff short, Nat.div_le_iff_le_mul_add_pred (by decide)]
  omega

end Binary64

namespace Duration

open Binary64

/-! ## Whole seconds -/

theorem below_of_short {t : Int} (short : t.natAbs ≤ twoTo 53) : (Value.int t).Below 54 :=
  ⟨.int t, rfl, Nat.lt_of_le_of_lt short (by decide +kernel)⟩

theorem seconds_of_short {t : Int} (short : t.natAbs ≤ twoTo 53) :
    seconds (.int t) = .ok (.finite (decide (t < 0)) (thousandths t.natAbs)) := by
  obtain ⟨x, converted, finite⟩ := exists_seconds (below_of_short short) (by omega)
  obtain ⟨s, u, rfl, -⟩ := Value.Number.exists_finite finite
  have rounded := seconds_ok rfl converted
  rw [nearestUnits_ofInt short, Nat.mul_one] at rounded
  rcases finite_or_infinite (decide (t < 0)) (unitsPerOne * t.natAbs) 1000 with finite | infinite
  · rw [converted, rounded, finite, thousandths]
  · rw [infinite] at rounded
    cases rounded

theorem exists_wholeSeconds_of_short {t : Int} (short : t.natAbs ≤ twoTo 53) :
    ∃ secs, wholeSeconds (.int t) = .ok secs ∧ ∀ z : Int, secs ≤ z ↔ t ≤ 1000 * z := by
  have converted := seconds_of_short short
  by_cases negative : t < 0
  · rw [decide_eq_true negative] at converted
    refine ⟨-(t.natAbs / 1000 : Nat), ?_, fun z => by omega⟩
    rw [wholeSeconds, converted, ← thousandths_div short]
    rfl
  · rw [decide_eq_false negative] at converted
    refine ⟨((t.natAbs + 999) / 1000 : Nat), ?_, fun z => by omega⟩
    rw [wholeSeconds, converted, ← thousandths_div_up short]
    rfl

theorem ceil_le_iff (t z : Int) : ⌈(t / 1000 : Rat)⌉ ≤ z ↔ t ≤ 1000 * z := by
  rw [Int.ceil_le, div_le_iff₀ (by norm_num), mul_comm]
  norm_cast

theorem wholeSeconds_of_short {t : Int} (short : t.natAbs ≤ twoTo 53) :
    wholeSeconds (.int t) = .ok ⌈(t / 1000 : Rat)⌉ := by
  obtain ⟨secs, whole, least⟩ := exists_wholeSeconds_of_short short
  rw [whole, eq_of_forall_ge_iff fun z => (least z).trans (ceil_le_iff t z).symm]

theorem ceil_bounds (t : Int) :
    1000 * (⌈(t / 1000 : Rat)⌉ - 1) < t ∧ t ≤ 1000 * ⌈(t / 1000 : Rat)⌉ := by
  constructor
  · refine Int.not_le.mp fun fewer => ?_
    have less := (ceil_le_iff t _).mpr fewer
    omega
  · exact (ceil_le_iff t _).mp (Int.le_refl _)

/-! ## There and back -/

def thereAndBack (n : Int) : Except Fault Int := do millis (.float (← seconds (.int n)))

def returned (n : Nat) : Nat :=
  nearestUnits (nearestUnits (nearestUnits (unitsPerOne * n) 1) 1000 * 1000) 1 / unitsPerOne

theorem thereAndBack_ok {n a : Int} (h : thereAndBack n = .ok a) :
    a = signed (decide (n < 0)) (returned n.natAbs) := by
  obtain ⟨x, converted, back⟩ := Except.bind_eq_ok.mp h
  have rounded := seconds_ok rfl converted
  rw [Nat.mul_one] at rounded
  have whole := Value.Number.wholeNumber_ok (r := (x.scale 1000 1).trunc) back
  generalize quotient : nearestUnits (unitsPerOne * n.natAbs) 1 = u at rounded
  rcases finite_or_infinite (decide (n < 0)) u 1000 with finite | infinite
  · rw [rounded, finite, scale] at whole
    rcases finite_or_infinite (decide (n < 0)) (nearestUnits u 1000 * 1000) 1 with
      finite' | infinite'
    · rw [finite'] at whole
      rw [returned, quotient]
      exact (Except.ok.inj whole).symm
    · rw [infinite'] at whole
      cases whole
  · rw [rounded, infinite] at whole
    cases whole

theorem exists_thereAndBack {n : Int} (short : n.natAbs ≤ twoTo 53) :
    ∃ a, thereAndBack n = .ok a := by
  obtain ⟨x, converted, finite⟩ := exists_seconds (below_of_short short) (by omega)
  have below : (Value.float x).Below 56 := ⟨.float x, rfl, finite⟩
  obtain ⟨a, back⟩ := exists_millis below (by omega)
  exact ⟨a, Except.bind_eq_ok.mpr ⟨x, converted, back⟩⟩

theorem returned_mono : Monotone returned := by
  intro m n le
  have rounds {a b den : Nat} (positive : 0 < den) (le : a ≤ b) :
      nearestUnits a den ≤ nearestUnits b den :=
    nearestUnits_mono positive positive (Nat.mul_le_mul_right den le)
  have integers := rounds Nat.one_pos (Nat.mul_le_mul_left unitsPerOne le)
  have quotients := rounds (by decide : 0 < 1000) integers
  have products := rounds Nat.one_pos (Nat.mul_le_mul_right 1000 quotients)
  exact Nat.div_le_div_right products

theorem returned_zero : returned 0 = 0 := by decide +kernel

theorem returned_bounds {n : Nat} (short : n ≤ twoTo 52) : n ≤ returned n + 1 ∧ returned n ≤ n := by
  have longer : twoTo 52 ≤ twoTo 53 := twoTo_le_twoTo (by omega)
  rw [returned, nearestUnits_ofInt (short.trans longer), ← thousandths]
  obtain ⟨low, high⟩ := abs_lt.mp (abs_nearestUnits_thousandths_sub_lt short)
  generalize nearestUnits (thousandths n * 1000) 1 = y at *
  constructor
  · have covered : (n * unitsPerOne : Rat) ≤ y + unitsPerOne := by linarith
    rw [← Nat.add_div_right _ unitsPerOne_pos, Nat.le_div_iff_mul_le unitsPerOne_pos]
    exact_mod_cast covered
  · have next : (y : Rat) < (n + 1) * unitsPerOne := by linarith
    rw [← Nat.lt_succ_iff, Nat.div_lt_iff_lt_mul unitsPerOne_pos]
    exact_mod_cast next

/-- Milliseconds come back as they were or one less, and the order of any two is kept. -/
theorem thereAndBack_loses_at_most_one :
    (∀ n : Int, 0 ≤ n → n ≤ 2 ^ 52 → thereAndBack n = .ok n ∨ thereAndBack n = .ok (n - 1)) ∧
      ∀ m n a b : Int, m ≤ n → thereAndBack m = .ok a → thereAndBack n = .ok b → a ≤ b := by
  constructor
  · intro n nonneg range
    have limit : twoTo 52 = 2 ^ 52 := rfl
    have double : twoTo 53 = 2 * twoTo 52 := twoTo_succ 52
    obtain ⟨a, back⟩ := exists_thereAndBack (n := n) (by omega)
    have returns := thereAndBack_ok back
    rw [decide_eq_false (by omega)] at returns
    change a = returned n.natAbs at returns
    obtain ⟨low, high⟩ := returned_bounds (n := n.natAbs) (by omega)
    rcases (by omega : a = n ∨ a = n - 1) with rfl | rfl
    · exact Or.inl back
    · exact Or.inr back
  · intro m n a b le first second
    rw [thereAndBack_ok first, thereAndBack_ok second]
    refine signed_mono returned_mono returned_zero ?_
    rwa [signed_natAbs, signed_natAbs]

theorem thereAndBack_loses_one_of_1001 :
    thereAndBack 1001 = .ok 1000 ∧ thereAndBack 1002 = .ok 1002 ∧ (1000 : Int) ≤ 1002 := by
  have first : thereAndBack 1001 = .ok 1000 :=
    (thereAndBack_loses_at_most_one.1 1001 (by decide) (by decide)).resolve_left fun kept =>
      absurd (thereAndBack_ok kept) (by decide +kernel)
  have second : thereAndBack 1002 = .ok 1002 :=
    (thereAndBack_loses_at_most_one.1 1002 (by decide) (by decide)).resolve_right fun lost =>
      absurd (thereAndBack_ok lost) (by decide +kernel)
  exact ⟨first, second,
    thereAndBack_loses_at_most_one.2 1001 1002 1000 1002 (by decide) first second⟩

end Duration

end CompileJob

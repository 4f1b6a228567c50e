import DualSleeve.Core.Models
import DualSleeve.Library.DecimalNumeral
import DualSleeve.Library.Significant
import Mathlib.Data.Rat.Floor
import Mathlib.Order.Monotone.Defs

namespace DualSleeve

open Library.DecimalNumeral Library.Significant

-- The context an operation on Decimals is computed in: its exact result is rounded so.
class DecimalContext where
  rounded : ℚ → ℚ
  rounded_mono : Monotone rounded
  rounded_zero : rounded 0 = 0
  rounded_one : rounded 1 = 1
  rounded_neg (x : ℚ) : rounded (-x) = -rounded x
  rounded_pos {x : ℚ} (hx : 0 < x) : 0 < rounded x
  rounded_rounded (x : ℚ) : rounded (rounded x) = rounded x
  isDecimal_rounded {x : ℚ} (hx : IsDecimal x) : IsDecimal (rounded x)

export DecimalContext (rounded rounded_mono rounded_zero rounded_one rounded_neg rounded_pos
  rounded_rounded isDecimal_rounded)

attribute [simp] DecimalContext.rounded_zero

section Context

variable [DecimalContext]

theorem rounded_nonneg {x : ℚ} (h : 0 ≤ x) : 0 ≤ rounded x := by
  rw [← rounded_zero]
  exact rounded_mono h

theorem rounded_nonpos {x : ℚ} (h : x ≤ 0) : rounded x ≤ 0 := by
  rw [← rounded_zero]
  exact rounded_mono h

theorem pos_of_rounded_pos {x : ℚ} (h : 0 < rounded x) : 0 < x :=
  not_le.mp fun hx => absurd (rounded_nonpos hx) (not_le.mpr h)

theorem rounded_ne_zero {x : ℚ} (h : x ≠ 0) : rounded x ≠ 0 := by
  rcases h.lt_or_gt with hneg | hpos
  · have hpos := rounded_pos (neg_pos.mpr hneg)
    rw [rounded_neg] at hpos
    exact (neg_pos.mp hpos).ne
  · exact (rounded_pos hpos).ne'

-- `sum(values, Decimal("0"))`
def sumOf (values : List ℚ) : ℚ := values.foldl (fun total value => rounded (total + value)) 0

theorem sumOf_concat (values : List ℚ) (value : ℚ) :
    sumOf (values ++ [value]) = rounded (sumOf values + value) :=
  List.foldl_concat _ _ value values

theorem rounded_sumOf (values : List ℚ) : rounded (sumOf values) = sumOf values := by
  cases values using List.reverseRecOn with
  | nil => exact rounded_zero
  | append_singleton values value => rw [sumOf_concat, rounded_rounded]

theorem sumOf_of_exact (hexact : ∀ x : ℚ, rounded x = x) (values : List ℚ) : sumOf values = values.sum := by
  induction values using List.reverseRecOn with
  | nil => rfl
  | append_singleton values value ih => rw [sumOf_concat, hexact, ih, List.sum_append, List.sum_singleton]

theorem sumOf_nonneg {values : List ℚ} (h : ∀ value ∈ values, 0 ≤ value) : 0 ≤ sumOf values :=
  List.foldlRecOn values _ le_rfl fun _ htotal value hvalue => rounded_nonneg (add_nonneg htotal (h value hvalue))

-- What is positive at one place stays positive in the sum of what is not negative.
theorem sumOf_pos {values : List ℚ} (hnonneg : ∀ value ∈ values, 0 ≤ value)
    (hpos : ∃ value ∈ values, 0 < value) : 0 < sumOf values := by
  have hfold : ∀ total, 0 ≤ total → (0 < total ∨ ∃ value ∈ values, 0 < value) →
      0 < values.foldl (fun total value => rounded (total + value)) total := by
    clear hpos
    induction values with
    | nil =>
      rintro total - (htotal | ⟨value, hvalue, -⟩)
      · exact htotal
      · cases hvalue
    | cons value values ih =>
      rw [List.forall_mem_cons] at hnonneg
      intro total htotal hpos
      rw [List.foldl_cons]
      apply ih hnonneg.2 _ (rounded_nonneg (add_nonneg htotal hnonneg.1))
      rcases hpos with hpos | ⟨other, hother, hpos⟩
      · exact .inl (rounded_pos (add_pos_of_pos_of_nonneg hpos hnonneg.1))
      · rcases List.mem_cons.mp hother with rfl | hlater
        · exact .inl (rounded_pos (add_pos_of_nonneg_of_pos htotal hpos))
        · exact .inr ⟨other, hlater, hpos⟩
  exact hfold 0 le_rfl (.inr hpos)

end Context

-- Arithmetic in which no result has to be rounded.

namespace ExactDecimals

scoped instance context : DecimalContext := ⟨id, monotone_id, rfl, rfl, fun _ => rfl, id, fun _ => rfl, id⟩

@[simp] theorem rounded_eq (x : ℚ) : rounded x = x := rfl

@[simp] theorem sumOf_eq (values : List ℚ) : sumOf values = values.sum :=
  sumOf_of_exact rounded_eq values

end ExactDecimals

-- The context Python starts with, but for the bounds of its exponents: 28 digits, half even.
def defaultContext : Format where
  radix := 10
  digits := 28
  one_lt_radix := by decide
  digits_pos := by decide

theorem round_one : defaultContext.round (1 : ℚ) = 1 :=
  Format.round_eq_self (by simpa using defaultContext.representable_zpow 0) zero_le_one

theorem round_pos {x : ℚ} (hx : 0 < x) : 0 < defaultContext.round x :=
  (zpow_pos (Format.radix_pos) _).trans_le (Format.zpow_log_le_round hx)

theorem round_round (x : ℚ) : defaultContext.round (defaultContext.round x) = defaultContext.round x := by
  rcases le_total 0 x with hx | hx
  · exact Format.round_eq_self (Format.representable_round hx) (Format.round_nonneg hx)
  · have hneg := neg_nonneg.mpr hx
    have hself := Format.round_eq_self (defaultContext.representable_round hneg) (Format.round_nonneg hneg)
    rwa [Format.round_neg, Format.round_neg, neg_inj] at hself

theorem isDecimal_round (x : ℚ) : IsDecimal (defaultContext.round x) :=
  (isDecimal_intCast _).mul (isDecimal_zpow _)

namespace DefaultContext

scoped instance context : DecimalContext :=
  ⟨defaultContext.round, fun _ _ => Format.round_mono, Format.round_zero, round_one, Format.round_neg,
    round_pos, round_round, fun _ => isDecimal_round _⟩

end DefaultContext

end DualSleeve

import DualSleeve.Exchange.Filters
import DualSleeve.Library.Significant

namespace DualSleeve

open Library.Grid Library.Significant
open scoped ExactDecimals

-- `floor_to_step` where the quotient and the product are rounded to the digits of the context.
def floorToStepIn (context : Format) (value step : ℚ) : Except PyError ℚ :=
  if step ≤ 0 then .error (.exchangeFilterError .stepMustBePositive)
  else .ok (context.round (truncate (context.round (value / step)) * step))

-- The quotient rounds up to a whole number of steps, and their product stays above the value.
structure FloorsUp (context : Format) (value step : ℚ) (units : ℤ) : Prop where
  representable : context.Representable (units : ℚ)
  above : value < units * step
  reached : context.ReachedFrom (units : ℚ) (value / step)
  behind : context.LeftBehind value (units * step)

variable {context : Format} {value step : ℚ}

theorem floorToStepIn_of_pos (hstep : 0 < step) (hvalue : 0 ≤ value) :
    floorToStepIn context value step = .ok (context.round (⌊context.round (value / step)⌋ * step)) := by
  have hquotient := context.round_nonneg (div_nonneg hvalue hstep.le)
  rw [floorToStepIn, if_neg (not_le.mpr hstep), truncate_of_nonneg hquotient]

-- A value of zero is no whole number of steps short of one.
theorem FloorsUp.value_pos {units : ℤ} (hstep : 0 < step) (hvalue : 0 ≤ value)
    (h : FloorsUp context value step units) : 0 < value := by
  rcases hvalue.eq_or_lt with rfl | hpos
  · have hunits : (1 : ℚ) ≤ units := by
      exact_mod_cast (by exact_mod_cast pos_of_mul_pos_left h.above hstep.le : 0 < units)
    have hplace := context.lastPlace_zero_le_one (K := ℚ)
    have hreached := h.reached
    rw [zero_div, Format.ReachedFrom] at hreached
    rcases hreached with hlt | ⟨heq, -⟩ <;> linarith
  · exact hpos

theorem value_lt_floored_iff (hstep : 0 < step) (hvalue : 0 ≤ value) (hdigits : context.Representable value) :
    value < context.round (⌊context.round (value / step)⌋ * step) ↔
      ∃ units, FloorsUp context value step units := by
  have hquotient := div_nonneg hvalue hstep.le
  have hround := context.round_nonneg hquotient
  constructor
  · intro h
    have habove : value < ⌊context.round (value / step)⌋ * step := by
      by_contra hle
      have hmono := context.round_mono (not_lt.mp hle)
      rw [Format.round_eq_self hdigits hvalue] at hmono
      exact absurd h (not_lt.mpr hmono)
    have hpos : 0 < value := by
      rcases hvalue.eq_or_lt with rfl | hpos
      · simp at habove
      · exact hpos
    have hrepresentable := (context.representable_round hquotient).floor hround
    have hle : value / step ≤ ⌊context.round (value / step)⌋ := ((div_lt_iff₀ hstep).mpr habove).le
    exact ⟨_, hrepresentable, habove,
      (Format.le_round_iff hrepresentable (div_pos hpos hstep) hle).mp (Int.floor_le _),
      (Format.lt_round_iff hdigits hpos habove).mp h⟩
  · rintro ⟨units, h⟩
    have hpos := h.value_pos hstep hvalue
    have hle : value / step ≤ units := ((div_lt_iff₀ hstep).mpr h.above).le
    have hunits : units ≤ ⌊context.round (value / step)⌋ :=
      Int.le_floor.mpr ((Format.le_round_iff h.representable (div_pos hpos hstep) hle).mpr h.reached)
    calc value < context.round (units * step) := (Format.lt_round_iff hdigits hpos h.above).mpr h.behind
      _ ≤ context.round (⌊context.round (value / step)⌋ * step) := by
        apply Format.round_mono
        exact mul_le_mul_of_nonneg_right (by exact_mod_cast hunits) hstep.le

-- Where neither the quotient nor the product needs more digits, the context rounds nothing.
theorem floorToStepIn_eq (hstep : 0 < step) (hvalue : 0 ≤ value)
    (hquotient : context.Representable (value / step)) (hproduct : context.Representable (truncateTo value step)) :
    floorToStepIn context value step = floorToStep value step := by
  have hnonneg := div_nonneg hvalue hstep.le
  rw [floorToStepIn_of_pos hstep hvalue, floorToStep_of_pos value hstep, Format.round_eq_self hquotient hnonneg,
    ← truncate_of_nonneg hnonneg]
  exact congrArg Except.ok (Format.round_eq_self hproduct (truncateTo_nonneg hstep hvalue))

-- Such are the steps that are powers of ten.
theorem floorToStepIn_power (hvalue : 0 ≤ value) (hdigits : context.Representable value) (place : ℤ) :
    floorToStepIn context value ((context.radix : ℚ) ^ place) =
      floorToStep value ((context.radix : ℚ) ^ place) := by
  have hstep : (0 : ℚ) < (context.radix : ℚ) ^ place := zpow_pos Format.radix_pos place
  have hquotient : context.Representable (value / (context.radix : ℚ) ^ place) := by
    rw [div_eq_mul_inv, ← zpow_neg]
    exact hdigits.mul_zpow _
  have hnonneg := div_nonneg hvalue hstep.le
  apply floorToStepIn_eq hstep hvalue hquotient
  rw [truncateTo, truncate_of_nonneg hnonneg]
  exact (hquotient.floor hnonneg).mul_zpow place

section Default

open scoped DefaultContext

theorem floorToStep_default (value step : ℚ) :
    floorToStep value step = floorToStepIn defaultContext value step := rfl

theorem representable_rounded {x : ℚ} (h : 0 < rounded x) : defaultContext.Representable (rounded x) :=
  Format.representable_round (pos_of_rounded_pos h).le

-- On a grid of powers of ten flooring comes to the greatest multiple below the value.
theorem floored_power {value : ℚ} (hvalue : 0 ≤ value) (hdigits : defaultContext.Representable value)
    (place : ℤ) : floored value (10 ^ place) = truncateTo value (10 ^ place) := by
  have hstep : (0 : ℚ) < 10 ^ place := zpow_pos (by norm_num) place
  have hexact := @floorToStep_of_pos ExactDecimals.context _ value hstep
  have hsame := (floorToStepIn_power hvalue hdigits place).trans hexact
  exact Except.ok.inj ((floorToStep_of_pos value hstep).symm.trans hsame)

theorem floored_power_floored {value : ℚ} (hvalue : 0 ≤ value) (hdigits : defaultContext.Representable value)
    (place : ℤ) : floored (floored value (10 ^ place)) (10 ^ place) = floored value (10 ^ place) := by
  have hstep : (0 : ℚ) < 10 ^ place := zpow_pos (by norm_num) place
  have hfloored := floored_nonneg hstep hvalue
  rcases hfloored.eq_or_lt with hzero | hpos
  · rw [← hzero]
    simp [floored, truncate]
  · rw [floored_power hfloored (representable_rounded hpos), floored_power hvalue hdigits]
    exact truncateTo_of_onGrid hstep (onGrid_truncateTo _ _)

end Default

-- Flooring stays below the value unless the rounded quotient reaches a whole number of steps
-- that the value itself does not.
theorem floored_le_iff (value step : ℚ) (hvalue : 0 ≤ value) (hdigits : defaultContext.Representable value)
    (hstep : 0 < step) :
    (∃ floored, floorToStepIn defaultContext value step = .ok floored ∧ floored ≤ value) ↔
      ¬∃ units, FloorsUp defaultContext value step units := by
  rw [← value_lt_floored_iff hstep hvalue hdigits, not_lt, floorToStepIn_of_pos hstep hvalue]
  simp

-- The value that lies one unit of its last place below twelve steps.

def almostSix : ℚ := 5999999999999999999999999999 / 10 ^ 27

theorem almostSix_representable : defaultContext.Representable almostSix :=
  ⟨5999999999999999999999999999, -27, by decide, by norm_num [almostSix, defaultContext]⟩

theorem floored_le_almostSix :
    floorToStepIn defaultContext almostSix (1 / 10) = .ok (59 / 10) ∧
      ¬∃ units, FloorsUp defaultContext almostSix (1 / 10) units := by
  have hfloored : floorToStepIn defaultContext almostSix (1 / 10) = .ok (59 / 10) := by decide +kernel
  have hiff := floored_le_iff almostSix (1 / 10) (by decide +kernel) almostSix_representable (by decide +kernel)
  exact ⟨hfloored, hiff.mp ⟨59 / 10, hfloored, by decide +kernel⟩⟩

theorem floors_above_value :
    defaultContext.Representable almostSix ∧ 0 ≤ almostSix ∧
      floorToStepIn defaultContext almostSix (1 / 2) = .ok 6 ∧ almostSix < 6 :=
  ⟨almostSix_representable, by decide +kernel, by decide +kernel, by decide +kernel⟩

end DualSleeve

import Mathlib.Algebra.Order.Floor.Ring
import Mathlib.Tactic.Linarith
import Mathlib.Tactic.FieldSimp

namespace DualSleeve.Library.Grid

variable {K : Type*} [Field K] [LinearOrder K] [IsStrictOrderedRing K] [FloorRing K]

-- Rounding towards zero, to an integer and to a multiple of a step.
def truncate (x : K) : ℤ := if 0 ≤ x then ⌊x⌋ else ⌈x⌉

def truncateTo (x step : K) : K := (truncate (x / step) : K) * step

-- `x` is an integer multiple of `step`.
def OnGrid (x step : K) : Prop := ∃ n : ℤ, x = (n : K) * step

omit [IsStrictOrderedRing K] in
theorem truncate_of_nonneg {x : K} (h : 0 ≤ x) : truncate x = ⌊x⌋ := if_pos h

theorem truncate_of_nonpos {x : K} (h : x ≤ 0) : truncate x = ⌈x⌉ := by
  rcases h.lt_or_eq with h | rfl
  · exact if_neg (not_le.mpr h)
  · simp [truncate]

theorem truncate_intCast (n : ℤ) : truncate (n : K) = n := by
  unfold truncate
  split <;> simp

omit [IsStrictOrderedRing K] in
theorem truncate_nonneg_of_nonneg {x : K} (h : 0 ≤ x) : 0 ≤ truncate x := by
  rw [truncate_of_nonneg h]
  exact Int.floor_nonneg.mpr h

theorem truncate_nonpos_of_nonpos {x : K} (h : x ≤ 0) : truncate x ≤ 0 := by
  rw [truncate_of_nonpos h]
  exact Int.ceil_le.mpr (by simpa using h)

theorem truncate_mono {x y : K} (h : x ≤ y) : truncate x ≤ truncate y := by
  rcases le_total 0 x with hx | hx
  · rw [truncate_of_nonneg hx, truncate_of_nonneg (hx.trans h)]
    exact Int.floor_le_floor h
  · rcases le_total 0 y with hy | hy
    · exact (truncate_nonpos_of_nonpos hx).trans (truncate_nonneg_of_nonneg hy)
    · rw [truncate_of_nonpos hx, truncate_of_nonpos hy]
      exact Int.ceil_le_ceil h

omit [IsStrictOrderedRing K] in
theorem onGrid_truncateTo (x step : K) : OnGrid (truncateTo x step) step :=
  ⟨truncate (x / step), rfl⟩

theorem truncateTo_of_onGrid {x step : K} (hstep : 0 < step) (h : OnGrid x step) :
    truncateTo x step = x := by
  obtain ⟨n, rfl⟩ := h
  rw [truncateTo, mul_div_cancel_right₀ _ hstep.ne', truncate_intCast]

theorem truncateTo_mono {x y step : K} (hstep : 0 < step) (h : x ≤ y) :
    truncateTo x step ≤ truncateTo y step := by
  apply mul_le_mul_of_nonneg_right _ hstep.le
  exact_mod_cast truncate_mono (div_le_div_of_nonneg_right h hstep.le)

theorem truncateTo_nonpos {x step : K} (hstep : 0 < step) (h : x ≤ 0) : truncateTo x step ≤ 0 := by
  apply mul_nonpos_of_nonpos_of_nonneg _ hstep.le
  exact_mod_cast truncate_nonpos_of_nonpos (div_nonpos_of_nonpos_of_nonneg h hstep.le)

theorem truncateTo_nonneg {x step : K} (hstep : 0 < step) (h : 0 ≤ x) : 0 ≤ truncateTo x step := by
  apply mul_nonneg _ hstep.le
  exact_mod_cast truncate_nonneg_of_nonneg (div_nonneg h hstep.le)

theorem truncateTo_le {x step : K} (hstep : 0 < step) (h : 0 ≤ x) : truncateTo x step ≤ x := by
  rw [truncateTo, truncate_of_nonneg (div_nonneg h hstep.le)]
  exact (le_div_iff₀ hstep).mp (Int.floor_le _)

-- A positive result comes from a positive value.
theorem pos_of_truncateTo_pos {x step : K} (hstep : 0 < step) (h : 0 < truncateTo x step) : 0 < x := by
  by_contra hx
  exact absurd (truncateTo_nonpos hstep (not_lt.mp hx)) (not_le.mpr h)

theorem truncateTo_le_of_pos {x step : K} (hstep : 0 < step) (h : 0 < truncateTo x step) :
    truncateTo x step ≤ x :=
  truncateTo_le hstep (pos_of_truncateTo_pos hstep h).le

-- The next multiple is above the value.
theorem lt_truncateTo_add {x step : K} (hstep : 0 < step) (h : 0 ≤ x) : x < truncateTo x step + step := by
  rw [truncateTo, truncate_of_nonneg (div_nonneg h hstep.le), ← add_one_mul]
  exact (div_lt_iff₀ hstep).mp (Int.lt_floor_add_one _)

-- No multiple of the step that is not above the value is passed over.
theorem le_truncateTo_of_onGrid {x y step : K} (hstep : 0 < step) (hy : OnGrid y step) (h : y ≤ x) :
    y ≤ truncateTo x step := by
  rw [← truncateTo_of_onGrid hstep hy]
  exact truncateTo_mono hstep h

-- Of the multiples that are not above the value, truncation takes the greatest.
theorem isGreatest_truncateTo {x step : K} (hstep : 0 < step) (h : 0 ≤ x) :
    IsGreatest {y | OnGrid y step ∧ y ≤ x} (truncateTo x step) := by
  refine ⟨⟨onGrid_truncateTo x step, truncateTo_le hstep h⟩, ?_⟩
  intro y hy
  exact le_truncateTo_of_onGrid hstep hy.1 hy.2

-- The truncated value is above a bound when some multiple lies between the bound and the value.
theorem lt_truncateTo_iff {x bound step : K} (hstep : 0 < step) (h : 0 ≤ x) :
    bound < truncateTo x step ↔ ∃ y, OnGrid y step ∧ bound < y ∧ y ≤ x := by
  constructor
  · intro hlt
    exact ⟨truncateTo x step, onGrid_truncateTo x step, hlt, truncateTo_le hstep h⟩
  · intro hmultiple
    obtain ⟨y, hy, hlt, hle⟩ := hmultiple
    exact hlt.trans_le (le_truncateTo_of_onGrid hstep hy hle)

theorem le_truncateTo_iff {x bound step : K} (hstep : 0 < step) (h : 0 ≤ x) :
    bound ≤ truncateTo x step ↔ ∃ y, OnGrid y step ∧ bound ≤ y ∧ y ≤ x := by
  constructor
  · intro hle
    exact ⟨truncateTo x step, onGrid_truncateTo x step, hle, truncateTo_le hstep h⟩
  · intro hmultiple
    obtain ⟨y, hy, hbound, hle⟩ := hmultiple
    exact hbound.trans (le_truncateTo_of_onGrid hstep hy hle)

end DualSleeve.Library.Grid

import DualSleeve.Strategies.SleeveB.Theorems

namespace DualSleeve

open Library Library.Raise
open scoped ExactDecimals

-- The last value of `ema(closes, period)`.
def lastEma (closes : List ℚ) (period : ℤ) : Except PyError ℚ := do
  let averages ← ema closes period
  itemAt averages (-1)

theorem lastEma_eq (period : ℤ) (hperiod : 0 < period) {closes : List ℚ} (hne : closes ≠ []) :
    lastEma closes period = .ok (Ema.final (emaAlpha period) closes) := by
  rw [lastEma, ema_of_pos closes hperiod, ok_bind, itemAt_last (Ema.getLast?_smoothBy _ hne)]
  rfl

-- The last close and the two averages stand in the order of the trend.
def InTrend (before : ℚ → ℚ → Prop) (closes : List ℚ) : Prop :=
  ∃ last e50 e200, itemAt closes (-1) = .ok last ∧ lastEma closes 50 = .ok e50 ∧
    lastEma closes 200 = .ok e200 ∧ before e50 last ∧ before e200 e50

-- Whatever its steps are, a rising market is a bull market and a falling one a bear market.
theorem regime_follows_trend (closes : List ℚ) (hlength : 200 ≤ closes.length) :
    (closes.Pairwise (· < ·) → regimeFromDailyClose closes = .ok .bull ∧ InTrend (· < ·) closes) ∧
      (closes.Pairwise (· > ·) → regimeFromDailyClose closes = .ok .bear ∧ InTrend (· > ·) closes) := by
  have hne : closes ≠ [] := by
    rintro rfl
    simp at hlength
  have hlast := List.getLast?_eq_some_getLast hne
  have hslower : emaAlpha 200 < emaAlpha 50 := by norm_num [ExactDecimals.emaAlpha_eq]
  have hone : emaAlpha 50 < 1 := by norm_num [ExactDecimals.emaAlpha_eq]
  have hclose := itemAt_last hlast
  have h50 := lastEma_eq 50 (by norm_num) hne
  have h200 := lastEma_eq 200 (by norm_num) hne
  rw [regimeFromDailyClose_of_length hlength hlast]
  constructor
  · intro hrises
    obtain ⟨hslow, hfast⟩ := Ema.final_of_rising hslower hone (by omega) hlast hrises
    exact ⟨congrArg Except.ok (if_pos ⟨hfast, hslow⟩), _, _, _, hclose, h50, h200, hfast, hslow⟩
  · intro hfalls
    obtain ⟨hfast, hslow⟩ := Ema.final_of_falling hslower hone (by omega) hlast hfalls
    refine ⟨congrArg Except.ok ?_, _, _, _, hclose, h50, h200, hfast, hslow⟩
    rw [Regime.ofAverages, if_neg (fun hbull => lt_asymm hbull.1 hfast), if_pos ⟨hfast, hslow⟩]

-- Two hundred square numbers, which rise by ever larger steps.
def squareCloses : List ℚ := (List.range 200).map fun day : ℕ => (day : ℚ) ^ 2

theorem regime_follows_trend_squares : regimeFromDailyClose squareCloses = .ok .bull := by
  have hlength : squareCloses.length = 200 := by rw [squareCloses, List.length_map, List.length_range]
  have hrises : squareCloses.Pairwise (· < ·) := by
    rw [squareCloses, List.pairwise_map]
    refine List.pairwise_lt_range.imp ?_
    intro day later h
    exact pow_lt_pow_left₀ (by exact_mod_cast h) (by positivity) (by norm_num)
  exact ((regime_follows_trend squareCloses hlength.ge).1 hrises).1

end DualSleeve

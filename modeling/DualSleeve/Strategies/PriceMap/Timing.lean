import DualSleeve.Strategies.PriceMap.Theorems

namespace DualSleeve

open Library Library.Raise
open scoped ExactDecimals

-- The hourly filter under a price map.

namespace PriceMap

variable {change : PriceMap}

theorem ema_price (values : List ℚ) (period : ℤ) :
    ema (values.map change.price) period = (ema values period).map (List.map change.price) := by
  unfold ema
  by_cases h : period ≤ 0
  · rw [if_pos h, if_pos h]
    rfl
  · rw [if_neg h, if_neg h]
    exact congrArg Except.ok (Ema.smooth_affine _ change.slope change.intercept values)

theorem body_bar (b : OhlcBar) : (change.bar b).body = change.stretch * b.body :=
  abs_price_sub b.close b.openPrice

theorem rangeSize_bar (b : OhlcBar) : (change.bar b).rangeSize = change.stretch * b.rangeSize := by
  unfold OhlcBar.rangeSize
  rw [ExactDecimals.rounded_eq, ExactDecimals.rounded_eq]
  by_cases h : change.falls
  · rw [bar_of_falls h, price_sub, stretch_of_falls h]
    ring
  · rw [bar_of_rises h, price_sub, stretch_of_rises h]

theorem body_ratio_bar (b : OhlcBar) :
    (change.bar b).body / (change.bar b).rangeSize = b.body / b.rangeSize := by
  rw [body_bar, rangeSize_bar, mul_div_mul_left _ _ (ne_of_gt change.stretch_pos)]

theorem rangeSize_pos_bar (b : OhlcBar) : 0 < (change.bar b).rangeSize ↔ 0 < b.rangeSize := by
  rw [rangeSize_bar, mul_pos_iff_of_pos_left change.stretch_pos]

theorem bearishReversal_of_rises (h : ¬ change.falls) (b : OhlcBar) :
    bearishReversal (change.bar b) = bearishReversal b := by
  unfold bearishReversal
  rw [body_ratio_bar]
  simp only [gt_iff_lt, rangeSize_pos_bar]
  rw [bar_of_rises h]
  simp only [price_lt_of_rises h]

theorem bullishReversal_of_rises (h : ¬ change.falls) (b : OhlcBar) :
    bullishReversal (change.bar b) = bullishReversal b := by
  unfold bullishReversal
  rw [body_ratio_bar]
  simp only [gt_iff_lt, rangeSize_pos_bar]
  rw [bar_of_rises h]
  simp only [price_lt_of_rises h]

theorem bearishReversal_of_falls (h : change.falls) (b : OhlcBar) :
    bearishReversal (change.bar b) = bullishReversal b := by
  unfold bearishReversal bullishReversal
  rw [body_ratio_bar]
  simp only [gt_iff_lt, rangeSize_pos_bar]
  rw [bar_of_falls h]
  simp only [price_lt_of_falls h]

theorem bullishReversal_of_falls (h : change.falls) (b : OhlcBar) :
    bullishReversal (change.bar b) = bearishReversal b := by
  unfold bearishReversal bullishReversal
  rw [body_ratio_bar]
  simp only [gt_iff_lt, rangeSize_pos_bar]
  rw [bar_of_falls h]
  simp only [price_lt_of_falls h]

-- An extension beyond the average, against the allowed multiple of the true range.
theorem extension_of_rises (h : ¬ change.falls) (allowed p q : ℚ) :
    change.stretch * allowed < change.price p - change.price q ↔ allowed < p - q := by
  rw [price_sub, stretch_of_rises h, mul_lt_mul_iff_right₀ (slope_pos_of_rises h)]

theorem extension_of_falls (h : change.falls) (allowed p q : ℚ) :
    change.stretch * allowed < change.price p - change.price q ↔ allowed < q - p := by
  have hswap : change.price p - change.price q = change.stretch * (q - p) := by
    rw [price_sub, stretch_of_falls h]
    ring
  rw [hswap, mul_lt_mul_iff_right₀ change.stretch_pos]

theorem oneHourVerdict_bar (side : PositionSide) (last : OhlcBar) (emaValue atrValue : ℚ)
    (cfg : SleeveBCandidateBuilderConfig) :
    oneHourVerdict (change.side side) (change.bar last) (change.price emaValue)
        (change.stretch * atrValue) cfg =
      change.timing (oneHourVerdict side last emaValue atrValue cfg) := by
  unfold timing
  by_cases h : change.falls
  · rw [side_of_falls h, if_pos h]
    cases side with
    | long =>
      simp only [PositionSide.opposite, oneHourVerdict, bar_close, bullishReversal_of_falls h, gt_iff_lt,
        ExactDecimals.rounded_eq, mul_assoc, extension_of_falls h, price_lt_of_falls h, apply_ite OneHourTiming.mirror]
      rfl
    | short =>
      simp only [PositionSide.opposite, oneHourVerdict, bar_close, bearishReversal_of_falls h, gt_iff_lt,
        ExactDecimals.rounded_eq, mul_assoc, extension_of_falls h, price_lt_of_falls h, apply_ite OneHourTiming.mirror]
      rfl
  · rw [side_of_rises h, if_neg h]
    cases side <;> simp only [oneHourVerdict, bar_close, bearishReversal_of_rises h,
      bullishReversal_of_rises h, gt_iff_lt, ExactDecimals.rounded_eq, mul_assoc, extension_of_rises h,
      price_lt_of_rises h]

theorem oneHourTiming_bar (change : PriceMap) (side : PositionSide) (oneHourBars : List OhlcBar)
    (cfg : SleeveBCandidateBuilderConfig) :
    oneHourTiming (change.side side) (oneHourBars.map change.bar) cfg =
      (oneHourTiming side oneHourBars cfg).map change.timing := by
  unfold oneHourTiming builderAtr
  simp only [map_close, ema_price, itemAt_map, averageTrueRange_bar]
  cases ema (oneHourBars.map OhlcBar.close) cfg.oneHourEmaPeriod with
  | error exc => rfl
  | ok averages =>
    show (itemAt (averages.map change.price) (-1) >>= _) = (itemAt averages (-1) >>= _).map change.timing
    rw [itemAt_map]
    cases itemAt averages (-1) with
    | error exc => rfl
    | ok emaValue =>
      cases itemAt oneHourBars (-1) with
      | error exc => rfl
      | ok last =>
        cases averageTrueRange oneHourBars cfg.atrPeriod with
        | error exc => rfl
        | ok atrValue => exact congrArg Except.ok (oneHourVerdict_bar side last emaValue atrValue cfg)

end PriceMap

end DualSleeve

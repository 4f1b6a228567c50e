import DualSleeve.Strategies.PriceMap
import Mathlib.Algebra.Order.Group.MinMax

namespace DualSleeve

open Library Library.Raise
open scoped ExactDecimals

namespace PriceMap

variable {change : PriceMap}

theorem stretch_pos (change : PriceMap) : 0 < change.stretch := abs_pos.mpr change.slope_ne_zero

theorem slope_pos_of_rises (h : ¬ change.falls) : 0 < change.slope :=
  lt_of_le_of_ne (not_lt.mp h) change.slope_ne_zero.symm

theorem price_inj {p q : ℚ} : change.price p = change.price q ↔ p = q := by
  unfold price
  rw [add_left_inj, mul_right_inj' change.slope_ne_zero]

theorem price_le_of_rises (h : ¬ change.falls) {p q : ℚ} : change.price p ≤ change.price q ↔ p ≤ q := by
  unfold price
  rw [add_le_add_iff_right, mul_le_mul_iff_right₀ (slope_pos_of_rises h)]

theorem price_lt_of_rises (h : ¬ change.falls) {p q : ℚ} : change.price p < change.price q ↔ p < q := by
  rw [← not_le, ← not_le, price_le_of_rises h]

theorem price_le_of_falls (h : change.falls) {p q : ℚ} : change.price p ≤ change.price q ↔ q ≤ p := by
  unfold price
  rw [add_le_add_iff_right, mul_le_mul_left_of_neg h]

theorem price_lt_of_falls (h : change.falls) {p q : ℚ} : change.price p < change.price q ↔ q < p := by
  rw [← not_le, ← not_le, price_le_of_falls h]

theorem price_sub (p q : ℚ) : change.price p - change.price q = change.slope * (p - q) := by
  unfold price
  ring

theorem abs_price_sub (p q : ℚ) : |change.price p - change.price q| = change.stretch * |p - q| := by
  rw [price_sub, abs_mul]
  rfl

theorem stretch_of_rises (h : ¬ change.falls) : change.stretch = change.slope :=
  abs_of_pos (slope_pos_of_rises h)

theorem stretch_of_falls (h : change.falls) : change.stretch = -change.slope :=
  abs_of_neg h

-- The two ways a map acts on bars and sides.

theorem bar_of_rises (h : ¬ change.falls) (b : OhlcBar) :
    change.bar b = ⟨b.timestamp, change.price b.openPrice, change.price b.high, change.price b.low,
      change.price b.close⟩ := by
  rw [bar, if_neg h, if_neg h]

theorem bar_of_falls (h : change.falls) (b : OhlcBar) :
    change.bar b = ⟨b.timestamp, change.price b.openPrice, change.price b.low, change.price b.high,
      change.price b.close⟩ := by
  rw [bar, if_pos h, if_pos h]

@[simp] theorem bar_timestamp (b : OhlcBar) : (change.bar b).timestamp = b.timestamp := rfl

@[simp] theorem bar_close (b : OhlcBar) : (change.bar b).close = change.price b.close := rfl

theorem side_of_rises (h : ¬ change.falls) (s : PositionSide) : change.side s = s := if_neg h

theorem side_of_falls (h : change.falls) (s : PositionSide) : change.side s = s.opposite := if_pos h

-- What each elementary reading of a bar becomes.

theorem stopHit_bar (s : PositionSide) (b : OhlcBar) (p : ℚ) :
    stopHit (change.side s) (change.bar b) (change.price p) = stopHit s b p := by
  by_cases h : change.falls
  · rw [side_of_falls h, bar_of_falls h]
    cases s <;> simp [PositionSide.opposite, stopHit, price_le_of_falls h]
  · rw [side_of_rises h, bar_of_rises h]
    cases s <;> simp [stopHit, price_le_of_rises h]

theorem targetHit_bar (s : PositionSide) (b : OhlcBar) (p : ℚ) :
    targetHit (change.side s) (change.bar b) (change.price p) = targetHit s b p := by
  by_cases h : change.falls
  · rw [side_of_falls h, bar_of_falls h]
    cases s <;> simp [PositionSide.opposite, targetHit, price_le_of_falls h]
  · rw [side_of_rises h, bar_of_rises h]
    cases s <;> simp [targetHit, price_le_of_rises h]

theorem pnl_price (change : PriceMap) (s : PositionSide) (entry exitPrice quantity fraction : ℚ) :
    pnl (change.side s) (change.price entry) (change.price exitPrice) (quantity * fraction) =
      change.stretch * quantity * pnl s entry exitPrice (1 * fraction) := by
  by_cases h : change.falls
  · rw [side_of_falls h, stretch_of_falls h]
    cases s <;> simp only [PositionSide.opposite, pnl, price_sub, ExactDecimals.rounded_eq] <;> ring
  · rw [side_of_rises h, stretch_of_rises h]
    cases s <;> simp only [pnl, price_sub, ExactDecimals.rounded_eq] <;> ring

theorem stopAt_price (s : PositionSide) (entry distance : ℚ) :
    stopAt (change.side s) (change.price entry) (change.stretch * distance) =
      change.price (stopAt s entry distance) := by
  by_cases h : change.falls
  · rw [side_of_falls h, stretch_of_falls h]
    cases s <;> simp only [PositionSide.opposite, stopAt, price, ExactDecimals.rounded_eq] <;> ring
  · rw [side_of_rises h, stretch_of_rises h]
    cases s <;> simp only [stopAt, price, ExactDecimals.rounded_eq] <;> ring

theorem profitAt_price (s : PositionSide) (entry distance : ℚ) :
    profitAt (change.side s) (change.price entry) (change.stretch * distance) =
      change.price (profitAt s entry distance) := by
  by_cases h : change.falls
  · rw [side_of_falls h, stretch_of_falls h]
    cases s <;> simp only [PositionSide.opposite, profitAt, price, ExactDecimals.rounded_eq] <;> ring
  · rw [side_of_rises h, stretch_of_rises h]
    cases s <;> simp only [profitAt, price, ExactDecimals.rounded_eq] <;> ring

theorem trueRange_bar (b : OhlcBar) (previousClose : ℚ) :
    (change.bar b).trueRange (change.price previousClose) =
      change.stretch * b.trueRange previousClose := by
  have hpos := le_of_lt change.stretch_pos
  unfold OhlcBar.trueRange
  simp only [ExactDecimals.rounded_eq]
  rw [mul_max_of_nonneg _ _ hpos, mul_max_of_nonneg _ _ hpos]
  by_cases h : change.falls
  · rw [bar_of_falls h, abs_price_sub, abs_price_sub, price_sub, max_right_comm]
    rw [show change.slope * (b.low - b.high) = change.stretch * (b.high - b.low) by
      rw [stretch_of_falls h]; ring]
  · rw [bar_of_rises h, abs_price_sub, abs_price_sub, price_sub, stretch_of_rises h]

-- The average true range grows with the prices.

theorem divide_mul {factor : ℚ} (hfactor : factor ≠ 0) (x y : ℚ) :
    divide (factor * x) y = (divide x y).map (factor * ·) := by
  unfold divide
  by_cases hy : y ≠ 0
  · rw [if_pos hy, if_pos hy, mul_div_assoc]
    rfl
  · rw [if_neg hy, if_neg hy]
    by_cases hx : x = 0
    · rw [if_pos hx, if_pos (by rw [hx, mul_zero])]
      rfl
    · rw [if_neg hx, if_neg (mul_ne_zero hfactor hx)]
      rfl

theorem trueRangeAt_bar (bars : List OhlcBar) (index : ℤ) :
    trueRangeAt (bars.map change.bar) index = (trueRangeAt bars index).map (change.stretch * ·) := by
  unfold trueRangeAt
  rw [itemAt_map, itemAt_map]
  cases itemAt bars index with
  | error exc => rfl
  | ok current =>
    cases itemAt bars (index - 1) with
    | error exc => rfl
    | ok previous => exact congrArg Except.ok (trueRange_bar current previous.close)

theorem averageTrueRange_bar (change : PriceMap) (bars : List OhlcBar) (period : ℤ) :
    averageTrueRange (bars.map change.bar) period =
      (averageTrueRange bars period).map (change.stretch * ·) := by
  unfold averageTrueRange
  rw [List.length_map]
  by_cases hlength : (bars.length : ℤ) < period + 1
  · rw [if_pos hlength, if_pos hlength]
    rfl
  rw [if_neg hlength, if_neg hlength, mapM_map (trueRangeAt_bar bars)]
  cases (Sequence.integers (bars.length - period) bars.length).mapM (trueRangeAt bars) with
  | error exc => rfl
  | ok trueRanges =>
    show (do return rounded (← divide (sumOf (trueRanges.map (change.stretch * ·))) period)) = _
    simp only [ExactDecimals.rounded_eq, bind_pure, ExactDecimals.sumOf_eq]
    rw [List.sum_map_mul_left, List.map_id']
    exact divide_mul (ne_of_gt change.stretch_pos) _ _

-- The moving averages follow the prices, so the regime keeps or exchanges its trends.

theorem emaFinal_price (period : ℤ) {values : List ℚ} (h : values ≠ []) :
    emaFinal period (values.map change.price) = change.price (emaFinal period values) := by
  rw [ExactDecimals.emaFinal_eq, ExactDecimals.emaFinal_eq]
  exact Ema.final_affine _ change.slope change.intercept h

theorem ofAverages_price (last e50 e200 : ℚ) :
    Regime.ofAverages (change.price last) (change.price e50) (change.price e200) =
      change.regime (.ofAverages last e50 e200) := by
  unfold Regime.ofAverages regime
  by_cases h : change.falls
  · simp only [gt_iff_lt, price_lt_of_falls h, if_pos h]
    by_cases hbull : e50 < last ∧ e200 < e50
    · rw [if_neg (fun hbear => lt_asymm hbull.1 hbear.1), if_pos hbull, if_pos hbull]
      rfl
    · rw [if_neg hbull, if_neg hbull]
      by_cases hbear : last < e50 ∧ e50 < e200
      · rw [if_pos hbear, if_pos hbear]
        rfl
      · rw [if_neg hbear, if_neg hbear]
        rfl
  · simp only [gt_iff_lt, price_lt_of_rises h, if_neg h]

theorem regimeFromDailyClose_price (closes : List ℚ) :
    regimeFromDailyClose (closes.map change.price) =
      (regimeFromDailyClose closes).map change.regime := by
  by_cases hlength : closes.length < 200
  · rw [regimeFromDailyClose_of_short hlength, regimeFromDailyClose_of_short (by simpa using hlength)]
    unfold regime
    by_cases h : change.falls
    · simp [Except.map, h, Regime.mirror]
    · simp [Except.map, h]
  · have hne : closes ≠ [] := by
      intro h
      rw [h] at hlength
      simp at hlength
    obtain ⟨last, hlast⟩ : ∃ last, closes.getLast? = some last :=
      ⟨closes.getLast hne, List.getLast?_eq_some_getLast hne⟩
    have hlast' : (closes.map change.price).getLast? = some (change.price last) := by
      rw [List.getLast?_map, hlast]
      rfl
    rw [regimeFromDailyClose_of_length (not_lt.mp hlength) hlast,
      regimeFromDailyClose_of_length (by simpa using hlength) hlast', emaFinal_price _ hne,
      emaFinal_price _ hne, ofAverages_price]
    rfl

-- Extremes of mapped prices.

theorem foldl_map_op (f : ℚ → ℚ) (op op' : ℚ → ℚ → ℚ) (h : ∀ a b, f (op a b) = op' (f a) (f b))
    (start : ℚ) (rest : List ℚ) : (rest.map f).foldl op' (f start) = f (rest.foldl op start) := by
  induction rest generalizing start with
  | nil => rfl
  | cons value rest ih => rw [List.map_cons, List.foldl_cons, List.foldl_cons, ← h, ih]

theorem price_monotone (h : ¬ change.falls) : Monotone change.price :=
  fun _ _ hle => (price_le_of_rises h).mpr hle

theorem price_antitone (h : change.falls) : Antitone change.price :=
  fun _ _ hle => (price_le_of_falls h).mpr hle

theorem maximumOf_of_rises (h : ¬ change.falls) (values : List ℚ) :
    maximumOf (values.map change.price) = (maximumOf values).map change.price := by
  cases values with
  | nil => rfl
  | cons first rest =>
    exact congrArg Except.ok (foldl_map_op _ max max (fun _ _ => (price_monotone h).map_max) first rest)

theorem minimumOf_of_rises (h : ¬ change.falls) (values : List ℚ) :
    minimumOf (values.map change.price) = (minimumOf values).map change.price := by
  cases values with
  | nil => rfl
  | cons first rest =>
    exact congrArg Except.ok (foldl_map_op _ min min (fun _ _ => (price_monotone h).map_min) first rest)

theorem maximumOf_of_falls (h : change.falls) (values : List ℚ) :
    maximumOf (values.map change.price) = (minimumOf values).map change.price := by
  cases values with
  | nil => rfl
  | cons first rest =>
    exact congrArg Except.ok (foldl_map_op _ min max (fun _ _ => (price_antitone h).map_min) first rest)

theorem minimumOf_of_falls (h : change.falls) (values : List ℚ) :
    minimumOf (values.map change.price) = (maximumOf values).map change.price := by
  cases values with
  | nil => rfl
  | cons first rest =>
    exact congrArg Except.ok (foldl_map_op _ max min (fun _ _ => (price_antitone h).map_max) first rest)

theorem map_close (bars : List OhlcBar) :
    (bars.map change.bar).map OhlcBar.close = (bars.map OhlcBar.close).map change.price := by
  rw [List.map_map, List.map_map]
  rfl

theorem map_high_of_rises (h : ¬ change.falls) (bars : List OhlcBar) :
    (bars.map change.bar).map OhlcBar.high = (bars.map OhlcBar.high).map change.price := by
  rw [List.map_map, List.map_map]
  exact List.map_congr_left fun b _ => by rw [Function.comp_apply, bar_of_rises h]; rfl

theorem map_low_of_rises (h : ¬ change.falls) (bars : List OhlcBar) :
    (bars.map change.bar).map OhlcBar.low = (bars.map OhlcBar.low).map change.price := by
  rw [List.map_map, List.map_map]
  exact List.map_congr_left fun b _ => by rw [Function.comp_apply, bar_of_rises h]; rfl

theorem map_high_of_falls (h : change.falls) (bars : List OhlcBar) :
    (bars.map change.bar).map OhlcBar.high = (bars.map OhlcBar.low).map change.price := by
  rw [List.map_map, List.map_map]
  exact List.map_congr_left fun b _ => by rw [Function.comp_apply, bar_of_falls h]; rfl

theorem map_low_of_falls (h : change.falls) (bars : List OhlcBar) :
    (bars.map change.bar).map OhlcBar.low = (bars.map OhlcBar.high).map change.price := by
  rw [List.map_map, List.map_map]
  exact List.map_congr_left fun b _ => by rw [Function.comp_apply, bar_of_falls h]; rfl

theorem donchian_of_rises (h : ¬ change.falls) (symbol : String) (regime : Regime)
    (close4h high4h low4h : List ℚ) (lookbackBars : ℤ) :
    donchianSignal symbol regime (close4h.map change.price) (high4h.map change.price)
        (low4h.map change.price) lookbackBars =
      donchianSignal symbol regime close4h high4h low4h lookbackBars := by
  unfold donchianSignal
  rw [List.length_map, itemAt_map, Sequence.slice_map, Sequence.slice_map, maximumOf_of_rises h,
    minimumOf_of_rises h]
  cases itemAt close4h (-1) with
  | error exc => rfl
  | ok last =>
    cases maximumOf (Sequence.slice high4h (-lookbackBars - 1) (-1)) <;>
      cases minimumOf (Sequence.slice low4h (-lookbackBars - 1) (-1)) <;>
        simp [Except.map, price_lt_of_rises h]

theorem donchian_of_falls (h : change.falls) (symbol : String) (regime : Regime)
    (close4h high4h low4h : List ℚ) (lookbackBars : ℤ) :
    donchianSignal symbol regime.mirror (close4h.map change.price) (low4h.map change.price)
        (high4h.map change.price) lookbackBars =
      (donchianSignal symbol regime close4h high4h low4h lookbackBars).map SleeveBSignal.mirror := by
  unfold donchianSignal
  rw [List.length_map, itemAt_map, Sequence.slice_map, Sequence.slice_map, maximumOf_of_falls h,
    minimumOf_of_falls h]
  by_cases hshort : (close4h.length : ℤ) < lookbackBars + 1
  · simp only [if_pos hshort]
    cases regime <;> rfl
  simp only [if_neg hshort]
  cases itemAt close4h (-1) with
  | error exc => cases regime <;> rfl
  | ok last =>
    cases regime with
    | insufficientData => rfl
    | chop => rfl
    | bull =>
      cases maximumOf (Sequence.slice high4h (-lookbackBars - 1) (-1)) with
      | error exc => rfl
      | ok ceiling =>
        by_cases hbreak : ceiling < last
        · simp [Except.map, Regime.mirror, price_lt_of_falls h, hbreak, SleeveBSignal.mirror,
            PositionSide.opposite, SleeveBReason.mirror, pure, Except.pure]
        · simp [Except.map, Regime.mirror, price_lt_of_falls h, hbreak, SleeveBSignal.mirror,
            SleeveBReason.mirror, pure, Except.pure]
    | bear =>
      cases minimumOf (Sequence.slice low4h (-lookbackBars - 1) (-1)) with
      | error exc => rfl
      | ok floor =>
        by_cases hbreak : last < floor
        · simp [Except.map, Regime.mirror, price_lt_of_falls h, hbreak, SleeveBSignal.mirror,
            PositionSide.opposite, SleeveBReason.mirror, pure, Except.pure]
        · simp [Except.map, Regime.mirror, price_lt_of_falls h, hbreak, SleeveBSignal.mirror,
            SleeveBReason.mirror, pure, Except.pure]

theorem map_signal_of_rises (h : ¬ change.falls) (outcome : Except PyError SleeveBSignal) :
    outcome.map change.signal = outcome := by
  cases outcome with
  | error exc => rfl
  | ok signal => exact congrArg Except.ok (if_neg h)

theorem map_signal_of_falls (h : change.falls) (outcome : Except PyError SleeveBSignal) :
    outcome.map change.signal = outcome.map SleeveBSignal.mirror := by
  cases outcome with
  | error exc => rfl
  | ok signal => exact congrArg Except.ok (if_pos h)

theorem barSignal_bar (change : PriceMap) (symbol : String) (regime : Regime) (bars : List OhlcBar)
    (lookbackBars : ℤ) :
    barSignal symbol (change.regime regime) (bars.map change.bar) lookbackBars =
      (barSignal symbol regime bars lookbackBars).map change.signal := by
  unfold barSignal
  rw [map_close]
  by_cases h : change.falls
  · rw [map_high_of_falls h, map_low_of_falls h, PriceMap.regime, if_pos h, donchian_of_falls h,
      map_signal_of_falls h]
  · rw [map_high_of_rises h, map_low_of_rises h, PriceMap.regime, if_neg h, donchian_of_rises h,
      map_signal_of_rises h]

theorem dailyClosesUntil_bar (dailyBars : List OhlcBar) (timestamp : String) :
    dailyClosesUntil (dailyBars.map change.bar) timestamp =
      (dailyClosesUntil dailyBars timestamp).map change.price := by
  rw [dailyClosesUntil, List.filter_map, map_close]
  rfl

theorem replaySignal_bar (change : PriceMap) (symbol : String) (dailyBars fourHourBars : List OhlcBar)
    (cfg : SleeveBReplayConfig) (index : ℤ) :
    replaySignal symbol (dailyBars.map change.bar) (fourHourBars.map change.bar) cfg index =
      (replaySignal symbol dailyBars fourHourBars cfg index).map change.signal := by
  unfold replaySignal
  rw [itemAt_map]
  cases itemAt fourHourBars index with
  | error exc => rfl
  | ok bar =>
    show (regimeFromDailyClose (dailyClosesUntil (dailyBars.map change.bar) bar.timestamp) >>= _) =
      (regimeFromDailyClose (dailyClosesUntil dailyBars bar.timestamp) >>= _).map change.signal
    rw [dailyClosesUntil_bar, regimeFromDailyClose_price, Sequence.upTo_map]
    obtain ⟨regime, hregime⟩ := regimeFromDailyClose_ok (dailyClosesUntil dailyBars bar.timestamp)
    rw [hregime]
    exact change.barSignal_bar symbol regime (Sequence.upTo fourHourBars (index + 1)) cfg.donchianLookbackBars

end PriceMap

end DualSleeve

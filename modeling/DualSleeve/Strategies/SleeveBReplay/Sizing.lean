import DualSleeve.Strategies.PriceMap.TradeLoop
import DualSleeve.Strategies.SleeveBReplay.Bounded
import DualSleeve.Strategies.SleeveBReplay.Summary

namespace DualSleeve

open Library Library.Raise
open scoped ExactDecimals

-- What a config says about the size of the trades.
structure Sizing where
  unitR : ℚ
  sleeveEquity : ℚ
  maxLeverage : ℚ

namespace SleeveBReplayConfig

def sizing (cfg : SleeveBReplayConfig) : Sizing := ⟨cfg.unitR, cfg.sleeveEquity, cfg.maxLeverage⟩

def sized (cfg : SleeveBReplayConfig) (sizing : Sizing) : SleeveBReplayConfig :=
  { cfg with unitR := sizing.unitR, sleeveEquity := sizing.sleeveEquity, maxLeverage := sizing.maxLeverage }

end SleeveBReplayConfig

namespace Sizing

-- The risk budget over the distance to the stop, at most what the leverage allows.
def quantity (sizing : Sizing) (entryPrice initialStop : ℚ) : ℚ :=
  min (sizing.unitR / |entryPrice - initialStop|) (sizing.sleeveEquity * sizing.maxLeverage / entryPrice)

-- A trade of one unit, in this size.
def trade (sizing : Sizing) (unit : SleeveBTrade) : SleeveBTrade :=
  let quantity := sizing.quantity unit.entryPrice unit.initialStop
  { unit with
    quantity := quantity
    notional := quantity * unit.entryPrice
    realizedPnl := quantity * unit.realizedPnl
    grossR := quantity * unit.realizedPnl / sizing.unitR }

def rounds (sizing : Sizing) (units : List (ℤ × Option SleeveBTrade)) : List (ℤ × Option SleeveBTrade) :=
  units.map fun round => (round.1, round.2.map sizing.trade)

theorem trades_rounds (sizing : Sizing) (units : List (ℤ × Option SleeveBTrade)) :
    (entries (sizing.rounds units)).map Prod.snd = ((entries units).map Prod.snd).map sizing.trade := by
  induction units with
  | nil => rfl
  | cons round units ih =>
    obtain ⟨index, opened⟩ := round
    cases opened with
    | none => exact ih
    | some trade => exact congrArg (sizing.trade trade :: ·) ih

end Sizing

variable {symbol : String} {dailyBars fourHourBars : List OhlcBar} {cfg : SleeveBReplayConfig}

-- A simulation is a multiple of one for one unit, which knows nothing of the size.
theorem Simulated.exists_unit {side : PositionSide} {bars : List OhlcBar} {entryIndex : ℤ} {entryBar : OhlcBar}
    {stopDistance : ℚ} {final : TradeState}
    (h : Simulated side bars entryIndex cfg entryBar stopDistance final) :
    ∃ unit, ∀ sizing : Sizing, sizing.unitR ≠ 0 →
      Simulated side bars entryIndex (cfg.sized sizing) entryBar stopDistance
        (PriceMap.same.state ((cfg.sized sizing).quantity entryBar.close stopDistance) unit) := by
  have hloop : ∀ quantity,
      let plan := tradePlan side entryBar.close stopDistance quantity cfg
      let unit := tradePlan side entryBar.close stopDistance 1 cfg
      plan.closeAtEnd bars entryIndex
          (plan.tradeLoop 1 (Sequence.onward bars (entryIndex + 1)) (plan.opening entryBar)) =
        (unit.closeAtEnd bars entryIndex (unit.tradeLoop 1 (Sequence.onward bars (entryIndex + 1))
          (unit.opening entryBar))).map (PriceMap.same.state quantity) := by
    intro quantity
    have hown := PriceMap.simulation_plan PriceMap.same quantity
      (rfl : (tradePlan side entryBar.close stopDistance 1 cfg).quantity = 1) bars entryIndex entryBar
    rw [← PriceMap.tradePlan_price, PriceMap.same_bars, PriceMap.same_bar, PriceMap.same_price, PriceMap.same_stretch,
      one_mul, PriceMap.side_of_rises PriceMap.same_rises] at hown
    exact hown
  obtain ⟨unit, hunit, -⟩ := map_eq_ok.mp ((hloop _).symm.trans h.final_eq)
  refine ⟨unit, fun sizing hne => ⟨h.entryBar_eq, h.atr_eq, h.stop_pos, h.entry_ne, hne, ?_⟩⟩
  refine (hloop ((cfg.sized sizing).quantity entryBar.close stopDistance)).trans ?_
  rw [hunit]
  rfl

theorem simulateTrade_sized {side : PositionSide} {bars : List OhlcBar} {entryIndex : ℤ} {trade : SleeveBTrade}
    (h : simulateTrade symbol side bars entryIndex cfg = .ok trade) :
    ∃ unit, ∀ sizing : Sizing, sizing.unitR ≠ 0 →
      simulateTrade symbol side bars entryIndex (cfg.sized sizing) = .ok (sizing.trade unit) := by
  obtain ⟨entryBar, stopDistance, final, hsimulated, -⟩ := simulateTrade_eq_ok.mp h
  obtain ⟨unit, hunit⟩ := hsimulated.exists_unit
  refine ⟨(tradePlan side entryBar.close stopDistance 1 cfg).record symbol entryBar 1 unit, fun sizing hne => ?_⟩
  refine simulateTrade_eq_ok.mpr ⟨entryBar, stopDistance, _, hunit sizing hne, ?_⟩
  have hquantity : sizing.quantity entryBar.close (stopAt side entryBar.close stopDistance) =
      (cfg.sized sizing).quantity entryBar.close stopDistance := by
    rw [Sizing.quantity, abs_sub_stopAt side entryBar.close hsimulated.stop_pos]
    rfl
  unfold Sizing.trade TradePlan.record PriceMap.state tradePlan
  simp only [hquantity, PriceMap.same_stretch, PriceMap.same_price, one_mul]
  rfl

theorem Replayed.exists_units {index : ℤ} {log : List (ℤ × Option SleeveBTrade)}
    (h : Replayed symbol dailyBars fourHourBars cfg index log) :
    ∃ units, ∀ sizing : Sizing, (sizing.unitR = 0 → cfg.unitR = 0) →
      Replayed symbol dailyBars fourHourBars (cfg.sized sizing) index (sizing.rounds units) := by
  induction h with
  | done hend => exact ⟨[], fun _ _ => .done hend⟩
  | @pass index signal log hindex hsignal hside rest ih =>
    obtain ⟨units, hunits⟩ := ih
    exact ⟨(index, none) :: units, fun sizing hne => .pass hindex hsignal hside (hunits sizing hne)⟩
  | @enter index signal side trade log hindex hsignal hside htrade rest ih =>
    obtain ⟨units, hunits⟩ := ih
    obtain ⟨unit, hunit⟩ := simulateTrade_sized htrade
    obtain ⟨entryBar, stopDistance, final, hsimulated, -⟩ := simulateTrade_eq_ok.mp htrade
    have hheld : trade.barsHeld = unit.barsHeld := by
      have hown := htrade.symm.trans (hunit cfg.sizing hsimulated.unit_ne)
      exact (congrArg SleeveBTrade.barsHeld (Except.ok.inj hown)).trans rfl
    rw [hheld] at hunits
    exact ⟨(index, some unit) :: units, fun sizing hne => .enter hindex hsignal hside
      (hunit sizing fun hzero => hsimulated.unit_ne (hne hzero)) (hunits sizing hne)⟩

theorem run_of_units {units : List (ℤ × Option SleeveBTrade)} {sizing : Sizing}
    (h : Replayed symbol dailyBars fourHourBars (cfg.sized sizing) cfg.startIndex (sizing.rounds units)) :
    runSleeveBReplay symbol dailyBars fourHourBars (cfg.sized sizing) =
      .ok ⟨symbol, ((entries units).map Prod.snd).map sizing.trade,
        summarize symbol (((entries units).map Prod.snd).map sizing.trade)⟩ :=
  runSleeveBReplay_eq_ok.mpr ⟨sizing.rounds units, h, by rw [sizing.trades_rounds]⟩

-- Which trades a replay makes, where they enter and leave and why, does not depend on the
-- risk budget, the equity or the leverage: these only size the same trades. A risk budget of
-- zero is the exception, with which any trade raises.
theorem replay_sized {result : SleeveBReplayResult}
    (hrun : runSleeveBReplay symbol dailyBars fourHourBars cfg = .ok result) :
    ∃ units : List SleeveBTrade, result.trades = units.map cfg.sizing.trade ∧
      ∀ sizing : Sizing, (sizing.unitR = 0 → cfg.unitR = 0) →
        runSleeveBReplay symbol dailyBars fourHourBars (cfg.sized sizing) =
          .ok ⟨symbol, units.map sizing.trade, summarize symbol (units.map sizing.trade)⟩ := by
  obtain ⟨log, hlog, -⟩ := runSleeveBReplay_eq_ok.mp hrun
  obtain ⟨units, hunits⟩ := hlog.exists_units
  have hown := hrun.symm.trans (run_of_units (hunits cfg.sizing id))
  exact ⟨_, congrArg SleeveBReplayResult.trades (Except.ok.inj hown), fun sizing hne =>
    run_of_units (hunits sizing hne)⟩

theorem replay_sized_breakout :
    ∃ units : List SleeveBTrade, units ≠ [] ∧
      runSleeveBReplay "BTCUSDT" risingDays breakoutBars (shortReplayConfig.sized ⟨50, 1000, 2⟩) =
        .ok ⟨"BTCUSDT", units.map (⟨50, 1000, 2⟩ : Sizing).trade,
          summarize "BTCUSDT" (units.map (⟨50, 1000, 2⟩ : Sizing).trade)⟩ := by
  obtain ⟨result, hrun⟩ := exists_ok (by decide +kernel :
    (runSleeveBReplay "BTCUSDT" risingDays breakoutBars shortReplayConfig).isOk = true)
  obtain ⟨units, -, hunits⟩ := replay_sized hrun
  have hresized := hunits ⟨50, 1000, 2⟩ (by norm_num)
  refine ⟨units, ?_, hresized⟩
  rintro rfl
  have htrades : (runSleeveBReplay "BTCUSDT" risingDays breakoutBars (shortReplayConfig.sized ⟨50, 1000, 2⟩)).map
      (fun result => result.trades.length) = .ok 1 := by
    decide +kernel
  rw [hresized] at htrades
  cases htrades

-- The account, grown by a factor.

def SleeveBTrade.grown (k : ℚ) (trade : SleeveBTrade) : SleeveBTrade :=
  { trade with
    quantity := k * trade.quantity
    notional := k * trade.notional
    realizedPnl := k * trade.realizedPnl }

def SleeveBReplaySummary.grown (k : ℚ) (summary : SleeveBReplaySummary) : SleeveBReplaySummary :=
  { summary with totalPnl := k * summary.totalPnl, maxDrawdown := k * summary.maxDrawdown }

variable {k : ℚ}

theorem Sizing.trade_grown (hk : 0 < k) (unitR sleeveEquity maxLeverage : ℚ) (unit : SleeveBTrade) :
    (⟨k * unitR, k * sleeveEquity, maxLeverage⟩ : Sizing).trade unit =
      ((⟨unitR, sleeveEquity, maxLeverage⟩ : Sizing).trade unit).grown k := by
  have hquantity : (⟨k * unitR, k * sleeveEquity, maxLeverage⟩ : Sizing).quantity unit.entryPrice unit.initialStop =
      k * (⟨unitR, sleeveEquity, maxLeverage⟩ : Sizing).quantity unit.entryPrice unit.initialStop := by
    unfold Sizing.quantity
    rw [mul_min_of_nonneg _ _ hk.le, mul_assoc, mul_div_assoc, mul_div_assoc]
  unfold Sizing.trade SleeveBTrade.grown
  simp only [hquantity, mul_assoc, mul_div_mul_left _ _ hk.ne']

theorem equityCurve_grown (trades : List SleeveBTrade) :
    equityCurve (trades.map (SleeveBTrade.grown k)) = (equityCurve trades).map (k * ·) := by
  rw [equityCurve_eq, equityCurve_eq, List.length_map, List.map_map]
  refine List.map_congr_left fun count _ => ?_
  rw [Function.comp_apply, equityAfter, equityAfter, ExactDecimals.sumOf_eq, ExactDecimals.sumOf_eq,
    ← List.map_take, List.map_map, ← List.sum_map_mul_left]
  rfl

theorem maxDrawdown_grown (hk : 0 < k) (curve : List ℚ) :
    maxDrawdown (curve.map (k * ·)) = k * maxDrawdown curve := by
  have hsteps := Drawdown.foldl_step_map (fun value peak => rounded (value - peak))
    (fun _ _ hle => mul_le_mul_of_nonneg_left hle hk.le : Monotone (k * ·))
    (fun _ _ => (mul_sub k _ _).symm) curve (0, 0)
  simp only [mul_zero] at hsteps
  exact congrArg Prod.snd hsteps

theorem summarize_grown (hk : 0 < k) (symbol : String) (trades : List SleeveBTrade) :
    summarize symbol (trades.map (SleeveBTrade.grown k)) = (summarize symbol trades).grown k := by
  have hwins : ((fun trade : SleeveBTrade => decide (trade.realizedPnl > 0)) ∘ SleeveBTrade.grown k) =
      fun trade => decide (trade.realizedPnl > 0) := by
    funext trade
    exact decide_eq_decide.mpr (mul_pos_iff_of_pos_left hk)
  have hlosses : ((fun trade : SleeveBTrade => decide (trade.realizedPnl ≤ 0)) ∘ SleeveBTrade.grown k) =
      fun trade => decide (trade.realizedPnl ≤ 0) := by
    funext trade
    exact decide_eq_decide.mpr (mul_nonpos_iff_pos_imp_nonpos.trans
      ⟨fun h => h.1 hk, fun h => ⟨fun _ => h, fun _ => hk.le⟩⟩)
  unfold summarize SleeveBReplaySummary.grown
  rw [equityCurve_grown, maxDrawdown_grown hk, List.length_map, List.countP_map, List.countP_map, List.map_map,
    List.map_map, hwins, hlosses]
  simp only [ExactDecimals.sumOf_eq]
  congr 1
  exact List.sum_map_mul_left _ _ _

-- A larger account makes the same trades, all in proportion: as much more profit, as deep a
-- drawdown, and the same results in units of R.
theorem replay_grown (hk : 0 < k) {result : SleeveBReplayResult}
    (hrun : runSleeveBReplay symbol dailyBars fourHourBars cfg = .ok result) :
    runSleeveBReplay symbol dailyBars fourHourBars
        { cfg with unitR := k * cfg.unitR, sleeveEquity := k * cfg.sleeveEquity } =
      .ok ⟨symbol, result.trades.map (SleeveBTrade.grown k), result.summary.grown k⟩ := by
  obtain ⟨log, hlog, -⟩ := runSleeveBReplay_eq_ok.mp hrun
  obtain ⟨units, hunits⟩ := hlog.exists_units
  obtain rfl := Except.ok.inj (hrun.symm.trans (run_of_units (hunits cfg.sizing id)))
  have hgrown := run_of_units (hunits ⟨k * cfg.unitR, k * cfg.sleeveEquity, cfg.maxLeverage⟩
    fun hzero => (mul_eq_zero.mp hzero).resolve_left hk.ne')
  have htrades : ((entries units).map Prod.snd).map
      (⟨k * cfg.unitR, k * cfg.sleeveEquity, cfg.maxLeverage⟩ : Sizing).trade =
        (((entries units).map Prod.snd).map cfg.sizing.trade).map (SleeveBTrade.grown k) := by
    refine Eq.trans ?_ List.map_map.symm
    exact List.map_congr_left fun unit _ => Sizing.trade_grown hk _ _ _ unit
  rw [htrades, summarize_grown hk] at hgrown
  exact hgrown

theorem replay_grown_breakout :
    ∃ result, runSleeveBReplay "BTCUSDT" risingDays breakoutBars shortReplayConfig = .ok result ∧
      result.trades.length = 1 ∧
      runSleeveBReplay "BTCUSDT" risingDays breakoutBars
        { shortReplayConfig with
          unitR := 5 * shortReplayConfig.unitR, sleeveEquity := 5 * shortReplayConfig.sleeveEquity } =
        .ok ⟨"BTCUSDT", result.trades.map (SleeveBTrade.grown 5), result.summary.grown 5⟩ := by
  have htrades : (runSleeveBReplay "BTCUSDT" risingDays breakoutBars shortReplayConfig).map
      (fun result => result.trades.length) = .ok 1 := by
    decide +kernel
  obtain ⟨result, hrun, hone⟩ := map_eq_ok.mp htrades
  exact ⟨result, hrun, hone, replay_grown (by norm_num : (0 : ℚ) < 5) hrun⟩

end DualSleeve

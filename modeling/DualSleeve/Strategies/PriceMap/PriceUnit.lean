import DualSleeve.Strategies.PriceMap.TradeLoop
import DualSleeve.Strategies.PriceMap.Timing

namespace DualSleeve

open Library Library.Raise
open scoped ExactDecimals

-- Another unit for the prices.

def OhlcBar.scale (c : ℚ) (bar : OhlcBar) : OhlcBar where
  timestamp := bar.timestamp
  openPrice := c * bar.openPrice
  high := c * bar.high
  low := c * bar.low
  close := c * bar.close

def SleeveBMarketData.scale (c : ℚ) (marketData : SleeveBMarketData) : SleeveBMarketData where
  symbol := marketData.symbol
  dailyBars := marketData.dailyBars.map (OhlcBar.scale c)
  fourHourBars := marketData.fourHourBars.map (OhlcBar.scale c)
  oneHourBars := marketData.oneHourBars.map (OhlcBar.scale c)

def SleeveBSignalCandidate.scale (c : ℚ) (candidate : SleeveBSignalCandidate) :
    SleeveBSignalCandidate :=
  { candidate with entryPrice := c * candidate.entryPrice, stopPrice := c * candidate.stopPrice }

def SleeveBCandidateBuildResult.scale (c : ℚ) (result : SleeveBCandidateBuildResult) :
    SleeveBCandidateBuildResult :=
  { result with candidate := result.candidate.map (SleeveBSignalCandidate.scale c) }

def SleeveBTrade.scale (c : ℚ) (trade : SleeveBTrade) : SleeveBTrade :=
  { trade with
    entryPrice := c * trade.entryPrice
    initialStop := c * trade.initialStop
    quantity := trade.quantity / c
    exitPrice := c * trade.exitPrice }

variable {c : ℚ}

def priceUnit (hc : 0 < c) : PriceMap := ⟨c, 0, ne_of_gt hc⟩

theorem priceUnit_rises (hc : 0 < c) : ¬ (priceUnit hc).falls := not_lt.mpr (le_of_lt hc)

@[simp] theorem priceUnit_price (hc : 0 < c) (p : ℚ) : (priceUnit hc).price p = c * p := add_zero _

@[simp] theorem priceUnit_stretch (hc : 0 < c) : (priceUnit hc).stretch = c := abs_of_pos hc

theorem priceUnit_bar (hc : 0 < c) : (priceUnit hc).bar = OhlcBar.scale c := by
  funext bar
  rw [PriceMap.bar_of_rises (priceUnit_rises hc)]
  simp only [priceUnit_price]
  rfl

@[simp] theorem priceUnit_side (hc : 0 < c) (side : PositionSide) : (priceUnit hc).side side = side :=
  if_neg (priceUnit_rises hc)

@[simp] theorem priceUnit_regime (hc : 0 < c) (regime : Regime) :
    (priceUnit hc).regime regime = regime :=
  if_neg (priceUnit_rises hc)

@[simp] theorem priceUnit_timing (hc : 0 < c) (timing : OneHourTiming) :
    (priceUnit hc).timing timing = timing :=
  if_neg (priceUnit_rises hc)

-- The builder.

theorem regimeFromDailyClose_scale (hc : 0 < c) (bars : List OhlcBar) :
    regimeFromDailyClose ((bars.map (OhlcBar.scale c)).map OhlcBar.close) =
      regimeFromDailyClose (bars.map OhlcBar.close) := by
  rw [← priceUnit_bar hc, PriceMap.map_close, PriceMap.regimeFromDailyClose_price]
  cases regimeFromDailyClose (bars.map OhlcBar.close) with
  | error exc => rfl
  | ok regime => exact congrArg Except.ok (priceUnit_regime hc regime)

theorem barSignal_scale (hc : 0 < c) (symbol : String) (regime : Regime) (bars : List OhlcBar)
    (lookbackBars : ℤ) :
    barSignal symbol regime (bars.map (OhlcBar.scale c)) lookbackBars =
      barSignal symbol regime bars lookbackBars := by
  have h := (priceUnit hc).barSignal_bar symbol regime bars lookbackBars
  rw [PriceMap.map_signal_of_rises (priceUnit_rises hc), priceUnit_regime, priceUnit_bar] at h
  exact h

theorem entryTiming_scale (hc : 0 < c) (side : PositionSide) (bars : List OhlcBar)
    (cfg : SleeveBCandidateBuilderConfig) :
    entryTiming side (bars.map (OhlcBar.scale c)) cfg = entryTiming side bars cfg := by
  unfold entryTiming
  by_cases h : cfg.require1hTiming
  · have htiming := (priceUnit hc).oneHourTiming_bar side bars cfg
    rw [priceUnit_side, priceUnit_bar] at htiming
    rw [if_pos h, if_pos h, htiming]
    cases oneHourTiming side bars cfg with
    | error exc => rfl
    | ok timing => exact congrArg Except.ok (priceUnit_timing hc timing)
  · rw [if_neg h, if_neg h]

theorem refinedEntryPrice_scale (hc : 0 < c) (side : PositionSide) (price : ℚ) (bars : List OhlcBar)
    (cfg : SleeveBCandidateBuilderConfig) :
    refinedEntryPrice side (c * price) (bars.map (OhlcBar.scale c)) cfg =
      c * refinedEntryPrice side price bars cfg := by
  unfold refinedEntryPrice
  rw [List.getLast?_map]
  cases bars.getLast? with
  | none => rfl
  | some last =>
    cases side with
    | long =>
      show min (c * price) (rounded (c * last.close * _)) = c * min price (rounded _)
      simp only [ExactDecimals.rounded_eq]
      rw [mul_assoc, mul_min_of_nonneg _ _ (le_of_lt hc)]
    | short =>
      show max (c * price) (rounded (c * last.close * _)) = c * max price (rounded _)
      simp only [ExactDecimals.rounded_eq]
      rw [mul_assoc, mul_max_of_nonneg _ _ (le_of_lt hc)]

theorem builderAtr_scale (hc : 0 < c) (bars : List OhlcBar) (period : ℤ) :
    builderAtr (bars.map (OhlcBar.scale c)) period = (builderAtr bars period).map (c * ·) := by
  have h := (priceUnit hc).averageTrueRange_bar bars period
  rw [priceUnit_bar, priceUnit_stretch] at h
  exact h

theorem stopAt_scale (side : PositionSide) (entry distance : ℚ) :
    stopAt side (c * entry) (c * distance) = c * stopAt side entry distance := by
  cases side <;> simp only [stopAt, ExactDecimals.rounded_eq] <;> ring

theorem buildFromSignal_scale (hc : 0 < c) (marketData : SleeveBMarketData)
    (cfg : SleeveBCandidateBuilderConfig) (signal : SleeveBSignal) :
    buildFromSignal (marketData.scale c) cfg signal =
      (buildFromSignal marketData cfg signal).map (SleeveBCandidateBuildResult.scale c) := by
  unfold buildFromSignal
  cases signal.side with
  | none => rfl
  | some side =>
    show (entryTiming side (marketData.oneHourBars.map (OhlcBar.scale c)) cfg >>= _) =
      (entryTiming side marketData.oneHourBars cfg >>= _).map _
    rw [entryTiming_scale hc]
    cases entryTiming side marketData.oneHourBars cfg with
    | error exc => rfl
    | ok timing =>
      rw [ok_bind, ok_bind]
      by_cases htiming : timing ≠ .ok
      · rw [if_pos htiming, if_pos htiming]
        rfl
      rw [if_neg htiming, if_neg htiming]
      show (itemAt (marketData.fourHourBars.map (OhlcBar.scale c)) (-1) >>= _) = _
      rw [itemAt_map]
      cases itemAt marketData.fourHourBars (-1) with
      | error exc => rfl
      | ok lastBar =>
        show (builderAtr (marketData.fourHourBars.map (OhlcBar.scale c)) cfg.atrPeriod >>= _) =
          (builderAtr marketData.fourHourBars cfg.atrPeriod >>= _).map _
        rw [builderAtr_scale hc]
        cases builderAtr marketData.fourHourBars cfg.atrPeriod with
        | error exc => rfl
        | ok atrValue =>
          refine congrArg Except.ok ?_
          have hentry := refinedEntryPrice_scale hc side lastBar.close marketData.oneHourBars cfg
          show SleeveBCandidateBuildResult.mk marketData.symbol (some ⟨marketData.symbol, side,
            refinedEntryPrice side (c * lastBar.close) (marketData.oneHourBars.map (OhlcBar.scale c)) cfg,
            stopAt side (refinedEntryPrice side (c * lastBar.close)
              (marketData.oneHourBars.map (OhlcBar.scale c)) cfg) (rounded (c * atrValue * cfg.stopAtrMultiple)),
            autoSetupId marketData.symbol signal.reason⟩) signal.reason = _
          rw [ExactDecimals.rounded_eq, hentry, mul_assoc, stopAt_scale]
          rfl

theorem buildSleeveBCandidate_scale (hc : 0 < c) (marketData : SleeveBMarketData)
    (cfg : SleeveBCandidateBuilderConfig) :
    buildSleeveBCandidate (marketData.scale c) cfg =
      (buildSleeveBCandidate marketData cfg).map (SleeveBCandidateBuildResult.scale c) := by
  unfold buildSleeveBCandidate
  have hdaily : (marketData.scale c).dailyBars.length = marketData.dailyBars.length := List.length_map _
  have hfour : (marketData.scale c).fourHourBars.length = marketData.fourHourBars.length :=
    List.length_map _
  have hone : (marketData.scale c).oneHourBars.length = marketData.oneHourBars.length := List.length_map _
  rw [hdaily, hfour, hone]
  by_cases hshortDaily : marketData.dailyBars.length < 200
  · rw [if_pos hshortDaily, if_pos hshortDaily]
    rfl
  rw [if_neg hshortDaily, if_neg hshortDaily]
  by_cases hshortFour : (marketData.fourHourBars.length : ℤ) <
      max (cfg.donchianLookbackBars + 1) (cfg.atrPeriod + 1)
  · rw [if_pos hshortFour, if_pos hshortFour]
    rfl
  rw [if_neg hshortFour, if_neg hshortFour]
  by_cases hshortOne : cfg.require1hTiming ∧
      (marketData.oneHourBars.length : ℤ) < max cfg.oneHourEmaPeriod (cfg.atrPeriod + 1)
  · rw [if_pos hshortOne, if_pos hshortOne]
    rfl
  rw [if_neg hshortOne, if_neg hshortOne]
  show (regimeFromDailyClose ((marketData.dailyBars.map (OhlcBar.scale c)).map OhlcBar.close) >>= _) =
    (regimeFromDailyClose (marketData.dailyBars.map OhlcBar.close) >>= _).map _
  rw [regimeFromDailyClose_scale hc]
  cases regimeFromDailyClose (marketData.dailyBars.map OhlcBar.close) with
  | error exc => rfl
  | ok regime =>
    show (barSignal marketData.symbol regime (marketData.fourHourBars.map (OhlcBar.scale c))
        cfg.donchianLookbackBars >>= _) =
      (barSignal marketData.symbol regime marketData.fourHourBars cfg.donchianLookbackBars >>= _).map _
    rw [barSignal_scale hc]
    cases barSignal marketData.symbol regime marketData.fourHourBars cfg.donchianLookbackBars with
    | error exc => rfl
    | ok signal => exact buildFromSignal_scale hc marketData cfg signal

-- The replay.

theorem quantity_scale (hc : 0 < c) (cfg : SleeveBReplayConfig) (entry stopDistance : ℚ) :
    cfg.quantity (c * entry) (c * stopDistance) = cfg.quantity entry stopDistance / c := by
  unfold SleeveBReplayConfig.quantity
  simp only [ExactDecimals.rounded_eq]
  rw [← min_div_div_right (le_of_lt hc), div_div, div_div, mul_comm c stopDistance, mul_comm c entry]

theorem simulateTrade_scale (hc : 0 < c) {symbol : String} {side : PositionSide} {bars : List OhlcBar}
    {entryIndex : ℤ} {cfg : SleeveBReplayConfig} {trade : SleeveBTrade}
    (h : simulateTrade symbol side bars entryIndex cfg = .ok trade) :
    simulateTrade symbol side (bars.map (OhlcBar.scale c)) entryIndex cfg = .ok (trade.scale c) := by
  obtain ⟨entryBar, stopDistance, final, hsimulated, rfl⟩ := simulateTrade_eq_ok.mp h
  have hentry : (priceUnit hc).price entryBar.close ≠ 0 := by
    rw [priceUnit_price]
    exact mul_ne_zero (ne_of_gt hc) hsimulated.entry_ne
  obtain ⟨unit, hfinal, hscaled⟩ := PriceMap.simulated_price (priceUnit hc) hsimulated hentry
  subst hfinal
  rw [priceUnit_bar, priceUnit_side, priceUnit_stretch, priceUnit_price, quantity_scale hc] at hscaled
  refine simulateTrade_eq_ok.mpr ⟨_, _, _, hscaled, ?_⟩
  have hplan : tradePlan side (OhlcBar.scale c entryBar).close (c * stopDistance)
      (cfg.quantity (OhlcBar.scale c entryBar).close (c * stopDistance)) cfg =
      (priceUnit hc).plan (cfg.quantity entryBar.close stopDistance / c)
        (tradePlan side entryBar.close stopDistance 1 cfg) := by
    have h := (priceUnit hc).tradePlan_price
      (cfg.quantity entryBar.close stopDistance / c) side entryBar.close stopDistance cfg
    rw [priceUnit_side, priceUnit_stretch, priceUnit_price] at h
    rw [← h, ← quantity_scale hc]
    rfl
  have hne := ne_of_gt hc
  have hnotional : cfg.quantity entryBar.close stopDistance / c * (c * entryBar.close) =
      cfg.quantity entryBar.close stopDistance * entryBar.close := by
    rw [← mul_assoc, div_mul_cancel₀ _ hne]
  rw [hplan]
  unfold SleeveBTrade.scale TradePlan.record PriceMap.plan PriceMap.state tradePlan
  simp only [ExactDecimals.rounded_eq, priceUnit_side, priceUnit_price, priceUnit_stretch,
    PriceMap.same_stretch, PriceMap.same_price, one_mul, hnotional, mul_div_cancel₀ _ hne]
  rfl

def scaleRounds (c : ℚ) (log : List (ℤ × Option SleeveBTrade)) : List (ℤ × Option SleeveBTrade) :=
  log.map fun round => (round.1, round.2.map (SleeveBTrade.scale c))

theorem trades_scale (log : List (ℤ × Option SleeveBTrade)) :
    (entries (scaleRounds c log)).map Prod.snd =
      ((entries log).map Prod.snd).map (SleeveBTrade.scale c) := by
  induction log with
  | nil => rfl
  | cons round log ih =>
    obtain ⟨index, opened⟩ := round
    cases opened with
    | none => exact ih
    | some trade => exact congrArg (trade.scale c :: ·) ih

-- Round by round the replay opens the same trades at the scaled prices.
theorem Replayed.scale (hc : 0 < c) {symbol : String} {dailyBars fourHourBars : List OhlcBar}
    {cfg : SleeveBReplayConfig} {index : ℤ} {log : List (ℤ × Option SleeveBTrade)}
    (h : Replayed symbol dailyBars fourHourBars cfg index log) :
    Replayed symbol (dailyBars.map (OhlcBar.scale c)) (fourHourBars.map (OhlcBar.scale c)) cfg index
      (scaleRounds c log) := by
  have hsame (evaluated : ℤ) : replaySignal symbol (dailyBars.map (OhlcBar.scale c))
      (fourHourBars.map (OhlcBar.scale c)) cfg evaluated =
        replaySignal symbol dailyBars fourHourBars cfg evaluated := by
    rw [← priceUnit_bar hc, PriceMap.replaySignal_bar, PriceMap.map_signal_of_rises (priceUnit_rises hc)]
  induction h with
  | done hend => exact .done (by rwa [List.length_map])
  | @pass index signal log hindex hsignal hside rest ih =>
    exact .pass (by rwa [List.length_map]) ((hsame index).trans hsignal) hside ih
  | @enter index signal side trade log hindex hsignal hside htrade rest ih =>
    exact .enter (by rwa [List.length_map]) ((hsame index).trans hsignal) hside
      (simulateTrade_scale hc htrade) ih

theorem equityCurve_scale (trades : List SleeveBTrade) :
    equityCurve (trades.map (SleeveBTrade.scale c)) = equityCurve trades := by
  unfold equityCurve
  rw [List.foldl_map]
  rfl

theorem summarize_scale (symbol : String) (trades : List SleeveBTrade) :
    summarize symbol (trades.map (SleeveBTrade.scale c)) = summarize symbol trades := by
  unfold summarize
  rw [equityCurve_scale, List.length_map, List.countP_map, List.countP_map, List.map_map, List.map_map]
  rfl

-- The strategy does not see the unit of the prices.
theorem strategy_scale (hc : 0 < c) :
    (∀ marketData cfg, buildSleeveBCandidate (marketData.scale c) cfg =
      (buildSleeveBCandidate marketData cfg).map (SleeveBCandidateBuildResult.scale c)) ∧
    ∀ symbol dailyBars fourHourBars cfg result,
      runSleeveBReplay symbol dailyBars fourHourBars cfg = .ok result →
      runSleeveBReplay symbol (dailyBars.map (OhlcBar.scale c)) (fourHourBars.map (OhlcBar.scale c)) cfg =
        .ok { result with trades := result.trades.map (SleeveBTrade.scale c) } := by
  refine ⟨buildSleeveBCandidate_scale hc, ?_⟩
  intro symbol dailyBars fourHourBars cfg result hrun
  obtain ⟨log, hlog, rfl⟩ := runSleeveBReplay_eq_ok.mp hrun
  refine runSleeveBReplay_eq_ok.mpr ⟨scaleRounds c log, hlog.scale hc, ?_⟩
  rw [trades_scale, summarize_scale]

theorem strategy_scale_breakout :
    ∃ result, runSleeveBReplay "BTCUSDT" risingDays breakoutBars shortReplayConfig = .ok result ∧
      runSleeveBReplay "BTCUSDT" (risingDays.map (OhlcBar.scale 100))
        (breakoutBars.map (OhlcBar.scale 100)) shortReplayConfig =
          .ok { result with trades := result.trades.map (SleeveBTrade.scale 100) } := by
  obtain ⟨result, hrun⟩ := exists_ok (by decide +kernel :
    (runSleeveBReplay "BTCUSDT" risingDays breakoutBars shortReplayConfig).isOk = true)
  exact ⟨result, hrun, (strategy_scale (by norm_num : (0 : ℚ) < 100)).2 _ _ _ _ _ hrun⟩

end DualSleeve

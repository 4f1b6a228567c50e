import DualSleeve.Strategies.SleeveBCandidateBuilder
import DualSleeve.Strategies.SleeveBReplay.Theorems

namespace DualSleeve

open Library Library.Raise

-- The data a live builder has at the close of a bar of the replay, without hourly bars.
def marketDataAt (symbol : String) (dailyBars fourHourBars : List OhlcBar) (index : ℤ) (bar : OhlcBar) :
    SleeveBMarketData where
  symbol := symbol
  dailyBars := dailyBars.filter fun day => day.timestamp ≤ bar.timestamp
  fourHourBars := Sequence.upTo fourHourBars (index + 1)
  oneHourBars := []

-- The two configs ask for the same entries and stops, and the builder for no hourly timing.
structure MatchingConfigs (cfg : SleeveBReplayConfig) (builder : SleeveBCandidateBuilderConfig) :
    Prop where
  lookback_eq : builder.donchianLookbackBars = cfg.donchianLookbackBars
  atr_eq : builder.atrPeriod = cfg.atrPeriod
  multiple_eq : builder.stopAtrMultiple = cfg.stopAtrMultiple
  timing_eq : builder.require1hTiming = false

section Agreement

variable [DecimalContext]

theorem buildFromSignal_none {marketData : SleeveBMarketData} {cfg : SleeveBCandidateBuilderConfig}
    {signal : SleeveBSignal} (hside : signal.side = none) :
    buildFromSignal marketData cfg signal = .ok ⟨marketData.symbol, none, signal.reason⟩ := by
  rw [buildFromSignal, hside]

theorem buildFromSignal_some (marketData : SleeveBMarketData) (cfg : SleeveBCandidateBuilderConfig)
    {signal : SleeveBSignal} {side : PositionSide} {lastBar : OhlcBar} {atrValue : ℚ}
    (hside : signal.side = some side) (htiming : entryTiming side marketData.oneHourBars cfg = .ok .ok)
    (hlast : itemAt marketData.fourHourBars (-1) = .ok lastBar)
    (hatr : builderAtr marketData.fourHourBars cfg.atrPeriod = .ok atrValue) :
    buildFromSignal marketData cfg signal =
      let entryPrice := refinedEntryPrice side lastBar.close marketData.oneHourBars cfg
      .ok ⟨marketData.symbol,
        some ⟨marketData.symbol, side, entryPrice,
          stopAt side entryPrice (rounded (atrValue * cfg.stopAtrMultiple)),
          autoSetupId marketData.symbol signal.reason⟩,
        signal.reason⟩ := by
  rw [buildFromSignal, hside]
  refine (bind_of_ok htiming).trans ?_
  exact (bind_of_ok hlast).trans (bind_of_ok hatr)

variable {symbol : String} {dailyBars fourHourBars : List OhlcBar} {cfg : SleeveBReplayConfig}
  {builder : SleeveBCandidateBuilderConfig}

-- Once the data is long enough, the builder's candidate is the replay's signal, priced at
-- the close of the bar and with the replay's stop.
theorem buildSleeveBCandidate_at (symbol : String) (dailyBars : List OhlcBar)
    (hcfg : MatchingConfigs cfg builder) (hlookback : 1 ≤ cfg.donchianLookbackBars)
    (hatr : 1 ≤ cfg.atrPeriod) {index : ℤ} {bar : OhlcBar} (hgate : cfg.startIndex - 1 ≤ index)
    (hindex : index < fourHourBars.length) (hbar : itemAt fourHourBars index = .ok bar) :
    ∃ signal atrValue build,
      replaySignal symbol dailyBars fourHourBars cfg index = .ok signal ∧
      replayAtr (Sequence.upTo fourHourBars (index + 1)) cfg.atrPeriod = .ok atrValue ∧
      buildSleeveBCandidate (marketDataAt symbol dailyBars fourHourBars index bar) builder = .ok build ∧
      build.candidate = signal.side.map fun side =>
        ⟨symbol, side, bar.close, stopAt side bar.close (rounded (atrValue * cfg.stopAtrMultiple)),
          autoSetupId symbol signal.reason⟩ := by
  unfold SleeveBReplayConfig.startIndex at hgate
  have hlength := length_upTo (by omega) hindex
  have hlast := last_upTo (by omega) hbar
  obtain ⟨regime, signal, hregime, hsignal, hreplay, -⟩ :=
    replaySignal_at symbol dailyBars hlookback (by omega) hindex hbar
  obtain ⟨atrValue, hatrValue, -⟩ :=
    averageTrueRange_ok (Sequence.upTo fourHourBars (index + 1)) hatr (by omega)
  refine ⟨signal, atrValue, ?_⟩
  by_cases hdaily : (marketDataAt symbol dailyBars fourHourBars index bar).dailyBars.length < 200
  · have hshort : (dailyClosesUntil dailyBars bar.timestamp).length < 200 := by
      rw [dailyClosesUntil, List.length_map]
      exact hdaily
    rw [regimeFromDailyClose_of_short hshort] at hregime
    obtain rfl := Except.ok.inj hregime
    obtain rfl := Except.ok.inj hsignal
    exact ⟨_, hreplay, hatrValue, if_pos hdaily, rfl⟩
  · have hbuild : buildSleeveBCandidate (marketDataAt symbol dailyBars fourHourBars index bar) builder =
        buildFromSignal (marketDataAt symbol dailyBars fourHourBars index bar) builder signal := by
      have hlong : ¬ ((marketDataAt symbol dailyBars fourHourBars index bar).fourHourBars.length : ℤ) <
          max (cfg.donchianLookbackBars + 1) (cfg.atrPeriod + 1) := by
        rw [marketDataAt, hlength]
        omega
      unfold buildSleeveBCandidate
      rw [hcfg.lookback_eq, hcfg.atr_eq, if_neg hdaily, if_neg hlong, if_neg (by simp [hcfg.timing_eq])]
      exact (bind_of_ok hregime).trans (bind_of_ok hsignal)
    rw [hbuild]
    cases hside : signal.side with
    | none => exact ⟨_, hreplay, hatrValue, buildFromSignal_none hside, rfl⟩
    | some side =>
      have hatrBuilder : builderAtr (Sequence.upTo fourHourBars (index + 1)) builder.atrPeriod =
          .ok atrValue := by
        rw [hcfg.atr_eq]
        exact hatrValue
      have hcandidate := buildFromSignal_some
        (marketDataAt symbol dailyBars fourHourBars index bar) builder
        hside (if_neg (by simp [hcfg.timing_eq])) (itemAt_last hlast) hatrBuilder
      refine ⟨_, hreplay, hatrValue, hcandidate, ?_⟩
      rw [hcfg.multiple_eq]
      rfl

-- The trades of a run never overlap, and wherever the replay is flat it enters exactly
-- where the builder has a candidate, on its side, at its price and with its stop.
theorem replay_agrees_with_builder (hcfg : MatchingConfigs cfg builder)
    (hlookback : 1 ≤ cfg.donchianLookbackBars) (hatr : 1 ≤ cfg.atrPeriod) {result : SleeveBReplayResult}
    (hrun : runSleeveBReplay symbol dailyBars fourHourBars cfg = .ok result) :
    ∃ log, Replayed symbol dailyBars fourHourBars cfg cfg.startIndex log ∧
      result.trades = (entries log).map Prod.snd ∧
      ((entries log).Pairwise fun earlier later =>
        earlier.1 < later.1 ∧ earlier.1 + earlier.2.barsHeld ≤ later.1) ∧
      ∀ index opened, (index, opened) ∈ log →
        ∃ bar build, itemAt fourHourBars index = .ok bar ∧
          buildSleeveBCandidate (marketDataAt symbol dailyBars fourHourBars index bar) builder =
            .ok build ∧
          (opened.isSome ↔ build.candidate.isSome) ∧
          ∀ trade ∈ opened, ∀ candidate ∈ build.candidate,
            trade.side = candidate.side ∧ trade.entryPrice = candidate.entryPrice ∧
              trade.initialStop = candidate.stopPrice := by
  obtain ⟨log, hlog, rfl⟩ := runSleeveBReplay_eq_ok.mp hrun
  refine ⟨log, hlog, rfl, hlog.entries_pairwise, ?_⟩
  intro index opened hround
  have hstart := hlog.le_of_mem hround
  have hpositive : 0 ≤ cfg.startIndex := by unfold SleeveBReplayConfig.startIndex; omega
  obtain ⟨hindex, signal, hsignal, hopened⟩ := hlog.round_of_mem hround
  obtain ⟨bar, hbar⟩ := itemAt_ok fourHourBars index (by omega) hindex
  obtain ⟨signal', atrValue, build, hsignal', hatrValue, hbuild, hcandidate⟩ :=
    buildSleeveBCandidate_at symbol dailyBars hcfg hlookback hatr
      (by omega) hindex hbar
  obtain rfl := Except.ok.inj (hsignal.symm.trans hsignal')
  refine ⟨bar, build, hbar, hbuild, ?_⟩
  rw [hcandidate]
  cases hopened with
  | inl hnone =>
    obtain ⟨rfl, hside⟩ := hnone
    rw [hside]
    simp
  | inr hsome =>
    obtain ⟨side, trade, rfl, hside, htrade⟩ := hsome
    obtain ⟨entryBar, stopDistance, final, hsimulated, rfl⟩ := simulateTrade_eq_ok.mp htrade
    obtain rfl := Except.ok.inj (hbar.symm.trans hsimulated.entryBar_eq)
    obtain ⟨atrValue', hatrValue', rfl⟩ := hsimulated.atr_eq
    obtain rfl := Except.ok.inj (hatrValue.symm.trans hatrValue')
    rw [hside]
    refine ⟨by simp, ?_⟩
    intro trade htrade candidate hcandidate
    obtain rfl := Option.some.inj htrade
    obtain rfl := Option.some.inj hcandidate
    exact ⟨rfl, rfl, rfl⟩

end Agreement

def shortBuilderConfig : SleeveBCandidateBuilderConfig where
  donchianLookbackBars := 1
  atrPeriod := 1
  require1hTiming := false

open scoped ExactDecimals in
theorem replay_agrees_with_builder_breakout :
    ∃ result log, runSleeveBReplay "BTCUSDT" risingDays breakoutBars shortReplayConfig = .ok result ∧
      Replayed "BTCUSDT" risingDays breakoutBars shortReplayConfig 2 log ∧ (entries log).length = 1 ∧
      ∀ index opened, (index, opened) ∈ log →
        ∃ bar build, itemAt breakoutBars index = .ok bar ∧
          buildSleeveBCandidate (marketDataAt "BTCUSDT" risingDays breakoutBars index bar)
            shortBuilderConfig = .ok build ∧
          (opened.isSome ↔ build.candidate.isSome) := by
  have htrades : (runSleeveBReplay "BTCUSDT" risingDays breakoutBars shortReplayConfig).map
      (fun result => result.trades.length) = .ok 1 := by
    decide +kernel
  obtain ⟨result, hrun, hone⟩ := map_eq_ok.mp htrades
  have hcfg : MatchingConfigs shortReplayConfig shortBuilderConfig := ⟨rfl, rfl, rfl, rfl⟩
  obtain ⟨log, hlog, hentries, -, hrounds⟩ :=
    replay_agrees_with_builder hcfg (by decide) (by decide) hrun
  rw [hentries, List.length_map] at hone
  refine ⟨result, log, hrun, hlog, hone, ?_⟩
  intro index opened hround
  obtain ⟨bar, build, hbar, hbuild, hopened, -⟩ := hrounds index opened hround
  exact ⟨bar, build, hbar, hbuild, hopened⟩

end DualSleeve

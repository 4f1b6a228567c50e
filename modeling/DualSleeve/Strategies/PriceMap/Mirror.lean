import DualSleeve.Strategies.PriceMap.TradeLoop
import DualSleeve.Strategies.PriceMap.Timing

namespace DualSleeve

open Library Library.Raise
open scoped ExactDecimals

-- The market seen in a mirror at half of `K`: highs become lows.
def OhlcBar.mirror (K : ℚ) (bar : OhlcBar) : OhlcBar where
  timestamp := bar.timestamp
  openPrice := K - bar.openPrice
  high := K - bar.low
  low := K - bar.high
  close := K - bar.close

-- The same trade on the other side: what it earns is the same for each unit of quantity.
structure MirrorTrade (K : ℚ) (trade trade' : SleeveBTrade) : Prop where
  side_eq : trade'.side = trade.side.opposite
  reason_eq : trade'.exitReason = trade.exitReason
  tpHits_eq : trade'.tpHits = trade.tpHits
  barsHeld_eq : trade'.barsHeld = trade.barsHeld
  pnl_eq : ∃ unitPnl, trade.realizedPnl = trade.quantity * unitPnl ∧
    trade'.realizedPnl = trade'.quantity * unitPnl
  stop_eq : trade'.initialStop = K - trade.initialStop
  exit_eq : trade'.exitPrice = K - trade.exitPrice

variable {K : ℚ}

def reflection (K : ℚ) : PriceMap := ⟨-1, K, by norm_num⟩

theorem reflection_falls (K : ℚ) : (reflection K).falls := by
  unfold PriceMap.falls reflection
  norm_num

@[simp] theorem reflection_price (p : ℚ) : (reflection K).price p = K - p := by
  unfold PriceMap.price reflection
  ring

@[simp] theorem reflection_stretch : (reflection K).stretch = 1 := by
  rw [PriceMap.stretch_of_falls (reflection_falls K)]
  exact neg_neg 1

theorem reflection_bar : (reflection K).bar = OhlcBar.mirror K := by
  funext bar
  rw [PriceMap.bar_of_falls (reflection_falls K)]
  simp only [reflection_price]
  rfl

@[simp] theorem reflection_side (side : PositionSide) : (reflection K).side side = side.opposite :=
  if_pos (reflection_falls K)

theorem opposite_opposite (side : PositionSide) : side.opposite.opposite = side := by
  cases side <;> rfl

theorem mirror_mirror (bars : List OhlcBar) :
    (bars.map (OhlcBar.mirror K)).map (OhlcBar.mirror K) = bars := by
  rw [List.map_map]
  refine (List.map_congr_left fun bar _ => ?_).trans (List.map_id bars)
  simp [OhlcBar.mirror]

theorem regimeFromDailyClose_mirror (bars : List OhlcBar) :
    regimeFromDailyClose ((bars.map (OhlcBar.mirror K)).map OhlcBar.close) =
      (regimeFromDailyClose (bars.map OhlcBar.close)).map Regime.mirror := by
  rw [← reflection_bar, PriceMap.map_close, PriceMap.regimeFromDailyClose_price]
  cases regimeFromDailyClose (bars.map OhlcBar.close) with
  | error exc => rfl
  | ok regime => exact congrArg Except.ok (if_pos (reflection_falls K))

theorem barSignal_mirror (symbol : String) (regime : Regime) (bars : List OhlcBar) (lookbackBars : ℤ) :
    barSignal symbol regime.mirror (bars.map (OhlcBar.mirror K)) lookbackBars =
      (barSignal symbol regime bars lookbackBars).map SleeveBSignal.mirror := by
  have h := (reflection K).barSignal_bar symbol regime bars lookbackBars
  rw [PriceMap.map_signal_of_falls (reflection_falls K), PriceMap.regime, if_pos (reflection_falls K),
    reflection_bar] at h
  exact h

theorem oneHourTiming_mirror (side : PositionSide) (bars : List OhlcBar)
    (cfg : SleeveBCandidateBuilderConfig) :
    oneHourTiming side.opposite (bars.map (OhlcBar.mirror K)) cfg =
      (oneHourTiming side bars cfg).map OneHourTiming.mirror := by
  have h := (reflection K).oneHourTiming_bar side bars cfg
  rw [reflection_side, reflection_bar] at h
  rw [h]
  cases oneHourTiming side bars cfg with
  | error exc => rfl
  | ok timing => exact congrArg Except.ok (if_pos (reflection_falls K))

theorem simulateTrade_mirror {symbol : String} {side : PositionSide} {bars : List OhlcBar}
    {entryIndex : ℤ} {cfg : SleeveBReplayConfig} {entryBar : OhlcBar} {trade : SleeveBTrade}
    (hentry : itemAt bars entryIndex = .ok entryBar) (hbelow : entryBar.close < K)
    (h : simulateTrade symbol side bars entryIndex cfg = .ok trade) :
    ∃ trade', simulateTrade symbol side.opposite (bars.map (OhlcBar.mirror K)) entryIndex cfg =
      .ok trade' ∧ MirrorTrade K trade trade' := by
  obtain ⟨entryBar', stopDistance, final, hsimulated, rfl⟩ := simulateTrade_eq_ok.mp h
  obtain rfl := Except.ok.inj (hentry.symm.trans hsimulated.entryBar_eq)
  have hne : (reflection K).price entryBar.close ≠ 0 := by
    rw [reflection_price]
    exact ne_of_gt (sub_pos.mpr hbelow)
  obtain ⟨unit, rfl, hmirrored⟩ := PriceMap.simulated_price (reflection K) hsimulated hne
  rw [reflection_bar, reflection_side, reflection_stretch, reflection_price, one_mul] at hmirrored
  refine ⟨_, simulateTrade_eq_ok.mpr ⟨_, _, _, hmirrored, rfl⟩, rfl, rfl, rfl, rfl, ?_, ?_, ?_⟩
  · refine ⟨unit.realized, ?_, ?_⟩
    · show PriceMap.same.stretch * _ * unit.realized = _
      rw [PriceMap.same_stretch, one_mul]
      rfl
    · show (reflection K).stretch * _ * unit.realized = _
      rw [reflection_stretch, one_mul]
      rfl
  · have hstop := (reflection K).stopAt_price side entryBar.close stopDistance
    rw [reflection_side, reflection_stretch, one_mul, reflection_price, reflection_price] at hstop
    exact hstop
  · show (reflection K).price unit.exitPrice = K - PriceMap.same.price unit.exitPrice
    rw [reflection_price, PriceMap.same_price]

-- Long and short are mirror images, rule by rule.
theorem market_mirror (K : ℚ) :
    (∀ bars : List OhlcBar, regimeFromDailyClose ((bars.map (OhlcBar.mirror K)).map OhlcBar.close) =
      (regimeFromDailyClose (bars.map OhlcBar.close)).map Regime.mirror) ∧
    (∀ symbol regime bars lookbackBars,
      barSignal symbol regime.mirror (bars.map (OhlcBar.mirror K)) lookbackBars =
        (barSignal symbol regime bars lookbackBars).map SleeveBSignal.mirror) ∧
    (∀ side bars cfg, oneHourTiming side.opposite (bars.map (OhlcBar.mirror K)) cfg =
      (oneHourTiming side bars cfg).map OneHourTiming.mirror) ∧
    ∀ symbol side bars entryIndex cfg entryBar, itemAt bars entryIndex = .ok entryBar →
      0 < entryBar.close → 0 < K - entryBar.close →
      (simulateTrade symbol side.opposite (bars.map (OhlcBar.mirror K)) entryIndex cfg).isOk =
          (simulateTrade symbol side bars entryIndex cfg).isOk ∧
        ∀ trade, simulateTrade symbol side bars entryIndex cfg = .ok trade →
          ∃ trade', simulateTrade symbol side.opposite (bars.map (OhlcBar.mirror K)) entryIndex cfg =
            .ok trade' ∧ MirrorTrade K trade trade' := by
  refine ⟨regimeFromDailyClose_mirror, barSignal_mirror, oneHourTiming_mirror, ?_⟩
  intro symbol side bars entryIndex cfg entryBar hentry hpositive hmirrored
  refine ⟨?_, fun trade => simulateTrade_mirror hentry (sub_pos.mp hmirrored)⟩
  rw [Bool.eq_iff_iff]
  constructor
  · intro hok
    obtain ⟨trade, htrade⟩ := exists_ok hok
    have hentry' : itemAt (bars.map (OhlcBar.mirror K)) entryIndex = .ok (entryBar.mirror K) := by
      rw [itemAt_map, hentry]
      rfl
    have hbelow : (entryBar.mirror K).close < K := by
      show K - entryBar.close < K
      linarith
    obtain ⟨trade', htrade', -⟩ := simulateTrade_mirror hentry' hbelow htrade
    rw [opposite_opposite, mirror_mirror] at htrade'
    rw [htrade']
    rfl
  · intro hok
    obtain ⟨trade, htrade⟩ := exists_ok hok
    obtain ⟨trade', htrade', -⟩ := simulateTrade_mirror hentry (sub_pos.mp hmirrored) htrade
    rw [htrade']
    rfl

theorem market_mirror_breakout :
    ∃ trade trade', simulateTrade "BTCUSDT" .long breakoutBars 2 shortReplayConfig = .ok trade ∧
      simulateTrade "BTCUSDT" .short (breakoutBars.map (OhlcBar.mirror 100)) 2 shortReplayConfig =
        .ok trade' ∧ MirrorTrade 100 trade trade' := by
  obtain ⟨trade, htrade⟩ := exists_ok (by decide +kernel :
    (simulateTrade "BTCUSDT" .long breakoutBars 2 shortReplayConfig).isOk = true)
  obtain ⟨trade', htrade', hmirror⟩ := ((market_mirror 100).2.2.2 "BTCUSDT" .long breakoutBars 2
    shortReplayConfig ⟨"3", 10, 13, 9, 12⟩ rfl (by norm_num) (by norm_num)).2 trade htrade
  exact ⟨trade, trade', htrade, htrade', hmirror⟩

end DualSleeve

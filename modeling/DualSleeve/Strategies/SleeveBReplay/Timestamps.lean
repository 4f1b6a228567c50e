import DualSleeve.Strategies.SleeveBReplay.Theorems

namespace DualSleeve

open Library Library.Raise

-- The replay with other texts for the times.

def OhlcBar.restamp (stamp : String → String) (bar : OhlcBar) : OhlcBar :=
  { bar with timestamp := stamp bar.timestamp }

def TradeState.restamp (stamp : String → String) (state : TradeState) : TradeState :=
  { state with exitTime := stamp state.exitTime }

def SleeveBTrade.restamp (stamp : String → String) (trade : SleeveBTrade) : SleeveBTrade :=
  { trade with entryTime := stamp trade.entryTime, exitTime := stamp trade.exitTime }

-- The renamed times stand in the same order, a day against a four-hour bar.
def SameOrder (dailyStamp stamp : String → String) (dailyBars fourHourBars : List OhlcBar) : Prop :=
  ∀ day ∈ dailyBars, ∀ bar ∈ fourHourBars,
    dailyStamp day.timestamp ≤ stamp bar.timestamp ↔ day.timestamp ≤ bar.timestamp

variable {stamp dailyStamp : String → String} {dailyBars fourHourBars : List OhlcBar}

theorem dailyClosesUntil_restamp (h : SameOrder dailyStamp stamp dailyBars fourHourBars) {bar : OhlcBar}
    (hbar : bar ∈ fourHourBars) :
    dailyClosesUntil (dailyBars.map (OhlcBar.restamp dailyStamp)) (stamp bar.timestamp) =
      dailyClosesUntil dailyBars bar.timestamp := by
  unfold dailyClosesUntil
  rw [List.filter_map, List.map_map]
  have hfilter : dailyBars.filter ((fun day : OhlcBar => decide (day.timestamp ≤ stamp bar.timestamp)) ∘
      OhlcBar.restamp dailyStamp) = dailyBars.filter fun day => day.timestamp ≤ bar.timestamp :=
    List.filter_congr fun day hday => decide_eq_decide.mpr (h day hday bar hbar)
  rw [hfilter]
  rfl

section Restamp

variable [DecimalContext]

theorem trueRangeAt_restamp (bars : List OhlcBar) (index : ℤ) :
    trueRangeAt (bars.map (OhlcBar.restamp stamp)) index = trueRangeAt bars index := by
  unfold trueRangeAt
  rw [itemAt_map, itemAt_map]
  cases itemAt bars index with
  | error exc => rfl
  | ok current => cases itemAt bars (index - 1) <;> rfl

theorem averageTrueRange_restamp (bars : List OhlcBar) (period : ℤ) :
    averageTrueRange (bars.map (OhlcBar.restamp stamp)) period = averageTrueRange bars period := by
  unfold averageTrueRange
  rw [List.length_map, funext (trueRangeAt_restamp bars)]

namespace TradePlan

variable (plan : TradePlan)

-- Nothing in a bar of the loop reads a time; the state only takes it over.

theorem takeTarget_restamp (bar : OhlcBar) (state : TradeState) (tp : Target) :
    plan.takeTarget (bar.restamp stamp) (state.restamp stamp) tp = (plan.takeTarget bar state tp).restamp stamp := by
  unfold takeTarget
  change (if tp.label ∈ state.tpHits then _ else if targetHit plan.side bar tp.price then _ else _) = _
  split
  · rfl
  · split <;> rfl

theorem takeTargets_restamp (bar : OhlcBar) (state : TradeState) :
    plan.takeTargets (bar.restamp stamp) (state.restamp stamp) = (plan.takeTargets bar state).restamp stamp := by
  unfold takeTargets
  induction plan.tps generalizing state with
  | nil => rfl
  | cons tp tps ih => rw [List.foldl_cons, List.foldl_cons, takeTarget_restamp, ih]

def restampStep (stamp : String → String) : ForInStep TradeState → ForInStep TradeState
  | .done final => .done (final.restamp stamp)
  | .yield next => .yield (next.restamp stamp)

theorem endBar_restamp (offset : ℤ) (bar : OhlcBar) (state : TradeState) :
    plan.endBar offset (bar.restamp stamp) (state.restamp stamp) =
      restampStep stamp (plan.endBar offset bar state) := by
  unfold endBar
  change (if state.remainingFraction ≤ 0 then _ else if offset ≥ plan.timeStopBars then _ else _) = _
  split
  · rfl
  · split <;> rfl

theorem onBar_restamp (offset : ℤ) (bar : OhlcBar) (state : TradeState) :
    plan.onBar offset (bar.restamp stamp) (state.restamp stamp) = restampStep stamp (plan.onBar offset bar state) := by
  have hreach : (state.restamp stamp).reach offset (bar.restamp stamp) = (state.reach offset bar).restamp stamp := rfl
  unfold onBar
  rw [hreach, takeTargets_restamp, endBar_restamp]
  change (if stopHit plan.side bar state.stop then _ else _) = _
  split <;> rfl

theorem tradeLoop_restamp (offset : ℤ) (bars : List OhlcBar) (state : TradeState) :
    plan.tradeLoop offset (bars.map (OhlcBar.restamp stamp)) (state.restamp stamp) =
      (plan.tradeLoop offset bars state).restamp stamp := by
  induction bars generalizing offset state with
  | nil => rfl
  | cons bar bars ih =>
    rw [List.map_cons, tradeLoop, tradeLoop, onBar_restamp]
    cases plan.onBar offset bar state with
    | done final => rfl
    | yield next => exact ih (offset + 1) next

theorem closeAtEnd_restamp (bars : List OhlcBar) (entryIndex : ℤ) (state : TradeState) :
    plan.closeAtEnd (bars.map (OhlcBar.restamp stamp)) entryIndex (state.restamp stamp) =
      (plan.closeAtEnd bars entryIndex state).map (TradeState.restamp stamp) := by
  unfold closeAtEnd
  rw [itemAt_map, List.length_map]
  change (if state.remainingFraction > 0 then _ else _) = _
  split
  · cases itemAt bars (-1) <;> rfl
  · rfl

theorem simulation_restamp (stamp : String → String) (bars : List OhlcBar) (entryIndex : ℤ) (entryBar : OhlcBar) :
    plan.closeAtEnd (bars.map (OhlcBar.restamp stamp)) entryIndex
        (plan.tradeLoop 1 ((Sequence.onward bars (entryIndex + 1)).map (OhlcBar.restamp stamp))
          (plan.opening (entryBar.restamp stamp))) =
      (plan.closeAtEnd bars entryIndex (plan.tradeLoop 1 (Sequence.onward bars (entryIndex + 1))
        (plan.opening entryBar))).map (TradeState.restamp stamp) := by
  have hopening : plan.opening (entryBar.restamp stamp) = (plan.opening entryBar).restamp stamp := rfl
  rw [hopening, tradeLoop_restamp, closeAtEnd_restamp]

end TradePlan

theorem simulateTrade_restamp (symbol : String) (side : PositionSide) (bars : List OhlcBar) (entryIndex : ℤ)
    (cfg : SleeveBReplayConfig) :
    simulateTrade symbol side (bars.map (OhlcBar.restamp stamp)) entryIndex cfg =
      (simulateTrade symbol side bars entryIndex cfg).map (SleeveBTrade.restamp stamp) := by
  unfold simulateTrade replayAtr
  rw [itemAt_map, Sequence.upTo_map, Sequence.onward_map, averageTrueRange_restamp]
  cases itemAt bars entryIndex with
  | error exc => rfl
  | ok entryBar =>
    cases averageTrueRange (Sequence.upTo bars (entryIndex + 1)) cfg.atrPeriod with
    | error exc => rfl
    | ok atrValue =>
      rw [Except.map, ok_bind, ok_bind, ok_bind, ok_bind]
      generalize rounded (atrValue * cfg.stopAtrMultiple) = stopDistance
      generalize rounded (cfg.sleeveEquity * cfg.maxLeverage) = maxNotional
      by_cases hstop : stopDistance ≤ 0
      · rw [if_pos hstop, if_pos hstop]
        rfl
      rw [if_neg hstop, if_neg hstop]
      change ((divide cfg.unitR stopDistance) >>= fun byRisk => _) =
        ((divide cfg.unitR stopDistance) >>= fun byRisk => _).map _
      cases divide cfg.unitR stopDistance with
      | error exc => rfl
      | ok byRisk =>
        change ((divide maxNotional entryBar.close) >>= fun byNotional => _) =
          ((divide maxNotional entryBar.close) >>= fun byNotional => _).map _
        cases divide maxNotional entryBar.close with
        | error exc => rfl
        | ok byNotional =>
          let plan := tradePlan side entryBar.close stopDistance
            (min (rounded byRisk) (rounded byNotional)) cfg
          have hloop := plan.simulation_restamp stamp bars entryIndex entryBar
          change (plan.closeAtEnd _ entryIndex (plan.tradeLoop 1 _ (plan.opening (entryBar.restamp stamp))) >>=
            fun final => _) = (plan.closeAtEnd bars entryIndex _ >>= fun final => _).map _
          rw [hloop]
          cases plan.closeAtEnd bars entryIndex (plan.tradeLoop 1 (Sequence.onward bars (entryIndex + 1))
            (plan.opening entryBar)) with
          | error exc => rfl
          | ok final =>
            change (divide final.realized cfg.unitR >>= fun grossR => _) =
              (divide final.realized cfg.unitR >>= fun grossR => _).map _
            cases divide final.realized cfg.unitR <;> rfl

theorem replaySignal_restamp (h : SameOrder dailyStamp stamp dailyBars fourHourBars) (symbol : String)
    (cfg : SleeveBReplayConfig) (index : ℤ) :
    replaySignal symbol (dailyBars.map (OhlcBar.restamp dailyStamp)) (fourHourBars.map (OhlcBar.restamp stamp)) cfg
        index =
      replaySignal symbol dailyBars fourHourBars cfg index := by
  unfold replaySignal
  rw [itemAt_map, Sequence.upTo_map]
  cases hbar : itemAt fourHourBars index with
  | error exc => rfl
  | ok bar =>
    have hmem : bar ∈ fourHourBars := Sequence.mem_of_item? (itemAt_eq_ok.mp hbar)
    rw [Except.map, ok_bind, ok_bind]
    simp only [List.map_map]
    change (regimeFromDailyClose (dailyClosesUntil _ (stamp bar.timestamp)) >>= fun regime => _) = _
    rw [dailyClosesUntil_restamp h hmem]
    rfl

theorem replayLoop_restamp (h : SameOrder dailyStamp stamp dailyBars fourHourBars) (symbol : String)
    (cfg : SleeveBReplayConfig) (fuel : ℕ) (index : ℤ) (trades : List SleeveBTrade) :
    replayLoop symbol (dailyBars.map (OhlcBar.restamp dailyStamp)) (fourHourBars.map (OhlcBar.restamp stamp)) cfg fuel
        index (trades.map (SleeveBTrade.restamp stamp)) =
      (replayLoop symbol dailyBars fourHourBars cfg fuel index trades).map
        (List.map (SleeveBTrade.restamp stamp)) := by
  induction fuel generalizing index trades with
  | zero => rfl
  | succ fuel ih =>
    rw [replayLoop, replayLoop, List.length_map, replaySignal_restamp h]
    by_cases hindex : index < fourHourBars.length
    · rw [if_pos hindex, if_pos hindex]
      cases replaySignal symbol dailyBars fourHourBars cfg index with
      | error exc => rfl
      | ok signal =>
        rw [ok_bind, ok_bind]
        cases signal.side with
        | none => exact ih (index + 1) trades
        | some side =>
          dsimp only
          rw [simulateTrade_restamp]
          cases simulateTrade symbol side fourHourBars index cfg with
          | error exc => rfl
          | ok trade =>
            have hnext := ih (index + max trade.barsHeld 1) (trades ++ [trade])
            rw [List.map_append] at hnext
            exact hnext
    · rw [if_neg hindex, if_neg hindex]
      rfl

-- The replay reads times only by their order, of days against four-hour bars: with other
-- texts in the same order it raises where it raised and otherwise makes the same trades,
-- with the times rewritten.
theorem replay_restamp (h : SameOrder dailyStamp stamp dailyBars fourHourBars) (symbol : String)
    (cfg : SleeveBReplayConfig) :
    runSleeveBReplay symbol (dailyBars.map (OhlcBar.restamp dailyStamp)) (fourHourBars.map (OhlcBar.restamp stamp))
        cfg =
      (runSleeveBReplay symbol dailyBars fourHourBars cfg).map fun result =>
        { result with trades := result.trades.map (SleeveBTrade.restamp stamp) } := by
  have hloop := replayLoop_restamp h symbol cfg (fourHourBars.length - cfg.startIndex).toNat cfg.startIndex []
  have hsummary : ∀ trades : List SleeveBTrade,
      summarize symbol (trades.map (SleeveBTrade.restamp stamp)) = summarize symbol trades := by
    intro trades
    unfold summarize equityCurve
    rw [List.foldl_map, List.length_map, List.countP_map, List.countP_map, List.map_map, List.map_map]
    rfl
  unfold runSleeveBReplay
  rw [List.length_map]
  rw [List.map_nil] at hloop
  rw [hloop]
  cases replayLoop symbol dailyBars fourHourBars cfg (fourHourBars.length - cfg.startIndex).toNat cfg.startIndex [] with
  | error exc => rfl
  | ok trades =>
    change Except.ok (SleeveBReplayResult.mk symbol (trades.map (SleeveBTrade.restamp stamp))
      (summarize symbol (trades.map (SleeveBTrade.restamp stamp)))) = _
    rw [hsummary]
    rfl

end Restamp

-- The days one by one before the bars, as a date.
open scoped DefaultContext in
theorem replay_restamp_breakout :
    runSleeveBReplay "BTCUSDT" (risingDays.map (OhlcBar.restamp fun _ => "2024-01-01"))
        (breakoutBars.map (OhlcBar.restamp ("2024-01-02T0" ++ ·))) shortReplayConfig =
      (runSleeveBReplay "BTCUSDT" risingDays breakoutBars shortReplayConfig).map fun result =>
        { result with trades := result.trades.map (SleeveBTrade.restamp ("2024-01-02T0" ++ ·)) } := by
  have horder : SameOrder (fun _ => "2024-01-01") ("2024-01-02T0" ++ ·) risingDays breakoutBars := by
    have hafter : ∀ bar ∈ breakoutBars,
        "2024-01-01" ≤ "2024-01-02T0" ++ bar.timestamp ↔ "0" ≤ bar.timestamp := by
      decide +kernel
    intro day hday bar hbar
    obtain ⟨n, -, rfl⟩ := List.mem_map.mp hday
    exact hafter bar hbar
  exact replay_restamp horder "BTCUSDT" shortReplayConfig

end DualSleeve

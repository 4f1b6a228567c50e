import DualSleeve.Strategies.SleeveBReplay.Theorems
import Mathlib.Data.String.Basic

namespace DualSleeve

open Library Library.Raise

-- A trade that ends before the bars run out reads nothing after its exit.

namespace TradePlan

variable [DecimalContext] {plan : TradePlan}

theorem remaining_of_endBar {offset : ℤ} {bar : OhlcBar} {state next : TradeState}
    (h : plan.endBar offset bar state = .yield next) : 0 < next.remainingFraction := by
  unfold endBar at h
  by_cases hremaining : state.remainingFraction ≤ 0
  · rw [if_pos hremaining] at h
    cases h
  rw [if_neg hremaining] at h
  by_cases htime : offset ≥ plan.timeStopBars
  · rw [if_pos htime] at h
    cases h
  rw [if_neg htime] at h
  obtain rfl := ForInStep.yield.inj h
  exact lt_of_not_ge hremaining

theorem remaining_of_yield {offset : ℤ} {bar : OhlcBar} {state next : TradeState}
    (h : plan.onBar offset bar state = .yield next) : 0 < next.remainingFraction := by
  unfold onBar at h
  by_cases hstop : stopHit plan.side bar state.stop
  · rw [if_pos hstop] at h
    cases h
  · rw [if_neg hstop] at h
    exact remaining_of_endBar h

-- A loop that closes the whole position has left by a `break`, whatever follows.
theorem tradeLoop_append {offset : ℤ} {bars : List OhlcBar} (later : List OhlcBar) {state : TradeState}
    (hopen : 0 < state.remainingFraction)
    (hclosed : (plan.tradeLoop offset bars state).remainingFraction ≤ 0) :
    plan.tradeLoop offset (bars ++ later) state = plan.tradeLoop offset bars state := by
  induction bars generalizing offset state with
  | nil => exact absurd hclosed (not_le_of_gt hopen)
  | cons bar bars ih =>
    rw [List.cons_append, tradeLoop, tradeLoop]
    rw [tradeLoop] at hclosed
    cases hbar : plan.onBar offset bar state with
    | done final => rfl
    | yield next =>
      rw [hbar] at hclosed
      exact ih (remaining_of_yield hbar) hclosed

theorem closeAtEnd_of_closed {bars : List OhlcBar} {entryIndex : ℤ} {state : TradeState}
    (h : state.remainingFraction ≤ 0) : plan.closeAtEnd bars entryIndex state = .ok state :=
  if_neg (not_lt_of_ge h)

-- A position still open when the bars run out is closed for that reason.
theorem exitReason_of_open {bars : List OhlcBar} {entryIndex : ℤ} {state final : TradeState}
    (hopen : 0 < state.remainingFraction) (h : plan.closeAtEnd bars entryIndex state = .ok final) :
    final.exitReason = .endOfData := by
  rw [closeAtEnd, if_pos hopen] at h
  obtain ⟨lastBar, -, h⟩ := bind_eq_ok.mp h
  obtain rfl := Except.ok.inj h
  rfl

end TradePlan

variable {bars : List OhlcBar} (later : List OhlcBar) {index : ℤ}

theorem itemAt_append (hlow : 0 ≤ index) (hhigh : index < bars.length) :
    itemAt (bars ++ later) index = itemAt bars index := by
  unfold itemAt
  rw [Sequence.item?_of_nonneg hlow, Sequence.item?_of_nonneg hlow,
    List.getElem?_append_left (by omega)]

theorem upTo_append (hlow : 0 ≤ index) (hhigh : index < bars.length) :
    Sequence.upTo (bars ++ later) (index + 1) = Sequence.upTo bars (index + 1) := by
  rw [Sequence.upTo_of_nonneg (by omega), Sequence.upTo_of_nonneg (by omega),
    List.take_append_of_le_length (by omega)]

theorem onward_append (hlow : 0 ≤ index) (hhigh : index < bars.length) :
    Sequence.onward (bars ++ later) (index + 1) = Sequence.onward bars (index + 1) ++ later := by
  rw [Sequence.onward_of_nonneg (by omega), Sequence.onward_of_nonneg (by omega),
    List.drop_append_of_le_length (by omega)]

variable {symbol : String} {dailyBars laterDays : List OhlcBar} {cfg : SleeveBReplayConfig}

theorem dailyClosesUntil_append {timestamp : String}
    (hlater : ∀ day ∈ laterDays, timestamp < day.timestamp) :
    dailyClosesUntil (dailyBars ++ laterDays) timestamp = dailyClosesUntil dailyBars timestamp := by
  have hnone : laterDays.filter (fun day => day.timestamp ≤ timestamp) = [] := by
    rw [List.filter_eq_nil_iff]
    intro day hday
    simpa using hlater day hday
  rw [dailyClosesUntil, List.filter_append, hnone, List.append_nil]
  rfl

section Replay

variable [DecimalContext]

theorem simulateTrade_append {side : PositionSide}
    {trade : SleeveBTrade} (hlow : 0 ≤ index) (hhigh : index < bars.length)
    (h : simulateTrade symbol side bars index cfg = .ok trade) (hended : trade.exitReason ≠ .endOfData) :
    simulateTrade symbol side (bars ++ later) index cfg = .ok trade := by
  obtain ⟨entryBar, stopDistance, final, hsimulated, rfl⟩ := simulateTrade_eq_ok.mp h
  refine simulateTrade_eq_ok.mpr ⟨entryBar, stopDistance, final, ?_, rfl⟩
  refine ⟨?_, ?_, hsimulated.stop_pos, hsimulated.entry_ne, hsimulated.unit_ne, ?_⟩
  · rw [itemAt_append later hlow hhigh]
    exact hsimulated.entryBar_eq
  · rw [upTo_append later hlow hhigh]
    exact hsimulated.atr_eq
  · intro plan
    have hfinal : plan.closeAtEnd bars index
        (plan.tradeLoop 1 (Sequence.onward bars (index + 1)) (plan.opening entryBar)) = .ok final :=
      hsimulated.final_eq
    have hclosed : (plan.tradeLoop 1 (Sequence.onward bars (index + 1))
        (plan.opening entryBar)).remainingFraction ≤ 0 := by
      refine le_of_not_gt fun hopen => hended ?_
      exact TradePlan.exitReason_of_open hopen hfinal
    rw [onward_append later hlow hhigh, TradePlan.tradeLoop_append later one_pos hclosed,
      TradePlan.closeAtEnd_of_closed hclosed]
    rw [TradePlan.closeAtEnd_of_closed hclosed] at hfinal
    exact hfinal

theorem replaySignal_append (hlow : 0 ≤ index) (hhigh : index < bars.length)
    (hlater : ∀ day ∈ laterDays, ∀ bar ∈ bars, bar.timestamp < day.timestamp) :
    replaySignal symbol (dailyBars ++ laterDays) (bars ++ later) cfg index =
      replaySignal symbol dailyBars bars cfg index := by
  obtain ⟨bar, hbar⟩ := itemAt_ok bars index hlow hhigh
  have hmem : bar ∈ bars := mem_of_item hlow hbar
  unfold replaySignal
  rw [itemAt_append later hlow hhigh, upTo_append later hlow hhigh, hbar, ok_bind, ok_bind,
    dailyClosesUntil_append fun day hday => hlater day hday bar hmem]

-- Round by round the longer replay does what the shorter one did, up to the first trade
-- that the end of the data closed.
theorem Replayed.trades_prefix {first second : List (ℤ × Option SleeveBTrade)}
    (hlater : ∀ day ∈ laterDays, ∀ bar ∈ bars, bar.timestamp < day.timestamp) (hlow : 0 ≤ index)
    (hfirst : Replayed symbol dailyBars bars cfg index first)
    (hsecond : Replayed symbol (dailyBars ++ laterDays) (bars ++ later) cfg index second) :
    ((entries first).map Prod.snd).takeWhile (fun trade => trade.exitReason ≠ .endOfData) <+:
      (entries second).map Prod.snd := by
  induction hfirst generalizing second with
  | done hend => exact List.nil_prefix
  | @pass index signal log hindex hsignal hside rest ih =>
    rw [← replaySignal_append later hlow hindex hlater] at hsignal
    cases hsecond with
    | done hend =>
      rw [List.length_append] at hend
      omega
    | pass _ _ _ rest' =>
      rw [entries_none, entries_none]
      exact ih (by omega) rest'
    | enter _ hsignal' hside' _ _ =>
      obtain rfl := Except.ok.inj (hsignal.symm.trans hsignal')
      rw [hside] at hside'
      cases hside'
  | @enter index signal side trade log hindex hsignal hside htrade rest ih =>
    rw [← replaySignal_append later hlow hindex hlater] at hsignal
    cases hsecond with
    | done hend =>
      rw [List.length_append] at hend
      omega
    | pass _ hsignal' hside' _ =>
      obtain rfl := Except.ok.inj (hsignal.symm.trans hsignal')
      rw [hside] at hside'
      cases hside'
    | enter _ hsignal' hside' htrade' rest' =>
      obtain rfl := Except.ok.inj (hsignal.symm.trans hsignal')
      obtain rfl := Option.some.inj (hside.symm.trans hside')
      rw [entries_some, entries_some, List.map_cons, List.map_cons]
      by_cases hended : trade.exitReason = .endOfData
      · rw [List.takeWhile_cons_of_neg (by simpa using hended)]
        exact List.nil_prefix
      · obtain rfl := Except.ok.inj
          ((simulateTrade_append later hlow hindex htrade hended).symm.trans htrade')
        rw [List.takeWhile_cons_of_pos (by simpa using hended)]
        exact List.cons_prefix_cons.mpr ⟨rfl, ih (by omega) rest'⟩

theorem replay_prefix_stable {laterBars : List OhlcBar} (hlookback : 1 ≤ cfg.donchianLookbackBars)
    (hatr : 1 ≤ cfg.atrPeriod)
    (hlater : ∀ day ∈ laterDays, ∀ bar ∈ bars, bar.timestamp < day.timestamp)
    {first second : SleeveBReplayResult} (hfirst : runSleeveBReplay symbol dailyBars bars cfg = .ok first)
    (hsecond : runSleeveBReplay symbol (dailyBars ++ laterDays) (bars ++ laterBars) cfg = .ok second) :
    first.trades.takeWhile (fun trade => trade.exitReason ≠ .endOfData) <+: second.trades := by
  obtain ⟨log, hlog, rfl⟩ := runSleeveBReplay_eq_ok.mp hfirst
  obtain ⟨log', hlog', rfl⟩ := runSleeveBReplay_eq_ok.mp hsecond
  have hpositive : 0 ≤ cfg.startIndex := by unfold SleeveBReplayConfig.startIndex; omega
  exact hlog.trades_prefix laterBars hlater hpositive hlog'

end Replay

open scoped ExactDecimals in
theorem replay_prefix_stable_breakout :
    ∃ first second,
      runSleeveBReplay "BTCUSDT" risingDays breakoutBars shortReplayConfig = .ok first ∧
      runSleeveBReplay "BTCUSDT" (risingDays ++ [⟨"9", 1, 1, 1, 1⟩])
        (breakoutBars ++ [⟨"6", 2, 15, 2, 15⟩]) shortReplayConfig = .ok second ∧
      (first.trades.takeWhile fun trade => trade.exitReason ≠ .endOfData).length = 1 ∧
      first.trades.takeWhile (fun trade => trade.exitReason ≠ .endOfData) <+: second.trades := by
  have hended : (runSleeveBReplay "BTCUSDT" risingDays breakoutBars shortReplayConfig).map (fun result =>
      (result.trades.takeWhile fun trade => trade.exitReason ≠ .endOfData).length) = .ok 1 := by
    decide +kernel
  obtain ⟨first, hfirst, hone⟩ := map_eq_ok.mp hended
  obtain ⟨second, hsecond⟩ := exists_ok (by decide +kernel :
    (runSleeveBReplay "BTCUSDT" (risingDays ++ [⟨"9", 1, 1, 1, 1⟩])
      (breakoutBars ++ [⟨"6", 2, 15, 2, 15⟩]) shortReplayConfig).isOk = true)
  exact ⟨first, second, hfirst, hsecond, hone,
    replay_prefix_stable (by decide) (by decide) (by decide +kernel) hfirst hsecond⟩

end DualSleeve

import DualSleeve.Strategies.SleeveBReplay.Totality

namespace DualSleeve

open Library Library.Raise

-- Every trade was held for a bar, and only the last one may have run out of bars.
structure EndsOnce (trades : List SleeveBTrade) : Prop where
  held : ∀ trade ∈ trades, 1 ≤ trade.barsHeld
  once : trades.countP (fun trade => trade.exitReason = .endOfData) ≤ 1
  last : ∀ trade ∈ trades.dropLast, trade.exitReason ≠ .endOfData

-- A trade opened on the last bar: no bar is left to hold it for, so it is closed where it
-- was opened.
structure SleeveBTrade.OpenedAtEnd (trade : SleeveBTrade) (lastBar : OhlcBar) : Prop where
  barsHeld : trade.barsHeld = 0
  exitReason : trade.exitReason = .endOfData
  entryPrice : trade.entryPrice = lastBar.close
  exitPrice : trade.exitPrice = lastBar.close
  entryTime : trade.entryTime = lastBar.timestamp
  exitTime : trade.exitTime = lastBar.timestamp
  realized : trade.realizedPnl = 0

section FinalBar

variable [DecimalContext]

-- The replay looks at the last bar, which breaks out.
def BreaksOutAtEnd (dailyBars fourHourBars : List OhlcBar) (cfg : SleeveBReplayConfig) : Prop :=
  cfg.startIndex < fourHourBars.length ∧
    BreaksOut dailyBars fourHourBars cfg.donchianLookbackBars (fourHourBars.length - 1)

namespace TradePlan

variable (plan : TradePlan) {bar : OhlcBar} {state : TradeState}

theorem takeTargets_not_forced (h : state.exitReason ≠ .endOfData) :
    (plan.takeTargets bar state).exitReason ≠ .endOfData := by
  unfold takeTargets
  generalize plan.tps = tps
  induction tps generalizing state with
  | nil => exact h
  | cons tp tps ih =>
    apply ih
    unfold takeTarget
    split
    · exact h
    · split
      · exact nofun
      · exact h

theorem endBar_not_forced (offset : ℤ) (h : state.exitReason ≠ .endOfData) :
    (plan.endBar offset bar state).value.exitReason ≠ .endOfData := by
  unfold endBar
  by_cases hclosed : state.remainingFraction ≤ 0
  · rw [if_pos hclosed]
    exact h
  · rw [if_neg hclosed]
    by_cases htime : offset ≥ plan.timeStopBars
    · rw [if_pos htime]
      exact nofun
    · rw [if_neg htime]
      exact h

theorem onBar_not_forced (offset : ℤ) (h : state.exitReason ≠ .endOfData) :
    (plan.onBar offset bar state).value.exitReason ≠ .endOfData := by
  unfold onBar
  by_cases hstop : stopHit plan.side bar state.stop = true
  · rw [if_pos hstop]
    show (if state.stop = plan.initialStop then ExitReason.stopLoss else .breakevenStop) ≠ .endOfData
    split <;> exact nofun
  · rw [if_neg hstop]
    exact plan.endBar_not_forced offset (plan.takeTargets_not_forced h)

theorem tradeLoop_not_forced (offset : ℤ) (bars : List OhlcBar) (h : state.exitReason ≠ .endOfData) :
    (plan.tradeLoop offset bars state).exitReason ≠ .endOfData := by
  induction bars generalizing offset state with
  | nil => exact h
  | cons bar later ih =>
    have hbar : (plan.onBar offset bar state).value.exitReason ≠ .endOfData := plan.onBar_not_forced offset h
    rw [tradeLoop]
    cases hnext : plan.onBar offset bar state with
    | done next =>
      rw [hnext] at hbar
      exact hbar
    | yield next =>
      rw [hnext] at hbar
      exact ih (offset + 1) hbar

-- The loop leaves at the bar it counts.

theorem takeTargets_barsHeld : (plan.takeTargets bar state).barsHeld = state.barsHeld := by
  unfold takeTargets
  refine List.foldlRecOn (motive := fun next : TradeState => next.barsHeld = state.barsHeld) _ _ rfl
    fun next hnext tp _ => ?_
  unfold takeTarget
  split
  · exact hnext
  · split <;> exact hnext

theorem onBar_barsHeld (offset : ℤ) : (plan.onBar offset bar state).value.barsHeld = offset := by
  have htaken : (plan.takeTargets bar (state.reach offset bar)).barsHeld = offset := plan.takeTargets_barsHeld
  unfold onBar endBar
  split
  · rfl
  · split
    · exact htaken
    · split <;> exact htaken

theorem tradeLoop_barsHeld (offset : ℤ) (state : TradeState) {bars : List OhlcBar} (hne : bars ≠ []) :
    offset ≤ (plan.tradeLoop offset bars state).barsHeld ∧
      (plan.tradeLoop offset bars state).barsHeld < offset + bars.length := by
  induction bars generalizing offset state with
  | nil => exact absurd rfl hne
  | cons bar later ih =>
    have hbar : (plan.onBar offset bar state).value.barsHeld = offset := plan.onBar_barsHeld offset
    rw [tradeLoop, List.length_cons]
    cases hnext : plan.onBar offset bar state with
    | done next =>
      rw [hnext] at hbar
      show offset ≤ next.barsHeld ∧ next.barsHeld < _
      rw [show next.barsHeld = offset from hbar]
      omega
    | yield next =>
      rw [hnext] at hbar
      cases later with
      | nil =>
        show offset ≤ next.barsHeld ∧ next.barsHeld < _
        rw [show next.barsHeld = offset from hbar]
        omega
      | cons second later =>
        have hlater := ih (offset + 1) next (List.cons_ne_nil second later)
        dsimp only
        omega

end TradePlan

namespace Simulated

variable {side : PositionSide} {bars : List OhlcBar} {entryIndex : ℤ} {cfg : SleeveBReplayConfig}
  {entryBar : OhlcBar} {stopDistance : ℚ} {final : TradeState}

-- Only the end of the data closes a trade by force, and that trade was held up to it.
theorem barsHeld_of_endOfData (h : Simulated side bars entryIndex cfg entryBar stopDistance final)
    (hreason : final.exitReason = .endOfData) : final.barsHeld = max (bars.length - entryIndex - 1) 0 := by
  have hend := h.final_eq
  let plan := tradePlan side entryBar.close stopDistance (cfg.quantity entryBar.close stopDistance) cfg
  have hlooped := plan.tradeLoop_not_forced 1 (Sequence.onward bars (entryIndex + 1))
    (nofun : (plan.opening entryBar).exitReason ≠ .endOfData)
  simp only [TradePlan.closeAtEnd] at hend
  split at hend
  · obtain ⟨lastBar, -, hend⟩ := bind_eq_ok.mp hend
    exact Except.ok.inj hend ▸ rfl
  · exact absurd hreason (Except.ok.inj hend ▸ hlooped)

-- A trade leaves on one of the bars after its entry, where there are any.
theorem barsHeld_bounds (h : Simulated side bars entryIndex cfg entryBar stopDistance final)
    (hindex : 0 ≤ entryIndex) (hlt : entryIndex < bars.length) :
    (entryIndex + 1 < bars.length → 1 ≤ final.barsHeld) ∧ entryIndex + final.barsHeld < bars.length := by
  have hlength : ((Sequence.onward bars (entryIndex + 1)).length : ℤ) = bars.length - entryIndex - 1 := by
    rw [Sequence.onward_of_nonneg (by omega), List.length_drop]
    omega
  have hend := h.final_eq
  simp only [TradePlan.closeAtEnd] at hend
  generalize tradePlan side entryBar.close stopDistance (cfg.quantity entryBar.close stopDistance) cfg = plan at hend
  split at hend
  · obtain ⟨lastBar, -, hend⟩ := bind_eq_ok.mp hend
    obtain rfl := Except.ok.inj hend
    dsimp only
    omega
  · next hclosed =>
    obtain rfl := Except.ok.inj hend
    have hne : Sequence.onward bars (entryIndex + 1) ≠ [] := by
      intro hnil
      rw [hnil] at hclosed
      exact hclosed one_pos
    have hheld := plan.tradeLoop_barsHeld 1 (plan.opening entryBar) hne
    omega

end Simulated

-- Without a bar after the entry nothing happens to a trade.
theorem openedAtEnd_of_simulated {symbol : String} {side : PositionSide} {bars : List OhlcBar}
    {entryIndex : ℤ} {cfg : SleeveBReplayConfig} {trade : SleeveBTrade} {lastBar : OhlcBar}
    (htrade : simulateTrade symbol side bars entryIndex cfg = .ok trade) (hindex : 0 ≤ entryIndex)
    (hend : entryIndex + 1 = bars.length) (hlast : itemAt bars (-1) = .ok lastBar) :
    trade.OpenedAtEnd lastBar := by
  obtain ⟨entryBar, stopDistance, final, h, rfl⟩ := simulateTrade_eq_ok.mp htrade
  have hnone : Sequence.onward bars (entryIndex + 1) = [] := by
    rw [Sequence.onward_of_nonneg (by omega), List.drop_eq_nil_iff]
    omega
  have hentry : entryBar = lastBar := by
    have hitem := h.entryBar_eq
    rw [itemAt_eq_ok, Sequence.item?_of_nonneg hindex] at hitem
    rw [itemAt_eq_ok, Sequence.item?_neg_one, List.getLast?_eq_getElem?] at hlast
    have hplace : entryIndex.toNat = bars.length - 1 := by omega
    rw [hplace] at hitem
    exact Option.some.inj (hitem.symm.trans hlast)
  have hfinal := h.final_eq
  simp only [hnone, TradePlan.tradeLoop, TradePlan.closeAtEnd] at hfinal
  rw [if_pos (by exact one_pos), hlast, ok_bind] at hfinal
  obtain rfl := Except.ok.inj hfinal
  subst hentry
  have hheld : max ((bars.length : ℤ) - entryIndex - 1) 0 = 0 := by omega
  have hflat : ∀ quantity, pnl side entryBar.close entryBar.close quantity = 0 := by
    cases side <;> simp [pnl]
  refine ⟨hheld, rfl, rfl, rfl, rfl, rfl, ?_⟩
  show rounded (0 + pnl side entryBar.close entryBar.close _) = 0
  rw [hflat, add_zero, rounded_zero]

variable {symbol : String} {dailyBars fourHourBars : List OhlcBar} {cfg : SleeveBReplayConfig}

-- A trade of the rounds, with what its simulation makes of the bars after its entry.
theorem Replayed.trade_of_entry {log : List (ℤ × Option SleeveBTrade)}
    (h : Replayed symbol dailyBars fourHourBars cfg cfg.startIndex log) {entry : ℤ × SleeveBTrade}
    (hentry : entry ∈ entries log) :
    cfg.startIndex ≤ entry.1 ∧ entry.1 < fourHourBars.length ∧
      ∃ signal side, replaySignal symbol dailyBars fourHourBars cfg entry.1 = .ok signal ∧
        signal.side = some side ∧ simulateTrade symbol side fourHourBars entry.1 cfg = .ok entry.2 := by
  obtain ⟨place, trade⟩ := entry
  have hround := mem_entries.mp hentry
  obtain ⟨hlt, signal, hsignal, hopened⟩ := h.round_of_mem hround
  refine ⟨h.le_of_mem hround, hlt, signal, ?_⟩
  cases hopened with
  | inl hnone => cases hnone.1
  | inr hsome =>
    obtain ⟨side, trade', htrade', hside, htrade⟩ := hsome
    obtain rfl := Option.some.inj htrade'
    exact ⟨side, hsignal, hside, htrade⟩

-- Trades entered before the last bar, one after the other: each was held for a bar, and a
-- trade that ran out of bars leaves none for another entry.
theorem endsOnce_of_entries (symbol : String) (fourHourBars : List OhlcBar) (cfg : SleeveBReplayConfig)
    {taken : List (ℤ × SleeveBTrade)}
    (hapart : taken.Pairwise fun earlier later =>
      earlier.1 < later.1 ∧ earlier.1 + earlier.2.barsHeld ≤ later.1)
    (hsimulated : ∀ entry ∈ taken, 0 ≤ entry.1 ∧ entry.1 + 1 < fourHourBars.length ∧
      ∃ side, simulateTrade symbol side fourHourBars entry.1 cfg = .ok entry.2) :
    EndsOnce (taken.map Prod.snd) := by
  have hlast : ∀ trade ∈ (taken.map Prod.snd).dropLast, trade.exitReason ≠ .endOfData := by
    intro trade htrade hreason
    rw [← List.map_dropLast] at htrade
    obtain ⟨entry, hentry, rfl⟩ := List.mem_map.mp htrade
    obtain ⟨later, hlater, -, hroom⟩ := Sequence.exists_after_of_mem_dropLast hapart hentry
    obtain ⟨-, -, side, htrade⟩ := hsimulated entry (List.mem_of_mem_dropLast hentry)
    obtain ⟨-, hend, -⟩ := hsimulated later hlater
    obtain ⟨entryBar, stopDistance, final, h, heq⟩ := simulateTrade_eq_ok.mp htrade
    rw [heq] at hreason hroom
    have hheld : final.barsHeld = max (fourHourBars.length - entry.1 - 1) 0 := h.barsHeld_of_endOfData hreason
    simp only [TradePlan.record, hheld] at hroom
    omega
  refine ⟨?_, Sequence.countP_le_one_of_dropLast ?_, hlast⟩
  · intro trade htrade
    obtain ⟨entry, hentry, rfl⟩ := List.mem_map.mp htrade
    obtain ⟨hindex, hbefore, side, htrade⟩ := hsimulated entry hentry
    obtain ⟨entryBar, stopDistance, final, h, heq⟩ := simulateTrade_eq_ok.mp htrade
    rw [heq]
    exact (h.barsHeld_bounds hindex (by omega)).1 hbefore
  · intro trade htrade
    simpa using hlast trade htrade

-- The last bar is entered exactly when it breaks out.
theorem entered_at_end_iff (hcfg : cfg.Usable) (hbars : ∀ bar ∈ fourHourBars, bar.WellFormed)
    {log : List (ℤ × Option SleeveBTrade)}
    (hlog : Replayed symbol dailyBars fourHourBars cfg cfg.startIndex log) :
    (∃ entry ∈ entries log, entry.1 + 1 = fourHourBars.length) ↔
      BreaksOutAtEnd dailyBars fourHourBars cfg := by
  have hreads : ∀ place : ℤ, cfg.startIndex ≤ place → place < fourHourBars.length →
      ∃ signal, replaySignal symbol dailyBars fourHourBars cfg place = .ok signal ∧
        (signal.side ≠ none ↔ BreaksOut dailyBars fourHourBars cfg.donchianLookbackBars place) := by
    intro place hplace hlt
    obtain ⟨signal, hsignal, hside, -⟩ := signal_simulated symbol dailyBars hcfg.lookback_pos hcfg.atr_pos
      (fun bar hbar => (hbars bar hbar).closesInside) (fun bar hbar => ne_of_gt (hbars bar hbar).close_pos)
      hcfg.multiple_pos (ne_of_gt hcfg.unit_pos) (by omega : cfg.startIndex - 1 ≤ place) hlt
    exact ⟨signal, hsignal, hside⟩
  constructor
  · intro h
    obtain ⟨entry, hentry, hend⟩ := h
    obtain ⟨hstart, hlt, signal, side, hsignal, hside, -⟩ := hlog.trade_of_entry hentry
    obtain ⟨signal', hsignal', hbreak⟩ := hreads entry.1 hstart hlt
    obtain rfl := Except.ok.inj (hsignal.symm.trans hsignal')
    have hplace : entry.1 = fourHourBars.length - 1 := by omega
    refine ⟨by omega, ?_⟩
    rw [← hplace]
    exact hbreak.mp (by simp [hside])
  · intro h
    obtain ⟨hstart, hbreak⟩ := h
    obtain ⟨signal, hsignal, hside⟩ := hreads (fourHourBars.length - 1) (by omega) (by omega)
    obtain ⟨entry, hentry, hcovers⟩ := hlog.covers (by omega) (by omega) hsignal (hside.mpr hbreak)
    refine ⟨entry, hentry, ?_⟩
    cases hcovers with
    | inl hat => omega
    | inr hwithin =>
      -- no trade goes on past the last bar
      obtain ⟨hfirst, hlt, -, side, -, -, htrade⟩ := hlog.trade_of_entry hentry
      obtain ⟨entryBar, stopDistance, final, h, heq⟩ := simulateTrade_eq_ok.mp htrade
      have hexit := (h.barsHeld_bounds (by have := hcfg.startIndex_nonneg; omega) hlt).2
      rw [heq] at hwithin
      simp only [TradePlan.record] at hwithin
      omega

-- An entry on the last bar is the last entry.
theorem Replayed.split_at_end {log : List (ℤ × Option SleeveBTrade)}
    (h : Replayed symbol dailyBars fourHourBars cfg cfg.startIndex log) {entry : ℤ × SleeveBTrade}
    (hentry : entry ∈ entries log) (hend : entry.1 + 1 = fourHourBars.length) :
    ∃ earlier, entries log = earlier ++ [entry] := by
  have hapart := h.entries_pairwise
  obtain ⟨earlier, later, hsplit⟩ := List.append_of_mem hentry
  rw [hsplit] at hapart
  obtain ⟨-, hlater, -⟩ := List.pairwise_append.mp hapart
  obtain ⟨hafter, -⟩ := List.pairwise_cons.mp hlater
  cases later with
  | nil => exact ⟨earlier, hsplit⟩
  | cons next rest =>
    have hlt := (hafter next List.mem_cons_self).1
    obtain ⟨-, hnext, -⟩ := h.trade_of_entry (by rw [hsplit]; simp : next ∈ entries log)
    omega

-- The replay closes at most one trade by force, unless the last bar breaks out: then it
-- reports one more trade, which was opened and closed on that bar.
theorem forced_exits (symbol : String) (dailyBars : List OhlcBar) (hcfg : cfg.Usable)
    (hbars : ∀ bar ∈ fourHourBars, bar.WellFormed) :
    ∃ result, runSleeveBReplay symbol dailyBars fourHourBars cfg = .ok result ∧
      (EndsOnce result.trades ↔ ¬BreaksOutAtEnd dailyBars fourHourBars cfg) ∧
      (BreaksOutAtEnd dailyBars fourHourBars cfg →
        ∃ earlier last lastBar, result.trades = earlier ++ [last] ∧ EndsOnce earlier ∧
          itemAt fourHourBars (-1) = .ok lastBar ∧ last.OpenedAtEnd lastBar) := by
  have hstart := hcfg.startIndex_nonneg
  obtain ⟨result, hrun⟩ := runSleeveBReplay_ok symbol dailyBars hcfg fun bar hbar =>
    ⟨(hbars bar hbar).closesInside, (hbars bar hbar).low_pos⟩
  obtain ⟨log, hlog, rfl⟩ := runSleeveBReplay_eq_ok.mp hrun
  have hapart := hlog.entries_pairwise
  have hsimulated : ∀ entry ∈ entries log, 0 ≤ entry.1 ∧ entry.1 < fourHourBars.length ∧
      ∃ side, simulateTrade symbol side fourHourBars entry.1 cfg = .ok entry.2 := by
    intro entry hentry
    obtain ⟨hfirst, hlt, -, side, -, -, htrade⟩ := hlog.trade_of_entry hentry
    exact ⟨by omega, hlt, side, htrade⟩
  have hentered := entered_at_end_iff hcfg hbars hlog
  by_cases hbreak : BreaksOutAtEnd dailyBars fourHourBars cfg
  · obtain ⟨entry, hentry, hend⟩ := hentered.mpr hbreak
    obtain ⟨earlier, hsplit⟩ := hlog.split_at_end hentry hend
    obtain ⟨hindex, -, side, htrade⟩ := hsimulated entry hentry
    have hne : fourHourBars ≠ [] := by
      intro hnil
      rw [hnil, List.length_nil] at hend
      omega
    have hopened := openedAtEnd_of_simulated htrade hindex hend
      (itemAt_last (List.getLast?_eq_some_getLast hne))
    rw [hsplit] at hapart hsimulated
    obtain ⟨hapart, -, hbefore⟩ := List.pairwise_append.mp hapart
    have hearlier : EndsOnce (earlier.map Prod.snd) := by
      refine endsOnce_of_entries symbol fourHourBars cfg hapart ?_
      intro first hfirst
      obtain ⟨hindex, -, htrade⟩ := hsimulated first (List.mem_append_left _ hfirst)
      have hlt := (hbefore first hfirst entry (List.mem_singleton_self _)).1
      exact ⟨hindex, by omega, htrade⟩
    refine ⟨_, hrun, iff_of_false ?_ (not_not.mpr hbreak), fun _ => ⟨earlier.map Prod.snd, entry.2, _, ?_, hearlier,
      itemAt_last (List.getLast?_eq_some_getLast hne), hopened⟩⟩
    · intro hends
      have hheld := hends.held entry.2 (List.mem_map_of_mem hentry)
      rw [hopened.barsHeld] at hheld
      omega
    · simp [hsplit]
  · refine ⟨_, hrun, iff_of_true ?_ hbreak, fun h => absurd h hbreak⟩
    refine endsOnce_of_entries symbol fourHourBars cfg hapart ?_
    intro entry hentry
    obtain ⟨hindex, hlt, htrade⟩ := hsimulated entry hentry
    have hbefore : entry.1 + 1 ≠ fourHourBars.length := fun hend => hbreak (hentered.mp ⟨entry, hentry, hend⟩)
    exact ⟨hindex, by omega, htrade⟩

end FinalBar

-- A breakout whose trade runs out of bars, on a last bar that breaks out again.

def risingBars : List OhlcBar := [
  ⟨"1", 10, 11, 9, 10⟩, ⟨"2", 10, 11, 9, 10⟩, ⟨"3", 10, 13, 9, 12⟩, ⟨"4", 12, 15, 11, 14⟩]

section Samples

open scoped ExactDecimals

theorem forced_exits_rising :
    ∃ result earlier last lastBar,
      runSleeveBReplay "BTCUSDT" risingDays risingBars shortReplayConfig = .ok result ∧
        result.trades = earlier ++ [last] ∧ earlier.length = 1 ∧ EndsOnce earlier ∧
        last.OpenedAtEnd lastBar ∧ ¬EndsOnce result.trades := by
  obtain ⟨result, hrun, hends, hbreak⟩ := forced_exits "BTCUSDT" risingDays
    (by decide +kernel : shortReplayConfig.Usable) (by decide +kernel : ∀ bar ∈ risingBars, bar.WellFormed)
  have htrades : (runSleeveBReplay "BTCUSDT" risingDays risingBars shortReplayConfig).map (fun result =>
      result.trades.map SleeveBTrade.barsHeld) = .ok [1, 0] := by
    decide +kernel
  rw [hrun] at htrades
  have hheld : result.trades.map SleeveBTrade.barsHeld = [1, 0] := Except.ok.inj htrades
  have hnot : ¬EndsOnce result.trades := by
    intro honce
    obtain ⟨trade, htrade, hzero⟩ := List.mem_map.mp (by rw [hheld]; simp :
      (0 : ℤ) ∈ result.trades.map SleeveBTrade.barsHeld)
    have hpos := honce.held trade htrade
    omega
  obtain ⟨earlier, last, lastBar, hsplit, honce, -, hopened⟩ := hbreak (not_not.mp (hnot ∘ hends.mpr))
  have hlength := congrArg List.length hheld
  rw [hsplit, List.length_map, List.length_append] at hlength
  exact ⟨result, earlier, last, lastBar, hrun, hsplit, Nat.succ.inj hlength, honce, hopened, hnot⟩

theorem replay_enters_last_bar :
    (∀ bar ∈ risingBars, bar.WellFormed) ∧ shortReplayConfig.Usable ∧
      ∃ result, runSleeveBReplay "BTCUSDT" risingDays risingBars shortReplayConfig = .ok result ∧
        result.trades.map (fun trade => (trade.exitReason, trade.barsHeld)) =
          [(.endOfData, 1), (.endOfData, 0)] ∧
        ¬EndsOnce result.trades := by
  have hreported : (runSleeveBReplay "BTCUSDT" risingDays risingBars shortReplayConfig).map (fun result =>
      result.trades.map fun trade => (trade.exitReason, trade.barsHeld)) =
        .ok [(.endOfData, 1), (.endOfData, 0)] := by
    decide +kernel
  obtain ⟨result, hrun, htrades⟩ := map_eq_ok.mp hreported
  refine ⟨by decide +kernel, by decide +kernel, result, hrun, htrades, ?_⟩
  intro hends
  obtain ⟨trade, htrade, hreport⟩ := List.mem_map.mp (by rw [htrades]; simp :
    (ExitReason.endOfData, (0 : ℤ)) ∈ result.trades.map fun trade => (trade.exitReason, trade.barsHeld))
  have hheld := hends.held trade htrade
  rw [(Prod.mk.inj hreport).2] at hheld
  exact absurd hheld (by decide)

end Samples

end DualSleeve

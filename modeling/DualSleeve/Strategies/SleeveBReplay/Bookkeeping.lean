import DualSleeve.Strategies.SleeveBReplay.Breakeven

namespace DualSleeve

open Library Library.Raise

section Books

open scoped ExactDecimals

def ClosedPart.target? (part : ClosedPart) : Option TakeProfit :=
  match part.closedBy with
  | .target label => some label
  | .stop => none
  | .barClose => none

-- A part is closed at the price of a target that was hit, at the stop in force, or at the
-- close of the exit bar.
def ClosedPart.PricedBy (part : ClosedPart) (plan : TradePlan) (hits : List TakeProfit)
    (exitBar : OhlcBar) : Prop :=
  match part.closedBy with
  | .target label => label ∈ hits ∧ ∃ tp ∈ plan.tps, tp.label = label ∧ part.price = tp.price
  | .stop => part.price = if .tp1 ∈ part.tpHits then plan.entry else plan.initialStop
  | .barClose => part.price = exitBar.close

-- The record of a trade is the sum of the parts it closed.
structure Books (trade : SleeveBTrade) (plan : TradePlan) (exitBar : OhlcBar) (parts : List ClosedPart) :
    Prop where
  realized : trade.realizedPnl = trade.quantity *
    (parts.map fun part => part.fraction * gain trade.side trade.entryPrice part.price).sum
  weight_nonneg : ∀ part ∈ parts, 0 ≤ part.fraction
  weights_sum : (parts.map ClosedPart.fraction).sum = 1
  priced : ∀ part ∈ parts, part.PricedBy plan trade.tpHits exitBar
  targets : parts.filterMap ClosedPart.target? = trade.tpHits
  hits_prefix : trade.tpHits <+: [.tp1, .tp2, .tp3]
  breakeven : trade.exitReason = .breakevenStop ↔
    ∃ part ∈ parts, part.closedBy = .stop ∧ .tp1 ∈ part.tpHits
  exitTime : trade.exitTime = exitBar.timestamp

theorem targets_partsFrom (before tps : List Target) :
    (partsFrom before tps).filterMap ClosedPart.target? = tps.map Target.label := by
  induction tps generalizing before with
  | nil => rfl
  | cons tp tps ih =>
    rw [partsFrom, List.map_cons, ← ih]
    rfl

-- Every bar that is held ends before the time is up.
theorem Held.length_lt {plan : TradePlan} {before : List OhlcBar} {taken : List Target}
    (h : Held plan before taken) (htime : 1 ≤ plan.timeStopBars) :
    (before.length : ℤ) + 1 ≤ plan.timeStopBars := by
  cases h with
  | opened => simpa using htime
  | held bar hheld hstop hopen hlater =>
    rw [List.length_append, List.length_singleton]
    omega

namespace Closing

variable {plan : TradePlan} {taken : List Target} {exitBar : OhlcBar} {reason : ExitReason}
  {closing : List ClosedPart}

theorem weights_sum (h : Closing plan taken exitBar reason closing) :
    ((partsFrom [] taken ++ closing).map ClosedPart.fraction).sum = 1 := by
  have hlast : (closing.map ClosedPart.fraction).sum = openPart taken := by
    cases h with
    | stopped hreason => exact List.sum_singleton
    | filled hclosed hreason => exact le_antisymm (openPart_nonneg taken) hclosed
    | closed hreason => exact List.sum_singleton
  rw [List.map_append, List.sum_append, fractions_partsFrom, hlast, List.nil_append, openPart_nil,
    sub_add_cancel]

theorem targets_eq (h : Closing plan taken exitBar reason closing) :
    (partsFrom [] taken ++ closing).filterMap ClosedPart.target? = taken.map Target.label := by
  have hlast : closing.filterMap ClosedPart.target? = [] := by
    cases h <;> rfl
  rw [List.filterMap_append, hlast, List.append_nil, targets_partsFrom]

theorem weight_nonneg (h : Closing plan taken exitBar reason closing) :
    ∀ part ∈ closing, 0 ≤ part.fraction := by
  intro part hpart
  cases h with
  | stopped hreason => exact List.mem_singleton.mp hpart ▸ openPart_nonneg taken
  | filled hclosed hreason => cases hpart
  | closed hreason => exact List.mem_singleton.mp hpart ▸ openPart_nonneg taken

theorem pricedBy (h : Closing plan taken exitBar reason closing) (hits : List TakeProfit) :
    ∀ part ∈ closing, part.PricedBy plan hits exitBar := by
  intro part hpart
  cases h with
  | stopped hreason =>
    obtain rfl := List.mem_singleton.mp hpart
    rfl
  | filled hclosed hreason => cases hpart
  | closed hreason =>
    obtain rfl := List.mem_singleton.mp hpart
    rfl

theorem stop_of_target {part : ClosedPart} (hpart : part ∈ partsFrom [] taken) : part.closedBy ≠ .stop := by
  obtain ⟨earlier, tp, later, -, rfl⟩ := mem_partsFrom hpart
  exact nofun

-- The trade reports a breakeven stop exactly when the last part was stopped after TP1.
theorem breakeven_iff_stopped (h : Closing plan taken exitBar reason closing)
    (hne : plan.entry ≠ plan.initialStop) :
    reason = .breakevenStop ↔
      ∃ part ∈ partsFrom [] taken ++ closing, part.closedBy = .stop ∧ .tp1 ∈ part.tpHits := by
  have hlast : (∃ part ∈ partsFrom [] taken ++ closing, part.closedBy = .stop ∧ .tp1 ∈ part.tpHits) ↔
      ∃ part ∈ closing, part.closedBy = .stop ∧ .tp1 ∈ part.tpHits := by
    constructor
    · intro hstopped
      obtain ⟨part, hpart, hstop, htp1⟩ := hstopped
      cases List.mem_append.mp hpart with
      | inl htarget => exact absurd hstop (stop_of_target htarget)
      | inr hclosing => exact ⟨part, hclosing, hstop, htp1⟩
    · intro hstopped
      obtain ⟨part, hpart, hstop, htp1⟩ := hstopped
      exact ⟨part, List.mem_append_right _ hpart, hstop, htp1⟩
  rw [hlast]
  cases h with
  | stopped hreason =>
    rw [hreason, TradePlan.stopReason_iff hne]
    simp
  | filled hclosed hreason => simp [hreason.2]
  | closed hreason =>
    cases hreason with
    | inl htime => simp [htime]
    | inr hdata => simp [hdata]

end Closing

variable {symbol : String} {side : PositionSide} {bars : List OhlcBar} {entryIndex : ℤ}
  {cfg : SleeveBReplayConfig}

-- The time stop bounds the bars a trade is held.
theorem Outcome.barsHeld_le {plan : TradePlan} {final : TradeState} {parts : List ClosedPart}
    (h : Outcome plan bars entryIndex (Sequence.onward bars (entryIndex + 1)) final parts)
    (htime : 1 ≤ plan.timeStopBars) (hindex : 0 ≤ entryIndex) : final.barsHeld ≤ plan.timeStopBars := by
  cases h with
  | stopped honward hheld hstop hended hprice hreason =>
    exact hended.barsHeld.trans_le (hheld.length_lt htime)
  | filled honward hheld hstop hclosed hended hreason =>
    exact hended.barsHeld.trans_le (hheld.length_lt htime)
  | timedOut honward hheld hstop hopen hup hended hreason =>
    exact hended.barsHeld.trans_le (hheld.length_lt htime)
  | ranOut hheld hlast hended hreason =>
    have hlength := hheld.length_lt htime
    rw [Sequence.onward_of_nonneg (by omega), List.length_drop] at hlength
    refine hended.barsHeld.trans_le ?_
    omega

-- The realized profit of a trade is its quantity times the price moves of the parts it
-- closed, which make up the whole position.
theorem trade_books {trade : SleeveBTrade} (hindex : 0 ≤ entryIndex) (htime : 1 ≤ cfg.timeStopBars)
    (hcfg : cfg.Laddered) (htrade : simulateTrade symbol side bars entryIndex cfg = .ok trade) :
    ∃ parts exitBar, closedParts side bars entryIndex cfg = .ok parts ∧
      itemAt bars (entryIndex + trade.barsHeld) = .ok exitBar ∧
      Books trade (trade.plan cfg) exitBar parts ∧ trade.barsHeld ≤ cfg.timeStopBars := by
  obtain ⟨entryBar, stopDistance, final, h, rfl⟩ := simulateTrade_eq_ok.mp htrade
  obtain ⟨parts, hparts, houtcome, hrealized⟩ := h.outcome
  obtain ⟨taken, left, exitBar, closing, htps, hhits, rfl, hclosing, hitem, hexitTime⟩ :=
    h.closing hcfg houtcome
  have hladder : Ladder (cfg.plan side entryBar.close stopDistance) stopDistance :=
    ladder_tradePlan hcfg side _ _ h.stop_pos
  refine ⟨_, exitBar, hparts, hitem, ?_, houtcome.barsHeld_le htime hindex⟩
  rw [h.plan_record]
  refine ⟨hrealized, ?_, hclosing.weights_sum, ?_, hclosing.targets_eq.trans hhits.symm, ?_,
    hclosing.breakeven_iff_stopped (stopAt_ne side _ h.stop_pos), hexitTime⟩
  · intro part hpart
    cases List.mem_append.mp hpart with
    | inl htarget => exact (hladder.target_gain htps htarget).1
    | inr hlast => exact hclosing.weight_nonneg part hlast
  · intro part hpart
    cases List.mem_append.mp hpart with
    | inl htarget =>
      obtain ⟨earlier, tp, later, rfl, rfl⟩ := mem_partsFrom htarget
      refine ⟨?_, tp, by simp [htps], rfl, rfl⟩
      show tp.label ∈ final.tpHits
      simp [hhits]
    | inr hlast => exact hclosing.pricedBy _ part hlast
  · show final.tpHits <+: _
    rw [hhits, ← hladder.labels, htps, List.map_append]
    exact List.prefix_append _ _

theorem trade_books_breakout :
    ∃ trade parts exitBar,
      simulateTrade "BTCUSDT" .long breakoutBars 2 shortReplayConfig = .ok trade ∧
      itemAt breakoutBars (2 + trade.barsHeld) = .ok exitBar ∧
      Books trade (trade.plan shortReplayConfig) exitBar parts ∧ trade.barsHeld ≤ 12 := by
  obtain ⟨trade, htrade⟩ := exists_ok (by decide +kernel :
    (simulateTrade "BTCUSDT" .long breakoutBars 2 shortReplayConfig).isOk = true)
  obtain ⟨parts, exitBar, -, hitem, hbooks, hheld⟩ :=
    trade_books (by decide) (by decide) (by decide +kernel) htrade
  exact ⟨trade, parts, exitBar, htrade, hitem, hbooks, hheld⟩

end Books

-- A trade stopped out at a distance of 13, on a bar that closes at the stop. Every move of
-- its parts is one of 13, and yet the rounded profit is no multiple of it.

def thirteenBars : List OhlcBar := [
  ⟨"1", 99, 99, 98, 99⟩, ⟨"2", 99, 99, 98, 99⟩, ⟨"3", 99, 101, 95.8, 100⟩, ⟨"4", 100, 100, 87, 87⟩]

open scoped DefaultContext in
theorem realized_loses_digits :
    (∀ bar ∈ thirteenBars, bar.OpensInside ∧ bar.ClosesInside) ∧ shortReplayConfig.Laddered ∧
      ∃ trade, simulateTrade "BTCUSDT" .long thirteenBars 2 shortReplayConfig = .ok trade ∧
        trade.tpHits = [] ∧ trade.exitReason = .stopLoss ∧ trade.entryPrice = 100 ∧
        trade.initialStop = 87 ∧ itemAt thirteenBars (2 + trade.barsHeld) = .ok ⟨"4", 100, 100, 87, 87⟩ ∧
        ∀ weights : List ℚ, weights.sum = 1 →
          trade.realizedPnl ≠ trade.quantity * (weights.map fun weight => weight * (87 - 100)).sum := by
  have hrecord : (simulateTrade "BTCUSDT" .long thirteenBars 2 shortReplayConfig).map (fun trade =>
      (trade.tpHits, trade.exitReason, trade.entryPrice, trade.initialStop, trade.barsHeld)) =
        .ok ([], .stopLoss, 100, 87, 1) := by
    decide +kernel
  have hprofit : (simulateTrade "BTCUSDT" .long thirteenBars 2 shortReplayConfig).map (fun trade =>
      (trade.realizedPnl, decide (trade.quantity * 13 = 800))) = .ok (-800, false) := by
    decide +kernel
  obtain ⟨trade, htrade, hvalues⟩ := map_eq_ok.mp hrecord
  rw [htrade] at hprofit
  obtain ⟨hrealized, hquantity⟩ := Prod.mk.inj (Except.ok.inj hprofit)
  rw [decide_eq_false_iff_not] at hquantity
  simp only [Prod.mk.injEq] at hvalues
  obtain ⟨hhits, hreason, hentry, hstop, hheld⟩ := hvalues
  refine ⟨by decide +kernel, by decide +kernel, trade, htrade, hhits, hreason, hentry, hstop, ?_, ?_⟩
  · rw [hheld]
    decide +kernel
  · intro weights hsum heq
    rw [List.sum_map_mul_right, List.map_id', hsum, hrealized] at heq
    exact hquantity (by linarith)

end DualSleeve

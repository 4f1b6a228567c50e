import DualSleeve.Strategies.SleeveBReplay.Parts.Theorems

namespace DualSleeve

open Library Library.Raise

-- A price no better than every price traded in the bar.
def OhlcBar.Attains (bar : OhlcBar) (side : PositionSide) (price : ℚ) : Prop :=
  match side with
  | .long => price ≤ bar.high
  | .short => bar.low ≤ price

-- The bar gaps beyond the stop: its first price is already worse.
def OhlcBar.OpensBeyond (bar : OhlcBar) (side : PositionSide) (stop : ℚ) : Prop :=
  match side with
  | .long => bar.openPrice < stop
  | .short => stop < bar.openPrice

theorem OhlcBar.OpensInside.attains {bar : OhlcBar} (h : bar.OpensInside) {side : PositionSide} {stop : ℚ}
    (hgap : ¬ bar.OpensBeyond side stop) : bar.Attains side stop := by
  cases side with
  | long => exact (le_of_not_gt hgap).trans h.2
  | short => exact h.1.trans (le_of_not_gt hgap)

section StopFills

open scoped ExactDecimals

variable {symbol : String} {side : PositionSide} {bars : List OhlcBar} {entryIndex : ℤ}
  {cfg : SleeveBReplayConfig}

-- A trade that is stopped out leaves at the stop in force, which its last bar has reached,
-- and at a price of that bar unless the bar opens beyond the stop.
theorem stop_fill {trade : SleeveBTrade} (hbars : ∀ bar ∈ bars, bar.OpensInside)
    (htrade : simulateTrade symbol side bars entryIndex cfg = .ok trade)
    (hexit : trade.exitReason = .stopLoss ∨ trade.exitReason = .breakevenStop) :
    ∃ bar, itemAt bars (entryIndex + trade.barsHeld) = .ok bar ∧
      trade.exitPrice = (if .tp1 ∈ trade.tpHits then trade.entryPrice else trade.initialStop) ∧
      (trade.exitReason = .breakevenStop ↔ .tp1 ∈ trade.tpHits) ∧
      stopHit side bar trade.exitPrice = true ∧
      (¬ bar.OpensBeyond side trade.exitPrice → bar.Attains side trade.exitPrice) := by
  obtain ⟨entryBar, stopDistance, final, h, rfl⟩ := simulateTrade_eq_ok.mp htrade
  obtain ⟨parts, -, houtcome, -⟩ := h.outcome
  have hexit : final.exitReason = .stopLoss ∨ final.exitReason = .breakevenStop := hexit
  cases houtcome with
  | @stopped before after bar taken honward hheld hstop hended hprice hreason =>
    obtain ⟨earlier, hsplit, -⟩ := h.split
    have hmem : bar ∈ bars := by
      rw [hsplit, honward]
      simp
    refine ⟨bar, ?_, ?_, ?_, ?_, ?_⟩
    · show itemAt bars (entryIndex + final.barsHeld) = .ok bar
      rw [hended.barsHeld]
      exact h.itemAt_held honward
    · show final.exitPrice = if .tp1 ∈ final.tpHits then _ else _
      rw [hprice, hended.hits]
      rfl
    · show final.exitReason = .breakevenStop ↔ .tp1 ∈ final.tpHits
      rw [hreason, hended.hits]
      exact TradePlan.stopReason_iff (stopAt_ne side entryBar.close h.stop_pos) taken
    · show stopHit side bar final.exitPrice = true
      rw [hprice]
      exact hstop
    · exact fun hgap => (hbars bar hmem).attains hgap
  | filled honward hheld hstop hclosed hended hreason => exact absurd hexit (not_or.mpr hreason)
  | timedOut honward hheld hstop hopen htime hended hreason =>
    rw [hreason] at hexit
    exact absurd hexit (by decide)
  | ranOut hheld hlast hended hreason =>
    rw [hreason] at hexit
    exact absurd hexit (by decide)

theorem stop_fill_breakout :
    ∃ trade bar, simulateTrade "BTCUSDT" .long breakoutBars 2 shortReplayConfig = .ok trade ∧
      itemAt breakoutBars (2 + trade.barsHeld) = .ok bar ∧
      (¬ bar.OpensBeyond .long trade.exitPrice → bar.Attains .long trade.exitPrice) := by
  have hreason : (simulateTrade "BTCUSDT" .long breakoutBars 2 shortReplayConfig).map
      SleeveBTrade.exitReason = .ok .stopLoss := by
    decide +kernel
  obtain ⟨trade, htrade, hexit⟩ := map_eq_ok.mp hreason
  obtain ⟨bar, hbar, -, -, -, hattains⟩ := stop_fill (by decide +kernel) htrade (Or.inl hexit)
  exact ⟨trade, bar, htrade, hbar, hattains⟩

end StopFills

-- A bar that opens, trades and closes at 1 stops a trade out at 2, a price it never traded.

def gappedBars : List OhlcBar := [
  ⟨"1", 10, 11, 9, 10⟩, ⟨"2", 10, 11, 9, 10⟩, ⟨"3", 10, 13, 9, 12⟩, ⟨"4", 1, 1, 1, 1⟩]

open scoped DefaultContext in
theorem stop_fill_unattained :
    (∀ bar ∈ gappedBars, bar.OpensInside ∧ bar.ClosesInside) ∧
      ∃ trade, simulateTrade "BTCUSDT" .long gappedBars 2 shortReplayConfig = .ok trade ∧
        trade.exitReason = .stopLoss ∧ trade.exitPrice = 2 ∧
        itemAt gappedBars (2 + trade.barsHeld) = .ok ⟨"4", 1, 1, 1, 1⟩ ∧
        ¬ (⟨"4", 1, 1, 1, 1⟩ : OhlcBar).Attains .long trade.exitPrice := by
  have hrecord : (simulateTrade "BTCUSDT" .long gappedBars 2 shortReplayConfig).map (fun trade =>
      (trade.exitReason, trade.exitPrice, trade.barsHeld)) = .ok (.stopLoss, 2, 1) := by
    decide +kernel
  obtain ⟨trade, htrade, hvalues⟩ := map_eq_ok.mp hrecord
  simp only [Prod.mk.injEq] at hvalues
  obtain ⟨hreason, hprice, hheld⟩ := hvalues
  refine ⟨by decide +kernel, trade, htrade, hreason, hprice, ?_, ?_⟩
  · rw [hheld]
    decide +kernel
  · rw [hprice]
    norm_num [OhlcBar.Attains]

end DualSleeve

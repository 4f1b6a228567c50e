import DualSleeve.Strategies.SleeveBReplay.Ladder

namespace DualSleeve

open Library Library.Raise
open scoped ExactDecimals

theorem OhlcBar.ClosesInside.gain_le {bar : OhlcBar} (h : bar.ClosesInside) (side : PositionSide)
    (entry : ℚ) :
    gain side entry (bar.worst side) ≤ gain side entry bar.close ∧
      gain side entry bar.close ≤ gain side entry (bar.best side) := by
  cases side
  · exact ⟨sub_le_sub_right h.1 entry, sub_le_sub_right h.2 entry⟩
  · exact ⟨sub_le_sub_left h.2 entry, sub_le_sub_left h.1 entry⟩

theorem abs_sub_stopAt (side : PositionSide) (entry : ℚ) {stopDistance : ℚ} (h : 0 < stopDistance) :
    |entry - stopAt side entry stopDistance| = stopDistance := by
  cases side
  · exact (congrArg abs (sub_sub_cancel _ _)).trans (abs_of_pos h)
  · exact (congrArg abs (sub_add_cancel_left _ _)).trans ((abs_neg _).trans (abs_of_pos h))

-- All targets together gain their fractions of the distances the config asks for.
theorem gains_tradePlan (side : PositionSide) (entry stopDistance quantity : ℚ)
    (cfg : SleeveBReplayConfig) :
    ((tradePlan side entry stopDistance quantity cfg).tps.map fun tp =>
      tp.fraction * gain side entry tp.price).sum =
      (cfg.tp1Fraction * cfg.tp1R + cfg.tp2Fraction * cfg.tp2R + cfg.tp3Fraction * cfg.tp3R) *
        stopDistance := by
  simp only [tradePlan, List.map_cons, List.map_nil, List.sum_cons, List.sum_nil, gain_profitAt,
    ExactDecimals.rounded_eq]
  ring

theorem sum_mul_le {tps : List Target} {gains : Target → ℚ} {x : ℚ} (hfraction : ∀ tp ∈ tps, 0 ≤ tp.fraction)
    (hx : ∀ tp ∈ tps, x ≤ gains tp) :
    (tps.map Target.fraction).sum * x ≤ (tps.map fun tp => tp.fraction * gains tp).sum := by
  induction tps with
  | nil => simp
  | cons tp tps ih =>
    have hrest := ih (fun tp htp => hfraction tp (List.mem_cons_of_mem _ htp))
      (fun tp htp => hx tp (List.mem_cons_of_mem _ htp))
    have htp := mul_le_mul_of_nonneg_left (hx tp List.mem_cons_self) (hfraction tp List.mem_cons_self)
    rw [List.map_cons, List.sum_cons, List.map_cons, List.sum_cons, add_mul]
    exact add_le_add htp hrest

namespace Ladder

variable {plan : TradePlan} {stopDistance : ℚ} {taken rest : List Target}

theorem stop_gain (h : Ladder plan stopDistance) (taken : List Target) :
    -stopDistance ≤ gain plan.side plan.entry (plan.stopInForce taken) ∧
      gain plan.side plan.entry (plan.stopInForce taken) ≤ 0 := by
  have hneg := neg_nonpos.mpr h.stop_pos.le
  by_cases hhit : .tp1 ∈ taken.map Target.label
  · rw [TradePlan.stopInForce_of_hit hhit, gain_entry]
    exact ⟨hneg, le_rfl⟩
  · rw [TradePlan.stopInForce_of_not_hit hhit, h.stop_eq, gain_stopAt]
    exact ⟨le_rfl, hneg⟩

-- A bar that does not end the trade closes above the stop and short of the targets left.
theorem close_gain (h : Ladder plan stopDistance) {bar : OhlcBar} (hbar : bar.ClosesInside)
    (htps : plan.tps = taken ++ rest)
    (hstop : stopHit plan.side bar (plan.stopInForce taken) = false) :
    gain plan.side plan.entry (plan.stopInForce taken) < gain plan.side plan.entry bar.close ∧
      ∃ left, plan.tps = taken ++ plan.reached bar taken ++ left ∧
        ∀ tp ∈ left, gain plan.side plan.entry bar.close < gain plan.side plan.entry tp.price := by
  obtain ⟨hworst, hbest⟩ := hbar.gain_le plan.side plan.entry
  obtain ⟨left, hleft, hmissed⟩ := h.reached_prefix htps bar
  have hstop := mt (stopHit_iff plan.side bar plan.entry _).mpr (ne_true_of_eq_false hstop)
  refine ⟨(lt_of_not_ge hstop).trans_le hworst, left, ?_, fun tp htp => ?_⟩
  · rw [htps, List.append_assoc, ← hleft]
  · have hmiss := mt (targetHit_iff plan.side bar plan.entry tp.price).mpr
      (ne_true_of_eq_false (hmissed tp htp))
    exact hbest.trans_lt (lt_of_not_ge hmiss)

-- Targets taken, and the rest closed between the stop and the targets left: the whole is
-- between the stop and all targets.
theorem weighted_bounds (h : Ladder plan stopDistance) (htps : plan.tps = taken ++ rest) {x : ℚ}
    (hlow : -stopDistance ≤ x) (hhigh : ∀ tp ∈ rest, x ≤ gain plan.side plan.entry tp.price) :
    -stopDistance ≤ plan.weightedGain (partsFrom [] taken) + openPart taken * x ∧
      plan.weightedGain (partsFrom [] taken) + openPart taken * x ≤
        (plan.tps.map fun tp => tp.fraction * gain plan.side plan.entry tp.price).sum := by
  have hfirst : ∀ tp ∈ taken, 0 ≤ tp.fraction := fun tp htp =>
    h.fraction_nonneg tp (htps ▸ List.mem_append_left rest htp)
  have hlast : ∀ tp ∈ rest, 0 ≤ tp.fraction := fun tp htp =>
    h.fraction_nonneg tp (htps ▸ List.mem_append_right taken htp)
  have hsum := h.fractions_sum
  rw [htps, List.map_append, List.sum_append] at hsum
  have htaken : 0 ≤ (taken.map Target.fraction).sum := List.sum_nonneg (by simpa using hfirst)
  have hrest : 0 ≤ (rest.map Target.fraction).sum := h.fractions_nonneg htps
  rw [h.weightedGain_eq htps, h.openPart_eq htps, htps, List.map_append, List.sum_append]
  constructor
  · have hgains := sum_mul_le hfirst fun tp htp =>
      (h.gain_pos tp (htps ▸ List.mem_append_left rest htp)).le
    rw [mul_zero] at hgains
    have hopen := mul_le_mul_of_nonneg_left hlow hrest
    have hwhole := mul_nonneg htaken h.stop_pos.le
    have hsplit : (rest.map Target.fraction).sum = 1 - (taken.map Target.fraction).sum := by linarith
    rw [hsplit] at hopen ⊢
    linarith
  · exact add_le_add le_rfl (sum_mul_le hlast hhigh)

end Ladder

variable {symbol : String} {side : PositionSide} {bars : List OhlcBar} {entryIndex : ℤ}
  {cfg : SleeveBReplayConfig}

-- Whatever the outcome, the parts gain no less than the stop and no more than the targets.
theorem Simulated.weightedGain_bounds {entryBar : OhlcBar} {stopDistance : ℚ} {final : TradeState}
    (h : Simulated side bars entryIndex cfg entryBar stopDistance final) (hcfg : cfg.Laddered)
    (hbars : ∀ bar ∈ Sequence.onward bars (entryIndex + 1), bar.ClosesInside) {parts : List ClosedPart}
    (houtcome : Outcome (cfg.plan side entryBar.close stopDistance) bars entryIndex
      (Sequence.onward bars (entryIndex + 1)) final parts) :
    -stopDistance ≤ (cfg.plan side entryBar.close stopDistance).weightedGain parts ∧
      (cfg.plan side entryBar.close stopDistance).weightedGain parts ≤
        (cfg.tp1Fraction * cfg.tp1R + cfg.tp2Fraction * cfg.tp2R + cfg.tp3Fraction * cfg.tp3R) *
          stopDistance := by
  have hladder : Ladder (cfg.plan side entryBar.close stopDistance) stopDistance :=
    ladder_tradePlan hcfg side _ _ h.stop_pos
  rw [← gains_tradePlan side entryBar.close stopDistance (cfg.quantity entryBar.close stopDistance)]
  cases h.exit houtcome with
  | @stopped before taken hheld =>
    obtain ⟨rest, htps⟩ := hladder.held_prefix hheld
    obtain ⟨hlow, hhigh⟩ := hladder.stop_gain taken
    rw [TradePlan.weightedGain_append, TradePlan.weightedGain_singleton]
    exact hladder.weighted_bounds htps hlow fun tp htp =>
      hhigh.trans (hladder.gain_pos tp (htps ▸ List.mem_append_right taken htp)).le
  | @filled before bar taken hheld =>
    obtain ⟨left, htps⟩ := hladder.held_reached hheld bar
    have hbounds := hladder.weighted_bounds htps (neg_nonpos.mpr h.stop_pos.le) fun tp htp =>
      (hladder.gain_pos tp (htps ▸ List.mem_append_right _ htp)).le
    rw [mul_zero, add_zero] at hbounds
    exact hbounds
  | @closed before after bar taken honward hheld hstop hopen hend =>
    have hbar := hbars bar (honward ▸ List.mem_append_right before List.mem_cons_self)
    obtain ⟨rest, htps⟩ := hladder.held_prefix hheld
    obtain ⟨hlow, left, hleft, hhigh⟩ := hladder.close_gain hbar htps hstop
    rw [TradePlan.weightedGain_append, TradePlan.weightedGain_singleton]
    exact hladder.weighted_bounds hleft ((hladder.stop_gain taken).1.trans hlow.le) fun tp htp =>
      (hhigh tp htp).le
  | atEntry =>
    have hflat : (cfg.plan side entryBar.close stopDistance).weightedGain
        [⟨.barClose, entryBar.close, 1, []⟩] = 0 := by
      rw [TradePlan.weightedGain_singleton, one_mul]
      exact gain_entry side entryBar.close
    have hbounds := hladder.weighted_bounds (List.nil_append _).symm (neg_nonpos.mpr h.stop_pos.le)
      fun tp htp => (hladder.gain_pos tp htp).le
    rw [mul_zero, add_zero] at hbounds
    rw [hflat]
    exact hbounds

-- A trade loses at most the risk unit, gains at most what its targets promise, and stays
-- within its notional cap and its risk unit.
theorem grossR_bounded {trade : SleeveBTrade} (hunit : 0 < cfg.unitR)
    (hnotional : 0 < cfg.sleeveEquity * cfg.maxLeverage) (hcfg : cfg.Laddered)
    (hbars : ∀ bar ∈ Sequence.onward bars (entryIndex + 1), bar.ClosesInside)
    (htrade : simulateTrade symbol side bars entryIndex cfg = .ok trade) (hentry : 0 < trade.entryPrice) :
    -1 ≤ trade.grossR ∧
      trade.grossR ≤ cfg.tp1Fraction * cfg.tp1R + cfg.tp2Fraction * cfg.tp2R + cfg.tp3Fraction * cfg.tp3R ∧
      trade.notional ≤ cfg.sleeveEquity * cfg.maxLeverage ∧
      trade.quantity * |trade.entryPrice - trade.initialStop| ≤ cfg.unitR := by
  obtain ⟨entryBar, stopDistance, final, h, rfl⟩ := simulateTrade_eq_ok.mp htrade
  obtain ⟨parts, -, houtcome, hrealized⟩ := h.outcome
  obtain ⟨hlow, hhigh⟩ := h.weightedGain_bounds hcfg hbars houtcome
  have hstop := h.stop_pos
  have hentry : 0 < entryBar.close := hentry
  have hquantity : 0 < cfg.quantity entryBar.close stopDistance :=
    lt_min (div_pos hunit hstop) (div_pos hnotional hentry)
  have hrisk : cfg.quantity entryBar.close stopDistance * stopDistance ≤ cfg.unitR :=
    (le_div_iff₀ hstop).mp (min_le_left _ _)
  have hcap : cfg.quantity entryBar.close stopDistance * entryBar.close ≤
      cfg.sleeveEquity * cfg.maxLeverage := (le_div_iff₀ hentry).mp (min_le_right _ _)
  refine ⟨?_, ?_, hcap, ?_⟩
  · show -1 ≤ final.realized / cfg.unitR
    rw [hrealized, le_div_iff₀ hunit]
    have hloss := mul_le_mul_of_nonneg_left hlow hquantity.le
    linarith
  · show final.realized / cfg.unitR ≤ _
    rw [hrealized, div_le_iff₀ hunit]
    have hgain := mul_le_mul_of_nonneg_left hhigh hquantity.le
    have hmost := mul_le_mul_of_nonneg_left hrisk hcfg.gains_nonneg
    linarith
  · show cfg.quantity entryBar.close stopDistance *
      |entryBar.close - stopAt side entryBar.close stopDistance| ≤ _
    rw [abs_sub_stopAt side _ hstop]
    exact hrisk

theorem grossR_bounded_breakout :
    ∃ trade, simulateTrade "BTCUSDT" .long breakoutBars 2 shortReplayConfig = .ok trade ∧
      -1 ≤ trade.grossR ∧ trade.grossR ≤ 14 / 5 ∧ trade.notional ≤ 400000 ∧
      trade.quantity * |trade.entryPrice - trade.initialStop| ≤ 800 := by
  have hprice : (simulateTrade "BTCUSDT" .long breakoutBars 2 shortReplayConfig).map
      SleeveBTrade.entryPrice = .ok 12 := by
    decide +kernel
  obtain ⟨trade, htrade, hentry⟩ := map_eq_ok.mp hprice
  obtain ⟨hlow, hhigh, hcap, hrisk⟩ := grossR_bounded (by decide +kernel) (by decide +kernel)
    (by decide +kernel) (by decide +kernel) htrade (by rw [hentry]; norm_num)
  refine ⟨trade, htrade, hlow, hhigh.trans_eq ?_, hcap.trans_eq ?_, hrisk⟩
  · norm_num [shortReplayConfig, SleeveBReplayConfig.tp3Fraction]
  · norm_num [shortReplayConfig]

end DualSleeve

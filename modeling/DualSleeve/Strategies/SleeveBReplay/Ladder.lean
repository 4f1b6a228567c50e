import DualSleeve.Strategies.SleeveBReplay.Parts.Theorems

namespace DualSleeve

open Library
open scoped ExactDecimals

-- The targets lie further and further on the side of the profit, and close the whole.
@[mk_iff]
structure SleeveBReplayConfig.Laddered (cfg : SleeveBReplayConfig) : Prop where
  tp1R_pos : 0 < cfg.tp1R
  tp1R_le : cfg.tp1R ≤ cfg.tp2R
  tp2R_le : cfg.tp2R ≤ cfg.tp3R
  tp1Fraction_nonneg : 0 ≤ cfg.tp1Fraction
  tp2Fraction_nonneg : 0 ≤ cfg.tp2Fraction
  fractions_le : cfg.tp1Fraction + cfg.tp2Fraction ≤ 1

instance (cfg : SleeveBReplayConfig) : Decidable cfg.Laddered :=
  decidable_of_iff' _ (SleeveBReplayConfig.laddered_iff cfg)

theorem SleeveBReplayConfig.tp3Fraction_eq (cfg : SleeveBReplayConfig) :
    cfg.tp3Fraction = 1 - cfg.tp1Fraction - cfg.tp2Fraction := rfl

theorem SleeveBReplayConfig.Laddered.tp3Fraction_nonneg {cfg : SleeveBReplayConfig} (h : cfg.Laddered) :
    0 ≤ cfg.tp3Fraction := by
  rw [SleeveBReplayConfig.tp3Fraction_eq]
  linarith [h.fractions_le]

-- What the targets gain together, in units of risk.
theorem SleeveBReplayConfig.Laddered.gains_nonneg {cfg : SleeveBReplayConfig} (h : cfg.Laddered) :
    0 ≤ cfg.tp1Fraction * cfg.tp1R + cfg.tp2Fraction * cfg.tp2R + cfg.tp3Fraction * cfg.tp3R := by
  have hsecond := h.tp1R_pos.le.trans h.tp1R_le
  have hfirst := mul_nonneg h.tp1Fraction_nonneg h.tp1R_pos.le
  exact add_nonneg (add_nonneg hfirst (mul_nonneg h.tp2Fraction_nonneg hsecond))
    (mul_nonneg h.tp3Fraction_nonneg (hsecond.trans h.tp2R_le))

structure Ladder (plan : TradePlan) (stopDistance : ℚ) : Prop where
  stop_eq : plan.initialStop = stopAt plan.side plan.entry stopDistance
  stop_pos : 0 < stopDistance
  labels : plan.tps.map Target.label = [.tp1, .tp2, .tp3]
  fraction_nonneg : ∀ tp ∈ plan.tps, 0 ≤ tp.fraction
  fractions_sum : (plan.tps.map Target.fraction).sum = 1
  gain_pos : ∀ tp ∈ plan.tps, 0 < gain plan.side plan.entry tp.price
  gain_le : plan.tps.Pairwise fun near far =>
    gain plan.side plan.entry near.price ≤ gain plan.side plan.entry far.price

theorem ladder_tradePlan {cfg : SleeveBReplayConfig} (hcfg : cfg.Laddered) (side : PositionSide)
    (entry quantity : ℚ) {stopDistance : ℚ} (hstop : 0 < stopDistance) :
    Ladder (tradePlan side entry stopDistance quantity cfg) stopDistance where
  stop_eq := rfl
  stop_pos := hstop
  labels := rfl
  fraction_nonneg := by
    simp [tradePlan, hcfg.tp1Fraction_nonneg, hcfg.tp2Fraction_nonneg, hcfg.tp3Fraction_nonneg]
  fractions_sum := by
    simp only [tradePlan, SleeveBReplayConfig.tp3Fraction_eq, List.map_cons, List.map_nil, List.sum_cons,
      List.sum_nil]
    ring
  gain_pos := by
    have hsecond := hcfg.tp1R_pos.trans_le hcfg.tp1R_le
    have hthird := hsecond.trans_le hcfg.tp2R_le
    simp [tradePlan, mul_pos hcfg.tp1R_pos hstop, mul_pos hsecond hstop, mul_pos hthird hstop]
  gain_le := by
    have hfirst := mul_le_mul_of_nonneg_right hcfg.tp1R_le hstop.le
    have hsecond := mul_le_mul_of_nonneg_right hcfg.tp2R_le hstop.le
    simp [tradePlan, hfirst, hsecond, hfirst.trans hsecond]

namespace Ladder

variable {plan : TradePlan} {stopDistance : ℚ} {taken rest : List Target}

theorem labels_nodup (h : Ladder plan stopDistance) : (plan.tps.map Target.label).Nodup := by
  rw [h.labels]
  decide

theorem fractions_nonneg (h : Ladder plan stopDistance) (htps : plan.tps = taken ++ rest) :
    0 ≤ (rest.map Target.fraction).sum := by
  refine List.sum_nonneg fun fraction hfraction => ?_
  obtain ⟨tp, htp, rfl⟩ := List.mem_map.mp hfraction
  exact h.fraction_nonneg tp (htps ▸ List.mem_append_right taken htp)

-- After the first targets, the fractions of the others are left.
theorem openPart_eq (h : Ladder plan stopDistance) (htps : plan.tps = taken ++ rest) :
    openPart taken = (rest.map Target.fraction).sum := by
  induction taken using List.reverseRecOn generalizing rest with
  | nil =>
    rw [openPart_nil, ← h.fractions_sum, htps, List.nil_append]
  | append_singleton taken tp ih =>
    have hnext : plan.tps = taken ++ tp :: rest := by rw [htps, List.append_cons taken tp rest]
    have hleft := h.fractions_nonneg htps
    rw [openPart_concat, ih hnext, List.map_cons, List.sum_cons, min_eq_left (le_add_of_nonneg_right hleft)]
    ring

-- So each of the first targets has closed its whole fraction.
theorem weightedGain_eq (h : Ladder plan stopDistance) (htps : plan.tps = taken ++ rest) :
    plan.weightedGain (partsFrom [] taken) =
      (taken.map fun tp => tp.fraction * gain plan.side plan.entry tp.price).sum := by
  induction taken using List.reverseRecOn generalizing rest with
  | nil => rfl
  | append_singleton taken tp ih =>
    have hnext : plan.tps = taken ++ tp :: rest := by rw [htps, List.append_cons taken tp rest]
    have hwhole : min tp.fraction (openPart taken) = tp.fraction := by
      rw [h.openPart_eq hnext, List.map_cons, List.sum_cons]
      exact min_eq_left (le_add_of_nonneg_right (h.fractions_nonneg htps))
    rw [partsFrom_append, TradePlan.weightedGain_append, ih hnext, List.nil_append, partsFrom, partsFrom,
      TradePlan.weightedGain_singleton, hwhole, List.map_append, List.sum_append, List.map_singleton,
      List.sum_singleton]

-- A bar reaches the nearest of the targets that are left, and none behind them.
theorem reached_prefix (h : Ladder plan stopDistance) (htps : plan.tps = taken ++ rest) (bar : OhlcBar) :
    ∃ left, rest = plan.reached bar taken ++ left ∧
      ∀ tp ∈ left, targetHit plan.side bar tp.price = false := by
  have hnodup := h.labels_nodup
  rw [htps, List.map_append, List.nodup_append] at hnodup
  have htaken : plan.reachedOf bar taken taken = [] := by
    refine List.filter_eq_nil_iff.mpr fun tp htp => ?_
    simp [List.mem_map_of_mem (f := Target.label) htp]
  have hrest : plan.reachedOf bar taken rest = rest.filter fun tp => targetHit plan.side bar tp.price := by
    refine List.filter_congr fun tp htp => ?_
    have hnew : tp.label ∉ taken.map Target.label := fun hold =>
      hnodup.2.2 _ hold _ (List.mem_map_of_mem htp) rfl
    simp [hnew]
  have hreached : plan.reached bar taken = rest.filter fun tp => targetHit plan.side bar tp.price := by
    rw [TradePlan.reached, htps, TradePlan.reachedOf, List.filter_append]
    exact (congrArg₂ _ htaken hrest).trans (List.nil_append _)
  have hgains := h.gain_le
  rw [htps, List.pairwise_append] at hgains
  rw [hreached]
  refine Sequence.eq_filter_append _ (hgains.2.1.imp fun {near far} hle hfar => ?_)
  rw [targetHit_iff _ _ plan.entry] at hfar ⊢
  exact hle.trans hfar

theorem held_prefix (h : Ladder plan stopDistance) {before : List OhlcBar} (hheld : Held plan before taken) :
    ∃ rest, plan.tps = taken ++ rest := by
  induction hheld with
  | opened => exact ⟨plan.tps, rfl⟩
  | held bar hheld hstop hopen htime ih =>
    obtain ⟨rest, htps⟩ := ih
    obtain ⟨left, hleft, -⟩ := h.reached_prefix htps bar
    exact ⟨left, by rw [htps, List.append_assoc, ← hleft]⟩

theorem held_reached (h : Ladder plan stopDistance) {before : List OhlcBar} (hheld : Held plan before taken)
    (bar : OhlcBar) : ∃ left, plan.tps = taken ++ plan.reached bar taken ++ left := by
  obtain ⟨rest, htps⟩ := h.held_prefix hheld
  obtain ⟨left, hleft, -⟩ := h.reached_prefix htps bar
  exact ⟨left, by rw [htps, List.append_assoc, ← hleft]⟩

-- TP1 is among the first targets as soon as there is one.
theorem tp1_mem_iff (h : Ladder plan stopDistance) (htps : plan.tps = taken ++ rest) :
    .tp1 ∈ taken.map Target.label ↔ taken ≠ [] := by
  cases taken with
  | nil => simp
  | cons tp taken =>
    have hlabels := h.labels
    rw [htps, List.cons_append, List.map_cons] at hlabels
    rw [List.map_cons, (List.cons.inj hlabels).1]
    simp

end Ladder

-- How the part that the targets leave is closed: at the stop, not at all, or at the close of
-- the exit bar.
inductive Closing (plan : TradePlan) (taken : List Target) (exitBar : OhlcBar) :
    ExitReason → List ClosedPart → Prop where
  | stopped {reason : ExitReason}
    (hreason : reason = if plan.stopInForce taken = plan.initialStop then .stopLoss else .breakevenStop) :
    Closing plan taken exitBar reason
      [⟨.stop, plan.stopInForce taken, openPart taken, taken.map Target.label⟩]
  | filled {reason : ExitReason} (hclosed : openPart taken ≤ 0)
    (hreason : reason ≠ .stopLoss ∧ reason ≠ .breakevenStop) : Closing plan taken exitBar reason []
  | closed {reason : ExitReason} (hreason : reason = .timeStop ∨ reason = .endOfData) :
    Closing plan taken exitBar reason
      [⟨.barClose, exitBar.close, openPart taken, taken.map Target.label⟩]

namespace Simulated

variable {side : PositionSide} {bars : List OhlcBar} {entryIndex : ℤ} {cfg : SleeveBReplayConfig}
  {entryBar : OhlcBar} {stopDistance : ℚ} {final : TradeState} {parts : List ClosedPart}

-- Every outcome closes the first targets and then what they leave, at the bar it reports.
theorem closing (h : Simulated side bars entryIndex cfg entryBar stopDistance final) (hcfg : cfg.Laddered)
    (houtcome : Outcome (cfg.plan side entryBar.close stopDistance) bars entryIndex
      (Sequence.onward bars (entryIndex + 1)) final parts) :
    ∃ taken left exitBar closing, (cfg.plan side entryBar.close stopDistance).tps = taken ++ left ∧
      final.tpHits = taken.map Target.label ∧ parts = partsFrom [] taken ++ closing ∧
      Closing (cfg.plan side entryBar.close stopDistance) taken exitBar final.exitReason closing ∧
      itemAt bars (entryIndex + final.barsHeld) = .ok exitBar ∧
      final.exitTime = exitBar.timestamp := by
  have hladder : Ladder (cfg.plan side entryBar.close stopDistance) stopDistance :=
    ladder_tradePlan hcfg side _ _ h.stop_pos
  cases houtcome with
  | @stopped before after bar taken honward hheld hstop hexit hprice hreason =>
    obtain ⟨rest, htps⟩ := hladder.held_prefix hheld
    refine ⟨taken, rest, bar, _, htps, hexit.hits, rfl, .stopped hreason, ?_, hexit.exitTime⟩
    rw [hexit.barsHeld, h.itemAt_held honward]
  | @filled before after bar taken honward hheld hstop hclosed hexit hreason =>
    obtain ⟨left, htps⟩ := hladder.held_reached hheld bar
    refine ⟨_, left, bar, [], htps, hexit.hits, (List.append_nil _).symm, .filled hclosed hreason, ?_,
      hexit.exitTime⟩
    rw [hexit.barsHeld, h.itemAt_held honward]
  | @timedOut before after bar taken honward hheld hstop hopen htime hexit hreason =>
    obtain ⟨left, htps⟩ := hladder.held_reached hheld bar
    refine ⟨_, left, bar, _, htps, hexit.hits, rfl, .closed (Or.inl hreason), ?_, hexit.exitTime⟩
    rw [hexit.barsHeld, h.itemAt_held honward]
  | @ranOut taken lastBar hheld hlast hexit hreason =>
    obtain ⟨rest, htps⟩ := hladder.held_prefix hheld
    refine ⟨taken, rest, lastBar, _, htps, hexit.hits, rfl, .closed (Or.inr hreason), ?_, hexit.exitTime⟩
    rw [hexit.barsHeld, h.itemAt_end, hlast]

end Simulated

end DualSleeve

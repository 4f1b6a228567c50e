import DualSleeve.Strategies.SleeveBReplay.Bounded

namespace DualSleeve

open Library Library.Raise
open scoped ExactDecimals

-- The plan a trade was opened with, read off its record.

def SleeveBTrade.stopDistance (trade : SleeveBTrade) : ℚ := |trade.entryPrice - trade.initialStop|

def SleeveBTrade.plan (trade : SleeveBTrade) (cfg : SleeveBReplayConfig) : TradePlan :=
  cfg.plan trade.side trade.entryPrice trade.stopDistance

-- No part is closed at a price worse than the entry price once TP1 has been hit.
def ProtectsEntry (side : PositionSide) (entry : ℚ) (parts : List ClosedPart) : Prop :=
  ∀ part ∈ parts, .tp1 ∈ part.tpHits → 0 ≤ gain side entry part.price

-- A trade that hit TP1 keeps at least what it gained there.
def SleeveBTrade.KeepsTp1 (trade : SleeveBTrade) (cfg : SleeveBReplayConfig) : Prop :=
  .tp1 ∈ trade.tpHits →
    trade.quantity * cfg.tp1Fraction * cfg.tp1R * trade.stopDistance ≤ trade.realizedPnl

-- The bar that reaches TP1 closes worse than the entry, and a part that is still open has to
-- be closed with it: the time is up, or there is no later bar to be stopped at.
def ClosesPastEntry (plan : TradePlan) (onward : List OhlcBar) : Prop :=
  ∃ before bar after, onward = before ++ bar :: after ∧ Held plan before [] ∧
    stopHit plan.side bar plan.initialStop = false ∧
    .tp1 ∈ (plan.reached bar []).map Target.label ∧ 0 < openPart (plan.reached bar []) ∧
    (after = [] ∨ plan.timeStopBars ≤ before.length + 1) ∧ gain plan.side plan.entry bar.close < 0

namespace Ladder

variable {plan : TradePlan} {stopDistance : ℚ} {taken rest : List Target}

theorem target_gain (h : Ladder plan stopDistance) (htps : plan.tps = taken ++ rest) {part : ClosedPart}
    (hpart : part ∈ partsFrom [] taken) :
    0 ≤ part.fraction ∧ 0 ≤ gain plan.side plan.entry part.price := by
  obtain ⟨earlier, tp, later, rfl, rfl⟩ := mem_partsFrom hpart
  have htp : tp ∈ plan.tps := by simp [htps]
  exact ⟨le_min (h.fraction_nonneg tp htp) (openPart_nonneg _), (h.gain_pos tp htp).le⟩

-- A close after TP1 is protected by the moved stop, unless TP1 was reached only by its bar.
theorem close_protected (h : Ladder plan stopDistance) {before : List OhlcBar} {bar : OhlcBar}
    (hbar : bar.ClosesInside) (hheld : Held plan before taken)
    (hstop : stopHit plan.side bar (plan.stopInForce taken) = false)
    (hnew : taken = [] → 0 ≤ gain plan.side plan.entry bar.close) :
    0 ≤ gain plan.side plan.entry bar.close := by
  by_cases htaken : taken = []
  · exact hnew htaken
  · obtain ⟨rest, htps⟩ := h.held_prefix hheld
    have habove := (h.close_gain hbar htps hstop).1
    rw [TradePlan.stopInForce_of_hit ((h.tp1_mem_iff htps).mpr htaken), gain_entry] at habove
    exact habove.le

end Ladder

variable {symbol : String} {side : PositionSide} {bars : List OhlcBar} {entryIndex : ℤ}
  {cfg : SleeveBReplayConfig}

namespace Simulated

variable {entryBar : OhlcBar} {stopDistance : ℚ} {final : TradeState} {parts : List ClosedPart}

theorem plan_record (h : Simulated side bars entryIndex cfg entryBar stopDistance final) (symbol : String) :
    ((cfg.plan side entryBar.close stopDistance).record symbol entryBar cfg.unitR final).plan cfg =
      cfg.plan side entryBar.close stopDistance :=
  congrArg (cfg.plan side entryBar.close) (abs_sub_stopAt side entryBar.close h.stop_pos)

theorem closedParts_eq (h : Simulated side bars entryIndex cfg entryBar stopDistance final)
    (hparts : closedParts side bars entryIndex cfg = .ok parts) :
    let plan := cfg.plan side entryBar.close stopDistance
    let later := Sequence.onward bars (entryIndex + 1)
    ∃ atEnd, partsAtEnd bars (plan.tradeLoop 1 later (plan.opening entryBar)) = .ok atEnd ∧
      parts = plan.loopParts 1 later (plan.opening entryBar) ++ atEnd := by
  obtain ⟨atrValue, hatr, rfl⟩ := h.atr_eq
  rw [closedParts, h.entryBar_eq, ok_bind, hatr, ok_bind] at hparts
  obtain ⟨atEnd, hatEnd, hparts⟩ := bind_eq_ok.mp hparts
  exact ⟨atEnd, hatEnd, (Except.ok.inj hparts).symm⟩

-- A trade held to a bar that reaches TP1 and ends it without a stop closes the rest there.
theorem closes_rest (h : Simulated side bars entryIndex cfg entryBar stopDistance final)
    (hparts : closedParts side bars entryIndex cfg = .ok parts) {before after : List OhlcBar}
    {bar : OhlcBar} {taken : List Target}
    (honward : Sequence.onward bars (entryIndex + 1) = before ++ bar :: after)
    (hheld : Held (cfg.plan side entryBar.close stopDistance) before taken)
    (hstop : stopHit side bar ((cfg.plan side entryBar.close stopDistance).stopInForce taken) = false)
    (hopen : 0 < openPart (taken ++ (cfg.plan side entryBar.close stopDistance).reached bar taken))
    (hend : after = [] ∨ cfg.timeStopBars ≤ before.length + 1) :
    ∃ part ∈ parts, part.price = bar.close ∧ part.tpHits =
      (taken ++ (cfg.plan side entryBar.close stopDistance).reached bar taken).map Target.label := by
  have hlabels := labels_nodup side entryBar.close stopDistance (cfg.quantity entryBar.close stopDistance) cfg
  obtain ⟨state, hstate, hloop, hloopParts⟩ := loop_of_held hlabels hheld entryBar (bar :: after)
  obtain ⟨next, hnext, -, hbar, hbarParts⟩ := hstate.onBar_of_not_stop (before.length + 1) hlabels hstop
  obtain ⟨atEnd, hatEnd, rfl⟩ := h.closedParts_eq hparts
  rw [honward, hloop] at hatEnd
  rw [honward, hloopParts]
  by_cases htime : cfg.timeStopBars ≤ before.length + 1
  · obtain ⟨hdone, hdoneParts⟩ := hnext.endBar_of_timedOut hopen htime
    rw [(TradePlan.loop_of_done (hbar.trans hdone)).2, hbarParts, hdoneParts]
    exact ⟨_, List.mem_append_left _
      (List.mem_append_right _ (List.mem_append_right _ List.mem_cons_self)), rfl, rfl⟩
  · -- The time is not up, so this is the last bar, and its close is the end of the data.
    have hlast := hend.resolve_right htime
    subst hlast
    obtain ⟨hyield, -⟩ := hnext.endBar_of_held hopen (lt_of_not_ge htime)
    have hremaining : 0 < next.remainingFraction := hnext.remaining ▸ hopen
    rw [(TradePlan.loop_of_yield (hbar.trans hyield)).1, TradePlan.tradeLoop, partsAtEnd, if_pos hremaining] at hatEnd
    obtain ⟨lastBar, hlastBar, hatEnd⟩ := bind_eq_ok.mp hatEnd
    obtain rfl := Except.ok.inj hatEnd
    obtain rfl : lastBar = bar := by
      cases h.last hlastBar with
      | inl hnone => simp [hnone.1] at honward
      | inr hsome =>
        rw [honward, List.getLast?_concat] at hsome
        exact (Option.some.inj hsome).symm
    exact ⟨_, List.mem_append_right _ List.mem_cons_self, rfl, hnext.hits⟩

theorem protects_iff (h : Simulated side bars entryIndex cfg entryBar stopDistance final)
    (hcfg : cfg.Laddered) (hbars : ∀ bar ∈ Sequence.onward bars (entryIndex + 1), bar.ClosesInside)
    (hparts : closedParts side bars entryIndex cfg = .ok parts)
    (houtcome : Outcome (cfg.plan side entryBar.close stopDistance) bars entryIndex
      (Sequence.onward bars (entryIndex + 1)) final parts) :
    ProtectsEntry side entryBar.close parts ↔
      ¬ ClosesPastEntry (cfg.plan side entryBar.close stopDistance)
        (Sequence.onward bars (entryIndex + 1)) := by
  have hladder : Ladder (cfg.plan side entryBar.close stopDistance) stopDistance :=
    ladder_tradePlan hcfg side _ _ h.stop_pos
  constructor
  · intro hprotects hpast
    obtain ⟨before, bar, after, honward, hheld, hstop, htp1, hopen, hend, hloss⟩ := hpast
    rw [← TradePlan.stopInForce_nil] at hstop
    obtain ⟨part, hmem, hprice, hhits⟩ := h.closes_rest hparts honward hheld hstop hopen hend
    have hgain := hprotects part hmem (hhits ▸ htp1)
    rw [hprice] at hgain
    exact absurd hloss (not_lt_of_ge hgain)
  · intro hpast part hmem htp1
    cases h.exit houtcome with
    | @stopped before taken hheld =>
      obtain ⟨rest, htps⟩ := hladder.held_prefix hheld
      cases List.mem_append.mp hmem with
      | inl htarget => exact (hladder.target_gain htps htarget).2
      | inr hlast =>
        obtain rfl := List.mem_singleton.mp hlast
        show 0 ≤ gain side entryBar.close ((cfg.plan side entryBar.close stopDistance).stopInForce taken)
        rw [TradePlan.stopInForce_of_hit htp1]
        exact (gain_entry side entryBar.close).ge
    | @filled before bar taken hheld =>
      obtain ⟨left, htps⟩ := hladder.held_reached hheld bar
      exact (hladder.target_gain htps hmem).2
    | @closed before after bar taken honward hheld hstop hopen hend =>
      obtain ⟨left, htps⟩ := hladder.held_reached hheld bar
      cases List.mem_append.mp hmem with
      | inl htarget => exact (hladder.target_gain htps htarget).2
      | inr hlast =>
        obtain rfl := List.mem_singleton.mp hlast
        have hbar := hbars bar (honward ▸ List.mem_append_right before List.mem_cons_self)
        refine hladder.close_protected hbar hheld hstop fun htaken => ?_
        -- A close of the bar that reaches TP1 is the case excluded.
        subst htaken
        by_contra hloss
        exact hpast ⟨before, bar, after, honward, hheld, hstop, htp1, hopen, hend, lt_of_not_ge hloss⟩
    | atEntry =>
      obtain rfl := List.mem_singleton.mp hmem
      cases htp1

-- With every later part closed no worse than the entry, what TP1 gained is kept.
theorem tp1_le_weightedGain (h : Simulated side bars entryIndex cfg entryBar stopDistance final)
    (hcfg : cfg.Laddered) (houtcome : Outcome (cfg.plan side entryBar.close stopDistance) bars entryIndex
      (Sequence.onward bars (entryIndex + 1)) final parts)
    (hprotects : ProtectsEntry side entryBar.close parts) (htp1 : .tp1 ∈ final.tpHits) :
    cfg.tp1Fraction * (cfg.tp1R * stopDistance) ≤
      (cfg.plan side entryBar.close stopDistance).weightedGain parts := by
  have hladder : Ladder (cfg.plan side entryBar.close stopDistance) stopDistance :=
    ladder_tradePlan hcfg side _ _ h.stop_pos
  obtain ⟨taken, left, exitBar, closing, htps, hhits, rfl, hclosing, -⟩ := h.closing hcfg houtcome
  rw [hhits] at htp1
  have hlast : 0 ≤ (cfg.plan side entryBar.close stopDistance).weightedGain closing := by
    have hlast (part : ClosedPart) (hpart : part ∈ closing) (hfraction : 0 ≤ part.fraction)
        (hhits : .tp1 ∈ part.tpHits) :
        0 ≤ part.fraction * gain side entryBar.close part.price :=
      mul_nonneg hfraction (hprotects part (List.mem_append_right _ hpart) hhits)
    cases hclosing with
    | stopped hreason =>
      rw [TradePlan.weightedGain_singleton]
      exact hlast _ List.mem_cons_self (openPart_nonneg taken) htp1
    | filled hclosed hreason => exact le_rfl
    | closed hreason =>
      rw [TradePlan.weightedGain_singleton]
      exact hlast _ List.mem_cons_self (openPart_nonneg taken) htp1
  cases taken with
  | nil => cases htp1
  | cons tp more =>
    obtain ⟨rfl, hmore⟩ := List.cons.inj htps
    have hrest : 0 ≤ (more.map fun tp => tp.fraction * gain side entryBar.close tp.price).sum := by
      refine List.sum_nonneg fun value hvalue => ?_
      obtain ⟨tp, htp, rfl⟩ := List.mem_map.mp hvalue
      have hmem : tp ∈ (cfg.plan side entryBar.close stopDistance).tps :=
        htps ▸ List.mem_append_left left (List.mem_cons_of_mem _ htp)
      exact mul_nonneg (hladder.fraction_nonneg tp hmem) (hladder.gain_pos tp hmem).le
    rw [TradePlan.weightedGain_append, hladder.weightedGain_eq htps, List.map_cons, List.sum_cons]
    show _ ≤ cfg.tp1Fraction * gain side entryBar.close (profitAt side entryBar.close _) + _ + _
    rw [gain_profitAt]
    exact le_add_of_le_of_nonneg (le_add_of_nonneg_right hrest) hlast

end Simulated

-- A trade protects its entry after TP1, and with it what TP1 gained, exactly when the bar
-- that reaches TP1 does not close worse than the entry with the rest of the position.
theorem breakeven_iff {trade : SleeveBTrade} (hcfg : cfg.Laddered)
    (hbars : ∀ bar ∈ Sequence.onward bars (entryIndex + 1), bar.ClosesInside)
    (htrade : simulateTrade symbol side bars entryIndex cfg = .ok trade) :
    ((∃ parts, closedParts side bars entryIndex cfg = .ok parts ∧
        ProtectsEntry side trade.entryPrice parts) ↔
      ¬ ClosesPastEntry (trade.plan cfg) (Sequence.onward bars (entryIndex + 1))) ∧
    (0 ≤ cfg.unitR → 0 ≤ cfg.sleeveEquity * cfg.maxLeverage → 0 < trade.entryPrice →
      ((∃ parts, closedParts side bars entryIndex cfg = .ok parts ∧
          ProtectsEntry side trade.entryPrice parts) ∧ trade.KeepsTp1 cfg ↔
        ¬ ClosesPastEntry (trade.plan cfg) (Sequence.onward bars (entryIndex + 1)))) := by
  obtain ⟨entryBar, stopDistance, final, h, rfl⟩ := simulateTrade_eq_ok.mp htrade
  obtain ⟨parts, hparts, houtcome, hrealized⟩ := h.outcome
  have hprotects := h.protects_iff hcfg hbars hparts houtcome
  rw [h.plan_record]
  have hfirst : (∃ parts, closedParts side bars entryIndex cfg = .ok parts ∧
      ProtectsEntry side entryBar.close parts) ↔
        ¬ ClosesPastEntry (cfg.plan side entryBar.close stopDistance)
          (Sequence.onward bars (entryIndex + 1)) := by
    rw [← hprotects]
    constructor
    · intro hexists
      obtain ⟨parts', hparts', hall⟩ := hexists
      exact Except.ok.inj (hparts'.symm.trans hparts) ▸ hall
    · exact fun hall => ⟨parts, hparts, hall⟩
  refine ⟨hfirst, fun hunit hcap hentry => ⟨fun hboth => hfirst.mp hboth.1, fun hpast => ?_⟩⟩
  refine ⟨hfirst.mpr hpast, fun htp1 => ?_⟩
  have hquantity : 0 ≤ cfg.quantity entryBar.close stopDistance :=
    le_min (div_nonneg hunit h.stop_pos.le) (div_nonneg hcap hentry.le)
  have hkept := mul_le_mul_of_nonneg_left
    (h.tp1_le_weightedGain hcfg houtcome (hprotects.mpr hpast) htp1) hquantity
  show cfg.quantity entryBar.close stopDistance * cfg.tp1Fraction * cfg.tp1R *
    |entryBar.close - stopAt side entryBar.close stopDistance| ≤ final.realized
  rw [abs_sub_stopAt side _ h.stop_pos, hrealized]
  linarith

theorem breakeven_iff_breakout :
    ∃ trade, simulateTrade "BTCUSDT" .long breakoutBars 2 shortReplayConfig = .ok trade ∧
      trade.KeepsTp1 shortReplayConfig ∧
      ¬ ClosesPastEntry (trade.plan shortReplayConfig) (Sequence.onward breakoutBars 3) := by
  have hprice : (simulateTrade "BTCUSDT" .long breakoutBars 2 shortReplayConfig).map
      SleeveBTrade.entryPrice = .ok 12 := by
    decide +kernel
  obtain ⟨trade, htrade, hentry⟩ := map_eq_ok.mp hprice
  have hparts : closedParts .long breakoutBars 2 shortReplayConfig = .ok [⟨.stop, 2, 1, []⟩] := by
    decide +kernel
  obtain ⟨hprotects, hboth⟩ := breakeven_iff (by decide +kernel) (by decide +kernel) htrade
  have hpast := hprotects.mp ⟨_, hparts, by simp [ProtectsEntry]⟩
  have hkeeps := (hboth (by decide +kernel) (by decide +kernel) (by rw [hentry]; norm_num)).mpr hpast
  exact ⟨trade, htrade, hkeeps.2, hpast⟩

-- A bar that reaches TP1 at 27, closes at 11 and is the last: the rest of the trade that
-- entered at 12 is closed at a loss.

def fadingBars : List OhlcBar := [
  ⟨"1", 10, 11, 9, 10⟩, ⟨"2", 10, 11, 9, 10⟩, ⟨"3", 10, 13, 9, 12⟩, ⟨"4", 12, 30, 11, 11⟩]

def fadingTrade : SleeveBTrade where
  symbol := "BTCUSDT"
  side := .long
  entryTime := "3"
  entryPrice := 12
  initialStop := 2
  quantity := 80
  notional := 960
  exitTime := "4"
  exitPrice := 11
  exitReason := .endOfData
  realizedPnl := 304
  grossR := 19 / 50
  barsHeld := 1
  tpHits := [.tp1]

theorem tp1_then_loss :
    (∀ bar ∈ fadingBars, bar.OpensInside ∧ bar.ClosesInside) ∧
      shortReplayConfig.Laddered ∧
      simulateTrade "BTCUSDT" .long fadingBars 2 shortReplayConfig = .ok fadingTrade ∧
      .tp1 ∈ fadingTrade.tpHits ∧ ¬ fadingTrade.KeepsTp1 shortReplayConfig ∧
      ¬ ∃ parts, closedParts .long fadingBars 2 shortReplayConfig = .ok parts ∧
        ProtectsEntry .long fadingTrade.entryPrice parts := by
  have hparts : closedParts .long fadingBars 2 shortReplayConfig =
      .ok [⟨.target .tp1, 27, 3 / 10, []⟩, ⟨.barClose, 11, 7 / 10, [.tp1]⟩] := by
    decide +kernel
  refine ⟨by decide +kernel, by decide +kernel, by decide +kernel, by decide, fun hkeeps => ?_,
    fun hprotects => ?_⟩
  · have hkept := hkeeps (by decide)
    norm_num [fadingTrade, SleeveBTrade.stopDistance, shortReplayConfig] at hkept
  · obtain ⟨parts, hok, hall⟩ := hprotects
    obtain rfl := Except.ok.inj (hparts.symm.trans hok)
    have hgain := hall ⟨.barClose, 11, 7 / 10, [.tp1]⟩ (by simp) (by simp)
    norm_num [gain, fadingTrade] at hgain

end DualSleeve

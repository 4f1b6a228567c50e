import DualSleeve.Strategies.PriceMap.Theorems

namespace DualSleeve

open Library Library.Raise
open scoped ExactDecimals

-- A loop for one unit, seen through a price map: at every bar the loop for `quantity`
-- units at the changed prices is in the changed state.

namespace PriceMap

variable {change : PriceMap} {quantity : ℚ} {plan : TradePlan}

theorem closeTarget_plan (hunit : plan.quantity = 1) (state : TradeState) (tp : Target) :
    (change.plan quantity plan).closeTarget (change.state quantity state) (change.target tp) =
      change.state quantity (plan.closeTarget state tp) := by
  have hpnl := change.pnl_price plan.side plan.entry tp.price quantity
    (min tp.fraction state.remainingFraction)
  unfold TradePlan.closeTarget PriceMap.state PriceMap.plan PriceMap.target
  simp only [ExactDecimals.rounded_eq, hpnl, hunit, mul_add]
  congr 1
  by_cases hfirst : tp.label = .tp1
  · rw [if_pos hfirst, if_pos hfirst]
  · rw [if_neg hfirst, if_neg hfirst]

theorem takeTarget_plan (hunit : plan.quantity = 1) (bar : OhlcBar) (state : TradeState) (tp : Target) :
    (change.plan quantity plan).takeTarget (change.bar bar) (change.state quantity state)
        (change.target tp) =
      change.state quantity (plan.takeTarget bar state tp) := by
  unfold TradePlan.takeTarget
  rw [closeTarget_plan hunit]
  show (if tp.label ∈ state.tpHits then _ else
    if targetHit (change.side plan.side) (change.bar bar) (change.price tp.price) then _ else _) = _
  rw [targetHit_bar]
  by_cases htaken : tp.label ∈ state.tpHits
  · rw [if_pos htaken, if_pos htaken]
  rw [if_neg htaken, if_neg htaken]
  by_cases hhit : targetHit plan.side bar tp.price
  · rw [if_pos hhit, if_pos hhit]
  · rw [if_neg hhit, if_neg hhit]

theorem takeTargets_plan (hunit : plan.quantity = 1) (bar : OhlcBar) (state : TradeState) :
    (change.plan quantity plan).takeTargets (change.bar bar) (change.state quantity state) =
      change.state quantity (plan.takeTargets bar state) := by
  unfold TradePlan.takeTargets
  show (plan.tps.map change.target).foldl _ _ = _
  induction plan.tps generalizing state with
  | nil => rfl
  | cons tp tps ih => rw [List.map_cons, List.foldl_cons, List.foldl_cons, takeTarget_plan hunit, ih]

theorem stopOut_plan (hunit : plan.quantity = 1) (state : TradeState) :
    (change.plan quantity plan).stopOut (change.state quantity state) =
      change.state quantity (plan.stopOut state) := by
  have hpnl := change.pnl_price plan.side plan.entry state.stop quantity
    state.remainingFraction
  unfold TradePlan.stopOut PriceMap.state PriceMap.plan
  simp only [ExactDecimals.rounded_eq, hpnl, hunit, mul_add, price_inj]

theorem timeOut_plan (hunit : plan.quantity = 1) (bar : OhlcBar) (state : TradeState) :
    (change.plan quantity plan).timeOut (change.bar bar) (change.state quantity state) =
      change.state quantity (plan.timeOut bar state) := by
  have hpnl := change.pnl_price plan.side plan.entry bar.close quantity
    state.remainingFraction
  unfold TradePlan.timeOut PriceMap.state PriceMap.plan
  simp only [ExactDecimals.rounded_eq, bar_close, hpnl, hunit, mul_add]

-- The outcome of a bar, carried over.
def outcome (change : PriceMap) (quantity : ℚ) : ForInStep TradeState → ForInStep TradeState
  | .done final => .done (change.state quantity final)
  | .yield next => .yield (change.state quantity next)

theorem endBar_plan (hunit : plan.quantity = 1) (offset : ℤ) (bar : OhlcBar) (state : TradeState) :
    (change.plan quantity plan).endBar offset (change.bar bar) (change.state quantity state) =
      change.outcome quantity (plan.endBar offset bar state) := by
  unfold TradePlan.endBar
  rw [timeOut_plan hunit]
  show (if state.remainingFraction ≤ 0 then _ else if offset ≥ plan.timeStopBars then _ else _) = _
  by_cases hclosed : state.remainingFraction ≤ 0
  · rw [if_pos hclosed, if_pos hclosed]
    rfl
  rw [if_neg hclosed, if_neg hclosed]
  by_cases htime : offset ≥ plan.timeStopBars
  · rw [if_pos htime, if_pos htime]
    rfl
  · rw [if_neg htime, if_neg htime]
    rfl

theorem onBar_plan (hunit : plan.quantity = 1) (offset : ℤ) (bar : OhlcBar) (state : TradeState) :
    (change.plan quantity plan).onBar offset (change.bar bar) (change.state quantity state) =
      change.outcome quantity (plan.onBar offset bar state) := by
  have hreach : (change.state quantity state).reach offset (change.bar bar) =
      change.state quantity (state.reach offset bar) := rfl
  unfold TradePlan.onBar
  rw [hreach, stopOut_plan hunit, takeTargets_plan hunit, endBar_plan hunit]
  show (if stopHit (change.side plan.side) (change.bar bar) (change.price state.stop) then _ else _) = _
  rw [stopHit_bar]
  by_cases hstop : stopHit plan.side bar state.stop
  · rw [if_pos hstop, if_pos hstop]
    rfl
  · rw [if_neg hstop, if_neg hstop]

theorem tradeLoop_plan (hunit : plan.quantity = 1) (offset : ℤ) (bars : List OhlcBar)
    (state : TradeState) :
    (change.plan quantity plan).tradeLoop offset (bars.map change.bar) (change.state quantity state) =
      change.state quantity (plan.tradeLoop offset bars state) := by
  induction bars generalizing offset state with
  | nil => rfl
  | cons bar bars ih =>
    rw [List.map_cons, TradePlan.tradeLoop, TradePlan.tradeLoop, onBar_plan hunit]
    cases plan.onBar offset bar state with
    | done final => rfl
    | yield next => exact ih (offset + 1) next

theorem opening_plan (entryBar : OhlcBar) :
    (change.plan quantity plan).opening (change.bar entryBar) =
      change.state quantity (plan.opening entryBar) := by
  unfold TradePlan.opening PriceMap.state PriceMap.plan
  simp

theorem closeAtEnd_plan (hunit : plan.quantity = 1) (bars : List OhlcBar) (entryIndex : ℤ)
    (state : TradeState) :
    (change.plan quantity plan).closeAtEnd (bars.map change.bar) entryIndex (change.state quantity state) =
      (plan.closeAtEnd bars entryIndex state).map (change.state quantity) := by
  unfold TradePlan.closeAtEnd
  rw [itemAt_map, List.length_map]
  show (if state.remainingFraction > 0 then _ else _) = _
  by_cases hopen : state.remainingFraction > 0
  · rw [if_pos hopen, if_pos hopen]
    cases itemAt bars (-1) with
    | error exc => rfl
    | ok lastBar =>
      have hpnl := change.pnl_price plan.side plan.entry lastBar.close quantity
        state.remainingFraction
      refine congrArg Except.ok ?_
      unfold PriceMap.state PriceMap.plan
      simp only [ExactDecimals.rounded_eq, bar_close, bar_timestamp, hpnl, hunit, mul_add]
  · rw [if_neg hopen, if_neg hopen]
    rfl

-- The whole simulation of a plan.
theorem simulation_plan (change : PriceMap) (quantity : ℚ) (hunit : plan.quantity = 1)
    (bars : List OhlcBar) (entryIndex : ℤ) (entryBar : OhlcBar) :
    (change.plan quantity plan).closeAtEnd (bars.map change.bar) entryIndex
        ((change.plan quantity plan).tradeLoop 1
          (Sequence.onward (bars.map change.bar) (entryIndex + 1))
          ((change.plan quantity plan).opening (change.bar entryBar))) =
      (plan.closeAtEnd bars entryIndex (plan.tradeLoop 1 (Sequence.onward bars (entryIndex + 1))
        (plan.opening entryBar))).map (change.state quantity) := by
  rw [Sequence.onward_map, opening_plan, tradeLoop_plan hunit, closeAtEnd_plan hunit]

theorem tradePlan_price (change : PriceMap) (quantity : ℚ) (side : PositionSide)
    (entry stopDistance : ℚ) (cfg : SleeveBReplayConfig) :
    tradePlan (change.side side) (change.price entry) (change.stretch * stopDistance) quantity cfg =
      change.plan quantity (tradePlan side entry stopDistance 1 cfg) := by
  have hprofit (r : ℚ) : profitAt (change.side side) (change.price entry)
      (r * (change.stretch * stopDistance)) = change.price (profitAt side entry (r * stopDistance)) := by
    rw [mul_left_comm, profitAt_price]
  unfold tradePlan
  simp only [ExactDecimals.rounded_eq]
  rw [stopAt_price, hprofit, hprofit, hprofit]
  rfl

-- The map that changes nothing.
def same : PriceMap := ⟨1, 0, one_ne_zero⟩

theorem same_rises : ¬ same.falls := by
  unfold falls same
  norm_num

@[simp] theorem same_price (p : ℚ) : same.price p = p := by
  unfold price same
  ring

@[simp] theorem same_stretch : same.stretch = 1 := abs_one

@[simp] theorem same_bar (b : OhlcBar) : same.bar b = b := by
  rw [bar_of_rises same_rises]
  simp

theorem same_bars (bars : List OhlcBar) : bars.map same.bar = bars := by
  rw [funext same_bar, List.map_id']

-- A simulation gives, for one unit, the state that its own is a multiple of, and the same
-- unit state gives the simulation at the changed prices.
theorem simulated_price (change : PriceMap) {side : PositionSide} {bars : List OhlcBar} {entryIndex : ℤ}
    {cfg : SleeveBReplayConfig} {entryBar : OhlcBar} {stopDistance : ℚ} {final : TradeState}
    (h : Simulated side bars entryIndex cfg entryBar stopDistance final)
    (hentry : change.price entryBar.close ≠ 0) :
    ∃ unit, final = same.state (cfg.quantity entryBar.close stopDistance) unit ∧
      Simulated (change.side side) (bars.map change.bar) entryIndex cfg (change.bar entryBar)
        (change.stretch * stopDistance)
        (change.state (cfg.quantity (change.price entryBar.close) (change.stretch * stopDistance)) unit) := by
  have hunit : (tradePlan side entryBar.close stopDistance 1 cfg).quantity = 1 := rfl
  have hown := simulation_plan same (cfg.quantity entryBar.close stopDistance) hunit bars entryIndex
    entryBar
  have hfinal := h.final_eq
  rw [← tradePlan_price, same_bars, same_bar, same_price, same_stretch, one_mul,
    side_of_rises same_rises, hfinal] at hown
  obtain ⟨unit, hloop, hstate⟩ := map_eq_ok.mp hown.symm
  refine ⟨unit, hstate.symm, ?_⟩
  obtain ⟨atrValue, hatr, hstop⟩ := h.atr_eq
  refine ⟨?_, ⟨change.stretch * atrValue, ?_, ?_⟩, mul_pos change.stretch_pos h.stop_pos, hentry,
    h.unit_ne, ?_⟩
  · rw [itemAt_map, h.entryBar_eq]
    rfl
  · rw [replayAtr, Sequence.upTo_map, averageTrueRange_bar, ← replayAtr, hatr]
    rfl
  · rw [hstop, mul_assoc]
    rfl
  · intro changed
    have hchanged : changed = change.plan
        (cfg.quantity (change.price entryBar.close) (change.stretch * stopDistance))
        (tradePlan side entryBar.close stopDistance 1 cfg) := tradePlan_price ..
    rw [hchanged, simulation_plan change _ hunit, hloop]
    rfl

end PriceMap

end DualSleeve

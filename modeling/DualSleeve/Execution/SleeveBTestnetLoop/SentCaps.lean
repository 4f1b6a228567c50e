import DualSleeve.Execution.SleeveBTestnetLoop.LimitOrder
import DualSleeve.Execution.SleeveBTestnetLoop.Market

namespace DualSleeve

open Library Library.Grid

variable {σ : Type} {config : SleeveBAutoLoopConfig} {allocator : SleeveBExecutionAllocatorConfig}
  {candidate : SleeveBSignalCandidate} {account : AccountSnapshotV3}
  {positions : List ExchangePositionSnapshot} {filters : SymbolFilters}

def OnLosingSide (candidate : SleeveBSignalCandidate) : Prop :=
  match candidate.side with
  | .long => candidate.stopPrice < candidate.entryPrice
  | .short => candidate.entryPrice < candidate.stopPrice

section Sent

variable [DecimalContext]

-- An order handed over is the normalised intent.
theorem normalized_of_sent {router : OrderRouter σ} {intent : OrderIntent} {world : World σ}
    {order : OrderRecord}
    (h : sentOrders (router.route intent world).2.calls = sentOrders world.calls ++ [order])
    (hf : (router.exchange.getSymbolFilters intent.symbol world.outside).1 = .ok filters) :
    normalizeOrderIntent intent filters = .ok order.intent := by
  rcases (OrderRouter.route_routed router intent world).sentOrders_eq with
    hnone | ⟨given, outside, normalized, hfilters, hnormal, hone⟩
  · rw [hnone] at h
    simp at h
  · cases outcome_eq hfilters hf
    rw [hone, List.append_cancel_left_eq, List.cons.injEq] at h
    rw [hnormal, ← h.1]
    rfl

-- The quantity and the price of the order sent for an accepted candidate.
theorem sent_of_accepted {router : OrderRouter σ} {world : World σ} {order : OrderRecord}
    {decision : SleeveBAllocationDecision} (hentry : 0 < candidate.entryPrice) (htick : 0 < filters.tickSize)
    (hstep : 0 < filters.stepSize)
    (hallocate : allocator.allocate candidate account positions filters = .ok decision)
    (haccepted : decision.accepted = true)
    (hf : (router.exchange.getSymbolFilters candidate.symbol world.outside).1 = .ok filters)
    (hsent : sentOrders (router.route (config.allocationToIntent candidate decision) world).2.calls =
      sentOrders world.calls ++ [order]) :
    allocator.WellFormed candidate filters ∧ allocator.Accepts candidate account positions filters ∧
      order.intent.quantity =
        floored (allocator.sizedQuantity candidate account positions filters) filters.stepSize ∧
      order.intent.price = some (config.limitPrice candidate filters) := by
  obtain ⟨hw, ha, rfl⟩ :=
    SleeveBExecutionAllocatorConfig.accepts_of_allocate hentry htick hstep hallocate haccepted
  have hnormal := normalized_of_sent hsent hf
  obtain ⟨hintent, -, -⟩ := (SleeveBAutoLoopConfig.normalize_allocation_iff hw).mp hnormal
  exact ⟨hw, ha, by rw [hintent], by rw [hintent]⟩

-- The router on the sample market, in the mode of the loop.
def sampleRouter : OrderRouter Market := (Market.loop {} {}).router.router

def sampleDecision (candidate : SleeveBSignalCandidate) : SleeveBAllocationDecision :=
  SleeveBExecutionAllocatorConfig.allocation {} candidate sampleAnswers.account [] (marketFilters "BTCUSDT")

def sampleSent (candidate : SleeveBSignalCandidate) : List OrderRecord :=
  sentOrders (sampleRouter.route
    (SleeveBAutoLoopConfig.allocationToIntent {} candidate (sampleDecision candidate)) sampleMarket).2.calls

end Sent

theorem sampleRouter_filters (symbol : String) :
    (sampleRouter.exchange.getSymbolFilters symbol sampleMarket.outside).1 = .ok (marketFilters symbol) := rfl

-- The caps on what is sent, in exact arithmetic.

section Caps

open scoped ExactDecimals

-- The order respects the caps its allocation was approved under: the margin per position
-- and what is left of the portfolio's, and the risk budget.
def WithinCaps (allocator : SleeveBExecutionAllocatorConfig) (candidate : SleeveBSignalCandidate)
    (account : AccountSnapshotV3) (positions : List ExchangePositionSnapshot) (order : OrderRecord) : Prop :=
  ∃ price, order.intent.price = some price ∧
    order.intent.quantity * price / allocator.maxLeverage ≤
      min (allocator.perPositionMarginCap account) (allocator.remainingMargin account positions) ∧
    order.intent.quantity * |price - candidate.stopPrice| ≤ allocator.riskBudget account

-- The ticks the limit price reaches do not go past the price at which the risk-sized
-- quantity uses up the notional (the entry price, if that is higher), and the last of them
-- is as near to the stop as the notional-sized quantity needs (or as the entry price is).
def LimitWithinCaps (config : SleeveBAutoLoopConfig) (allocator : SleeveBExecutionAllocatorConfig)
    (candidate : SleeveBSignalCandidate) (account : AccountSnapshotV3)
    (positions : List ExchangePositionSnapshot) (filters : SymbolFilters) : Prop :=
  let limit := entryLimitPrice candidate config.limitPriceOffsetBps
  let notional := allocator.allowedMargin account positions * allocator.maxLeverage
  let risk := allocator.riskBudget account
  let highest := max (notional * candidate.stopDistance / risk) candidate.entryPrice
  let farthest := max candidate.stopDistance (risk * candidate.entryPrice / notional)
  (¬∃ tick, OnGrid tick filters.tickSize ∧ highest < tick ∧ tick ≤ limit) ∧
    (∃ tick, OnGrid tick filters.tickSize ∧ candidate.stopPrice - farthest ≤ tick ∧ tick ≤ limit) ∧
    ¬∃ tick, OnGrid tick filters.tickSize ∧ candidate.stopPrice + farthest < tick ∧ tick ≤ limit

-- What the smaller of two sizes makes of the amounts they are sized by.

theorem div_min_left {a b c d : ℚ} (ha : 0 < a) (hb : 0 < b) (hc : 0 < c) (hd : 0 < d) :
    a / min (a / b) (c / d) = max b (a * d / c) := by
  rcases le_total (a / b) (c / d) with h | h
  · have hle : a * d / c ≤ b := by
      rw [div_le_div_iff₀ hb hd] at h
      rw [div_le_iff₀ hc]
      linarith
    rw [min_eq_left h, max_eq_left hle, div_div_cancel₀ ha.ne']
  · have hle : b ≤ a * d / c := by
      rw [div_le_div_iff₀ hd hb] at h
      rw [le_div_iff₀ hc]
      linarith
    rw [min_eq_right h, max_eq_right hle, div_div_eq_mul_div]

theorem div_min_right {a b c d : ℚ} (ha : 0 < a) (hb : 0 < b) (hc : 0 < c) (hd : 0 < d) :
    c / min (a / b) (c / d) = max (c * b / a) d := by
  rw [min_comm, div_min_left hc hd ha hb, max_comm]

section Accepted

variable (hw : allocator.WellFormed candidate filters)
  (ha : allocator.Accepts candidate account positions filters)

include hw ha

theorem rawQuantity_pos : 0 < allocator.rawQuantity candidate account positions :=
  pos_of_floored_pos hw.step ha.quantity

theorem riskBudget_pos : 0 < allocator.riskBudget account :=
  (div_pos_iff_of_pos_right ha.stop).mp ((rawQuantity_pos hw ha).trans_le (min_le_left _ _))

theorem allowedNotional_pos : 0 < allocator.allowedMargin account positions * allocator.maxLeverage :=
  (div_pos_iff_of_pos_right hw.entry).mp ((rawQuantity_pos hw ha).trans_le (min_le_right _ _))

-- The condition says that the limit price keeps the caps with the quantity as it was before
-- it was floored to a step.
theorem limitWithinCaps_iff (hoffset : 0 ≤ config.limitPriceOffsetBps)
    (hbelow : config.limitPriceOffsetBps < 10000) :
    LimitWithinCaps config allocator candidate account positions filters ↔
      allocator.rawQuantity candidate account positions * config.limitPrice candidate filters ≤
        allocator.allowedMargin account positions * allocator.maxLeverage ∧
      allocator.rawQuantity candidate account positions *
        |config.limitPrice candidate filters - candidate.stopPrice| ≤ allocator.riskBudget account := by
  have hlimit : 0 ≤ entryLimitPrice candidate config.limitPriceOffsetBps :=
    SleeveBAutoLoopConfig.entryLimitPrice_nonneg hw.entry hoffset hbelow
  have hraw := rawQuantity_pos hw ha
  have hrisk := riskBudget_pos hw ha
  have hnotional := allowedNotional_pos hw ha
  have hhighest : allocator.allowedMargin account positions * allocator.maxLeverage /
      allocator.rawQuantity candidate account positions = _ :=
    div_min_right hrisk ha.stop hnotional hw.entry
  have hfarthest : allocator.riskBudget account / allocator.rawQuantity candidate account positions =
      max candidate.stopDistance (allocator.riskBudget account * candidate.entryPrice /
        (allocator.allowedMargin account positions * allocator.maxLeverage)) :=
    div_min_left hrisk ha.stop hnotional hw.entry
  unfold LimitWithinCaps
  dsimp only
  rw [← hhighest, ← hfarthest, ← lt_truncateTo_iff hw.tick hlimit, ← le_truncateTo_iff hw.tick hlimit,
    ← lt_truncateTo_iff hw.tick hlimit, not_lt, not_lt, ← le_div_iff₀' hraw, ← le_div_iff₀' hraw, abs_le,
    SleeveBAutoLoopConfig.limitPrice, ExactDecimals.floored_eq]
  constructor
  · rintro ⟨hmargin, hbelowStop, haboveStop⟩
    exact ⟨hmargin, by linarith, by linarith⟩
  · rintro ⟨hmargin, hbelowStop, haboveStop⟩
    exact ⟨hmargin, by linarith, by linarith⟩

end Accepted

-- The order that is sent respects the caps it was approved under if its limit price keeps
-- them; and only if, where the quantity it was sized at is whole steps.
theorem sentOrder_withinCaps_of_limit {router : OrderRouter σ} {world : World σ} {order : OrderRecord}
    {decision : SleeveBAllocationDecision} (hleverage : 0 < allocator.maxLeverage)
    (hentry : 0 < candidate.entryPrice) (htick : 0 < filters.tickSize)
    (hstep : 0 < filters.stepSize) (hoffset : 0 ≤ config.limitPriceOffsetBps)
    (hbelow : config.limitPriceOffsetBps < 10000)
    (hallocate : allocator.allocate candidate account positions filters = .ok decision)
    (haccepted : decision.accepted = true)
    (hf : (router.exchange.getSymbolFilters candidate.symbol world.outside).1 = .ok filters)
    (hsent : sentOrders (router.route (config.allocationToIntent candidate decision) world).2.calls =
      sentOrders world.calls ++ [order]) :
    (LimitWithinCaps config allocator candidate account positions filters →
      WithinCaps allocator candidate account positions order) ∧
    (OnGrid (allocator.rawQuantity candidate account positions) filters.stepSize →
      (WithinCaps allocator candidate account positions order ↔
        LimitWithinCaps config allocator candidate account positions filters)) := by
  obtain ⟨hw, ha, hquantity, hprice⟩ :=
    sent_of_accepted hentry htick hstep hallocate haccepted hf hsent
  have hfloored : order.intent.quantity = allocator.sizedQuantity candidate account positions filters :=
    hquantity.trans (truncateTo_of_onGrid hstep (onGrid_truncateTo _ _))
  have hcaps : WithinCaps allocator candidate account positions order ↔
      allocator.sizedQuantity candidate account positions filters * config.limitPrice candidate filters ≤
        allocator.allowedMargin account positions * allocator.maxLeverage ∧
      allocator.sizedQuantity candidate account positions filters *
        |config.limitPrice candidate filters - candidate.stopPrice| ≤ allocator.riskBudget account := by
    rw [WithinCaps, hfloored, hprice]
    simp only [Option.some.injEq, exists_eq_left', div_le_iff₀ hleverage]
    rfl
  rw [hcaps, limitWithinCaps_iff hw ha hoffset hbelow]
  constructor
  · rintro ⟨hmargin, hrisk⟩
    have hle := SleeveBExecutionAllocatorConfig.sizedQuantity_le_rawQuantity hw ha.quantity
    have hlimit : 0 ≤ config.limitPrice candidate filters :=
      floored_nonneg htick (SleeveBAutoLoopConfig.entryLimitPrice_nonneg hentry hoffset hbelow)
    exact ⟨(mul_le_mul_of_nonneg_right hle hlimit).trans hmargin,
      (mul_le_mul_of_nonneg_right hle (abs_nonneg _)).trans hrisk⟩
  · intro hgrid
    rw [SleeveBExecutionAllocatorConfig.sizedQuantity, ExactDecimals.floored_eq,
      truncateTo_of_onGrid hstep hgrid]

theorem sentOrder_withinCaps_sample :
    ∃ order, sampleSent (sampleCandidate "BTCUSDT") = [order] ∧
      WithinCaps {} (sampleCandidate "BTCUSDT") sampleAnswers.account [] order := by
  have hlength : (sampleSent (sampleCandidate "BTCUSDT")).length = 1 := by decide +kernel
  obtain ⟨order, hsent⟩ := List.length_eq_one_iff.mp hlength
  have hallocate : SleeveBExecutionAllocatorConfig.allocate {} (sampleCandidate "BTCUSDT")
      sampleAnswers.account [] (marketFilters "BTCUSDT") = .ok (sampleDecision (sampleCandidate "BTCUSDT")) := by
    decide +kernel
  have hleverage : (0 : ℚ) < SleeveBExecutionAllocatorConfig.maxLeverage {} := by decide +kernel
  have hoffset : (0 : ℚ) ≤ SleeveBAutoLoopConfig.limitPriceOffsetBps {} := by decide +kernel
  have hbelow : SleeveBAutoLoopConfig.limitPriceOffsetBps {} < 10000 := by decide +kernel
  have hlimit : LimitWithinCaps {} {} (sampleCandidate "BTCUSDT") sampleAnswers.account []
      (marketFilters "BTCUSDT") := by
    refine ⟨?_, ⟨999 / 10, ⟨999, ?_⟩, ?_, ?_⟩, ?_⟩
    · rintro ⟨tick, -, hlow, hhigh⟩
      exact absurd (hlow.trans_le hhigh) (by decide +kernel)
    · decide +kernel
    · decide +kernel
    · decide +kernel
    · rintro ⟨tick, -, hlow, hhigh⟩
      exact absurd (hlow.trans_le hhigh) (by decide +kernel)
  exact ⟨order, hsent, (sentOrder_withinCaps_of_limit hleverage (by decide +kernel) (by decide +kernel)
    (by decide +kernel) hoffset hbelow hallocate rfl (sampleRouter_filters _) hsent).1 hlimit⟩

-- A SHORT order is priced above the entry price its quantity was sized at.
def shortCandidate : SleeveBSignalCandidate := ⟨"BTCUSDT", .short, 1000, 1010, "auto-breakdown"⟩

theorem sentOrder_exceeds_margin_cap :
    OnLosingSide shortCandidate ∧ ∃ order, sampleSent shortCandidate = [order] ∧
      SleeveBExecutionAllocatorConfig.allocate {} shortCandidate sampleAnswers.account []
        (marketFilters "BTCUSDT") = .ok (sampleDecision shortCandidate) ∧
      ¬WithinCaps {} shortCandidate sampleAnswers.account [] order := by
  have hside : (1000 : ℚ) < 1010 := by norm_num
  have hshape : (sampleSent shortCandidate).map (fun order => (order.intent.quantity, order.intent.price)) =
    [(9 / 5, some (2001 / 2))] := by decide +kernel
  obtain ⟨order, hsent, hvalues⟩ := List.map_eq_singleton_iff.mp hshape
  refine ⟨hside, order, hsent, by decide +kernel, ?_⟩
  intro h
  obtain ⟨price, hprice, hmargin, _⟩ := h
  obtain ⟨hquantity, hsome⟩ := Prod.mk.inj hvalues
  cases hsome.symm.trans hprice
  rw [hquantity] at hmargin
  exact absurd hmargin (by decide +kernel)

end Caps

end DualSleeve

import DualSleeve.Exchange.Filters.Context
import DualSleeve.Execution.SleeveBTestnetLoop.Taken

namespace DualSleeve

open Library Library.Grid Library.Significant

namespace SleeveBAutoLoopConfig

section LimitOrder

variable [DecimalContext] (config : SleeveBAutoLoopConfig)

-- The price of the order that is sent: the entry price less or plus the offset, floored
-- to a tick.
def limitPrice (candidate : SleeveBSignalCandidate) (filters : SymbolFilters) : ℚ :=
  floored (entryLimitPrice candidate config.limitPriceOffsetBps) filters.tickSize

variable {config} {allocator : SleeveBExecutionAllocatorConfig} {candidate : SleeveBSignalCandidate}
  {account : AccountSnapshotV3} {positions : List ExchangePositionSnapshot} {filters : SymbolFilters}

theorem entryLimitPrice_nonneg (hentry : 0 < candidate.entryPrice)
    (hoffset : 0 ≤ config.limitPriceOffsetBps) (hbelow : config.limitPriceOffsetBps < 10000) :
    0 ≤ entryLimitPrice candidate config.limitPriceOffsetBps := by
  have hshare : rounded (config.limitPriceOffsetBps / 10000) ≤ 1 := by
    rw [← rounded_one]
    apply rounded_mono
    rw [div_le_one (by norm_num)]
    exact hbelow.le
  have hpos : 0 ≤ rounded (config.limitPriceOffsetBps / 10000) :=
    rounded_nonneg (div_nonneg hoffset (by norm_num))
  unfold entryLimitPrice
  cases candidate.side with
  | long => exact rounded_nonneg (mul_nonneg hentry.le (rounded_nonneg (sub_nonneg.mpr hshare)))
  | short => exact rounded_nonneg (mul_nonneg hentry.le (rounded_nonneg (add_nonneg zero_le_one hpos)))

-- Where the entry price has no more digits than are kept, the offset of a LONG order is
-- below it and that of a SHORT order above.

theorem entryLimitPrice_le (hdigits : rounded candidate.entryPrice = candidate.entryPrice)
    (hentry : 0 < candidate.entryPrice) (hside : candidate.side = .long)
    (hoffset : 0 ≤ config.limitPriceOffsetBps) :
    entryLimitPrice candidate config.limitPriceOffsetBps ≤ candidate.entryPrice := by
  have hpos : 0 ≤ rounded (config.limitPriceOffsetBps / 10000) :=
    rounded_nonneg (div_nonneg hoffset (by norm_num))
  have hrest : rounded (1 - rounded (config.limitPriceOffsetBps / 10000)) ≤ 1 := by
    rw [← rounded_one]
    exact rounded_mono (by rw [rounded_one]; linarith)
  unfold entryLimitPrice
  rw [hside]
  calc rounded (candidate.entryPrice * rounded (1 - rounded (config.limitPriceOffsetBps / 10000)))
      ≤ rounded candidate.entryPrice := rounded_mono (mul_le_of_le_one_right hentry.le hrest)
    _ = candidate.entryPrice := hdigits

theorem le_entryLimitPrice (hdigits : rounded candidate.entryPrice = candidate.entryPrice)
    (hentry : 0 < candidate.entryPrice) (hside : candidate.side = .short)
    (hoffset : 0 ≤ config.limitPriceOffsetBps) :
    candidate.entryPrice ≤ entryLimitPrice candidate config.limitPriceOffsetBps := by
  have hpos : 0 ≤ rounded (config.limitPriceOffsetBps / 10000) :=
    rounded_nonneg (div_nonneg hoffset (by norm_num))
  have hrise : 1 ≤ rounded (1 + rounded (config.limitPriceOffsetBps / 10000)) := by
    rw [← rounded_one]
    exact rounded_mono (by rw [rounded_one]; linarith)
  unfold entryLimitPrice
  rw [hside]
  calc candidate.entryPrice = rounded candidate.entryPrice := hdigits.symm
    _ ≤ rounded (candidate.entryPrice * rounded (1 + rounded (config.limitPriceOffsetBps / 10000))) :=
      rounded_mono (le_mul_of_one_le_right hentry.le hrise)

-- What the router makes of the intent of an accepted candidate: it floors the quantity
-- once more, and the limit price.
theorem normalize_allocation_iff (hw : allocator.WellFormed candidate filters) {normalized : OrderIntent} :
    normalizeOrderIntent (config.allocationToIntent candidate
        (allocator.allocation candidate account positions filters)) filters = .ok normalized ↔
      normalized = { config.allocationToIntent candidate
          (allocator.allocation candidate account positions filters) with
        quantity := floored (allocator.sizedQuantity candidate account positions filters) filters.stepSize
        price := some (config.limitPrice candidate filters) } ∧
      0 < floored (allocator.sizedQuantity candidate account positions filters) filters.stepSize ∧
      filters.minNotional ≤
        rounded (floored (allocator.sizedQuantity candidate account positions filters) filters.stepSize *
          config.limitPrice candidate filters) := by
  rw [normalizeOrderIntent_eq_ok hw.tick hw.step]
  change normalized = { config.allocationToIntent candidate
      (allocator.allocation candidate account positions filters) with
    quantity := floored (allocator.sizedQuantity candidate account positions filters) filters.stepSize
    price := some (config.limitPrice candidate filters) } ∧ _ ↔ _
  constructor
  · intro h
    obtain ⟨rfl, hpos, hnotional⟩ := h
    exact ⟨rfl, hpos, hnotional _ rfl⟩
  · intro h
    obtain ⟨rfl, hpos, hnotional⟩ := h
    refine ⟨rfl, hpos, ?_⟩
    intro price hp
    rw [← Option.some.inj hp]
    exact hnotional

-- There are a quantity that the sizes reach in whole steps, one that this reaches again,
-- and a price that the limit reaches in whole ticks, with the minimum notional between them.
def Routable (config : SleeveBAutoLoopConfig) (allocator : SleeveBExecutionAllocatorConfig)
    (candidate : SleeveBSignalCandidate) (account : AccountSnapshotV3)
    (positions : List ExchangePositionSnapshot) (filters : SymbolFilters) : Prop :=
  ∃ quantity sent price, Reaches (allocator.rawQuantity candidate account positions) filters.stepSize quantity ∧
    Reaches quantity filters.stepSize sent ∧
    Reaches (entryLimitPrice candidate config.limitPriceOffsetBps) filters.tickSize price ∧
    0 < sent ∧ filters.minNotional ≤ rounded (sent * price)

theorem normalizes_iff_routable (hw : allocator.WellFormed candidate filters)
    (ha : allocator.Accepts candidate account positions filters)
    (hoffset : 0 ≤ config.limitPriceOffsetBps) (hbelow : config.limitPriceOffsetBps < 10000) :
    (∃ normalized, normalizeOrderIntent (config.allocationToIntent candidate
        (allocator.allocation candidate account positions filters)) filters = .ok normalized) ↔
      config.Routable allocator candidate account positions filters := by
  have hlimit := entryLimitPrice_nonneg hw.entry hoffset hbelow
  have hraw := (pos_of_floored_pos hw.step ha.quantity).le
  constructor
  · intro h
    obtain ⟨_, hn⟩ := h
    obtain ⟨-, hpos, hnotional⟩ := (normalize_allocation_iff hw).mp hn
    exact ⟨_, _, _, reaches_floored hw.step hraw, reaches_floored hw.step ha.quantity.le,
      reaches_floored hw.tick hlimit, hpos, hnotional⟩
  · intro h
    obtain ⟨quantity, sent, price, hquantity, hsent, hprice, hpos, hnotional⟩ := h
    have hsent' : sent ≤
        floored (allocator.sizedQuantity candidate account positions filters) filters.stepSize :=
      (le_floored_of_reaches hw.step hsent).trans
        (floored_mono hw.step (le_floored_of_reaches hw.step hquantity))
    have hprice' := le_floored_of_reaches hw.tick hprice
    have hproduct : sent * price ≤
        floored (allocator.sizedQuantity candidate account positions filters) filters.stepSize *
          config.limitPrice candidate filters :=
      mul_le_mul_of_nonneg hsent' hprice' hpos.le (floored_nonneg hw.tick hlimit)
    exact ⟨_, (normalize_allocation_iff hw).mpr
      ⟨rfl, hpos.trans_le hsent', hnotional.trans (rounded_mono hproduct)⟩⟩

-- A SHORT order is priced above the entry price, so that a quantity that is floored to
-- itself keeps its notional.
theorem routable_of_short (hw : allocator.WellFormed candidate filters)
    (ha : allocator.Accepts candidate account positions filters) (hside : candidate.side = .short)
    (hdigits : rounded candidate.entryPrice = candidate.entryPrice)
    (hoffset : 0 ≤ config.limitPriceOffsetBps)
    (hfixed : floored (allocator.sizedQuantity candidate account positions filters) filters.stepSize =
      allocator.sizedQuantity candidate account positions filters) :
    config.Routable allocator candidate account positions filters := by
  have hlimit := le_entryLimitPrice hdigits hw.entry hside hoffset
  have hagain := reaches_floored hw.step ha.quantity.le
  rw [hfixed] at hagain
  refine ⟨_, _, _, reaches_floored hw.step (pos_of_floored_pos hw.step ha.quantity).le, hagain,
    reaches_floored hw.tick (hw.entry.le.trans hlimit), ha.quantity, ha.notional.trans ?_⟩
  exact rounded_mono (mul_le_mul_of_nonneg_left (floored_mono hw.tick hlimit) ha.quantity.le)

end LimitOrder

section DefaultContext

open scoped DefaultContext

variable {config : SleeveBAutoLoopConfig} {allocator : SleeveBExecutionAllocatorConfig}
  {candidate : SleeveBSignalCandidate} {account : AccountSnapshotV3}
  {positions : List ExchangePositionSnapshot} {filters : SymbolFilters}

-- Such are the quantities where the step is a power of ten.
theorem routable_of_short_power (hw : allocator.WellFormed candidate filters)
    (ha : allocator.Accepts candidate account positions filters) (hside : candidate.side = .short)
    (hdigits : defaultContext.Representable candidate.entryPrice)
    (hoffset : 0 ≤ config.limitPriceOffsetBps) {place : ℤ} (hstep : filters.stepSize = 10 ^ place) :
    config.Routable allocator candidate account positions filters := by
  have hraw := pos_of_floored_pos hw.step ha.quantity
  have hrepresentable : defaultContext.Representable (allocator.rawQuantity candidate account positions) := by
    unfold SleeveBExecutionAllocatorConfig.rawQuantity at hraw ⊢
    rcases min_choice (rounded (allocator.riskBudget account / candidate.stopDistance)) (rounded
      (rounded (allocator.allowedMargin account positions * allocator.maxLeverage) / candidate.entryPrice))
      with h | h
    all_goals
      rw [h] at hraw ⊢
      exact representable_rounded hraw
  refine routable_of_short hw ha hside (Format.round_eq_self hdigits hw.entry.le) hoffset ?_
  rw [SleeveBExecutionAllocatorConfig.sizedQuantity, hstep]
  exact floored_power_floored hraw.le hrepresentable place

end DefaultContext

end SleeveBAutoLoopConfig

end DualSleeve

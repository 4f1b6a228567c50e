import DualSleeve.Execution.SleeveBAllocator.Maximality
import Mathlib.Algebra.Order.BigOperators.Group.List

namespace DualSleeve

open Library Library.Grid
open scoped ExactDecimals

theorem positionNotional_nonneg (position : ExchangePositionSnapshot) : 0 ≤ positionNotional position := by
  unfold positionNotional
  cases position.markPrice with
  | none => exact abs_nonneg _
  | some markPrice =>
    dsimp only
    split
    · exact abs_nonneg _
    · exact abs_nonneg _

-- Positions that are gone are open no longer.
theorem hasOpenPosition_of_sublist {positions fewer : List ExchangePositionSnapshot}
    (hsub : fewer.Sublist positions) {symbol : String} (h : hasOpenPosition symbol positions = false) :
    hasOpenPosition symbol fewer = false := by
  unfold hasOpenPosition at h ⊢
  rw [List.any_eq_false] at h ⊢
  exact fun position hp => h position (hsub.subset hp)

namespace SleeveBExecutionAllocatorConfig

-- No fraction of the balance is negative.
structure NonnegFractions (config : SleeveBExecutionAllocatorConfig) : Prop where
  usableBalance : 0 ≤ config.usableBalanceFraction
  portfolio : 0 ≤ config.maxPortfolioMarginFraction
  perPosition : 0 ≤ config.maxPerPositionMarginFraction
  risk : 0 ≤ config.defaultRiskFractionPerTrade

variable {config : SleeveBExecutionAllocatorConfig} {candidate : SleeveBSignalCandidate}
  {account richer : AccountSnapshotV3} {positions fewer : List ExchangePositionSnapshot}
  {filters : SymbolFilters}

section Balance

variable (hfractions : NonnegFractions config)
  (hbalance : account.availableBalance ≤ richer.availableBalance)

include hfractions hbalance

theorem usableBalance_mono : config.usableBalance account ≤ config.usableBalance richer :=
  mul_le_mul_of_nonneg_right hbalance hfractions.usableBalance

theorem portfolioMarginCap_mono : config.portfolioMarginCap account ≤ config.portfolioMarginCap richer :=
  mul_le_mul_of_nonneg_right (usableBalance_mono hfractions hbalance) hfractions.portfolio

theorem perPositionMarginCap_mono :
    config.perPositionMarginCap account ≤ config.perPositionMarginCap richer :=
  mul_le_mul_of_nonneg_right (usableBalance_mono hfractions hbalance) hfractions.perPosition

theorem riskBudget_mono : config.riskBudget account ≤ config.riskBudget richer :=
  mul_le_mul_of_nonneg_right (usableBalance_mono hfractions hbalance) hfractions.risk

end Balance

-- Every open position takes margin, so fewer of them take less.
theorem usedMargin_mono (hleverage : 0 < config.maxLeverage) (hsub : fewer.Sublist positions) :
    config.usedMargin fewer ≤ config.usedMargin positions := by
  have hopen := (hsub.filter (!·.isFlat)).map fun position =>
    positionNotional position / config.maxLeverage
  rw [usedMargin_eq, usedMargin_eq]
  apply hopen.sum_le_sum
  intro margin hmargin
  obtain ⟨position, _, rfl⟩ := List.mem_map.mp hmargin
  exact div_nonneg (positionNotional_nonneg position) hleverage.le

section Resources

variable (hfractions : NonnegFractions config) (hleverage : 0 < config.maxLeverage)
  (hbalance : account.availableBalance ≤ richer.availableBalance) (hsub : fewer.Sublist positions)

include hfractions hleverage hbalance hsub

theorem remainingMargin_mono :
    config.remainingMargin account positions ≤ config.remainingMargin richer fewer :=
  sub_le_sub (portfolioMarginCap_mono hfractions hbalance) (usedMargin_mono hleverage hsub)

theorem allowedMargin_mono :
    config.allowedMargin account positions ≤ config.allowedMargin richer fewer :=
  min_le_min (perPositionMarginCap_mono hfractions hbalance)
    (remainingMargin_mono hfractions hleverage hbalance hsub)

theorem rawQuantity_mono (hstop : 0 < candidate.stopDistance) (hentry : 0 < candidate.entryPrice) :
    config.rawQuantity candidate account positions ≤ config.rawQuantity candidate richer fewer := by
  have hallowed := allowedMargin_mono hfractions hleverage hbalance hsub
  apply min_le_min
  · exact div_le_div_of_nonneg_right (riskBudget_mono hfractions hbalance) hstop.le
  · exact div_le_div_of_nonneg_right (mul_le_mul_of_nonneg_right hallowed hleverage.le) hentry.le

theorem sizedQuantity_mono (hw : WellFormed config candidate filters) (hstop : 0 < candidate.stopDistance) :
    config.sizedQuantity candidate account positions filters ≤
      config.sizedQuantity candidate richer fewer filters :=
  truncateTo_mono hw.step (rawQuantity_mono hfractions hleverage hbalance hsub hstop hw.entry)

-- Each gate that was passed is passed with more resources. The last one holds by the
-- sizing, whatever the resources.
theorem accepts_mono (hw : WellFormed config candidate filters)
    (ha : config.Accepts candidate account positions filters) :
    config.Accepts candidate richer fewer filters := by
  have hquantity := sizedQuantity_mono hfractions hleverage hbalance hsub hw ha.stop
  have hprice : 0 ≤ truncateTo candidate.entryPrice filters.tickSize := truncateTo_nonneg hw.tick hw.entry.le
  have hopen : (fewer.filter (!·.isFlat)).length ≤ (positions.filter (!·.isFlat)).length :=
    (hsub.filter _).length_le
  have hpos := ha.quantity.trans_le hquantity
  refine ⟨ha.symbol, ha.balance.trans hbalance, ha.stop, hasOpenPosition_of_sublist hsub ha.noPosition,
    ?_, ?_, hpos, ?_, quantizedMargin_le_allowedMargin hw hleverage hpos⟩
  · have hslot := ha.slot
    omega
  · exact ha.remaining.trans_le (remainingMargin_mono hfractions hleverage hbalance hsub)
  · exact ha.notional.trans (mul_le_mul_of_nonneg_right hquantity hprice)

end Resources

-- What is accepted on an account is accepted, at least as large, on an account with more
-- balance and beside fewer positions.
theorem allocate_monotone (config : SleeveBExecutionAllocatorConfig) (candidate : SleeveBSignalCandidate)
    (filters : SymbolFilters) (account richer : AccountSnapshotV3)
    (positions fewer : List ExchangePositionSnapshot) (hentry : 0 < candidate.entryPrice)
    (htick : 0 < filters.tickSize) (hstep : 0 < filters.stepSize) (hleverage : 0 < config.maxLeverage)
    (hfractions : NonnegFractions config) (hbalance : account.availableBalance ≤ richer.availableBalance)
    (hsub : fewer.Sublist positions) {decision : SleeveBAllocationDecision}
    (hdecision : config.allocate candidate account positions filters = .ok decision)
    (haccepted : decision.accepted = true) :
    ∃ larger, config.allocate candidate richer fewer filters = .ok larger ∧ larger.accepted = true ∧
      decision.quantity ≤ larger.quantity := by
  obtain ⟨hw, ha, rfl⟩ := accepts_of_allocate hentry htick hstep hdecision haccepted
  have hmore := accepts_mono hfractions hleverage hbalance hsub hw ha
  exact ⟨_, allocate_of_accepts hw hmore, rfl, sizedQuantity_mono hfractions hleverage hbalance hsub hw ha.stop⟩

-- Ten thousand and then twenty thousand available, and a position that is closed meanwhile.
theorem allocate_monotone_sample :
    ∃ larger, SleeveBExecutionAllocatorConfig.allocate {}
        ⟨"BTCUSDT", .long, 100000, 95000, "auto-btcusdt-long_breakout"⟩ ⟨20000, 0, 20000, 20000⟩ []
        ⟨"BTCUSDT", 1 / 10, 1 / 1000, 100⟩ = .ok larger ∧ larger.accepted = true ∧
      1 / 100 ≤ larger.quantity := by
  have hfractions : NonnegFractions {} := ⟨by norm_num, by norm_num, by norm_num, by norm_num⟩
  have haccepts : Accepts {} ⟨"BTCUSDT", .long, 100000, 95000, "auto-btcusdt-long_breakout"⟩
      ⟨10000, 0, 10000, 10000⟩ [{ symbol := "ETHUSDT", positionSide := "BOTH", positionAmt := 1, notional := 3000 }]
      ⟨"BTCUSDT", 1 / 10, 1 / 1000, 100⟩ := by
    decide +kernel
  have hw : WellFormed {} ⟨"BTCUSDT", .long, 100000, 95000, "auto-btcusdt-long_breakout"⟩
      ⟨"BTCUSDT", 1 / 10, 1 / 1000, 100⟩ := ⟨by norm_num, by norm_num, by norm_num, by norm_num⟩
  obtain ⟨larger, hlarger, haccepted, hquantity⟩ := allocate_monotone {} _ _ _ ⟨20000, 0, 20000, 20000⟩ _ []
    (by norm_num) (by norm_num) (by norm_num) (by norm_num) hfractions (by norm_num) (List.nil_sublist _)
    (allocate_of_accepts hw haccepts) rfl
  have hsized : sizedQuantity {} ⟨"BTCUSDT", .long, 100000, 95000, "auto-btcusdt-long_breakout"⟩
      ⟨10000, 0, 10000, 10000⟩ [{ symbol := "ETHUSDT", positionSide := "BOTH", positionAmt := 1, notional := 3000 }]
      ⟨"BTCUSDT", 1 / 10, 1 / 1000, 100⟩ = 1 / 100 := by
    decide +kernel
  exact ⟨larger, hlarger, haccepted, hsized.symm.le.trans hquantity⟩

end SleeveBExecutionAllocatorConfig

end DualSleeve

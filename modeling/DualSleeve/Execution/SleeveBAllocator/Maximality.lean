import DualSleeve.Execution.SleeveBAllocator.Theorems

namespace DualSleeve.SleeveBExecutionAllocatorConfig

open Library Library.Grid
open scoped ExactDecimals

variable {config : SleeveBExecutionAllocatorConfig} {candidate : SleeveBSignalCandidate}
  {account : AccountSnapshotV3} {positions : List ExchangePositionSnapshot} {filters : SymbolFilters}

-- The margin an order may take: the cap on a position, and what the open positions leave
-- of the cap on the portfolio.
def marginCap (config : SleeveBExecutionAllocatorConfig) (account : AccountSnapshotV3)
    (positions : List ExchangePositionSnapshot) : ℚ :=
  let usable := account.availableBalance * config.usableBalanceFraction
  min (usable * config.maxPerPositionMarginFraction)
    (usable * config.maxPortfolioMarginFraction - config.usedMargin positions)

-- The risk an order may take.
def riskCap (config : SleeveBExecutionAllocatorConfig) (account : AccountSnapshotV3) : ℚ :=
  account.availableBalance * config.usableBalanceFraction * config.defaultRiskFractionPerTrade

-- A quantity within every limit, where one step more breaks the risk or the margin.
structure SoundAndMaximal (config : SleeveBExecutionAllocatorConfig) (candidate : SleeveBSignalCandidate)
    (account : AccountSnapshotV3) (positions : List ExchangePositionSnapshot) (filters : SymbolFilters)
    (quantity : ℚ) : Prop where
  multiple : ∃ n : ℤ, 0 < n ∧ quantity = n * filters.stepSize
  margin : quantity * candidate.entryPrice / config.maxLeverage ≤ config.marginCap account positions
  notional : filters.minNotional ≤ quantity * candidate.entryPrice
  risk : quantity * candidate.stopDistance ≤ config.riskCap account
  symbol : candidate.symbol ∈ config.symbols
  noPosition : ∀ position ∈ positions, position.symbol = candidate.symbol → position.isFlat = true
  slot : ((positions.filter (!·.isFlat)).length : ℤ) < config.maxConcurrentPositions
  maximal : config.riskCap account < (quantity + filters.stepSize) * candidate.stopDistance ∨
    config.marginCap account positions <
      (quantity + filters.stepSize) * candidate.entryPrice / config.maxLeverage

theorem flat_of_hasOpenPosition {symbol : String} (h : hasOpenPosition symbol positions = false) :
    ∀ position ∈ positions, position.symbol = symbol → position.isFlat = true := by
  intro position hp hsymbol
  have hnone := List.any_eq_false.mp h position hp
  simpa [hsymbol] using hnone

-- Rounding to cents takes nothing past the cap, so the last gate holds by the sizing.
theorem quantizedMargin_le_allowedMargin (hw : WellFormed config candidate filters)
    (hleverage : 0 < config.maxLeverage)
    (hq : 0 < config.sizedQuantity candidate account positions filters) :
    quantizeUsdt (config.sizedMargin candidate account positions filters) ≤
      config.allowedMargin account positions := by
  have hprice : 0 ≤ truncateTo candidate.entryPrice filters.tickSize := truncateTo_nonneg hw.tick hw.entry.le
  have hmargin : 0 ≤ config.sizedMargin candidate account positions filters :=
    div_nonneg (mul_nonneg hq.le hprice) hleverage.le
  have hcents : (0 : ℚ) < 1 / 100 := by norm_num
  exact (truncateTo_le hcents hmargin).trans (sizedMargin_le_allowedMargin hw hq hleverage)

-- One step more is above the smaller of the two sizes.
theorem next_quantity_breaks (hw : WellFormed config candidate filters) (hleverage : 0 < config.maxLeverage)
    (ha : config.Accepts candidate account positions filters) :
    config.riskBudget account <
        (config.sizedQuantity candidate account positions filters + filters.stepSize) *
          candidate.stopDistance ∨
      config.allowedMargin account positions <
        (config.sizedQuantity candidate account positions filters + filters.stepSize) *
          candidate.entryPrice / config.maxLeverage := by
  have hraw : 0 ≤ config.rawQuantity candidate account positions :=
    (pos_of_truncateTo_pos hw.step ha.quantity).le
  have hnext : config.rawQuantity candidate account positions <
      config.sizedQuantity candidate account positions filters + filters.stepSize :=
    lt_truncateTo_add hw.step hraw
  cases min_lt_iff.mp hnext with
  | inl hrisk => exact .inl ((div_lt_iff₀ ha.stop).mp hrisk)
  | inr hnotional => exact .inr ((lt_div_iff₀ hleverage).mpr ((div_lt_iff₀ hw.entry).mp hnotional))

theorem soundAndMaximal_of_accepts (hw : WellFormed config candidate filters)
    (hleverage : 0 < config.maxLeverage) (ha : config.Accepts candidate account positions filters) :
    SoundAndMaximal config candidate account positions filters
      (config.sizedQuantity candidate account positions filters) where
  multiple := by
    obtain ⟨n, hn⟩ := onGrid_truncateTo (config.rawQuantity candidate account positions) filters.stepSize
    refine ⟨n, ?_, hn⟩
    have hpos := ha.quantity
    rw [sizedQuantity, ExactDecimals.floored_eq, hn] at hpos
    exact_mod_cast pos_of_mul_pos_left hpos hw.step.le
  margin := (div_le_iff₀ hleverage).mpr (sizedQuantity_mul_entryPrice_le hw ha.quantity)
  notional := by
    have hprice : truncateTo candidate.entryPrice filters.tickSize ≤ candidate.entryPrice :=
      truncateTo_le hw.tick hw.entry.le
    exact ha.notional.trans (mul_le_mul_of_nonneg_left hprice ha.quantity.le)
  risk := sizedQuantity_mul_stopDistance_le hw ha
  symbol := ha.symbol
  noPosition := flat_of_hasOpenPosition ha.noPosition
  slot := ha.slot
  maximal := next_quantity_breaks hw hleverage ha

-- On positive prices, grids and leverage `allocate` returns; what it accepts is sound and
-- maximal, and it never rejects for the margin of the quantity it sized.
theorem allocate_sound_and_maximal (config : SleeveBExecutionAllocatorConfig)
    (candidate : SleeveBSignalCandidate) (account : AccountSnapshotV3)
    (positions : List ExchangePositionSnapshot) (filters : SymbolFilters)
    (hentry : 0 < candidate.entryPrice) (htick : 0 < filters.tickSize) (hstep : 0 < filters.stepSize)
    (hleverage : 0 < config.maxLeverage) :
    ∃ decision, config.allocate candidate account positions filters = .ok decision ∧
      (decision.accepted = true →
        SoundAndMaximal config candidate account positions filters decision.quantity) ∧
      decision.reason ≠ .marginExceedsAllowedCap := by
  have hw : WellFormed config candidate filters := ⟨hleverage.ne', hentry, htick, hstep⟩
  cases allocate_decides hw rfl with
  | inl hrejected =>
    obtain ⟨_, reason, hreason, hlast⟩ := hrejected
    refine ⟨config.reject candidate reason, hreason, ?_, ?_⟩
    · intro haccepted
      cases haccepted
    · intro hcap
      obtain ⟨hq, hmargin⟩ := hlast hcap
      exact absurd (quantizedMargin_le_allowedMargin hw hleverage hq) (not_le.mpr hmargin)
  | inr haccepted =>
    obtain ⟨ha, hresult⟩ := haccepted
    exact ⟨_, hresult, fun _ => soundAndMaximal_of_accepts hw hleverage ha, by simp [allocation]⟩

-- Ten thousand available: a LONG at 100000 stopped at 95000 is sized by its risk.
theorem allocate_sound_and_maximal_sample :
    ∃ decision, SleeveBExecutionAllocatorConfig.allocate {}
        ⟨"BTCUSDT", .long, 100000, 95000, "auto-btcusdt-long_breakout"⟩ ⟨10000, 0, 10000, 10000⟩ []
        ⟨"BTCUSDT", 1 / 10, 1 / 1000, 100⟩ = .ok decision ∧ decision.accepted = true ∧
      SoundAndMaximal {} ⟨"BTCUSDT", .long, 100000, 95000, "auto-btcusdt-long_breakout"⟩
        ⟨10000, 0, 10000, 10000⟩ [] ⟨"BTCUSDT", 1 / 10, 1 / 1000, 100⟩ decision.quantity := by
  obtain ⟨decision, hdecision, hsound, _⟩ := allocate_sound_and_maximal {}
    ⟨"BTCUSDT", .long, 100000, 95000, "auto-btcusdt-long_breakout"⟩ ⟨10000, 0, 10000, 10000⟩ []
    ⟨"BTCUSDT", 1 / 10, 1 / 1000, 100⟩ (by norm_num) (by norm_num) (by norm_num) (by norm_num)
  have haccepted : decision.accepted = true := by
    have hreturned : (SleeveBExecutionAllocatorConfig.allocate {}
        ⟨"BTCUSDT", .long, 100000, 95000, "auto-btcusdt-long_breakout"⟩ ⟨10000, 0, 10000, 10000⟩ []
        ⟨"BTCUSDT", 1 / 10, 1 / 1000, 100⟩).map (·.accepted) = .ok true := by
      decide +kernel
    rw [hdecision] at hreturned
    exact Except.ok.inj hreturned
  exact ⟨decision, hdecision, haccepted, hsound haccepted⟩

end DualSleeve.SleeveBExecutionAllocatorConfig

import DualSleeve.Execution.SleeveBAllocator

namespace DualSleeve

open Library Library.Grid

theorem not_filterError_of_divide {x y : ℚ} {exc : PyError} (h : divide x y = .error exc) :
    ¬exc.IsExchangeFilterError := by
  unfold divide at h
  split_ifs at h
  · cases h
    exact not_false
  · cases h
    exact not_false

section Allocate

variable [DecimalContext] {config : SleeveBExecutionAllocatorConfig} {candidate : SleeveBSignalCandidate}
  {account : AccountSnapshotV3} {positions : List ExchangePositionSnapshot} {filters : SymbolFilters}

-- The accumulator of the loop is the sum of the margins so far.
theorem foldlM_divide (leverage total : ℚ) (h : leverage ≠ 0) :
    positions.foldlM (fun total position => do
        let margin ← divide (positionNotional position) leverage
        return rounded (total + rounded margin)) total =
      (.ok ((positions.map fun position => rounded (positionNotional position / leverage)).foldl
        (fun total margin => rounded (total + margin)) total) : Except PyError ℚ) := by
  induction positions generalizing total with
  | nil => rfl
  | cons position positions ih =>
    rw [List.foldlM_cons, divide_of_ne_zero _ h, Raise.ok_bind, List.map_cons, List.foldl_cons]
    exact ih _

theorem sumInitialMargin_eq {leverage : ℚ} (h : leverage ≠ 0) :
    sumInitialMargin positions leverage =
      .ok (sumOf (positions.map fun position => rounded (positionNotional position / leverage))) :=
  foldlM_divide _ _ h

theorem not_filterError_of_sumInitialMargin {leverage : ℚ} {exc : PyError}
    (h : sumInitialMargin positions leverage = .error exc) : ¬exc.IsExchangeFilterError := by
  unfold sumInitialMargin at h
  generalize (0 : ℚ) = total at h
  induction positions generalizing total with
  | nil => cases h
  | cons position positions ih =>
    rw [List.foldlM_cons] at h
    cases Raise.bind_eq_error.mp h with
    | inl hfirst =>
      cases Raise.bind_eq_error.mp hfirst with
      | inl hdivide => exact not_filterError_of_divide hdivide
      | inr hreturn =>
        obtain ⟨_, _, hr⟩ := hreturn
        cases hr
    | inr hrest =>
      obtain ⟨next, _, hr⟩ := hrest
      exact ih _ hr

namespace SleeveBExecutionAllocatorConfig

-- Everything `allocate` can come to, whatever its inputs are. An accepted quantity was
-- rounded down from at most what the allowed margin buys.
inductive Allocated (config : SleeveBExecutionAllocatorConfig) (candidate : SleeveBSignalCandidate)
    (positions : List ExchangePositionSnapshot) (filters : SymbolFilters) :
    Except PyError SleeveBAllocationDecision → Prop
  | rejected (reason : Reason) :
      Allocated config candidate positions filters (.ok (config.reject candidate reason))
  | divisionRaised (exc : PyError) (hexc : ¬exc.IsExchangeFilterError) :
      Allocated config candidate positions filters (.error exc)
  | roundingRaised (exc : PyError) (hgrid : filters.stepSize ≤ 0 ∨ filters.tickSize ≤ 0) :
      Allocated config candidate positions filters (.error exc)
  | accepted (decision : SleeveBAllocationDecision)
      (hposition : hasOpenPosition candidate.symbol positions = false)
      (allowedMargin riskSizedQuantity notionalSizedQuantity quantity : ℚ)
      (hnotional : divide (rounded (allowedMargin * config.maxLeverage)) candidate.entryPrice =
        .ok notionalSizedQuantity)
      (hquantity : floorToStep (min (rounded riskSizedQuantity) (rounded notionalSizedQuantity))
        filters.stepSize = .ok quantity)
      (hpos : 0 < quantity) (hgiven : decision.quantity = quantity) :
      Allocated config candidate positions filters (.ok decision)

theorem nonpos_of_floorToStep_error {value step : ℚ} {exc : PyError}
    (h : floorToStep value step = .error exc) : step ≤ 0 := by
  by_contra hpos
  rw [floorToStep_of_pos _ (not_le.mp hpos)] at h
  cases h

theorem allocate_allocated {result : Except PyError SleeveBAllocationDecision}
    (h : config.allocate candidate account positions filters = result) :
    Allocated config candidate positions filters result := by
  subst h
  unfold allocate
  dsimp only
  by_cases hsymbol : candidate.symbol ∉ config.symbols
  · rw [if_pos hsymbol]
    exact .rejected _
  by_cases hbalance : account.availableBalance < config.minAvailableBalance
  · rw [if_neg hsymbol, if_pos hbalance]
    exact .rejected _
  by_cases hstop : candidate.stopDistance ≤ 0
  · rw [if_neg hsymbol, if_neg hbalance, if_pos hstop]
    exact .rejected _
  by_cases hposition : hasOpenPosition candidate.symbol positions = true
  · rw [if_neg hsymbol, if_neg hbalance, if_neg hstop, if_pos hposition]
    exact .rejected _
  by_cases hslot : config.maxConcurrentPositions ≤ (positions.filter (!·.isFlat)).length
  · rw [if_neg hsymbol, if_neg hbalance, if_neg hstop, if_neg hposition, if_pos hslot]
    exact .rejected _
  rw [if_neg hsymbol, if_neg hbalance, if_neg hstop, if_neg hposition, if_neg hslot]
  cases husedMargin : sumInitialMargin (positions.filter (!·.isFlat)) config.maxLeverage with
  | error exc => exact .divisionRaised exc (not_filterError_of_sumInitialMargin husedMargin)
  | ok usedMargin =>
    rw [Raise.ok_bind]
    by_cases hremaining : rounded (config.portfolioMarginCap account - usedMargin) ≤ 0
    · rw [if_pos hremaining]
      exact .rejected _
    rw [if_neg hremaining]
    cases hrisk : divide (config.riskBudget account) candidate.stopDistance with
    | error exc => exact .divisionRaised exc (not_filterError_of_divide hrisk)
    | ok riskSizedQuantity =>
      rw [Raise.ok_bind]
      cases hnotional : divide (rounded (min (config.perPositionMarginCap account)
          (rounded (config.portfolioMarginCap account - usedMargin)) * config.maxLeverage))
          candidate.entryPrice with
      | error exc => exact .divisionRaised exc (not_filterError_of_divide hnotional)
      | ok notionalSizedQuantity =>
        rw [Raise.ok_bind]
        cases hquantity : floorToStep (min (rounded riskSizedQuantity) (rounded notionalSizedQuantity))
            filters.stepSize with
        | error exc => exact .roundingRaised exc (Or.inl (nonpos_of_floorToStep_error hquantity))
        | ok quantity =>
          rw [Raise.ok_bind]
          cases hprice : roundPriceToTick candidate.entryPrice filters.tickSize with
          | error exc => exact .roundingRaised exc (Or.inr (nonpos_of_floorToStep_error hprice))
          | ok entryPrice =>
            rw [Raise.ok_bind]
            by_cases hpos : quantity ≤ 0
            · rw [if_pos hpos]
              exact .rejected _
            by_cases hmin : rounded (quantity * entryPrice) < filters.minNotional
            · rw [if_neg hpos, if_pos hmin]
              exact .rejected _
            rw [if_neg hpos, if_neg hmin]
            cases hmargin : divide (rounded (quantity * entryPrice)) config.maxLeverage with
            | error exc => exact .divisionRaised exc (not_filterError_of_divide hmargin)
            | ok margin =>
              rw [Raise.ok_bind]
              split
              · exact .rejected _
              · exact .accepted _ (Bool.not_eq_true _ ▸ hposition) _ _ _ _ hnotional hquantity
                  (not_le.mp hpos) rfl

-- Whatever the inputs, nothing is accepted for a symbol that has a position.
theorem hasOpenPosition_of_allocate {decision : SleeveBAllocationDecision}
    (h : config.allocate candidate account positions filters = .ok decision)
    (haccepted : decision.accepted = true) : hasOpenPosition candidate.symbol positions = false := by
  cases allocate_allocated h with
  | rejected reason => cases haccepted
  | accepted _ hposition => exact hposition

-- Without leverage the notional allows no quantity, if the margins can be summed at all.
theorem maxLeverage_ne_zero_of_allocate (hentry : candidate.entryPrice ≠ 0) (hstep : 0 < filters.stepSize)
    {decision : SleeveBAllocationDecision}
    (h : config.allocate candidate account positions filters = .ok decision)
    (haccepted : decision.accepted = true) : config.maxLeverage ≠ 0 := by
  intro hzero
  cases allocate_allocated h with
  | rejected reason => cases haccepted
  | accepted _ _ allowedMargin risk sized quantity hnotional hquantity hpos =>
    rw [hzero, mul_zero, rounded_zero, divide_of_ne_zero _ hentry, zero_div] at hnotional
    cases hnotional
    rw [floorToStep_of_pos _ hstep, rounded_zero] at hquantity
    cases hquantity
    exact absurd hpos (not_lt.mpr (floored_nonpos hstep (min_le_right _ _)))

-- What `allocate` raises on such filters comes from a division.
theorem not_filterError_of_allocate (htick : 0 < filters.tickSize) (hstep : 0 < filters.stepSize)
    {exc : PyError} (h : config.allocate candidate account positions filters = .error exc) :
    ¬exc.IsExchangeFilterError := by
  cases allocate_allocated h with
  | divisionRaised _ hexc => exact hexc
  | roundingRaised _ hgrid =>
    cases hgrid with
    | inl hs => exact absurd hstep (not_lt.mpr hs)
    | inr ht => exact absurd htick (not_lt.mpr ht)

-- The inputs on which no division and no rounding of `allocate` raises.
structure WellFormed (config : SleeveBExecutionAllocatorConfig) (candidate : SleeveBSignalCandidate)
    (filters : SymbolFilters) : Prop where
  leverage : config.maxLeverage ≠ 0
  entry : 0 < candidate.entryPrice
  tick : 0 < filters.tickSize
  step : 0 < filters.stepSize

-- On such inputs `allocate` returns: the allocation where the candidate meets every
-- gate, and a rejection otherwise. The last gate is reached with a positive quantity.
theorem allocate_decides (hw : WellFormed config candidate filters)
    {result : Except PyError SleeveBAllocationDecision}
    (h : config.allocate candidate account positions filters = result) :
    (¬config.Accepts candidate account positions filters ∧
        ∃ reason, result = .ok (config.reject candidate reason) ∧
          (reason = .marginExceedsAllowedCap →
            0 < config.sizedQuantity candidate account positions filters ∧
              config.allowedMargin account positions <
                quantizeUsdt (config.sizedMargin candidate account positions filters))) ∨
      (config.Accepts candidate account positions filters ∧
        result = .ok (config.allocation candidate account positions filters)) := by
  unfold allocate at h
  dsimp only at h
  by_cases hsymbol : candidate.symbol ∉ config.symbols
  · rw [if_pos hsymbol] at h
    exact Or.inl ⟨fun ha => hsymbol ha.symbol, _, h.symm, by simp⟩
  rw [if_neg hsymbol] at h
  by_cases hbalance : account.availableBalance < config.minAvailableBalance
  · rw [if_pos hbalance] at h
    exact Or.inl ⟨fun ha => absurd hbalance (not_lt.mpr ha.balance), _, h.symm, by simp⟩
  rw [if_neg hbalance] at h
  by_cases hstop : candidate.stopDistance ≤ 0
  · rw [if_pos hstop] at h
    exact Or.inl ⟨fun ha => absurd hstop (not_le.mpr ha.stop), _, h.symm, by simp⟩
  rw [if_neg hstop] at h
  by_cases hposition : hasOpenPosition candidate.symbol positions = true
  · rw [if_pos hposition] at h
    exact Or.inl ⟨fun ha => absurd (hposition.symm.trans ha.noPosition) (by simp), _, h.symm, by simp⟩
  rw [if_neg hposition] at h
  by_cases hslot : config.maxConcurrentPositions ≤ (positions.filter (!·.isFlat)).length
  · rw [if_pos hslot] at h
    exact Or.inl ⟨fun ha => absurd hslot (not_le.mpr ha.slot), _, h.symm, by simp⟩
  rw [if_neg hslot, sumInitialMargin_eq hw.leverage, Raise.ok_bind] at h
  change (if config.remainingMargin account positions ≤ 0 then _ else _) = result at h
  by_cases hremaining : config.remainingMargin account positions ≤ 0
  · rw [if_pos hremaining] at h
    exact Or.inl ⟨fun ha => absurd hremaining (not_le.mpr ha.remaining), _, h.symm, by simp⟩
  rw [if_neg hremaining, divide_of_ne_zero _ (not_le.mp hstop).ne', Raise.ok_bind, divide_of_ne_zero _ hw.entry.ne',
    Raise.ok_bind, floorToStep_of_pos _ hw.step, Raise.ok_bind, roundPriceToTick,
    floorToStep_of_pos _ hw.tick, Raise.ok_bind] at h
  change (if config.sizedQuantity candidate account positions filters ≤ 0 then _ else
    if config.sizedNotional candidate account positions filters < filters.minNotional then _ else _) =
      result at h
  by_cases hquantity : config.sizedQuantity candidate account positions filters ≤ 0
  · rw [if_pos hquantity] at h
    exact Or.inl ⟨fun ha => absurd hquantity (not_le.mpr ha.quantity), _, h.symm, by simp⟩
  rw [if_neg hquantity] at h
  by_cases hnotional : config.sizedNotional candidate account positions filters < filters.minNotional
  · rw [if_pos hnotional] at h
    exact Or.inl ⟨fun ha => absurd hnotional (not_lt.mpr ha.notional), _, h.symm, by simp⟩
  rw [if_neg hnotional, divide_of_ne_zero _ hw.leverage, Raise.ok_bind] at h
  change (if config.allowedMargin account positions <
    quantizeUsdt (config.sizedMargin candidate account positions filters) then _ else _) = result at h
  by_cases hmargin : config.allowedMargin account positions <
      quantizeUsdt (config.sizedMargin candidate account positions filters)
  · rw [if_pos hmargin] at h
    exact Or.inl ⟨fun ha => absurd hmargin (not_lt.mpr ha.margin), _, h.symm,
      fun _ => ⟨not_le.mp hquantity, hmargin⟩⟩
  · rw [if_neg hmargin] at h
    exact Or.inr ⟨⟨not_not.mp hsymbol, not_lt.mp hbalance, not_le.mp hstop, by simpa using hposition,
      not_le.mp hslot, not_le.mp hremaining, not_le.mp hquantity, not_lt.mp hnotional,
      not_lt.mp hmargin⟩, h.symm⟩

theorem allocate_cases (hw : WellFormed config candidate filters)
    {result : Except PyError SleeveBAllocationDecision}
    (h : config.allocate candidate account positions filters = result) :
    (¬config.Accepts candidate account positions filters ∧
        ∃ reason, result = .ok (config.reject candidate reason)) ∨
      (config.Accepts candidate account positions filters ∧
        result = .ok (config.allocation candidate account positions filters)) := by
  cases allocate_decides hw h with
  | inl hr =>
    obtain ⟨hn, reason, hr, _⟩ := hr
    exact .inl ⟨hn, reason, hr⟩
  | inr ha => exact .inr ha

theorem allocate_of_accepts (hw : WellFormed config candidate filters)
    (ha : config.Accepts candidate account positions filters) :
    config.allocate candidate account positions filters =
      .ok (config.allocation candidate account positions filters) := by
  cases allocate_cases hw rfl with
  | inl h => exact absurd ha h.1
  | inr h => exact h.2

theorem allocate_of_not_accepts (hw : WellFormed config candidate filters)
    (ha : ¬config.Accepts candidate account positions filters) :
    ∃ reason, config.allocate candidate account positions filters =
      .ok (config.reject candidate reason) := by
  cases allocate_cases hw rfl with
  | inl h => exact h.2
  | inr h => exact absurd h.1 ha

theorem maxLeverage_ne_zero_of_accepts (hstep : 0 < filters.stepSize)
    (ha : config.Accepts candidate account positions filters) : config.maxLeverage ≠ 0 := by
  intro hzero
  have hraw : config.rawQuantity candidate account positions ≤ 0 := by
    refine (min_le_right _ _).trans ?_
    rw [hzero, mul_zero, rounded_zero, zero_div, rounded_zero]
  exact absurd ha.quantity (not_lt.mpr (floored_nonpos hstep hraw))

-- A decision that accepts is the allocation of a candidate that meets every gate.
theorem accepts_of_allocate (hentry : 0 < candidate.entryPrice) (htick : 0 < filters.tickSize)
    (hstep : 0 < filters.stepSize) {decision : SleeveBAllocationDecision}
    (h : config.allocate candidate account positions filters = .ok decision)
    (haccepted : decision.accepted = true) :
    WellFormed config candidate filters ∧ config.Accepts candidate account positions filters ∧
      decision = config.allocation candidate account positions filters := by
  have hw : WellFormed config candidate filters :=
    ⟨maxLeverage_ne_zero_of_allocate hentry.ne' hstep h haccepted, hentry, htick, hstep⟩
  cases allocate_cases hw h with
  | inl hr =>
    obtain ⟨_, reason, hr⟩ := hr
    cases hr
    cases haccepted
  | inr ha =>
    obtain ⟨ha, he⟩ := ha
    exact ⟨hw, ha, Except.ok.inj he⟩

end SleeveBExecutionAllocatorConfig

end Allocate

-- The sizes of an allocation in exact arithmetic.

namespace SleeveBExecutionAllocatorConfig

open scoped ExactDecimals

variable {config : SleeveBExecutionAllocatorConfig} {candidate : SleeveBSignalCandidate}
  {account : AccountSnapshotV3} {positions : List ExchangePositionSnapshot} {filters : SymbolFilters}

@[simp] theorem usedMargin_eq : config.usedMargin positions =
    ((positions.filter (!·.isFlat)).map fun position => positionNotional position / config.maxLeverage).sum :=
  ExactDecimals.sumOf_eq _

-- No quantity is accepted that is off the grid of its steps.
theorem onGrid_of_allocate (hstep : 0 < filters.stepSize) {decision : SleeveBAllocationDecision}
    (h : config.allocate candidate account positions filters = .ok decision)
    (haccepted : decision.accepted = true) : OnGrid decision.quantity filters.stepSize := by
  cases allocate_allocated h with
  | rejected reason => cases haccepted
  | accepted _ _ allowedMargin risk sized quantity _ hquantity _ hgiven =>
    rw [floorToStep_of_pos _ hstep] at hquantity
    rw [hgiven, ← Except.ok.inj hquantity]
    exact onGrid_truncateTo _ _

section Sizes

variable (hw : WellFormed config candidate filters)

include hw

section Positive

variable (hq : 0 < config.sizedQuantity candidate account positions filters)

include hq

theorem sizedQuantity_le_rawQuantity :
    config.sizedQuantity candidate account positions filters ≤
      config.rawQuantity candidate account positions :=
  truncateTo_le_of_pos hw.step hq

-- The two sizes the quantity is taken from.

theorem sizedQuantity_mul_entryPrice_le :
    config.sizedQuantity candidate account positions filters * candidate.entryPrice ≤
      config.allowedMargin account positions * config.maxLeverage := by
  have hraw := (sizedQuantity_le_rawQuantity hw hq).trans (min_le_right _ _)
  exact (le_div_iff₀ hw.entry).mp hraw

-- The price validated is the entry price rounded down, so the margin before rounding
-- to cents is within the allowed one as well.
theorem sizedMargin_le_allowedMargin (hleverage : 0 < config.maxLeverage) :
    config.sizedMargin candidate account positions filters ≤ config.allowedMargin account positions := by
  have hprice : truncateTo candidate.entryPrice filters.tickSize ≤ candidate.entryPrice :=
    truncateTo_le hw.tick hw.entry.le
  have hnotional := mul_le_mul_of_nonneg_left hprice hq.le
  exact (div_le_iff₀ hleverage).mpr (hnotional.trans (sizedQuantity_mul_entryPrice_le hw hq))

end Positive

section Accepted

variable (ha : config.Accepts candidate account positions filters)

include ha

theorem sizedQuantity_mul_stopDistance_le :
    config.sizedQuantity candidate account positions filters * candidate.stopDistance ≤
      config.riskBudget account := by
  have hraw := (sizedQuantity_le_rawQuantity hw ha.quantity).trans (min_le_left _ _)
  exact (le_div_iff₀ ha.stop).mp hraw

theorem usedMargin_add_sizedMargin_le (hleverage : 0 < config.maxLeverage) :
    config.usedMargin positions + config.sizedMargin candidate account positions filters ≤
      config.portfolioMarginCap account := by
  have hm := (sizedMargin_le_allowedMargin hw ha.quantity hleverage).trans (min_le_right _ _)
  exact le_sub_iff_add_le'.mp hm

end Accepted

end Sizes

end SleeveBExecutionAllocatorConfig

end DualSleeve

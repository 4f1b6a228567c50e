import DualSleeve.Execution.SleeveBTestnetLoop.LimitOrder
import DualSleeve.Execution.SleeveBTestnetLoop.Market

namespace DualSleeve

open Library

variable {σ γ α : Type}

def RaisesFilterError (outcome : Except PyError α) : Prop :=
  ∃ exc, outcome = .error exc ∧ exc.IsExchangeFilterError

-- `submit_order` itself raises no filter error.
def ExchangeAdapter.SubmitsUnfiltered (exchange : ExchangeAdapter σ) : Prop :=
  ∀ order state, ¬RaisesFilterError (exchange.submitOrder order state).1

-- The entry prices are positive, and so are the ticks and steps.
def PositivePrices (filters : String → SymbolFilters) (candidates : List SleeveBSignalCandidate) : Prop :=
  ∀ candidate ∈ candidates, 0 < candidate.entryPrice ∧
    0 < (filters candidate.symbol).tickSize ∧ 0 < (filters candidate.symbol).stepSize

section Routing

variable [DecimalContext]

-- While entries are allowed, `route` raises a filter error where the normalisation does.
theorem route_raisesFilterError_iff {router : OrderRouter σ} {intent : OrderIntent} {world : World σ}
    (hmode : router.mode = .exchangeTestnet) (hsafe : world.safeMode.allowsNewEntries = true)
    (haction : intent.action = .entry) {filters : SymbolFilters}
    (hf : (router.exchange.getSymbolFilters intent.symbol world.outside).1 = .ok filters)
    (hsubmit : router.exchange.SubmitsUnfiltered) :
    RaisesFilterError (router.route intent world).1 ↔
      ¬∃ normalized, normalizeOrderIntent intent filters = .ok normalized := by
  have hrouted := OrderRouter.route_routed router intent world
  generalize router.route intent world = result at hrouted
  obtain ⟨outcome, after⟩ := result
  cases hrouted with
  | blocked _ hblocked => cases hsafe.symm.trans hblocked
  | notReduceOnly hclose _ => exact absurd haction hclose
  | noFilters _ exc outside hfilters => cases outcome_eq hfilters hf
  | filtered _ given outside hfilters exc hnormal =>
    cases outcome_eq hfilters hf
    refine iff_of_true ⟨exc, rfl, normalizeOrderIntent_error hnormal⟩ ?_
    intro h
    obtain ⟨normalized, hn⟩ := h
    cases hnormal.symm.trans hn
  | signalOnly _ _ _ _ _ _ hsignal => cases hmode.symm.trans hsignal
  | submitRaised _ given outside hfilters normalized hnormal _ exc final hs =>
    cases outcome_eq hfilters hf
    refine iff_of_false ?_ (not_not.mpr ⟨normalized, hnormal⟩)
    intro h
    obtain ⟨raised, hr, hfilter⟩ := h
    cases hr
    exact hsubmit _ _ ⟨exc, congrArg Prod.fst hs, hfilter⟩
  | submitted _ given outside hfilters normalized hnormal _ order final hs =>
    cases outcome_eq hfilters hf
    refine iff_of_false ?_ (not_not.mpr ⟨normalized, hnormal⟩)
    intro h
    obtain ⟨_, hr, _⟩ := h
    cases hr

namespace SleeveBAutoTestnetLoop

variable {loop : SleeveBAutoTestnetLoop σ} {view : σ → γ} {answers : γ → Answers}

theorem route_allocation_iff (hoffset : 0 ≤ loop.config.limitPriceOffsetBps)
    (hbelow : loop.config.limitPriceOffsetBps < 10000) (hsubmit : loop.exchange.SubmitsUnfiltered)
    {world : World σ} (hsafe : world.safeMode.state = .normal)
    {candidate : SleeveBSignalCandidate} {account : AccountSnapshotV3}
    {positions : List ExchangePositionSnapshot} {filters : SymbolFilters}
    (hf : (loop.exchange.getSymbolFilters candidate.symbol world.outside).1 = .ok filters)
    (hentry : 0 < candidate.entryPrice) (htick : 0 < filters.tickSize) (hstep : 0 < filters.stepSize)
    {decision : SleeveBAllocationDecision}
    (hallocate : loop.allocator.allocate candidate account positions filters = .ok decision)
    (haccepted : decision.accepted = true) :
    ¬RaisesFilterError
        (loop.router.router.route (loop.config.allocationToIntent candidate decision) world).1 ↔
      loop.config.Routable loop.allocator candidate account positions filters := by
  obtain ⟨hw, ha, rfl⟩ :=
    SleeveBExecutionAllocatorConfig.accepts_of_allocate hentry htick hstep hallocate haccepted
  have haction : (loop.config.allocationToIntent candidate
    (loop.allocator.allocation candidate account positions filters)).action = .entry := rfl
  have hmode : loop.router.router.mode = .exchangeTestnet := rfl
  rw [route_raisesFilterError_iff hmode (SafeModeController.allowsNewEntries_iff.mpr hsafe) haction hf
    hsubmit, not_not, SleeveBAutoLoopConfig.normalizes_iff_routable hw ha hoffset hbelow]

-- Without leverage nothing is accepted, and what `allocate` raises is no filter error.
theorem not_filterError_of_entry {given : Answers} {candidate : SleeveBSignalCandidate}
    {filters : SymbolFilters} (hzero : loop.allocator.maxLeverage = 0)
    (hf : given.filters candidate.symbol = .ok filters) (hentry : 0 < candidate.entryPrice)
    (htick : 0 < filters.tickSize) (hstep : 0 < filters.stepSize) {exc : PyError}
    (h : loop.entry given candidate = .error exc) : ¬exc.IsExchangeFilterError := by
  rw [entry_of_filters hf] at h
  cases Raise.bind_eq_error.mp h with
  | inl hraised => exact SleeveBExecutionAllocatorConfig.not_filterError_of_allocate htick hstep hraised
  | inr h =>
    obtain ⟨allocation, hallocate, h⟩ := h
    cases haccepted : allocation.accepted with
    | false =>
      rw [haccepted, Bool.not_false, if_pos rfl] at h
      cases h
    | true =>
      exact absurd hzero (SleeveBExecutionAllocatorConfig.maxLeverage_ne_zero_of_allocate hentry.ne' hstep
        hallocate haccepted)

-- What a run raises ends its plan, if `submit_order` returns.
theorem plan_stop_of_raised (hsteady : loop.exchange.Steady view answers)
    (hkeeps : ∀ order state,
      answers (view (loop.exchange.submitOrder order state).2) = answers (view state))
    (hreturns : ∀ order state, ∃ reply, (loop.exchange.submitOrder order state).1 = .ok reply)
    (hack : loop.config.requireAck = true) {world : World σ}
    (hsafe : world.safeMode.allowsNewEntries = true) {candidates : List SleeveBSignalCandidate}
    {exc : PyError} (h : (loop.runOnce candidates world).1 = .error exc) :
    (loop.plan (answers (view world.outside)) loop.config.maxNewOrdersPerRun.toNat candidates).2 =
      some exc := by
  have hplanned := runOnce_planned hsteady hkeeps hack hsafe candidates
  rw [h] at hplanned
  cases hplanned.raised exc rfl with
  | inl hstop => exact hstop
  | inr hsubmit =>
    obtain ⟨order, state, hsubmit⟩ := hsubmit
    obtain ⟨reply, hreply⟩ := hreturns order state
    cases hreply.symm.trans hsubmit

-- With a leverage to divide by, the plan ends in a filter error at the first taken candidate
-- that is not routable.
theorem raisesFilterError_iff_of_wellFormed (hsteady : loop.exchange.Steady view answers)
    (hkeeps : ∀ order state,
      answers (view (loop.exchange.submitOrder order state).2) = answers (view state))
    (hreturns : ∀ order state, ∃ reply, (loop.exchange.submitOrder order state).1 = .ok reply)
    (hack : loop.config.requireAck = true) (hoffset : 0 ≤ loop.config.limitPriceOffsetBps)
    (hbelow : loop.config.limitPriceOffsetBps < 10000) {world : World σ}
    (hsafe : world.safeMode.allowsNewEntries = true) {filters : String → SymbolFilters}
    {candidates : List SleeveBSignalCandidate}
    (hf : ∀ candidate ∈ candidates,
      (answers (view world.outside)).filters candidate.symbol = .ok (filters candidate.symbol))
    (hw : loop.WellFormed filters candidates) :
    RaisesFilterError (loop.runOnce candidates world).1 ↔
      ∃ candidate ∈ loop.takenBy world.safeMode (answers (view world.outside)).account
          (answers (view world.outside)).positions filters candidates,
        ¬loop.config.Routable loop.allocator candidate (answers (view world.outside)).account
          (answers (view world.outside)).positions (filters candidate.symbol) := by
  have hroutable {candidate : SleeveBSignalCandidate}
      (hc : candidate ∈ loop.takenBy world.safeMode (answers (view world.outside)).account
        (answers (view world.outside)).positions filters candidates) :=
    SleeveBAutoLoopConfig.normalizes_iff_routable (hw candidate (mem_takenBy hc).1) (mem_takenBy hc).2
      hoffset hbelow
  have htaken : loop.takenBy world.safeMode (answers (view world.outside)).account
      (answers (view world.outside)).positions filters candidates =
      loop.taken (answers (view world.outside)).account (answers (view world.outside)).positions filters
        loop.config.maxNewOrdersPerRun.toNat candidates := by
    rw [takenBy, hsafe, if_pos rfl]
  cases plan_taken hf hw loop.config.maxNewOrdersPerRun.toNat with
  | inl h =>
    obtain ⟨hall, hstop, _⟩ := h
    refine iff_of_false ?_ ?_
    · intro h
      obtain ⟨exc, he, _⟩ := h
      cases hstop.symm.trans (plan_stop_of_raised hsteady hkeeps hreturns hack hsafe he)
    · intro h
      obtain ⟨candidate, hc, hn⟩ := h
      exact hn ((hroutable hc).mp (hall candidate (htaken ▸ hc)))
  | inr h =>
    obtain ⟨candidate, hc, exc, hnormal, hstop⟩ := h
    refine iff_of_true ?_ ⟨candidate, htaken ▸ hc, ?_⟩
    · have hplanned := runOnce_planned hsteady hkeeps hack hsafe candidates
      cases hr : (loop.runOnce candidates world).1 with
      | ok result =>
        rw [hr] at hplanned
        cases hstop.symm.trans (hplanned.returned _ rfl).1
      | error raised =>
        cases hstop.symm.trans (plan_stop_of_raised hsteady hkeeps hreturns hack hsafe hr)
        exact ⟨exc, rfl, normalizeOrderIntent_error hnormal⟩
    · intro hn
      obtain ⟨normalized, hok⟩ := (hroutable (htaken ▸ hc)).mpr hn
      cases hnormal.symm.trans hok

theorem runOnce_raisesFilterError_iff (hsteady : loop.exchange.Steady view answers)
    (hkeeps : ∀ order state,
      answers (view (loop.exchange.submitOrder order state).2) = answers (view state))
    (hreturns : ∀ order state, ∃ reply, (loop.exchange.submitOrder order state).1 = .ok reply)
    (hack : loop.config.requireAck = true) (hoffset : 0 ≤ loop.config.limitPriceOffsetBps)
    (hbelow : loop.config.limitPriceOffsetBps < 10000) {world : World σ} {filters : String → SymbolFilters}
    {candidates : List SleeveBSignalCandidate}
    (hf : ∀ candidate ∈ candidates,
      (answers (view world.outside)).filters candidate.symbol = .ok (filters candidate.symbol))
    (hp : PositivePrices filters candidates) :
    RaisesFilterError (loop.runOnce candidates world).1 ↔
      ∃ candidate ∈ loop.takenBy world.safeMode (answers (view world.outside)).account
          (answers (view world.outside)).positions filters candidates,
        ¬loop.config.Routable loop.allocator candidate (answers (view world.outside)).account
          (answers (view world.outside)).positions (filters candidate.symbol) := by
  cases hsafe : world.safeMode.allowsNewEntries with
  | false =>
    obtain ⟨result, hr, _⟩ := runOnce_of_blocked hsteady hack hsafe candidates
    refine iff_of_false ?_ ?_
    · intro h
      obtain ⟨exc, he, _⟩ := h
      cases hr.symm.trans he
    · simp [takenBy, hsafe]
  | true =>
    by_cases hleverage : loop.allocator.maxLeverage = 0
    · refine iff_of_false ?_ ?_
      · intro h
        obtain ⟨exc, he, hfilter⟩ := h
        obtain ⟨candidate, hc, hentry⟩ := entry_of_plan_stop
          (plan_stop_of_raised hsteady hkeeps hreturns hack hsafe he)
        obtain ⟨hprice, htick, hstep⟩ := hp candidate hc
        exact not_filterError_of_entry hleverage (hf candidate hc) hprice htick hstep hentry hfilter
      · intro h
        obtain ⟨candidate, hc, _⟩ := h
        obtain ⟨hm, ha⟩ := mem_takenBy hc
        exact SleeveBExecutionAllocatorConfig.maxLeverage_ne_zero_of_accepts (hp candidate hm).2.2 ha hleverage
    have hw : loop.WellFormed filters candidates := by
      intro candidate hc
      obtain ⟨hprice, htick, hstep⟩ := hp candidate hc
      exact ⟨hleverage, hprice, htick, hstep⟩
    exact raisesFilterError_iff_of_wellFormed hsteady hkeeps hreturns hack hoffset hbelow hsafe hf hw

-- An accepted allocation is routed without a filter error exactly when it is routable,
-- and a run is aborted by one exactly when it takes a candidate that is not.
theorem accepted_routable_iff (view : σ → γ) (answers : γ → Answers)
    (hoffset : 0 ≤ loop.config.limitPriceOffsetBps) (hbelow : loop.config.limitPriceOffsetBps < 10000)
    (hsubmit : loop.exchange.SubmitsUnfiltered) :
    (∀ candidate account positions filters decision (world : World σ), 0 < candidate.entryPrice →
      0 < filters.tickSize → 0 < filters.stepSize → world.safeMode.state = .normal →
      (loop.exchange.getSymbolFilters candidate.symbol world.outside).1 = .ok filters →
      loop.allocator.allocate candidate account positions filters = .ok decision →
      decision.accepted = true →
      (¬RaisesFilterError
          (loop.router.router.route (loop.config.allocationToIntent candidate decision) world).1 ↔
        loop.config.Routable loop.allocator candidate account positions filters)) ∧
    (loop.exchange.Steady view answers →
      (∀ order state, answers (view (loop.exchange.submitOrder order state).2) = answers (view state)) →
      (∀ order state, ∃ reply, (loop.exchange.submitOrder order state).1 = .ok reply) →
      loop.config.requireAck = true → ∀ (world : World σ) filters candidates,
      (∀ candidate ∈ candidates,
        (answers (view world.outside)).filters candidate.symbol = .ok (filters candidate.symbol)) →
      PositivePrices filters candidates →
      (¬RaisesFilterError (loop.runOnce candidates world).1 ↔
        ∀ candidate ∈ loop.takenBy world.safeMode (answers (view world.outside)).account
            (answers (view world.outside)).positions filters candidates,
          loop.config.Routable loop.allocator candidate (answers (view world.outside)).account
            (answers (view world.outside)).positions (filters candidate.symbol))) := by
  refine ⟨?_, ?_⟩
  · intro candidate account positions filters decision world hentry htick hstep hsafe hf hallocate haccepted
    exact route_allocation_iff hoffset hbelow hsubmit hsafe hf hentry htick hstep hallocate haccepted
  · intro hsteady hkeeps hreturns hack world filters candidates hf hp
    rw [runOnce_raisesFilterError_iff hsteady hkeeps hreturns hack hoffset hbelow hf hp]
    push Not
    rfl

end SleeveBAutoTestnetLoop

end Routing

namespace SleeveBAutoTestnetLoop

open scoped DefaultContext

-- The sizes hold 18 units, which the limit price of 99.9 makes a notional of 1798.2.
theorem accepted_routable_sample :
    ¬RaisesFilterError ((Market.loop {} { requireAck := true }).runOnce [sampleCandidate "BTCUSDT"]
      sampleMarket).1 := by
  have hsteady : (Market.loop {} { requireAck := true }).exchange.Steady id Market.answers :=
    Market.exchange_steady
  have hsubmit : (Market.loop {} { requireAck := true }).exchange.SubmitsUnfiltered := by
    intro order market h
    obtain ⟨_, hr, _⟩ := h
    cases hr
  have hoffset : (0 : ℚ) ≤ (Market.loop {} { requireAck := true }).config.limitPriceOffsetBps := by
    decide +kernel
  have hbelow : (Market.loop {} { requireAck := true }).config.limitPriceOffsetBps < 10000 := by
    decide +kernel
  have hf : ∀ candidate ∈ [sampleCandidate "BTCUSDT"],
      (Market.answers (id sampleMarket.outside)).filters candidate.symbol =
        .ok (marketFilters candidate.symbol) := fun _ _ => rfl
  have hp : PositivePrices marketFilters [sampleCandidate "BTCUSDT"] := by
    intro candidate hc
    rw [List.mem_singleton.mp hc]
    decide +kernel
  refine ((accepted_routable_iff id Market.answers hoffset hbelow hsubmit).2 hsteady (fun _ _ => rfl)
    (fun order _ => ⟨order, rfl⟩) rfl sampleMarket marketFilters _ hf hp).mpr ?_
  intro candidate hc
  obtain rfl := List.mem_singleton.mp (mem_takenBy hc).1
  refine ⟨18, 18, 999 / 10, ⟨18000, ?_, ?_⟩, ⟨18000, ?_, ?_⟩, ⟨999, ?_, ?_⟩, ?_, ?_⟩
  all_goals decide +kernel

-- The least account, and a LONG candidate whose quantity has the minimum notional at
-- the entry price but not below it.
def boundaryCandidate : SleeveBSignalCandidate := ⟨"BTCUSDT", .long, 100, 95, "auto-breakout"⟩

def boundaryMarket : World Market :=
  { outside := {
      answers := { sampleAnswers with account := ⟨500, 0, 500, 500⟩ }
      now := sampleClock } }

theorem accepted_not_routable_at_boundary :
    (∃ decision, SleeveBExecutionAllocatorConfig.allocate {} boundaryCandidate ⟨500, 0, 500, 500⟩ []
        (marketFilters "BTCUSDT") = .ok decision ∧ decision.accepted = true ∧
      RaisesFilterError ((Market.loop {} {}).router.router.route
        (SleeveBAutoLoopConfig.allocationToIntent {} boundaryCandidate decision) boundaryMarket).1) ∧
    RaisesFilterError ((Market.loop {} { requireAck := true }).runOnce
      [boundaryCandidate, sampleCandidate "ETHUSDT"] boundaryMarket).1 := by
  refine ⟨⟨SleeveBExecutionAllocatorConfig.allocation {} boundaryCandidate ⟨500, 0, 500, 500⟩ []
    (marketFilters "BTCUSDT"), ?_, rfl, ?_⟩, ?_⟩
  · decide +kernel
  · refine ⟨.exchangeFilterError (.notionalBelowMinNotional "BTCUSDT" (999 / 20) 50), ?_, trivial⟩
    decide +kernel
  · refine ⟨.exchangeFilterError (.notionalBelowMinNotional "BTCUSDT" (999 / 20) 50), ?_, trivial⟩
    decide +kernel

end SleeveBAutoTestnetLoop

end DualSleeve

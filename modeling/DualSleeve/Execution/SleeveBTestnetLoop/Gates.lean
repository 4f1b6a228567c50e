import DualSleeve.Execution.SleeveBTestnetLoop.Market
import DualSleeve.Execution.SleeveBTestnetLoop.Taken

namespace DualSleeve

open Library Library.Grid
open scoped ExactDecimals

variable {σ γ : Type}

def acceptedDecisions (decisions : List SleeveBAutoLoopDecision) : List SleeveBAutoLoopDecision :=
  decisions.filter (·.accepted)

-- The gates of the allocator, for all the orders of a run together.
structure AggregateGates (config : SleeveBExecutionAllocatorConfig) (account : AccountSnapshotV3)
    (positions : List ExchangePositionSnapshot) (decisions : List SleeveBAutoLoopDecision) : Prop where
  margin : acceptedDecisions decisions ≠ [] → ∀ usedMargin,
    sumInitialMargin (positions.filter (!·.isFlat)) config.maxLeverage = .ok usedMargin →
      usedMargin + ((acceptedDecisions decisions).map fun decision =>
        decision.allocation.quantity * decision.allocation.entryPrice / config.maxLeverage).sum ≤
      account.availableBalance * config.usableBalanceFraction * config.maxPortfolioMarginFraction
  slots : ((positions.filter (!·.isFlat)).length : ℤ) + (acceptedDecisions decisions).length ≤
    config.maxConcurrentPositions
  symbols : ((acceptedDecisions decisions).map (·.symbol)).Nodup

-- There is room for as many orders as a run may send: the candidates are for different
-- symbols, there are slots for that many of them, and as many full position caps fit
-- into what is left of the portfolio's.
structure RoomForAll (config : SleeveBExecutionAllocatorConfig) (account : AccountSnapshotV3)
    (positions : List ExchangePositionSnapshot) (maxNewOrders : ℕ) (candidates : List SleeveBSignalCandidate) :
    Prop where
  symbols : (candidates.map (·.symbol)).Nodup
  slots : ((positions.filter (!·.isFlat)).length : ℤ) + min maxNewOrders candidates.length ≤
    config.maxConcurrentPositions
  margin : config.usedMargin positions +
      (min maxNewOrders candidates.length : ℕ) * config.perPositionMarginCap account ≤
    config.portfolioMarginCap account

section Gates

variable {config : SleeveBExecutionAllocatorConfig} {account : AccountSnapshotV3}
  {positions : List ExchangePositionSnapshot} {filters : String → SymbolFilters}
  {taken : List SleeveBSignalCandidate}

-- The gates, said of the candidates taken.
theorem aggregateGates_iff_taken (hleverage : 0 < config.maxLeverage)
    {decisions : List SleeveBAutoLoopDecision}
    (hmap : (acceptedDecisions decisions).map (·.allocated) = taken.map fun candidate =>
      (candidate.symbol, config.allocation candidate account positions (filters candidate.symbol))) :
    AggregateGates config account positions decisions ↔
      (taken ≠ [] → config.usedMargin positions + (taken.map fun candidate =>
        config.sizedMargin candidate account positions (filters candidate.symbol)).sum ≤
          config.portfolioMarginCap account) ∧
      ((positions.filter (!·.isFlat)).length : ℤ) + taken.length ≤ config.maxConcurrentPositions ∧
      (taken.map (·.symbol)).Nodup := by
  have hlength : (acceptedDecisions decisions).length = taken.length := by
    simpa using congrArg List.length hmap
  have hsymbols : (acceptedDecisions decisions).map (·.symbol) = taken.map (·.symbol) := by
    have h := congrArg (List.map Prod.fst) hmap
    rw [List.map_map, List.map_map] at h
    exact h
  have hmargins : ((acceptedDecisions decisions).map fun decision =>
      decision.allocation.quantity * decision.allocation.entryPrice / config.maxLeverage) =
      taken.map fun candidate =>
        config.sizedMargin candidate account positions (filters candidate.symbol) := by
    have h := congrArg (List.map fun allocated : String × SleeveBAllocationDecision =>
      allocated.2.quantity * allocated.2.entryPrice / config.maxLeverage) hmap
    rw [List.map_map, List.map_map] at h
    exact h
  have hnil : acceptedDecisions decisions ≠ [] ↔ taken ≠ [] := by
    rw [← List.length_pos_iff, ← List.length_pos_iff, hlength]
  have hused : sumInitialMargin (positions.filter (!·.isFlat)) config.maxLeverage =
    .ok (config.usedMargin positions) := sumInitialMargin_eq hleverage.ne'
  constructor
  · intro h
    refine ⟨?_, by rw [← hlength]; exact h.slots, by rw [← hsymbols]; exact h.symbols⟩
    intro hn
    have hm := h.margin (hnil.mpr hn) _ hused
    rwa [hmargins] at hm
  · intro h
    obtain ⟨hmargin, hslots, hnodup⟩ := h
    refine ⟨?_, by rw [hlength]; exact hslots, by rw [hsymbols]; exact hnodup⟩
    intro hn used hu
    rw [hused] at hu
    rw [← Except.ok.inj hu, hmargins]
    exact hmargin (hnil.mp hn)

theorem sizedMargin_nonneg {candidate : SleeveBSignalCandidate} (hleverage : 0 < config.maxLeverage)
    (hw : config.WellFormed candidate (filters candidate.symbol))
    (ha : config.Accepts candidate account positions (filters candidate.symbol)) :
    0 ≤ config.sizedMargin candidate account positions (filters candidate.symbol) :=
  div_nonneg (mul_nonneg ha.quantity.le (truncateTo_nonneg hw.tick hw.entry.le)) hleverage.le

-- Each order takes a position's cap at most.
theorem sum_sizedMargin_le (hleverage : 0 < config.maxLeverage)
    (hw : ∀ candidate ∈ taken, config.WellFormed candidate (filters candidate.symbol))
    (ha : ∀ candidate ∈ taken, config.Accepts candidate account positions (filters candidate.symbol)) :
    (taken.map fun candidate =>
      config.sizedMargin candidate account positions (filters candidate.symbol)).sum ≤
        taken.length * config.perPositionMarginCap account := by
  have hcap : ∀ margin ∈ taken.map fun candidate =>
      config.sizedMargin candidate account positions (filters candidate.symbol),
      margin ≤ config.perPositionMarginCap account := by
    intro margin hmargin
    obtain ⟨candidate, hc, rfl⟩ := List.mem_map.mp hmargin
    exact (SleeveBExecutionAllocatorConfig.sizedMargin_le_allowedMargin (hw candidate hc)
      (ha candidate hc).quantity hleverage).trans (min_le_left _ _)
  simpa using List.sum_le_card_nsmul _ _ hcap

theorem perPositionMarginCap_nonneg {candidate : SleeveBSignalCandidate} (hleverage : 0 < config.maxLeverage)
    (hw : config.WellFormed candidate (filters candidate.symbol))
    (ha : config.Accepts candidate account positions (filters candidate.symbol)) :
    0 ≤ config.perPositionMarginCap account :=
  (sizedMargin_nonneg hleverage hw ha).trans
    ((SleeveBExecutionAllocatorConfig.sizedMargin_le_allowedMargin hw ha.quantity hleverage).trans (min_le_left _ _))

-- One accepted candidate is within the gates it was checked against.
theorem gates_of_singleton {candidate : SleeveBSignalCandidate} (hleverage : 0 < config.maxLeverage)
    (hw : config.WellFormed candidate (filters candidate.symbol))
    (ha : config.Accepts candidate account positions (filters candidate.symbol)) :
    config.usedMargin positions + config.sizedMargin candidate account positions (filters candidate.symbol) ≤
        config.portfolioMarginCap account ∧
      ((positions.filter (!·.isFlat)).length : ℤ) + 1 ≤ config.maxConcurrentPositions :=
  ⟨SleeveBExecutionAllocatorConfig.usedMargin_add_sizedMargin_le hw ha hleverage, ha.slot⟩

-- Several are, where there is room for all.
theorem margin_of_roomForAll {candidates : List SleeveBSignalCandidate} {maxNewOrders : ℕ}
    (hleverage : 0 < config.maxLeverage)
    (hw : ∀ candidate ∈ taken, config.WellFormed candidate (filters candidate.symbol))
    (ha : ∀ candidate ∈ taken, config.Accepts candidate account positions (filters candidate.symbol))
    (hlength : taken.length ≤ min maxNewOrders candidates.length)
    (h : RoomForAll config account positions maxNewOrders candidates) (hne : taken ≠ []) :
    config.usedMargin positions + (taken.map fun candidate =>
      config.sizedMargin candidate account positions (filters candidate.symbol)).sum ≤
        config.portfolioMarginCap account := by
  obtain ⟨candidate, hc⟩ := List.exists_mem_of_ne_nil _ hne
  have hcap := perPositionMarginCap_nonneg hleverage (hw candidate hc) (ha candidate hc)
  have hcount : (taken.length : ℚ) * config.perPositionMarginCap account ≤
      (min maxNewOrders candidates.length : ℕ) * config.perPositionMarginCap account :=
    mul_le_mul_of_nonneg_right (by exact_mod_cast hlength) hcap
  have hsum := sum_sizedMargin_le hleverage hw ha
  have hroom := h.margin
  linarith

end Gates

namespace SleeveBAutoTestnetLoop

variable {loop : SleeveBAutoTestnetLoop σ} {view : σ → γ} {answers : γ → Answers}

-- The accepted decisions of a run that returns are those of the candidates it takes.
theorem allocated_of_returned (hsteady : loop.exchange.Steady view answers)
    (hkeeps : ∀ order state,
      answers (view (loop.exchange.submitOrder order state).2) = answers (view state))
    (hack : loop.config.requireAck = true) {world : World σ} {filters : String → SymbolFilters}
    {candidates : List SleeveBSignalCandidate}
    (hf : ∀ candidate ∈ candidates,
      (answers (view world.outside)).filters candidate.symbol = .ok (filters candidate.symbol))
    (hw : loop.WellFormed filters candidates)
    {result : SleeveBAutoLoopRunResult} (hreturns : (loop.runOnce candidates world).1 = .ok result) :
    (acceptedDecisions result.decisions).map (·.allocated) =
      (loop.takenBy world.safeMode (answers (view world.outside)).account
        (answers (view world.outside)).positions filters candidates).map fun candidate =>
          (candidate.symbol, loop.allocator.allocation candidate (answers (view world.outside)).account
            (answers (view world.outside)).positions (filters candidate.symbol)) := by
  unfold takenBy
  cases hsafe : world.safeMode.allowsNewEntries with
  | false =>
    obtain ⟨other, hother, hnone, _⟩ := runOnce_of_blocked hsteady hack hsafe candidates
    cases hreturns.symm.trans hother
    rw [acceptedDecisions, hnone]
    rfl
  | true =>
    have hplanned := runOnce_planned hsteady hkeeps hack hsafe candidates
    rw [hreturns] at hplanned
    obtain ⟨hstop, hmap⟩ := hplanned.returned _ rfl
    rw [if_pos rfl]
    cases plan_taken hf hw loop.config.maxNewOrdersPerRun.toNat with
    | inl h => exact hmap.trans h.2.2
    | inr h =>
      obtain ⟨_, _, exc, _, hexc⟩ := h
      cases hstop.symm.trans hexc

-- The open positions are within their limit, and the run takes one candidate at most or
-- there is room for all it may take.
def Uncrowded (loop : SleeveBAutoTestnetLoop σ) (safeMode : SafeModeController) (account : AccountSnapshotV3)
    (positions : List ExchangePositionSnapshot) (filters : String → SymbolFilters)
    (candidates : List SleeveBSignalCandidate) : Prop :=
  ((positions.filter (!·.isFlat)).length : ℤ) ≤ loop.allocator.maxConcurrentPositions ∧
    ((loop.takenBy safeMode account positions filters candidates).length ≤ 1 ∨
      RoomForAll loop.allocator account positions loop.config.maxNewOrdersPerRun.toNat candidates)

section Crowd

variable {safeMode : SafeModeController} {account : AccountSnapshotV3}
  {positions : List ExchangePositionSnapshot} {filters : String → SymbolFilters}
  {candidates : List SleeveBSignalCandidate}

theorem takenBy_sublist :
    (loop.takenBy safeMode account positions filters candidates).Sublist candidates := by
  unfold takenBy taken
  split
  · exact (List.take_sublist _ _).trans List.filter_sublist
  · exact List.nil_sublist _

theorem length_takenBy_le : (loop.takenBy safeMode account positions filters candidates).length ≤
    min loop.config.maxNewOrdersPerRun.toNat candidates.length := by
  refine le_min ?_ takenBy_sublist.length_le
  unfold takenBy taken
  split
  · exact List.length_take_le _ _
  · exact Nat.zero_le _

theorem gates_of_uncrowded (hleverage : 0 < loop.allocator.maxLeverage)
    (hw : loop.WellFormed filters candidates)
    (h : loop.Uncrowded safeMode account positions filters candidates) :
    let taken := loop.takenBy safeMode account positions filters candidates
    (taken ≠ [] → loop.allocator.usedMargin positions + (taken.map fun candidate =>
        loop.allocator.sizedMargin candidate account positions (filters candidate.symbol)).sum ≤
          loop.allocator.portfolioMarginCap account) ∧
      ((positions.filter (!·.isFlat)).length : ℤ) + taken.length ≤ loop.allocator.maxConcurrentPositions ∧
      (taken.map (·.symbol)).Nodup := by
  intro taken
  have hwTaken : ∀ candidate ∈ taken, loop.allocator.WellFormed candidate (filters candidate.symbol) :=
    fun candidate hc => hw candidate (mem_takenBy hc).1
  have haTaken : ∀ candidate ∈ taken,
      loop.allocator.Accepts candidate account positions (filters candidate.symbol) :=
    fun candidate hc => (mem_takenBy hc).2
  have hlength : taken.length ≤ _ := length_takenBy_le
  have hsublist : taken.Sublist candidates := takenBy_sublist
  obtain ⟨hopen, hone | hroom⟩ := h
  · change taken.length ≤ 1 at hone
    generalize taken = taken at hwTaken haTaken hone
    match taken with
    | [] => simpa using hopen
    | [candidate] =>
      have hgates := gates_of_singleton hleverage (hwTaken candidate (by simp)) (haTaken candidate (by simp))
      simpa using hgates
    | _ :: _ :: _ => simp at hone
  · refine ⟨margin_of_roomForAll hleverage hwTaken haTaken hlength hroom, ?_,
      hroom.symbols.sublist (hsublist.map _)⟩
    have hslots := hroom.slots
    omega

end Crowd

-- Whatever the exchange does with the orders, the gates hold over a run that returns and
-- is not crowded; and where they hold, the candidates it takes differ and have their slots.
theorem aggregateGates_of_uncrowded (hsteady : loop.exchange.Steady view answers)
    (hkeeps : ∀ order state,
      answers (view (loop.exchange.submitOrder order state).2) = answers (view state))
    (hack : loop.config.requireAck = true) (hleverage : 0 < loop.allocator.maxLeverage)
    {world : World σ} {filters : String → SymbolFilters}
    {candidates : List SleeveBSignalCandidate}
    (hf : ∀ candidate ∈ candidates,
      (answers (view world.outside)).filters candidate.symbol = .ok (filters candidate.symbol))
    (hw : loop.WellFormed filters candidates)
    {result : SleeveBAutoLoopRunResult} (hreturns : (loop.runOnce candidates world).1 = .ok result) :
    (loop.Uncrowded world.safeMode (answers (view world.outside)).account
        (answers (view world.outside)).positions filters candidates →
      AggregateGates loop.allocator (answers (view world.outside)).account
        (answers (view world.outside)).positions result.decisions) ∧
    (AggregateGates loop.allocator (answers (view world.outside)).account
        (answers (view world.outside)).positions result.decisions →
      let taken := loop.takenBy world.safeMode (answers (view world.outside)).account
        (answers (view world.outside)).positions filters candidates
      (((answers (view world.outside)).positions.filter (!·.isFlat)).length : ℤ) + taken.length ≤
          loop.allocator.maxConcurrentPositions ∧
        (taken.map (·.symbol)).Nodup) := by
  have hgates := aggregateGates_iff_taken hleverage (allocated_of_returned hsteady hkeeps hack hf hw hreturns)
  exact ⟨fun h => hgates.mpr (gates_of_uncrowded hleverage hw h), fun h => (hgates.mp h).2⟩

theorem sampleMarket_wellFormed (config : SleeveBAutoLoopConfig) (symbols : List String) :
    (Market.loop {} config).WellFormed marketFilters
      (symbols.map sampleCandidate) := by
  intro candidate hc
  obtain ⟨symbol, _, rfl⟩ := List.mem_map.mp hc
  have hleverage : (3 : ℚ) ≠ 0 := by norm_num
  have hentry : (0 : ℚ) < 100 := by norm_num
  have htick : (0 : ℚ) < 1 / 10 := by norm_num
  have hstep : (0 : ℚ) < 1 / 1000 := by norm_num
  exact ⟨hleverage, hentry, htick, hstep⟩

theorem aggregateGates_sample :
    ∃ result, ((Market.loop {} { requireAck := true }).runOnce [sampleCandidate "BTCUSDT"]
        sampleMarket).1 = .ok result ∧
      (acceptedDecisions result.decisions).length = 1 ∧
        AggregateGates {} sampleAnswers.account [] result.decisions := by
  have haccepted : (((Market.loop {} { requireAck := true }).runOnce [sampleCandidate "BTCUSDT"]
      sampleMarket).1.map fun result => (acceptedDecisions result.decisions).length) = .ok 1 := by decide +kernel
  obtain ⟨result, hreturns, hlength⟩ := Raise.map_eq_ok.mp haccepted
  refine ⟨result, hreturns, hlength, ?_⟩
  refine (aggregateGates_of_uncrowded Market.exchange_steady (fun _ _ => rfl) rfl (by decide +kernel)
    (fun _ _ => rfl) (sampleMarket_wellFormed _ ["BTCUSDT"]) hreturns).1 ⟨?_, Or.inl ?_⟩
  · decide +kernel
  · decide +kernel

-- Five orders in one run, two of them for one symbol, where three positions may be
-- open.
theorem aggregateGates_fails_over_a_run :
    ∃ result, ((Market.loop {} { requireAck := true, maxNewOrdersPerRun := 5 }).runOnce
        (["BTCUSDT", "BTCUSDT", "ETHUSDT", "SOLUSDT", "BNBUSDT"].map sampleCandidate) sampleMarket).1 =
          .ok result ∧
      ¬AggregateGates {} sampleAnswers.account [] result.decisions := by
  have haccepted : (((Market.loop {} { requireAck := true, maxNewOrdersPerRun := 5 }).runOnce
      (["BTCUSDT", "BTCUSDT", "ETHUSDT", "SOLUSDT", "BNBUSDT"].map sampleCandidate) sampleMarket).1.map
        fun result => (acceptedDecisions result.decisions).length) = .ok 5 := by decide +kernel
  obtain ⟨result, hreturns, hlength⟩ := Raise.map_eq_ok.mp haccepted
  refine ⟨result, hreturns, fun hgates => ?_⟩
  have hslots := hgates.slots
  rw [hlength] at hslots
  exact absurd hslots (by decide)

end SleeveBAutoTestnetLoop

end DualSleeve

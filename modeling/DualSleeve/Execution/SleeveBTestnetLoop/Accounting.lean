import DualSleeve.Execution.SleeveBTestnetLoop.Market

namespace DualSleeve

open Library Library.Grid

variable {σ : Type}

-- The states an exchange goes through while a run calls it, in which `get_symbol_filters`
-- gives each symbol one tick and one step, both positive.
structure SleeveBLoopExchange.KeepsGrid (exchange : SleeveBLoopExchange σ) (reached : σ → Prop)
    (tick step : String → ℚ) : Prop where
  account : ∀ state, reached state → reached (exchange.fetchAccountSnapshot state).2
  positions : ∀ state, reached state → reached (exchange.fetchPositionSnapshots none state).2
  filters : ∀ symbol state, reached state → reached (exchange.getSymbolFilters symbol state).2
  submit : ∀ order state, reached state → reached (exchange.submitOrder order state).2
  grid : ∀ symbol state filters, reached state →
    (exchange.getSymbolFilters symbol state).1 = .ok filters →
    filters.tickSize = tick symbol ∧ filters.stepSize = step symbol ∧ 0 < tick symbol ∧ 0 < step symbol

namespace SleeveBAutoTestnetLoop

variable {loop : SleeveBAutoTestnetLoop σ} {reached : σ → Prop} {tick step : String → ℚ}

-- The order handed to `submit_order` for a candidate, against its decision.
structure Handed (taken : SleeveBSignalCandidate × SleeveBAutoLoopDecision) (order : OrderRecord) :
    Prop where
  allocated : taken.2.allocation.accepted = true
  quantity : order.intent.quantity = taken.2.allocation.quantity
  symbol : order.intent.symbol = taken.1.symbol
  setupId : order.intent.setupId = some taken.1.setupId
  side : order.intent.side = .buy ↔ taken.1.side = .long
  action : order.intent.action = .entry
  orderType : order.intent.orderType = .limit

-- What considering one candidate comes to: the calls it made, and the order it handed
-- over where its decision is accepted.
inductive Settled (loop : SleeveBAutoTestnetLoop σ) (submitted : ℤ) (candidate : SleeveBSignalCandidate)
    (safeMode : SafeModeController) (decision : SleeveBAutoLoopDecision) : List Call → Prop
  | refused (calls : List Call) (haccepted : decision.accepted = false) (hsent : sentOrders calls = [])
      (hwritten : writtenOrders calls = []) : Settled loop submitted candidate safeMode decision calls
  | entered (calls : List Call) (haccepted : decision.accepted = true)
      (hroom : submitted < loop.config.maxNewOrdersPerRun) (hsafe : safeMode.allowsNewEntries = true)
      (order reply : OrderRecord) (hsent : sentOrders calls = [order])
      (hwritten : writtenOrders calls = [reply]) (hhanded : Handed (candidate, decision) order) :
      Settled loop submitted candidate safeMode decision calls

section Exact

open scoped ExactDecimals

-- Flooring the allocated quantity again to the same step changes nothing.
theorem normalized_quantity {config : SleeveBExecutionAllocatorConfig} {candidate : SleeveBSignalCandidate}
    {account : AccountSnapshotV3} {positions : List ExchangePositionSnapshot} {filters given : SymbolFilters}
    {allocation : SleeveBAllocationDecision} {intent normalized : OrderIntent}
    (hallocate : config.allocate candidate account positions filters = .ok allocation)
    (haccepted : allocation.accepted = true) (hsame : given.stepSize = filters.stepSize)
    (htick : 0 < given.tickSize) (hstep : 0 < given.stepSize)
    (hintent : intent.quantity = allocation.quantity)
    (hnormal : normalizeOrderIntent intent given = .ok normalized) :
    normalized.quantity = allocation.quantity := by
  obtain ⟨hnormalized, _⟩ := (normalizeOrderIntent_eq_ok htick hstep).mp hnormal
  have hgrid := SleeveBExecutionAllocatorConfig.onGrid_of_allocate (hsame ▸ hstep) hallocate haccepted
  rw [hnormalized]
  change floored intent.quantity given.stepSize = allocation.quantity
  rw [hintent, hsame, ExactDecimals.floored_eq]
  exact truncateTo_of_onGrid (hsame ▸ hstep) hgrid

-- While entries are allowed an entry that is routed is submitted and stored.
theorem route_entered (hgrid : loop.exchange.KeepsGrid reached tick step) {intent : OrderIntent}
    (haction : intent.action = .entry) {world after : World σ} (hreached : reached world.outside)
    (hsafe : world.safeMode.allowsNewEntries = true) {result : RouteResult}
    (h : loop.router.route intent world = (.ok result, after)) :
    reached after.outside ∧ after.safeMode = world.safeMode ∧ result.accepted = true ∧
      ∃ given normalized now reply, given.stepSize = step intent.symbol ∧ 0 < given.tickSize ∧
        0 < given.stepSize ∧ normalizeOrderIntent intent given = .ok normalized ∧
        after.calls = world.calls ++ [.getSymbolFilters intent.symbol,
          .submitOrder (OrderRouter.submittedOrder normalized now), .upsertOrder reply] := by
  have hrouted := OrderRouter.route_routed loop.router.router intent world
  generalize hresult : loop.router.router.route intent world = routed at hrouted
  obtain ⟨outcome, final⟩ := routed
  cases hrouted with
  | blocked _ hblocked => cases hsafe.symm.trans hblocked
  | notReduceOnly hclose _ => exact absurd haction hclose
  | noFilters _ exc outside _ =>
    rw [PersistentOrderRouter.route_of_error hresult] at h
    cases h
  | filtered _ given outside _ exc _ =>
    rw [PersistentOrderRouter.route_of_error hresult] at h
    cases h
  | signalOnly _ _ _ _ _ _ hmode => cases hmode
  | submitRaised _ given outside _ normalized _ _ exc _ _ =>
    rw [PersistentOrderRouter.route_of_error hresult] at h
    cases h
  | submitted _ given outside hfilters normalized hnormal _ reply state hsubmit =>
    rw [PersistentOrderRouter.route_of_submitted hresult] at h
    cases h
    have hfirst := hgrid.filters intent.symbol world.outside hreached
    have hsame := hgrid.grid intent.symbol world.outside given hreached
    have hsecond := hgrid.submit (OrderRouter.submittedOrder normalized (loop.now outside)) outside
    change loop.exchange.getSymbolFilters intent.symbol world.outside = _ at hfilters
    change loop.exchange.submitOrder (OrderRouter.submittedOrder normalized (loop.now outside)) outside = _
      at hsubmit
    rw [hfilters] at hfirst hsame
    rw [hsubmit] at hsecond
    obtain ⟨htick, hstep, htickPos, hstepPos⟩ := hsame rfl
    refine ⟨hsecond hfirst, rfl, rfl, given, normalized, loop.now outside, reply, hstep, ?_, ?_, hnormal, ?_⟩
    · rw [htick]
      exact htickPos
    · rw [hstep]
      exact hstepPos
    · simp [World.after]
      rfl

theorem handed_of_normalized {candidate : SleeveBSignalCandidate} {allocation : SleeveBAllocationDecision}
    {given : SymbolFilters} {normalized : OrderIntent} {result : RouteResult} {now : DateTime}
    (haccepted : allocation.accepted = true) (hquantity : normalized.quantity = allocation.quantity)
    (hnormal : normalizeOrderIntent (loop.config.allocationToIntent candidate allocation) given =
      .ok normalized) :
    Handed (candidate, ⟨candidate.symbol, result.accepted, allocation, some result, result.reason⟩)
      (OrderRouter.submittedOrder normalized now) := by
  have hkeeps := normalizeOrderIntent_keeps hnormal
  have hside : normalized.side = if candidate.side = .long then .buy else .sell :=
    congrArg OrderIntent.side hkeeps
  refine ⟨haccepted, hquantity, congrArg OrderIntent.symbol hkeeps, congrArg OrderIntent.setupId hkeeps,
    ?_, congrArg OrderIntent.action hkeeps, congrArg OrderIntent.orderType hkeeps⟩
  change normalized.side = .buy ↔ candidate.side = .long
  rw [hside]
  cases candidate.side <;> decide

theorem considerCandidate_settled (hgrid : loop.exchange.KeepsGrid reached tick step)
    {account : AccountSnapshotV3} {allPositions : List ExchangePositionSnapshot} {submitted : ℤ}
    {candidate : SleeveBSignalCandidate} {world after : World σ} {decision : SleeveBAutoLoopDecision}
    (hreached : reached world.outside)
    (h : loop.considerCandidate account allPositions submitted candidate world = (.ok decision, after)) :
    reached after.outside ∧ after.safeMode = world.safeMode ∧ decision.symbol = candidate.symbol ∧
      ∃ calls, after.calls = world.calls ++ calls ∧
        Settled loop submitted candidate world.safeMode decision calls := by
  unfold considerCandidate at h
  rw [Program.get_bind] at h
  by_cases hfull : loop.config.maxNewOrdersPerRun ≤ submitted
  · rw [if_pos hfull] at h
    cases h
    exact ⟨hreached, rfl, rfl, [], by simp, .refused _ rfl rfl rfl⟩
  rw [if_neg hfull] at h
  cases hsafe : world.safeMode.allowsNewEntries with
  | false =>
    rw [hsafe] at h
    cases h
    exact ⟨hreached, rfl, rfl, [], by simp, .refused _ rfl rfl rfl⟩
  | true =>
    rw [hsafe, Bool.not_true, if_neg Bool.false_ne_true] at h
    cases hfirst : loop.exchange.getSymbolFilters candidate.symbol world.outside with
    | mk answer first =>
      have hreached' : reached first := by
        have hkept := hgrid.filters candidate.symbol world.outside hreached
        rw [hfirst] at hkept
        exact hkept
      cases answer with
      | error exc =>
        rw [Program.bind_of_error (remote_of_eq hfirst)] at h
        cases h
      | ok filters =>
        rw [Program.bind_of_ok (remote_of_eq hfirst)] at h
        cases hallocate : loop.allocator.allocate candidate account allPositions filters with
        | error exc =>
          rw [hallocate, Program.ofExcept_error_bind] at h
          cases h
        | ok allocation =>
          rw [hallocate, Program.ofExcept_ok_bind] at h
          cases haccepted : allocation.accepted with
          | false =>
            rw [haccepted] at h
            cases h
            exact ⟨hreached', rfl, rfl, [.getSymbolFilters candidate.symbol], rfl, .refused _ rfl rfl rfl⟩
          | true =>
            rw [haccepted, Bool.not_true, if_neg Bool.false_ne_true] at h
            obtain ⟨result, final, hroute, hreturn⟩ := Program.bind_eq_ok.mp h
            cases hreturn
            have hopen : (world.after (.getSymbolFilters candidate.symbol) first).safeMode.allowsNewEntries =
              true := hsafe
            obtain ⟨hfinal, hsafe', hresult, given, normalized, now, reply, hstep, htickPos, hstepPos,
              hnormal, hcalls⟩ := route_entered hgrid rfl hreached' hopen hroute
            have hsame := (hgrid.grid candidate.symbol world.outside filters hreached
              (congrArg Prod.fst hfirst)).2.1
            have hquantity := normalized_quantity hallocate haccepted (hstep.trans hsame.symm) htickPos
              hstepPos rfl hnormal
            refine ⟨hfinal, hsafe', rfl, _, hcalls.trans (List.append_assoc ..), ?_⟩
            exact .entered _ hresult (not_le.mp hfull) hsafe _ reply rfl rfl
              (handed_of_normalized haccepted hquantity hnormal)

-- What a run over candidates comes to, with `submitted` orders sent before it.
structure Accounted (loop : SleeveBAutoTestnetLoop σ) (submitted : ℤ)
    (candidates : List SleeveBSignalCandidate) (safeMode : SafeModeController)
    (decisions : List SleeveBAutoLoopDecision) (total : ℤ) (calls : List Call) : Prop where
  inOrder : List.Forall₂ (fun candidate decision => decision.symbol = candidate.symbol) candidates decisions
  accepted : (decisions.filter (·.accepted)).length = (sentOrders calls).length
  written : (writtenOrders calls).length = (sentOrders calls).length
  counted : total = submitted + (sentOrders calls).length
  handed : List.Forall₂ Handed
    ((candidates.zip decisions).filter fun taken => taken.2.accepted) (sentOrders calls)
  room : sentOrders calls ≠ [] → total ≤ loop.config.maxNewOrdersPerRun
  blocked : safeMode.allowsNewEntries = false → sentOrders calls = []

theorem accounted_nil (loop : SleeveBAutoTestnetLoop σ) (submitted : ℤ) (safeMode : SafeModeController) :
    Accounted loop submitted [] safeMode [] submitted [] where
  inOrder := .nil
  accepted := rfl
  written := rfl
  counted := by simp [sentOrders]
  handed := .nil
  room h := absurd rfl h
  blocked _ := rfl

-- A candidate in front adds its decision and its calls; where it is accepted the others
-- start with one order more.
theorem accounted_cons {submitted total : ℤ} {candidate : SleeveBSignalCandidate}
    {candidates : List SleeveBSignalCandidate} {safeMode : SafeModeController}
    {decision : SleeveBAutoLoopDecision} {decisions : List SleeveBAutoLoopDecision} {calls more : List Call}
    (hsymbol : decision.symbol = candidate.symbol)
    (hsettled : Settled loop submitted candidate safeMode decision calls)
    (hrest : Accounted loop (if decision.accepted then submitted + 1 else submitted) candidates safeMode
      decisions total more) :
    Accounted loop submitted (candidate :: candidates) safeMode (decision :: decisions) total
      (calls ++ more) := by
  have hinOrder : List.Forall₂ (fun candidate decision => decision.symbol = candidate.symbol)
      (candidate :: candidates) (decision :: decisions) := .cons hsymbol hrest.inOrder
  cases hsettled with
  | refused haccepted hsent hwritten =>
    have hcounted := hrest.counted
    rw [haccepted, if_neg Bool.false_ne_true] at hcounted
    refine ⟨hinOrder, ?_, ?_, ?_, ?_, ?_, ?_⟩
    · rw [sentOrders_append, hsent, List.filter_cons, haccepted]
      exact hrest.accepted
    · rw [sentOrders_append, writtenOrders_append, hsent, hwritten]
      exact hrest.written
    · rw [sentOrders_append, hsent]
      exact hcounted
    · rw [sentOrders_append, hsent, List.zip_cons_cons, List.filter_cons, haccepted]
      exact hrest.handed
    · rw [sentOrders_append, hsent]
      exact hrest.room
    · rw [sentOrders_append, hsent]
      exact hrest.blocked
  | entered haccepted hroom hsafe order reply hsent hwritten hhanded =>
    have hcounted := hrest.counted
    rw [haccepted, if_pos rfl] at hcounted
    refine ⟨hinOrder, ?_, ?_, ?_, ?_, ?_, ?_⟩
    · rw [sentOrders_append, hsent, List.filter_cons, haccepted, if_pos rfl, List.length_cons,
        hrest.accepted, List.length_append, List.length_singleton, Nat.add_comm]
    · rw [sentOrders_append, writtenOrders_append, hsent, hwritten, List.length_append, hrest.written,
        List.length_append, List.length_singleton, List.length_singleton]
    · rw [sentOrders_append, hsent, List.length_append, List.length_singleton]
      push_cast
      omega
    · rw [sentOrders_append, hsent, List.zip_cons_cons, List.filter_cons, haccepted, if_pos rfl]
      exact .cons hhanded hrest.handed
    · intro _
      by_cases hnone : sentOrders more = []
      · rw [hnone, List.length_nil] at hcounted
        omega
      · exact hrest.room hnone
    · intro hblocked
      cases hblocked.symm.trans hsafe

theorem considerCandidates_accounted (hgrid : loop.exchange.KeepsGrid reached tick step)
    {account : AccountSnapshotV3} {allPositions : List ExchangePositionSnapshot} {submitted total : ℤ}
    {candidates : List SleeveBSignalCandidate} {world after : World σ}
    {decisions : List SleeveBAutoLoopDecision} (hreached : reached world.outside)
    (h : loop.considerCandidates account allPositions submitted candidates world =
      (.ok (decisions, total), after)) :
    ∃ calls, after.calls = world.calls ++ calls ∧
      Accounted loop submitted candidates world.safeMode decisions total calls := by
  induction candidates generalizing submitted world decisions with
  | nil =>
    cases h
    exact ⟨[], (List.append_nil _).symm, accounted_nil loop _ _⟩
  | cons candidate candidates ih =>
    obtain ⟨decision, middle, hdecision, h⟩ := Program.bind_eq_ok.mp h
    obtain ⟨⟨rest, total⟩, final, hrest, h⟩ := Program.bind_eq_ok.mp h
    cases h
    obtain ⟨hmiddle, hsafe, hsymbol, calls, hcalls, hsettled⟩ :=
      considerCandidate_settled hgrid hreached hdecision
    obtain ⟨more, hmore, haccounted⟩ := ih hmiddle hrest
    rw [hsafe] at haccounted
    refine ⟨calls ++ more, ?_, accounted_cons hsymbol hsettled haccounted⟩
    rw [hmore, hcalls, List.append_assoc]

-- Calls that neither submit nor store do not count.
theorem Accounted.prepend {submitted total : ℤ} {candidates : List SleeveBSignalCandidate}
    {safeMode : SafeModeController} {decisions : List SleeveBAutoLoopDecision} {calls reads : List Call}
    (hsent : sentOrders reads = []) (hwritten : writtenOrders reads = [])
    (h : Accounted loop submitted candidates safeMode decisions total calls) :
    Accounted loop submitted candidates safeMode decisions total (reads ++ calls) := by
  have hsame : sentOrders (reads ++ calls) = sentOrders calls := by
    rw [sentOrders_append, hsent, List.nil_append]
  have hsame' : writtenOrders (reads ++ calls) = writtenOrders calls := by
    rw [writtenOrders_append, hwritten, List.nil_append]
  obtain ⟨h1, h2, h3, h4, h5, h6, h7⟩ := h
  rw [← hsame] at h2 h3 h4 h5 h6 h7
  rw [← hsame'] at h3
  exact ⟨h1, h2, h3, h4, h5, h6, h7⟩

theorem accounted_skip (loop : SleeveBAutoTestnetLoop σ) (candidates : List SleeveBSignalCandidate)
    (safeMode : SafeModeController) (reason : Reason) :
    Accounted loop 0 candidates safeMode (candidates.map (loop.skip · reason)) 0 [] := by
  induction candidates with
  | nil => exact accounted_nil loop 0 safeMode
  | cons candidate candidates ih =>
    have hskipped : Settled loop 0 candidate safeMode (loop.skip candidate reason) [] := .refused _ rfl rfl rfl
    exact accounted_cons rfl hskipped ih

theorem runOnce_accounted (hgrid : loop.exchange.KeepsGrid reached tick step)
    {candidates : List SleeveBSignalCandidate} {world after : World σ} (hreached : reached world.outside)
    {result : SleeveBAutoLoopRunResult} (h : loop.runOnce candidates world = (.ok result, after)) :
    ∃ calls, after.calls = world.calls ++ calls ∧
      Accounted loop 0 candidates world.safeMode result.decisions result.submittedOrders calls ∧
      (loop.config.requireAck = false → calls = [] ∧ after.orders = world.orders) := by
  unfold runOnce at h
  rw [Program.get_bind] at h
  cases hack : loop.config.requireAck with
  | false =>
    rw [hack] at h
    cases h
    exact ⟨[], (List.append_nil _).symm, accounted_skip loop candidates world.safeMode .ackRequired,
      fun _ => ⟨rfl, rfl⟩⟩
  | true =>
    rw [hack, Bool.not_true, if_neg Bool.false_ne_true] at h
    obtain ⟨account, first, haccount, h⟩ := Program.bind_eq_ok.mp h
    obtain ⟨allPositions, second, hpositions, h⟩ := Program.bind_eq_ok.mp h
    obtain ⟨⟨decisions, total⟩, final, hrun, h⟩ := Program.bind_eq_ok.mp h
    cases h
    have hfirst : first = world.after .fetchAccountSnapshot
        (loop.exchange.fetchAccountSnapshot world.outside).2 := (congrArg Prod.snd haccount).symm
    have hsecond : second = first.after (.fetchPositionSnapshots none)
        (loop.exchange.fetchPositionSnapshots none first.outside).2 := (congrArg Prod.snd hpositions).symm
    have hreached' : reached second.outside := by
      rw [hsecond, hfirst]
      exact hgrid.positions _ (hgrid.account _ hreached)
    obtain ⟨calls, hcalls, haccounted⟩ := considerCandidates_accounted hgrid hreached' hrun
    have hsafe : second.safeMode = world.safeMode := by
      rw [hsecond, hfirst]
      rfl
    rw [hsafe] at haccounted
    refine ⟨[.fetchAccountSnapshot, .fetchPositionSnapshots none] ++ calls, ?_, haccounted.prepend rfl rfl, ?_⟩
    · rw [hcalls, hsecond, hfirst]
      simp
    · intro hfalse
      cases hfalse

-- What a run that returns decided, counted and called in exact arithmetic, on any exchange
-- that keeps its grid.
theorem runOnce_accounts (loop : SleeveBAutoTestnetLoop σ) (reached : σ → Prop) (tick step : String → ℚ)
    (hgrid : loop.exchange.KeepsGrid reached tick step) (candidates : List SleeveBSignalCandidate)
    (world after : World σ) (hreached : reached world.outside) (result : SleeveBAutoLoopRunResult)
    (h : loop.runOnce candidates world = (.ok result, after)) :
    ∃ calls, after.calls = world.calls ++ calls ∧
      List.Forall₂ (fun candidate decision => decision.symbol = candidate.symbol) candidates
        result.decisions ∧
      result.submittedOrders = (result.decisions.filter (·.accepted)).length ∧
      result.submittedOrders = (sentOrders calls).length ∧
      result.submittedOrders = (writtenOrders calls).length ∧
      result.submittedOrders ≤ max 0 loop.config.maxNewOrdersPerRun ∧
      List.Forall₂ Handed
        ((candidates.zip result.decisions).filter fun taken => taken.2.accepted) (sentOrders calls) ∧
      (loop.config.requireAck = false → calls = [] ∧ after.orders = world.orders) ∧
      (world.safeMode.state = .safeMode → sentOrders calls = []) := by
  obtain ⟨calls, hcalls, haccounted, hack⟩ := runOnce_accounted hgrid hreached h
  have hcounted : result.submittedOrders = (sentOrders calls).length :=
    haccounted.counted.trans (zero_add _)
  refine ⟨calls, hcalls, haccounted.inOrder, ?_, hcounted, ?_, ?_, haccounted.handed, hack, ?_⟩
  · rw [haccounted.accepted]
    exact hcounted
  · rw [haccounted.written]
    exact hcounted
  · by_cases hnone : sentOrders calls = []
    · rw [hcounted, hnone]
      exact le_max_left _ _
    · exact (haccounted.room hnone).trans (le_max_right _ _)
  · intro hsafe
    have hblocked : world.safeMode.allowsNewEntries = false := by
      unfold SafeModeController.allowsNewEntries
      rw [hsafe]
      rfl
    exact haccounted.blocked hblocked

theorem sampleMarket_keepsGrid :
    Market.exchange.KeepsGrid (fun market => market.answers = sampleAnswers) (fun _ => 1 / 10)
      (fun _ => 1 / 1000) where
  account _ h := h
  positions _ h := h
  filters _ _ h := h
  submit _ _ h := h
  grid symbol state filters h hfilters := by
    change state.answers.filters symbol = .ok filters at hfilters
    rw [h] at hfilters
    cases hfilters
    exact ⟨rfl, rfl, by norm_num, by norm_num⟩

-- One order of two is allowed: the first candidate is entered and the second skipped.
theorem runOnce_accounts_sample :
    ∃ result after, (Market.loop {} { requireAck := true }).runOnce
        [sampleCandidate "BTCUSDT", sampleCandidate "ETHUSDT"] sampleMarket = (.ok result, after) ∧
      result.decisions.map (·.accepted) = [true, false] ∧ result.submittedOrders = 1 ∧
      result.submittedOrders = (sentOrders after.calls).length ∧
      result.submittedOrders = (writtenOrders after.calls).length := by
  cases hrun : (Market.loop {} { requireAck := true }).runOnce
      [sampleCandidate "BTCUSDT", sampleCandidate "ETHUSDT"] sampleMarket with
  | mk outcome after =>
    have hreturned : ((Market.loop {} { requireAck := true }).runOnce
        [sampleCandidate "BTCUSDT", sampleCandidate "ETHUSDT"] sampleMarket).1.map
          (fun result => (result.decisions.map (·.accepted), result.submittedOrders)) =
        .ok ([true, false], 1) := by
      decide +kernel
    rw [hrun] at hreturned
    obtain ⟨result, rfl, hresult⟩ := Raise.map_eq_ok.mp hreturned
    obtain ⟨hdecisions, hsubmitted⟩ := Prod.mk.inj hresult
    obtain ⟨calls, hcalls, _, _, hsent, hwritten, _⟩ := runOnce_accounts (Market.loop {} { requireAck := true })
      (fun market => market.answers = sampleAnswers) (fun _ => 1 / 10) (fun _ => 1 / 1000)
      sampleMarket_keepsGrid _ sampleMarket after rfl result hrun
    have hmade : after.calls = calls := hcalls
    rw [← hmade] at hsent hwritten
    exact ⟨result, after, rfl, hdecisions, hsubmitted, hsent, hwritten⟩

end Exact

section Rounding

open scoped DefaultContext

-- Seven steps are rounded down to ten units, which then hold six steps only.
def shrinkingStep : ℚ := 1428571428571428571428571429 / 10 ^ 27

def shrinkingAnswers : Answers where
  account := ⟨2100, 0, 2100, 2100⟩
  positions := []
  filters symbol := .ok ⟨symbol, 1 / 10, shrinkingStep, 50⟩

def shrinkingMarket : World Market := { outside := { answers := shrinkingAnswers, now := sampleClock } }

def shrinkingCandidate : SleeveBSignalCandidate := ⟨"BTCUSDT", .short, 10, 11, "auto-breakdown"⟩

theorem shrinkingMarket_keepsGrid :
    Market.exchange.KeepsGrid (fun market => market.answers = shrinkingAnswers) (fun _ => 1 / 10)
      (fun _ => shrinkingStep) where
  account _ h := h
  positions _ h := h
  filters _ _ h := h
  submit _ _ h := h
  grid symbol state filters h hfilters := by
    change state.answers.filters symbol = .ok filters at hfilters
    rw [h] at hfilters
    cases hfilters
    exact ⟨rfl, rfl, by norm_num, by decide +kernel⟩

theorem runOnce_sends_less_than_allocated :
    Market.exchange.KeepsGrid (fun market => market.answers = shrinkingAnswers) (fun _ => 1 / 10)
        (fun _ => shrinkingStep) ∧
      ∃ result after, (Market.loop {} { requireAck := true }).runOnce [shrinkingCandidate] shrinkingMarket =
          (.ok result, after) ∧
        ¬List.Forall₂ Handed (([shrinkingCandidate].zip result.decisions).filter fun taken => taken.2.accepted)
          (sentOrders after.calls) := by
  refine ⟨shrinkingMarket_keepsGrid, ?_⟩
  cases hrun : (Market.loop {} { requireAck := true }).runOnce [shrinkingCandidate] shrinkingMarket with
  | mk outcome after =>
    have hallocated : ((Market.loop {} { requireAck := true }).runOnce [shrinkingCandidate]
        shrinkingMarket).1.map (fun result => result.decisions.map fun decision =>
          (decision.accepted, decision.allocation.quantity)) = .ok [(true, 10)] := by
      decide +kernel
    have hsent : (sentOrders ((Market.loop {} { requireAck := true }).runOnce [shrinkingCandidate]
        shrinkingMarket).2.calls).map (·.intent.quantity) = [6 * shrinkingStep] := by
      decide +kernel
    rw [hrun] at hallocated hsent
    obtain ⟨result, rfl, hdecisions⟩ := Raise.map_eq_ok.mp hallocated
    obtain ⟨decision, hdecision, hshape⟩ := List.map_eq_singleton_iff.mp hdecisions
    obtain ⟨order, horder, hquantity⟩ := List.map_eq_singleton_iff.mp hsent
    obtain ⟨haccepted, hten⟩ := Prod.mk.inj hshape
    refine ⟨result, after, rfl, ?_⟩
    intro hhanded
    rw [hdecision, horder, List.zip_cons_cons, List.filter_cons, haccepted, if_pos rfl] at hhanded
    cases hhanded with
    | cons hfirst _ =>
      have hsame := hfirst.quantity
      rw [hquantity] at hsame
      exact absurd (hsame.trans hten) (by decide +kernel)

end Rounding

end SleeveBAutoTestnetLoop

end DualSleeve

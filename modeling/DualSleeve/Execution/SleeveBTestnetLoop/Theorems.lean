import DualSleeve.Execution.SleeveBAllocator.Theorems
import DualSleeve.Execution.SleeveBTestnetLoop

namespace DualSleeve

open Library

variable {σ γ : Type}

-- What the exchange answers to the reads of one run.
structure Answers where
  account : AccountSnapshotV3
  positions : List ExchangePositionSnapshot
  filters : String → Except PyError SymbolFilters

-- Reads keep what `view` shows of the exchange, and are answered from it.
structure SleeveBLoopExchange.Steady (exchange : SleeveBLoopExchange σ) (view : σ → γ)
    (answers : γ → Answers) : Prop where
  account : ∀ state, ∃ next, exchange.fetchAccountSnapshot state =
    (.ok (answers (view state)).account, next) ∧ view next = view state
  positions : ∀ state, ∃ next, exchange.fetchPositionSnapshots none state =
    (.ok (answers (view state)).positions, next) ∧ view next = view state
  filters : ∀ symbol state, ∃ next, exchange.getSymbolFilters symbol state =
    ((answers (view state)).filters symbol, next) ∧ view next = view state

-- An order the run sends: its symbol, its allocation and its normalised intent.
structure Entry where
  symbol : String
  allocation : SleeveBAllocationDecision
  normalized : OrderIntent

-- What an accepted decision and its entry have in common.
def SleeveBAutoLoopDecision.allocated (decision : SleeveBAutoLoopDecision) :
    String × SleeveBAllocationDecision :=
  (decision.symbol, decision.allocation)

def Entry.allocated (entry : Entry) : String × SleeveBAllocationDecision :=
  (entry.symbol, entry.allocation)

namespace SleeveBAutoTestnetLoop

variable {loop : SleeveBAutoTestnetLoop σ}

def room (loop : SleeveBAutoTestnetLoop σ) (submitted : ℤ) : ℕ := (loop.config.maxNewOrdersPerRun - submitted).toNat

theorem room_of_le {submitted : ℤ} (h : loop.config.maxNewOrdersPerRun ≤ submitted) :
    loop.room submitted = 0 := by
  unfold room
  omega

theorem room_of_lt {submitted : ℤ} (h : submitted < loop.config.maxNewOrdersPerRun) :
    loop.room submitted = loop.room (submitted + 1) + 1 := by
  unfold room
  omega

-- A run follows its plan: where it returns, the accepted decisions are the planned
-- entries; where it raises, the plan ends so or `submit_order` raised.
structure Planned (loop : SleeveBAutoTestnetLoop σ) (planned : List Entry × Option PyError)
    (outcome : Except PyError (List SleeveBAutoLoopDecision × ℤ)) : Prop where
  returned : ∀ result, outcome = .ok result → planned.2 = none ∧
    (result.1.filter (·.accepted)).map (·.allocated) = planned.1.map (·.allocated)
  raised : ∀ exc, outcome = .error exc → planned.2 = some exc ∨
    ∃ order state, (loop.exchange.submitOrder order state).1 = .error exc

theorem Planned.of_error {planned : List Entry × Option PyError} {exc : PyError}
    (h : planned.2 = some exc ∨ ∃ order state, (loop.exchange.submitOrder order state).1 = .error exc) :
    Planned loop planned (.error exc) := by
  refine ⟨?_, ?_⟩
  · intro result hr
    cases hr
  · intro other ho
    cases ho
    exact h

-- A rejected candidate in front changes nothing of the plan.
theorem Planned.rejected {planned : List Entry × Option PyError}
    {outcome : Except PyError (List SleeveBAutoLoopDecision × ℤ)} (h : Planned loop planned outcome)
    {decision : SleeveBAutoLoopDecision} (hd : decision.accepted = false) :
    Planned loop planned (outcome.map fun rest => (decision :: rest.1, rest.2)) := by
  refine ⟨?_, ?_⟩
  · intro result hr
    obtain ⟨rest, hrest, rfl⟩ := Raise.map_eq_ok.mp hr
    have hn := h.returned rest hrest
    exact ⟨hn.1, by rw [List.filter_cons, hd]; exact hn.2⟩
  · intro exc he
    exact h.raised exc (Raise.map_eq_error.mp he)

theorem Planned.accepted {planned : List Entry × Option PyError}
    {outcome : Except PyError (List SleeveBAutoLoopDecision × ℤ)} (h : Planned loop planned outcome)
    {decision : SleeveBAutoLoopDecision} (hd : decision.accepted = true) {entry : Entry}
    (he : decision.allocated = entry.allocated) :
    Planned loop (entry :: planned.1, planned.2)
      (outcome.map fun rest => (decision :: rest.1, rest.2)) := by
  refine ⟨?_, ?_⟩
  · intro result hr
    obtain ⟨rest, hrest, rfl⟩ := Raise.map_eq_ok.mp hr
    have hn := h.returned rest hrest
    refine ⟨hn.1, ?_⟩
    rw [List.filter_cons, hd, if_pos rfl, List.map_cons, List.map_cons, hn.2, he]
  · intro exc hr
    exact h.raised exc (Raise.map_eq_error.mp hr)

variable [DecimalContext]

section Source

variable (loop)

-- What a candidate comes to before anything is submitted: an exception, a rejection,
-- or an entry.
def entry (answers : Answers) (candidate : SleeveBSignalCandidate) : Except PyError (Option Entry) := do
  let filters ← answers.filters candidate.symbol
  let allocation ← loop.allocator.allocate candidate answers.account answers.positions filters
  if !allocation.accepted then
    return none
  else
    let normalized ← normalizeOrderIntent (loop.config.allocationToIntent candidate allocation) filters
    return some ⟨candidate.symbol, allocation, normalized⟩

-- The entries of a run with `room` orders left, and the exception that ends it early.
def plan (answers : Answers) : ℕ → List SleeveBSignalCandidate → List Entry × Option PyError
  | _, [] => ([], none)
  | 0, _ :: _ => ([], none)
  | room + 1, candidate :: candidates =>
      match loop.entry answers candidate with
      | .error exc => ([], some exc)
      | .ok none => plan answers (room + 1) candidates
      | .ok (some entry) =>
          let rest := plan answers room candidates
          (entry :: rest.1, rest.2)

-- Everything the body of the loop can do while there is room and no safe mode.
inductive Considered (view : σ → γ) (answers : γ → Answers) (world : World σ)
    (candidate : SleeveBSignalCandidate) : Except PyError SleeveBAutoLoopDecision → World σ → Prop
  | stopped (exc : PyError) (hentry : loop.entry (answers (view world.outside)) candidate = .error exc)
      (after : World σ) (hview : view after.outside = view world.outside)
      (hsafe : after.safeMode = world.safeMode) :
      Considered view answers world candidate (.error exc) after
  | declined (hentry : loop.entry (answers (view world.outside)) candidate = .ok none)
      (decision : SleeveBAutoLoopDecision) (hdecision : decision.accepted = false)
      (after : World σ) (hview : view after.outside = view world.outside)
      (hsafe : after.safeMode = world.safeMode) :
      Considered view answers world candidate (.ok decision) after
  | submitRaised (entry : Entry)
      (hentry : loop.entry (answers (view world.outside)) candidate = .ok (some entry))
      (order : OrderRecord) (horder : order.intent = entry.normalized)
      (before : σ) (hview : view before = view world.outside) (exc : PyError) (after : World σ)
      (hsubmit : loop.exchange.submitOrder order before = (.error exc, after.outside))
      (hsafe : after.safeMode = world.safeMode) :
      Considered view answers world candidate (.error exc) after
  | entered (entry : Entry)
      (hentry : loop.entry (answers (view world.outside)) candidate = .ok (some entry))
      (order : OrderRecord) (horder : order.intent = entry.normalized)
      (before : σ) (hview : view before = view world.outside) (reply : OrderRecord) (after : World σ)
      (hsubmit : loop.exchange.submitOrder order before = (.ok reply, after.outside))
      (hsafe : after.safeMode = world.safeMode)
      (decision : SleeveBAutoLoopDecision) (hdecision : decision.accepted = true)
      (hallocated : decision.allocated = entry.allocated) :
      Considered view answers world candidate (.ok decision) after

end Source

variable {view : σ → γ} {answers : γ → Answers}

theorem entry_of_filters_error {given : Answers} {candidate : SleeveBSignalCandidate} {exc : PyError}
    (hf : given.filters candidate.symbol = .error exc) : loop.entry given candidate = .error exc := by
  rw [entry, hf, Raise.error_bind]

theorem entry_of_filters {given : Answers} {candidate : SleeveBSignalCandidate} {filters : SymbolFilters}
    (hf : given.filters candidate.symbol = .ok filters) :
    loop.entry given candidate =
      (loop.allocator.allocate candidate given.account given.positions filters >>= fun allocation =>
        if !allocation.accepted then return none
        else
          normalizeOrderIntent (loop.config.allocationToIntent candidate allocation) filters >>=
            fun normalized => return some ⟨candidate.symbol, allocation, normalized⟩) := by
  rw [entry, hf, Raise.ok_bind]

theorem considerCandidate_considered (hsteady : loop.exchange.Steady view answers)
    {world : World σ} (hsafe : world.safeMode.allowsNewEntries = true) {submitted : ℤ}
    (hroom : submitted < loop.config.maxNewOrdersPerRun) (candidate : SleeveBSignalCandidate) :
    Considered loop view answers world candidate
      (loop.considerCandidate (answers (view world.outside)).account
        (answers (view world.outside)).positions submitted candidate world).1
      (loop.considerCandidate (answers (view world.outside)).account
        (answers (view world.outside)).positions submitted candidate world).2 := by
  unfold considerCandidate
  rw [Program.get_bind, if_neg (not_le.mpr hroom), hsafe, Bool.not_true, if_neg Bool.false_ne_true]
  obtain ⟨first, hfirst, hview⟩ := hsteady.filters candidate.symbol world.outside
  cases hf : (answers (view world.outside)).filters candidate.symbol with
  | error exc =>
    rw [hf] at hfirst
    rw [Program.bind_of_error (remote_of_eq hfirst)]
    exact .stopped exc (entry_of_filters_error hf) _ hview rfl
  | ok filters =>
    rw [hf] at hfirst
    rw [Program.bind_of_ok (remote_of_eq hfirst)]
    cases ha : loop.allocator.allocate candidate (answers (view world.outside)).account
        (answers (view world.outside)).positions filters with
    | error exc =>
      rw [Program.ofExcept_error_bind]
      exact .stopped exc (by rw [entry_of_filters hf, ha, Raise.error_bind]) _ hview rfl
    | ok allocation =>
      rw [Program.ofExcept_ok_bind]
      have hentry : loop.entry (answers (view world.outside)) candidate = _ := entry_of_filters hf
      rw [ha, Raise.ok_bind] at hentry
      cases haccepted : allocation.accepted with
      | false =>
        rw [haccepted] at hentry
        exact .declined hentry _ rfl _ hview rfl
      | true =>
        rw [haccepted, Bool.not_true, if_neg Bool.false_ne_true] at hentry
        rw [Bool.not_true, if_neg Bool.false_ne_true]
        have hrouted := OrderRouter.route_routed loop.router.router
          (loop.config.allocationToIntent candidate allocation)
          (world.after (.getSymbolFilters candidate.symbol) first)
        generalize hresult : loop.router.router.route (loop.config.allocationToIntent candidate allocation)
          (world.after (.getSymbolFilters candidate.symbol) first) = result at hrouted
        obtain ⟨outcome, after⟩ := result
        -- the router reads the same filters again
        obtain ⟨second, hsecond, hview'⟩ := hsteady.filters candidate.symbol first
        rw [hview, hf] at hsecond
        cases hrouted with
        | blocked _ hblocked => cases hsafe.symm.trans hblocked
        | notReduceOnly hclose _ => exact absurd rfl hclose
        | noFilters _ exc outside hfilters => cases (Prod.mk.inj (hsecond.symm.trans hfilters)).1
        | filtered _ given outside hfilters exc hnormal =>
          obtain ⟨he, rfl⟩ := Prod.mk.inj (hsecond.symm.trans hfilters)
          cases he
          rw [Program.bind_of_error (PersistentOrderRouter.route_of_error hresult)]
          rw [hnormal, Raise.error_bind] at hentry
          exact .stopped exc hentry _ (hview'.trans hview) rfl
        | signalOnly _ _ _ _ _ _ hmode => cases hmode
        | submitRaised _ given outside hfilters normalized hnormal _ exc final hsubmit =>
          obtain ⟨he, rfl⟩ := Prod.mk.inj (hsecond.symm.trans hfilters)
          cases he
          rw [Program.bind_of_error (PersistentOrderRouter.route_of_error hresult)]
          rw [hnormal, Raise.ok_bind] at hentry
          exact .submitRaised _ hentry _ rfl second (hview'.trans hview) exc _ hsubmit rfl
        | submitted _ given outside hfilters normalized hnormal _ order final hsubmit =>
          obtain ⟨he, rfl⟩ := Prod.mk.inj (hsecond.symm.trans hfilters)
          cases he
          rw [Program.bind_of_ok (PersistentOrderRouter.route_of_submitted hresult)]
          rw [hnormal, Raise.ok_bind] at hentry
          refine .entered _ hentry (OrderRouter.submittedOrder normalized (loop.now second)) rfl second
            (hview'.trans hview) order _ ?_ ?_ _ ?_ ?_
          · exact hsubmit
          · rfl
          · rfl
          · rfl

theorem considerCandidate_of_full {account : AccountSnapshotV3}
    {allPositions : List ExchangePositionSnapshot} {submitted : ℤ}
    (h : loop.config.maxNewOrdersPerRun ≤ submitted) (candidate : SleeveBSignalCandidate)
    (world : World σ) :
    loop.considerCandidate account allPositions submitted candidate world =
      (.ok (loop.skip candidate .maxNewOrdersPerRunReached), world) := by
  unfold considerCandidate
  rw [Program.get_bind, if_pos h, Program.pure_apply]

theorem considerCandidates_of_error {account : AccountSnapshotV3}
    {allPositions : List ExchangePositionSnapshot} {submitted : ℤ} {candidate : SleeveBSignalCandidate}
    {candidates : List SleeveBSignalCandidate} {world after : World σ} {exc : PyError}
    (h : loop.considerCandidate account allPositions submitted candidate world = (.error exc, after)) :
    loop.considerCandidates account allPositions submitted (candidate :: candidates) world =
      (.error exc, after) :=
  Program.bind_of_error h

-- After a decision the loop goes on with the other candidates, and adds the decision
-- in front of theirs.
theorem considerCandidates_of_ok {account : AccountSnapshotV3}
    {allPositions : List ExchangePositionSnapshot} {submitted : ℤ} {candidate : SleeveBSignalCandidate}
    {candidates : List SleeveBSignalCandidate} {world after : World σ} {decision : SleeveBAutoLoopDecision}
    (h : loop.considerCandidate account allPositions submitted candidate world = (.ok decision, after)) :
    loop.considerCandidates account allPositions submitted (candidate :: candidates) world =
      ((loop.considerCandidates account allPositions
          (if decision.accepted then submitted + 1 else submitted) candidates after).1.map
        fun rest => (decision :: rest.1, rest.2),
      (loop.considerCandidates account allPositions
        (if decision.accepted then submitted + 1 else submitted) candidates after).2) := by
  rw [considerCandidates, Program.bind_of_ok h, Program.bind_apply]
  cases loop.considerCandidates account allPositions
      (if decision.accepted then submitted + 1 else submitted) candidates after with
  | mk outcome final => cases outcome <;> rfl

@[simp] theorem plan_zero (given : Answers) (candidates : List SleeveBSignalCandidate) :
    loop.plan given 0 candidates = ([], none) := by
  cases candidates <;> rfl

theorem plan_of_error {given : Answers} {candidate : SleeveBSignalCandidate} {exc : PyError}
    (h : loop.entry given candidate = .error exc) (room : ℕ) (candidates : List SleeveBSignalCandidate) :
    loop.plan given (room + 1) (candidate :: candidates) = ([], some exc) := by
  rw [plan, h]

theorem plan_of_none {given : Answers} {candidate : SleeveBSignalCandidate}
    (h : loop.entry given candidate = .ok none) (room : ℕ) (candidates : List SleeveBSignalCandidate) :
    loop.plan given (room + 1) (candidate :: candidates) = loop.plan given (room + 1) candidates := by
  rw [plan, h]

theorem plan_of_some {given : Answers} {candidate : SleeveBSignalCandidate} {entry : Entry}
    (h : loop.entry given candidate = .ok (some entry)) (room : ℕ)
    (candidates : List SleeveBSignalCandidate) :
    loop.plan given (room + 1) (candidate :: candidates) =
      (entry :: (loop.plan given room candidates).1, (loop.plan given room candidates).2) := by
  rw [plan, h]

-- By induction on the candidates: a step keeps the answers and the safe mode.
theorem considerCandidates_planned (hsteady : loop.exchange.Steady view answers)
    (hkeeps : ∀ order state,
      answers (view (loop.exchange.submitOrder order state).2) = answers (view state))
    {world : World σ} (hsafe : world.safeMode.allowsNewEntries = true) (submitted : ℤ)
    (candidates : List SleeveBSignalCandidate) :
    Planned loop (loop.plan (answers (view world.outside)) (loop.room submitted) candidates)
      (loop.considerCandidates (answers (view world.outside)).account
        (answers (view world.outside)).positions submitted candidates world).1 := by
  induction candidates generalizing world submitted with
  | nil =>
    refine ⟨?_, ?_⟩
    · intro result hr
      cases hr
      exact ⟨by simp [plan], by simp [plan]⟩
    · intro exc he
      cases he
  | cons candidate candidates ih =>
    by_cases hfull : loop.config.maxNewOrdersPerRun ≤ submitted
    · have hrest := ih hsafe submitted
      rw [considerCandidates_of_ok (considerCandidate_of_full hfull candidate world)]
      rw [room_of_le hfull, plan_zero] at hrest ⊢
      exact hrest.rejected rfl
    have hroom := not_le.mp hfull
    have hc := considerCandidate_considered hsteady hsafe hroom candidate
    generalize hresult : loop.considerCandidate (answers (view world.outside)).account
      (answers (view world.outside)).positions submitted candidate world = result at hc
    obtain ⟨outcome, after⟩ := result
    rw [room_of_lt hroom]
    cases hc with
    | stopped exc hentry _ _ _ =>
      rw [considerCandidates_of_error hresult, plan_of_error hentry]
      exact .of_error (Or.inl rfl)
    | declined hentry decision hdecision _ hview hsafe' =>
      have hrest := ih (hsafe'.symm ▸ hsafe) submitted
      rw [hview, room_of_lt hroom] at hrest
      rw [considerCandidates_of_ok hresult, plan_of_none hentry, hdecision]
      exact hrest.rejected hdecision
    | submitRaised entry hentry order _ before _ exc _ hsubmit _ =>
      rw [considerCandidates_of_error hresult]
      exact .of_error (Or.inr ⟨order, before, by rw [hsubmit]⟩)
    | entered entry hentry order _ before hview reply _ hsubmit hsafe' decision hdecision hallocated =>
      have hrest := ih (hsafe'.symm ▸ hsafe) (submitted + 1)
      have hanswers : answers (view after.outside) = answers (view world.outside) := by
        have hk := hkeeps order before
        rwa [hsubmit, hview] at hk
      rw [hanswers] at hrest
      rw [considerCandidates_of_ok hresult, plan_of_some hentry, hdecision, if_pos rfl]
      exact hrest.accepted hdecision hallocated

-- With the ACK a run reads the account and the positions and goes over the candidates.
theorem runOnce_of_ack (hsteady : loop.exchange.Steady view answers)
    (hack : loop.config.requireAck = true) (candidates : List SleeveBSignalCandidate) (world : World σ) :
    ∃ start : World σ, view start.outside = view world.outside ∧ start.safeMode = world.safeMode ∧
      (loop.runOnce candidates world).2 = (loop.considerCandidates (answers (view world.outside)).account
        (answers (view world.outside)).positions 0 candidates start).2 ∧
      (loop.runOnce candidates world).1 = (loop.considerCandidates (answers (view world.outside)).account
        (answers (view world.outside)).positions 0 candidates start).1.map fun result =>
          ⟨result.1, result.2, !(loop.runOnce candidates world).2.safeMode.allowsNewEntries⟩ := by
  obtain ⟨first, hfirst, hview⟩ := hsteady.account world.outside
  obtain ⟨second, hsecond, hview'⟩ := hsteady.positions first
  rw [hview] at hsecond hview'
  refine ⟨(world.after .fetchAccountSnapshot first).after (.fetchPositionSnapshots none) second,
    hview', rfl, ?_⟩
  have hrun : loop.runOnce candidates world = (loop.considerCandidates
      (answers (view world.outside)).account (answers (view world.outside)).positions 0 candidates >>=
        fun result => Program.get >>= fun final => (pure
          ⟨result.1, result.2, !final.safeMode.allowsNewEntries⟩ : Action σ SleeveBAutoLoopRunResult))
      ((world.after .fetchAccountSnapshot first).after (.fetchPositionSnapshots none) second) := by
    unfold runOnce
    rw [Program.get_bind, hack, Bool.not_true, if_neg Bool.false_ne_true,
      Program.bind_of_ok (remote_of_eq hfirst), Program.bind_of_ok (remote_of_eq hsecond)]
  rw [hrun, Program.bind_apply]
  cases loop.considerCandidates (answers (view world.outside)).account
      (answers (view world.outside)).positions 0 candidates
      ((world.after .fetchAccountSnapshot first).after (.fetchPositionSnapshots none) second) with
  | mk outcome final => cases outcome <;> exact ⟨rfl, rfl⟩

-- What a run comes to: it returns the plan's entries, or raises what ends the plan, or
-- what `submit_order` raised.
theorem runOnce_planned (hsteady : loop.exchange.Steady view answers)
    (hkeeps : ∀ order state,
      answers (view (loop.exchange.submitOrder order state).2) = answers (view state))
    (hack : loop.config.requireAck = true) {world : World σ}
    (hsafe : world.safeMode.allowsNewEntries = true) (candidates : List SleeveBSignalCandidate) :
    Planned loop (loop.plan (answers (view world.outside)) loop.config.maxNewOrdersPerRun.toNat candidates)
      ((loop.runOnce candidates world).1.map fun result => (result.decisions, result.submittedOrders)) := by
  obtain ⟨start, hview, hsafe', _, hrun⟩ := runOnce_of_ack hsteady hack candidates world
  have hplanned := considerCandidates_planned hsteady hkeeps (hsafe'.symm ▸ hsafe) 0 candidates
  rw [hview, room, sub_zero] at hplanned
  rw [hrun]
  generalize loop.considerCandidates (answers (view world.outside)).account
    (answers (view world.outside)).positions 0 candidates start = result at hplanned
  obtain ⟨outcome, final⟩ := result
  cases outcome <;> exact hplanned

theorem considerCandidate_of_blocked {account : AccountSnapshotV3}
    {allPositions : List ExchangePositionSnapshot} {world : World σ}
    (hsafe : world.safeMode.allowsNewEntries = false) (submitted : ℤ) (candidate : SleeveBSignalCandidate) :
    ∃ reason, loop.considerCandidate account allPositions submitted candidate world =
      (.ok (loop.skip candidate reason), world) := by
  by_cases hfull : loop.config.maxNewOrdersPerRun ≤ submitted
  · exact ⟨_, considerCandidate_of_full hfull candidate world⟩
  · refine ⟨.safeModeBlocksNewEntries, ?_⟩
    unfold considerCandidate
    rw [Program.get_bind, if_neg hfull, hsafe, Bool.not_false, if_pos rfl, Program.pure_apply]

theorem considerCandidates_of_blocked {account : AccountSnapshotV3}
    {allPositions : List ExchangePositionSnapshot} {world : World σ}
    (hsafe : world.safeMode.allowsNewEntries = false) (submitted : ℤ)
    (candidates : List SleeveBSignalCandidate) :
    ∃ decisions, loop.considerCandidates account allPositions submitted candidates world =
      (.ok (decisions, submitted), world) ∧ decisions.filter (·.accepted) = [] := by
  induction candidates with
  | nil => exact ⟨[], rfl, rfl⟩
  | cons candidate candidates ih =>
    obtain ⟨reason, hc⟩ := considerCandidate_of_blocked hsafe submitted candidate
    obtain ⟨decisions, hrest, hnone⟩ := ih
    have hskip : (loop.skip candidate reason).accepted = false := rfl
    refine ⟨loop.skip candidate reason :: decisions, ?_, ?_⟩
    · rw [considerCandidates_of_ok hc, hskip, if_neg Bool.false_ne_true, hrest]
      rfl
    · rw [List.filter_cons, hskip, if_neg Bool.false_ne_true, hnone]

-- In safe mode a run returns, accepts nothing and sends nothing.
theorem runOnce_of_blocked (hsteady : loop.exchange.Steady view answers)
    (hack : loop.config.requireAck = true) {world : World σ}
    (hsafe : world.safeMode.allowsNewEntries = false) (candidates : List SleeveBSignalCandidate) :
    ∃ result, (loop.runOnce candidates world).1 = .ok result ∧
      result.decisions.filter (·.accepted) = [] ∧
      view (loop.runOnce candidates world).2.outside = view world.outside ∧
      (loop.runOnce candidates world).2.safeMode = world.safeMode := by
  obtain ⟨start, hview, hsafe', hafter, hrun⟩ := runOnce_of_ack hsteady hack candidates world
  have hblocked : start.safeMode.allowsNewEntries = false := hsafe'.symm ▸ hsafe
  obtain ⟨decisions, hc, hnone⟩ : ∃ decisions, loop.considerCandidates _ _ 0 candidates start =
    (.ok (decisions, 0), start) ∧ _ := considerCandidates_of_blocked hblocked 0 candidates
  rw [hc] at hrun hafter
  exact ⟨_, hrun, hnone, by rw [hafter, hview], by rw [hafter, hsafe']⟩

end SleeveBAutoTestnetLoop

end DualSleeve

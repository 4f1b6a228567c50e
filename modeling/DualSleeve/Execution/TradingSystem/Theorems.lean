import DualSleeve.Execution.SleeveBTestnetLoop.Theorems
import DualSleeve.Execution.TradingSystem

namespace DualSleeve

open Library

variable {σ α β : Type}

theorem filterMap_of_unchanged {view : Call → Option β}
    (hview : ∀ call, call.changesOrders = false → view call = none) {calls : List Call}
    (h : ∀ call ∈ calls, call.changesOrders = false) : calls.filterMap view = [] :=
  List.filterMap_eq_nil_iff.mpr fun call hcall => hview call (h call hcall)

theorem sentOrders_of_unchanged {calls : List Call} (h : ∀ call ∈ calls, call.changesOrders = false) :
    sentOrders calls = [] :=
  filterMap_of_unchanged (fun call hcall => by cases call <;> first | rfl | cases hcall) h

theorem writtenOrders_of_unchanged {calls : List Call} (h : ∀ call ∈ calls, call.changesOrders = false) :
    writtenOrders calls = [] :=
  filterMap_of_unchanged (fun call hcall => by cases call <;> first | rfl | cases hcall) h

theorem canceledIds_of_unchanged {calls : List Call} (h : ∀ call ∈ calls, call.changesOrders = false) :
    canceledIds calls = [] :=
  filterMap_of_unchanged (fun call hcall => by cases call <;> first | rfl | cases hcall) h

instance : IsPreorder (World σ) LeavesOrders where
  refl world := ⟨⟨[], by simp⟩, rfl, id⟩
  trans before between after first second := by
    obtain ⟨firstCalls, hfirst, hunchanged⟩ := first.calls
    obtain ⟨secondCalls, hsecond, hunchanged'⟩ := second.calls
    refine ⟨⟨firstCalls ++ secondCalls, by rw [hsecond, hfirst, List.append_assoc], ?_⟩,
      second.orders.trans first.orders, fun h => second.latch (first.latch h)⟩
    intro call hcall
    exact (List.mem_append.mp hcall).elim (hunchanged call) (hunchanged' call)

theorem CallsLawful.of_unchanged {before after : World σ} {calls : List Call}
    (h : ∀ call ∈ calls, call.changesOrders = false) (horders : after.orders = before.orders) :
    CallsLawful before calls after := by
  have hsent := sentOrders_of_unchanged h
  refine ⟨by simp [hsent], canceledIds_of_unchanged h, ?_, ?_, by simp [hsent]⟩
  · rw [writtenOrders_of_unchanged h, horders, List.foldl_nil]
  · rw [horders, hsent, List.length_nil, Nat.add_zero]

theorem CallsLawful.append {before between after : World σ} {calls more : List Call}
    (h : CallsLawful before calls between) (hmore : CallsLawful between more after)
    (hlatch : before.safeMode.state = .safeMode → between.safeMode.state = .safeMode) :
    CallsLawful before (calls ++ more) after := by
  refine ⟨?_, ?_, ?_, ?_, ?_⟩
  · intro order horder
    rw [sentOrders_append, List.mem_append] at horder
    exact horder.elim (h.sent order) (hmore.sent order)
  · rw [canceledIds_append, h.canceled, hmore.canceled, List.append_nil]
  · rw [hmore.orders, h.orders, writtenOrders_append, List.foldl_append]
  · have hrows := h.rows
    have hrows' := hmore.rows
    rw [sentOrders_append, List.length_append]
    omega
  · intro hsafe order horder
    rw [sentOrders_append, List.mem_append] at horder
    exact horder.elim (h.blocked hsafe order) (hmore.blocked (hlatch hsafe) order)

theorem LeavesOrders.serves {before after : World σ} (h : LeavesOrders before after) :
    Serves 0 before after := by
  obtain ⟨calls, hcalls, hunchanged⟩ := h.calls
  refine ⟨⟨calls, hcalls, .of_unchanged hunchanged h.orders, ?_⟩, h.latch⟩
  rw [sentOrders_of_unchanged hunchanged, List.length_nil]

theorem Serves.mono {count more : ℕ} {before after : World σ} (h : Serves count before after)
    (hle : count ≤ more) : Serves more before after := by
  obtain ⟨calls, hcalls, hlawful, hcount⟩ := h.calls
  exact ⟨⟨calls, hcalls, hlawful, hcount.trans hle⟩, h.latch⟩

theorem Serves.trans {count more : ℕ} {before between after : World σ} (h : Serves count before between)
    (hmore : Serves more between after) : Serves (count + more) before after := by
  obtain ⟨calls, hcalls, hlawful, hcount⟩ := h.calls
  obtain ⟨others, hothers, hlawful', hcount'⟩ := hmore.calls
  refine ⟨⟨calls ++ others, by rw [hothers, hcalls, List.append_assoc],
    hlawful.append hlawful' h.latch, ?_⟩, fun hsafe => hmore.latch (h.latch hsafe)⟩
  rw [sentOrders_append, List.length_append]
  exact Nat.add_le_add hcount hcount'

section Reading

open Program

variable {R : World σ → World σ → Prop} [IsPreorder (World σ) R]

-- What the components do of their own, besides calls: they enter the safe mode, and sleep.
structure Allows (R : World σ → World σ → Prop) : Prop where
  enter : ∀ reason, Leads R (enterSafeMode reason : Action σ Unit)
  sleep : ∀ clock seconds, Leads R (sleep clock seconds : Action σ Unit)

theorem sleep_leads {seconds : ℤ}
    (h : ∀ world : World σ, R world (world.after (.sleep seconds) world.outside)) (clock : Clock σ) :
    Leads R (sleep clock seconds) := by
  intro world
  by_cases haccepts : clock.Accepts seconds world.outside
  · rw [sleep_of_accepts haccepts]
    exact h world
  · obtain ⟨exc, hraised⟩ := sleep_of_not_accepts haccepts
    rw [hraised]
    exact refl world

theorem reconcileOpenOrders_leads (hown : Allows R) {exchange : ExchangeAdapter σ}
    (hfetch : Leads R (remote .fetchOpenOrders exchange.fetchOpenOrders)) :
    Leads R (reconcileOpenOrders exchange) := by
  refine leads_get_bind fun world => ?_
  refine hfetch.attempt.bind ?_ world
  intro fetched
  cases fetched with
  | error exc => exact (hown.enter _).bind fun _ => leads_pure _
  | ok orders => exact ((hown.enter _).bind fun _ => leads_pure _).ite (leads_pure _)

theorem LocalOrderStore.reconcileOpenOrders_leads (hown : Allows R) {store : LocalOrderStore σ}
    {exchange : ExchangeAdapter σ} (hlist : Leads R (remote .listOpenOrders store.listOpenOrders))
    (hfetch : Leads R (remote .fetchOpenOrders exchange.fetchOpenOrders)) :
    Leads R (store.reconcileOpenOrders exchange) := by
  have hboth : Leads R (store.fetch exchange) :=
    hlist.bind fun _ => hfetch.bind fun _ => leads_pure _
  refine hboth.attempt.bind ?_
  intro fetched
  cases fetched with
  | error exc => exact (hown.enter _).bind fun _ => leads_pure _
  | ok orders => exact ((hown.enter _).bind fun _ => leads_pure _).ite (leads_pure _)

-- The calls of a daemon.
structure DaemonRunner.CallsLead (R : World σ → World σ → Prop) (daemon : DaemonRunner σ) : Prop where
  listOpenOrders : Leads R (remote .listOpenOrders daemon.orderStore.listOpenOrders)
  fetchOpenOrders : Leads R (remote .fetchOpenOrders daemon.exchange.fetchOpenOrders)
  listPositions : Leads R (remote (.listPositions false) (daemon.positionStore.listPositions false))
  fetchPositions : Leads R (remote (.fetchPositionSnapshots none)
    (daemon.positionReconciler.fetchPositionSnapshots none))
  upsertPosition : ∀ position, Leads R (remote (.upsertPosition position)
    (daemon.positionStore.upsertPosition position))
  sendAlert : ∀ message, Leads R (sendAlert daemon.alerts message)

namespace DaemonRunner

variable {daemon : DaemonRunner σ} (hown : Allows R) (hcalls : daemon.CallsLead R)

include hcalls

theorem storePositions_leads (positions : List ExchangePositionSnapshot) :
    Leads R (daemon.positionStore.storePositions positions) := by
  induction positions with
  | nil => exact leads_pure ()
  | cons position positions ih => exact (hcalls.upsertPosition position).bind fun _ => ih

theorem refreshPositions_leads : Leads R daemon.refreshPositions := by
  have hrefresh : Leads R (daemon.positionStore.refreshLocalPositionsFromExchange daemon.positionReconciler) := by
    refine hcalls.fetchPositions.bind ?_
    intro positions
    exact (storePositions_leads hcalls positions).bind fun _ => leads_pure _
  unfold refreshPositions
  exact (hrefresh.bind fun _ => leads_pure _).ite (leads_pure _)

include hown

theorem reconcilePositions_leads [DecimalContext] :
    Leads R (daemon.positionStore.reconcilePositions daemon.positionReconciler) := by
  have hfetch : Leads R (daemon.positionStore.fetch daemon.positionReconciler) :=
    hcalls.listPositions.bind fun _ => hcalls.fetchPositions.bind fun _ => leads_pure _
  refine hfetch.attempt.bind ?_
  intro fetched
  cases fetched with
  | error exc => exact (hown.enter _).bind fun _ => leads_pure _
  | ok positions => exact ((hown.enter _).bind fun _ => leads_pure _).ite (leads_pure _)

theorem runOnce_leads [DecimalContext] : Leads R daemon.runOnce := by
  have horders := LocalOrderStore.reconcileOpenOrders_leads hown hcalls.listOpenOrders hcalls.fetchOpenOrders
  refine (refreshPositions_leads hcalls).bind fun _ => horders.bind fun orderReport => ?_
  refine (reconcilePositions_leads hown hcalls).bind fun positionReport => ?_
  refine leads_get_bind fun world => ?_
  exact ((hcalls.sendAlert _).bind fun _ => leads_pure _).ite (leads_pure _) world

omit hown hcalls [IsPreorder (World σ) R]

variable [DecimalContext] (daemon)

def polling : Polling (World σ) PyError DaemonIterationResult where
  body := daemon.runOnce
  pause := sleep daemon.clock daemon.config.intervalSeconds
  stops result := daemon.config.stopOnMismatch && !result.consistent
  limit := daemon.config.maxIterations

theorem runFrom_eq_polling (fuel : ℕ) (iterations : ℤ) :
    daemon.runFrom fuel iterations = daemon.polling.runFrom fuel iterations := by
  induction fuel generalizing iterations with
  | zero => rfl
  | succ fuel ih =>
    rw [runFrom, Polling.runFrom, ← ih]
    rfl

variable {daemon} [IsPreorder (World σ) R]

-- Where the daemon's calls lead, its runs do, however long they are and whatever raises.
theorem run_leads (hown : Allows R) (hcalls : daemon.CallsLead R) (fuel : ℕ) : Leads R (daemon.run fuel) := by
  rw [run, runFrom_eq_polling]
  exact Polling.leads_runFrom (runOnce_leads hown hcalls) (hown.sleep _ _) fuel 0

end DaemonRunner

theorem ReconciliationRunner.runOnce_leads (hown : Allows R) {runner : ReconciliationRunner σ}
    (hlist : Leads R (remote .listOpenOrders runner.orderStore.listOpenOrders))
    (hfetch : Leads R (remote .fetchOpenOrders runner.exchange.fetchOpenOrders))
    (halert : ∀ message, Leads R (sendAlert runner.alerts message)) : Leads R runner.runOnce := by
  refine (LocalOrderStore.reconcileOpenOrders_leads hown hlist hfetch).bind fun report => ?_
  exact ((halert _).bind fun _ => leads_pure _).ite (leads_pure _)

theorem PeriodicReconciliationLoop.run_leads (hown : Allows R) {loop : PeriodicReconciliationLoop σ}
    (hlist : Leads R (remote .listOpenOrders loop.runner.orderStore.listOpenOrders))
    (hfetch : Leads R (remote .fetchOpenOrders loop.runner.exchange.fetchOpenOrders))
    (halert : ∀ message, Leads R (sendAlert loop.runner.alerts message)) (fuel : ℕ) :
    Leads R (loop.run fuel) :=
  Polling.leads_runFrom (ReconciliationRunner.runOnce_leads hown hlist hfetch halert) (hown.sleep _ _) fuel 0

theorem leavesOrders_remote {call : Call} (answer : Remote σ α) (hcall : call.changesOrders = false) :
    Leads LeavesOrders (remote call answer) := by
  intro world
  exact ⟨⟨[call], rfl, by simpa using hcall⟩, rfl, id⟩

theorem leavesOrders_sendAlert (alerts : AlertSink σ) (message : String) :
    Leads LeavesOrders (sendAlert alerts message) := by
  intro world
  exact ⟨⟨[.sendAlert message], rfl, by simp [Call.changesOrders]⟩, rfl, id⟩

theorem allows_leavesOrders : Allows (LeavesOrders (σ := σ)) where
  enter reason := by
    intro world
    exact ⟨⟨[], (List.append_nil _).symm, by simp⟩, rfl, fun _ => rfl⟩
  sleep clock seconds :=
    sleep_leads (fun _ => ⟨⟨[.sleep seconds], rfl, by simp [Call.changesOrders]⟩, rfl, id⟩) clock

theorem leavesOrders_sleep (clock : Clock σ) (seconds : ℤ) : Leads LeavesOrders (sleep clock seconds) :=
  allows_leavesOrders.sleep clock seconds

theorem reconcileOpenOrders_leaves (exchange : ExchangeAdapter σ) :
    Leads LeavesOrders (reconcileOpenOrders exchange) :=
  reconcileOpenOrders_leads allows_leavesOrders (leavesOrders_remote _ rfl)

theorem DaemonRunner.callsLead_leavesOrders (daemon : DaemonRunner σ) : daemon.CallsLead LeavesOrders :=
  ⟨leavesOrders_remote _ rfl, leavesOrders_remote _ rfl, leavesOrders_remote _ rfl,
    leavesOrders_remote _ rfl, fun _ => leavesOrders_remote _ rfl, leavesOrders_sendAlert _⟩

-- The daemon changes no order.
theorem DaemonRunner.runOnce_leaves [DecimalContext] (daemon : DaemonRunner σ) :
    Leads LeavesOrders daemon.runOnce :=
  runOnce_leads allows_leavesOrders daemon.callsLead_leavesOrders

theorem DaemonRunner.run_leaves [DecimalContext] (daemon : DaemonRunner σ) (fuel : ℕ) :
    Leads LeavesOrders (daemon.run fuel) :=
  run_leads allows_leavesOrders daemon.callsLead_leavesOrders fuel

theorem ReconciliationRunner.runOnce_leaves (runner : ReconciliationRunner σ) :
    Leads LeavesOrders runner.runOnce :=
  runOnce_leads allows_leavesOrders (leavesOrders_remote _ rfl) (leavesOrders_remote _ rfl)
    (leavesOrders_sendAlert _)

theorem PeriodicReconciliationLoop.run_leaves (loop : PeriodicReconciliationLoop σ) (fuel : ℕ) :
    Leads LeavesOrders (loop.run fuel) :=
  run_leads allows_leavesOrders (leavesOrders_remote _ rfl) (leavesOrders_remote _ rfl)
    (leavesOrders_sendAlert _) fuel

end Reading

section Sending

-- The calls that hand over an order of an admitted intent and store what came back of it.
def submitCalls (symbol : String) (order : OrderRecord) (reply : Option OrderRecord) : List Call :=
  [.getSymbolFilters symbol, .submitOrder order] ++ reply.toList.map .upsertOrder

theorem sentOrders_submitCalls (symbol : String) (order : OrderRecord) (reply : Option OrderRecord) :
    sentOrders (submitCalls symbol order reply) = [order] := by
  cases reply <;> rfl

theorem writtenOrders_submitCalls (symbol : String) (order : OrderRecord) (reply : Option OrderRecord) :
    writtenOrders (submitCalls symbol order reply) = reply.toList := by
  cases reply <;> rfl

theorem canceledIds_submitCalls (symbol : String) (order : OrderRecord) (reply : Option OrderRecord) :
    canceledIds (submitCalls symbol order reply) = [] := by
  cases reply <;> rfl

theorem OrderStore.length_upsertOrder_le (store : OrderStore) (order : OrderRecord) :
    (store.upsertOrder order).rows.length ≤ store.rows.length + 1 :=
  Table.length_upsertAll_le store [order.toRow]

-- What an action can come to that hands over one order at most, none where its value is
-- not accepted, and leaves the safe mode alone.
structure SendsOne (accepted : α → Bool) (world : World σ) (outcome : Except PyError α) (after : World σ) :
    Prop where
  safeMode : after.safeMode = world.safeMode
  serves : Serves 1 world after
  declined : ∀ value, outcome = .ok value → accepted value = false → Serves 0 world after

theorem leavesOrders_filters (world : World σ) (symbol : String) (outside : σ) :
    LeavesOrders world (world.after (.getSymbolFilters symbol) outside) :=
  ⟨⟨_, rfl, by simp [Call.changesOrders]⟩, rfl, id⟩

theorem SendsOne.of_read {accepted : α → Bool} {world after : World σ} {outcome : Except PyError α}
    (hread : LeavesOrders world after) (hsafe : after.safeMode = world.safeMode) :
    SendsOne accepted world outcome after :=
  ⟨hsafe, hread.serves.mono (Nat.zero_le 1), fun _ _ _ => hread.serves⟩

theorem SendsOne.after_read {accepted : α → Bool} {world between after : World σ}
    {outcome : Except PyError α} (hread : LeavesOrders world between)
    (hsafe : between.safeMode = world.safeMode) (h : SendsOne accepted between outcome after) :
    SendsOne accepted world outcome after :=
  ⟨h.safeMode.trans hsafe, (hread.serves.trans h.serves).mono (by omega),
    fun value hvalue hdeclined => hread.serves.trans (h.declined value hvalue hdeclined)⟩

theorem leads_serves_after_read {count : ℕ} {first : Action σ α} {next : α → Action σ β}
    (hfirst : Program.Leads LeavesOrders first) (hnext : ∀ value, Program.Leads (Serves count) (next value)) :
    Program.Leads (Serves count) (first >>= next) := by
  refine Program.Leads.sequence (fun hread => hread.serves.mono (Nat.zero_le count)) ?_ hfirst hnext
  intro before between after hread hserves
  exact (hread.serves.trans hserves).mono (by omega)

variable [DecimalContext]

theorem normalizeOrderIntent_positive {intent normalized : OrderIntent} {filters : SymbolFilters}
    (h : normalizeOrderIntent intent filters = .ok normalized) : 0 < normalized.quantity := by
  obtain ⟨quantity, _, h⟩ := Raise.bind_eq_ok.mp h
  obtain ⟨price, _, h⟩ := Raise.bind_eq_ok.mp h
  obtain ⟨_, hvalid, h⟩ := Raise.bind_eq_ok.mp h
  cases h
  exact (validateNormalized_eq_ok.mp hvalid).2

theorem serves_submit {world after : World σ} {intent normalized : OrderIntent} {filters : SymbolFilters}
    (hgate : OrderRouter.Admits world.safeMode intent)
    (hnormal : normalizeOrderIntent intent filters = .ok normalized) (now : DateTime) (reply : Option OrderRecord)
    (hcalls : after.calls = world.calls ++
      submitCalls intent.symbol (OrderRouter.submittedOrder normalized now) reply)
    (horders : after.orders = reply.elim world.orders world.orders.upsertOrder)
    (hsafe : after.safeMode = world.safeMode) : Serves 1 world after := by
  have hkept := normalizeOrderIntent_keeps hnormal
  refine ⟨⟨_, hcalls, ⟨?_, canceledIds_submitCalls _ _ _, ?_, ?_, ?_⟩, ?_⟩, ?_⟩
  · intro order horder
    rw [sentOrders_submitCalls, List.mem_singleton] at horder
    subst horder
    refine ⟨rfl, rfl, normalizeOrderIntent_positive hnormal, ?_⟩
    change normalized.action ≠ .entry → normalized.reduceOnly = true
    rw [hkept]
    exact hgate.2
  · rw [writtenOrders_submitCalls, horders]
    cases reply <;> rfl
  · rw [sentOrders_submitCalls, horders]
    cases reply with
    | none => exact Nat.le_succ _
    | some reply => exact world.orders.length_upsertOrder_le reply
  · intro hactive order horder
    rw [sentOrders_submitCalls, List.mem_singleton] at horder
    subst horder
    change normalized.action ≠ .entry
    rw [hkept]
    intro hentry
    have hallows := SafeModeController.allowsNewEntries_iff.mp (hgate.1 hentry)
    rw [hactive] at hallows
    cases hallows
  · rw [sentOrders_submitCalls, List.length_singleton]
  · rw [hsafe]
    exact id

theorem PersistentOrderRouter.route_sendsOne (persistent : PersistentOrderRouter σ) (intent : OrderIntent)
    (world : World σ) :
    SendsOne RouteResult.accepted world (persistent.route intent world).1
      (persistent.route intent world).2 := by
  have hrouted := OrderRouter.route_routed persistent.router intent world
  generalize hresult : persistent.router.route intent world = result at hrouted
  obtain ⟨outcome, after⟩ := result
  cases hrouted with
  | blocked hentry hsafe =>
    rw [route_of_kept (by simp) hresult]
    exact .of_read (refl after) rfl
  | notReduceOnly hclose hreduce =>
    rw [route_of_kept (by simp) hresult]
    exact .of_read (refl after) rfl
  | noFilters hgate exc outside hfilters =>
    rw [route_of_error hresult]
    exact .of_read (leavesOrders_filters _ _ _) rfl
  | filtered hgate filters outside hfilters exc hnormal =>
    rw [route_of_error hresult]
    exact .of_read (leavesOrders_filters _ _ _) rfl
  | signalOnly hgate filters outside hfilters normalized hnormal hmode =>
    rw [route_of_kept (by simp) hresult]
    exact .of_read (leavesOrders_filters _ _ _) rfl
  | submitRaised hgate filters outside hfilters normalized hnormal hmode exc final hsubmit =>
    rw [route_of_error hresult]
    refine ⟨rfl, ?_, fun _ h => by cases h⟩
    refine serves_submit hgate hnormal (persistent.router.now outside) none ?_ rfl rfl
    simp [submitCalls]
  | submitted hgate filters outside hfilters normalized hnormal hmode order final hsubmit =>
    rw [route_of_submitted hresult]
    refine ⟨rfl, ?_, ?_⟩
    · refine serves_submit hgate hnormal (persistent.router.now outside) (some order) ?_ rfl rfl
      simp [submitCalls]
    · intro result h haccepted
      cases h
      cases haccepted

namespace SleeveBAutoTestnetLoop

variable (loop : SleeveBAutoTestnetLoop σ) (account : AccountSnapshotV3)
  (allPositions : List ExchangePositionSnapshot)

theorem considerCandidate_sendsOne (submitted : ℤ) (candidate : SleeveBSignalCandidate) (world : World σ) :
    SendsOne SleeveBAutoLoopDecision.accepted world
      (loop.considerCandidate account allPositions submitted candidate world).1
      (loop.considerCandidate account allPositions submitted candidate world).2 := by
  unfold considerCandidate
  rw [Program.get_bind]
  split
  · exact .of_read (refl world) rfl
  split
  · exact .of_read (refl world) rfl
  cases hf : loop.exchange.getSymbolFilters candidate.symbol world.outside with
  | mk answer outside =>
    have hread := leavesOrders_filters world candidate.symbol outside
    cases answer with
    | error exc =>
      rw [Program.bind_of_error (remote_of_eq hf)]
      exact .of_read hread rfl
    | ok filters =>
      rw [Program.bind_of_ok (remote_of_eq hf)]
      cases loop.allocator.allocate candidate account allPositions filters with
      | error exc => exact .of_read hread rfl
      | ok allocation =>
        rw [Program.ofExcept_ok_bind]
        split
        · exact .of_read hread rfl
        have hroute := loop.router.route_sendsOne (loop.config.allocationToIntent candidate allocation)
          (world.after (.getSymbolFilters candidate.symbol) outside)
        cases hresult : loop.router.route (loop.config.allocationToIntent candidate allocation)
            (world.after (.getSymbolFilters candidate.symbol) outside) with
        | mk outcome after =>
          rw [hresult] at hroute
          have hsends := hroute.after_read hread rfl
          cases outcome with
          | error exc =>
            rw [Program.bind_of_error hresult]
            exact ⟨hsends.safeMode, hsends.serves, fun _ h => by cases h⟩
          | ok result =>
            rw [Program.bind_of_ok hresult]
            refine ⟨hsends.safeMode, hsends.serves, ?_⟩
            intro decision h hdeclined
            cases h
            exact hsends.declined result rfl hdeclined

variable {loop account allPositions}

theorem room_pos_of_not_skipped {submitted : ℤ} {candidate : SleeveBSignalCandidate} {world after : World σ}
    {outcome : Except PyError SleeveBAutoLoopDecision}
    (h : loop.considerCandidate account allPositions submitted candidate world = (outcome, after))
    (houtcome : ∀ decision, outcome = .ok decision → decision.accepted = true) :
    0 < loop.room submitted := by
  by_contra hroom
  have hfull : loop.config.maxNewOrdersPerRun ≤ submitted := by
    unfold room at hroom
    omega
  rw [considerCandidate_of_full hfull candidate world] at h
  cases h
  cases houtcome _ rfl

theorem considerCandidates_state {submitted : ℤ} {candidate : SleeveBSignalCandidate}
    {candidates : List SleeveBSignalCandidate} {world between : World σ} {decision : SleeveBAutoLoopDecision}
    (h : loop.considerCandidate account allPositions submitted candidate world = (.ok decision, between)) :
    (loop.considerCandidates account allPositions submitted (candidate :: candidates) world).2 =
      (loop.considerCandidates account allPositions
        (if decision.accepted then submitted + 1 else submitted) candidates between).2 := by
  rw [considerCandidates, Program.bind_of_ok h, Program.bind_apply]
  split
  · rename_i hrest
    rw [hrest]
    rfl
  · rename_i hrest
    rw [hrest]

variable (loop account allPositions)

-- The orders a run may still send bound those it sends; by induction on the candidates, an
-- accepted one leaving room for one order less.
theorem considerCandidates_serves (submitted : ℤ) (candidates : List SleeveBSignalCandidate)
    (world : World σ) :
    Serves (loop.room submitted) world
      (loop.considerCandidates account allPositions submitted candidates world).2 := by
  induction candidates generalizing submitted world with
  | nil => exact (refl world : LeavesOrders world world).serves.mono (Nat.zero_le _)
  | cons candidate candidates ih =>
    have hone := loop.considerCandidate_sendsOne account allPositions submitted candidate world
    cases hconsidered : loop.considerCandidate account allPositions submitted candidate world with
    | mk outcome between =>
      rw [hconsidered] at hone
      cases outcome with
      | error exc =>
        have hroom := room_pos_of_not_skipped hconsidered fun _ h => by cases h
        rw [considerCandidates_of_error hconsidered]
        exact hone.serves.mono hroom
      | ok decision =>
        rw [considerCandidates_state hconsidered]
        cases haccepted : decision.accepted with
        | false =>
          have hrest := (hone.declined decision rfl haccepted).trans (ih submitted between)
          rwa [Nat.zero_add] at hrest
        | true =>
          have hroom := room_pos_of_not_skipped hconsidered fun _ h => by cases h; exact haccepted
          have hrest := hone.serves.trans (ih (submitted + 1) between)
          rw [if_pos rfl]
          refine hrest.mono ?_
          unfold room at hroom ⊢
          omega

theorem runOnce_serves (candidates : List SleeveBSignalCandidate) (world : World σ) :
    Serves (if loop.config.requireAck then loop.config.maxNewOrdersPerRun.toNat else 0) world
      (loop.runOnce candidates world).2 := by
  unfold runOnce
  rw [Program.get_bind]
  cases loop.config.requireAck with
  | false => exact (refl world : LeavesOrders world world).serves
  | true =>
    have hroom : loop.room 0 = loop.config.maxNewOrdersPerRun.toNat := by
      unfold room
      rw [sub_zero]
    rw [Bool.not_true, if_neg Bool.false_ne_true, if_pos rfl, ← hroom]
    refine leads_serves_after_read (leavesOrders_remote _ rfl) (fun account => ?_) world
    refine leads_serves_after_read (leavesOrders_remote _ rfl) fun allPositions => ?_
    refine Program.Leads.sequence id (fun hbefore hafter => ?_)
      (fun world => loop.considerCandidates_serves account allPositions 0 candidates world)
      (fun decided => Program.leads_get_bind (R := LeavesOrders) fun world => Program.leads_pure _ world)
    exact hbefore.trans hafter.serves

end SleeveBAutoTestnetLoop

end Sending

section Repairing

-- An order whose id is stored already is written over its row.
theorem OrderStore.length_upsertOrder_of_isSome {store : OrderStore} {order : OrderRecord}
    (h : (store.getOrder order.clientOrderId).isSome) :
    (store.upsertOrder order).rows.length = store.rows.length := by
  have hkey : orderSchema.key order.toRow ∈ store.keys := by
    rw [getOrder, Option.isSome_map] at h
    exact Table.mem_keys_iff.mpr (Option.isSome_iff_exists.mp h)
  exact (Table.length_upsert store order.toRow).trans (if_pos hkey)

theorem serves_write {world : World σ} {order : OrderRecord}
    (h : (world.orders.getOrder order.clientOrderId).isSome) : Serves 0 world (upsertOrder order world).2 := by
  refine ⟨⟨[.upsertOrder order], rfl, ⟨by simp [sentOrders], rfl, rfl, ?_, by simp [sentOrders]⟩, le_rfl⟩, id⟩
  exact (OrderStore.length_upsertOrder_of_isSome h).le

-- A repair asks for one order, and writes over its row at most.
theorem repair_serves (queryOrder : String → String → Remote σ (Option ExchangeOrderSnapshot))
    (clientOrderId : String) (world : World σ) :
    Serves 0 world (repairByClientOrderId queryOrder clientOrderId world).2 := by
  unfold repairByClientOrderId
  rw [Program.get_bind]
  cases hlocal : world.orders.getOrder clientOrderId with
  | none =>
    have hleaves := (allows_leavesOrders.enter (.repairLocalOrderMissing clientOrderId)) world
    exact hleaves.serves
  | some localOrder =>
    obtain rfl := OrderStore.clientOrderId_of_getOrder hlocal
    cases hquery : queryOrder localOrder.intent.symbol localOrder.clientOrderId world.outside with
    | mk answer outside =>
      have hasked : LeavesOrders world
          (world.after (.queryOrder localOrder.intent.symbol localOrder.clientOrderId) outside) :=
        ⟨⟨_, rfl, by simp [Call.changesOrders]⟩, rfl, id⟩
      have hentered : ∀ reason, Serves 0 world (enterSafeMode reason
          (world.after (.queryOrder localOrder.intent.symbol localOrder.clientOrderId) outside)).2 :=
        fun reason => hasked.serves.trans (allows_leavesOrders.enter reason _).serves
      simp only [Program.attempt_bind (remote_of_eq hquery)]
      rcases answer with exc | _ | snapshot
      · exact hentered _
      · exact hentered _
      · dsimp only
        split
        · exact hentered _
        split
        · refine hasked.serves.trans (serves_write ?_)
          exact Option.isSome_of_eq_some hlocal
        · exact hasked.serves

end Repairing

namespace TradingSystem

variable [DecimalContext] (system : TradingSystem σ)

-- Whatever happens, no event hands over an order outside its bound, an entry in the safe
-- mode, or a close that may open a position; none cancels.
theorem step_lawful (world : World σ) (event : SystemEvent σ) : LawfulEvent system world event := by
  cases event with
  | outside change => exact ⟨[], (List.append_nil _).symm, .of_unchanged (by simp) rfl, le_rfl⟩
  | enter reason => exact (allows_leavesOrders.enter reason world).serves.calls
  | exit reason => exact ⟨[], (List.append_nil _).symm, .of_unchanged (by simp) rfl, le_rfl⟩
  | route mode intent => exact ((system.router mode).route_sendsOne intent world).serves.calls
  | runLoop candidates => exact (system.loop.runOnce_serves candidates world).calls
  | reconcile => exact (reconcileOpenOrders_leaves system.loop.exchange.toExchangeAdapter world).serves.calls
  | runDaemon fuel => exact (system.daemon.run_leaves fuel world).serves.calls
  | runPeriodic fuel => exact (system.periodic.run_leaves fuel world).serves.calls
  | repair clientOrderId => exact (repair_serves system.queryOrder clientOrderId world).calls

end TradingSystem

end DualSleeve

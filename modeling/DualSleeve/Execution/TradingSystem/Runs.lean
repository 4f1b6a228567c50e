import DualSleeve.Execution.SleeveBTestnetLoop.Market
import DualSleeve.Execution.TradingSystem.Theorems
import DualSleeve.Storage.OrderStore.Refinement

namespace DualSleeve

open Library

variable {σ : Type}

-- What an id holds once it was written over: the status and the fill of the last write, and
-- the intent that was stored or first written.
def rewrittenOrder (stored : Option OrderRecord) (writes : List OrderRecord) : Option OrderRecord :=
  match writes.getLast? with
  | none => stored
  | some last => some { last with
      intent := stored.elim (writes.head?.elim last.intent.persisted (·.intent.persisted)) (·.intent) }

theorem writesOf_append_singleton (orders : List OrderRecord) (order : OrderRecord) (id : String) :
    writesOf (orders ++ [order]) id =
      writesOf orders id ++ if order.clientOrderId = id then [order] else [] := by
  unfold writesOf
  rw [List.filter_append, List.filter_cons]
  split <;> simp_all

theorem rewrittenOrder_append (stored : Option OrderRecord) (writes : List OrderRecord) (order : OrderRecord) :
    rewrittenOrder stored (writes ++ [order]) = some { order with
      intent := (rewrittenOrder stored writes).elim order.intent.persisted (·.intent) } := by
  unfold rewrittenOrder
  rw [List.getLast?_concat]
  cases writes using List.reverseRecOn with
  | nil => cases stored <;> rfl
  | append_singleton earlier last =>
    rw [List.getLast?_concat]
    cases stored with
    | some stored => rfl
    | none =>
      -- the first write is the same
      cases earlier <;> rfl

-- The table as a map after writes in turn.
theorem OrderStore.getOrder_foldl (store : OrderStore) (orders : List OrderRecord) (id : String) :
    (orders.foldl OrderStore.upsertOrder store).getOrder id =
      rewrittenOrder (store.getOrder id) (writesOf orders id) := by
  induction orders using List.reverseRecOn with
  | nil => rfl
  | append_singleton orders order ih =>
    rw [List.foldl_append, List.foldl_cons, List.foldl_nil, writesOf_append_singleton]
    by_cases hid : order.clientOrderId = id
    · subst hid
      rw [if_pos rfl, rewrittenOrder_append, getOrder_upsertOrder_self, ih]
    · rw [if_neg hid, List.append_nil, getOrder_upsertOrder_of_ne _ (Ne.symm hid), ih]

-- An order that was stored keeps its id and its intent, whatever is written.
theorem rewrittenOrder_of_stored (stored : OrderRecord) (writes : List OrderRecord) :
    ∃ order, rewrittenOrder (some stored) writes = some order ∧ order.intent = stored.intent := by
  unfold rewrittenOrder
  split
  · exact ⟨stored, rfl, rfl⟩
  · exact ⟨_, rfl, rfl⟩

theorem reconcileOpenOrders_latches {exchange : ExchangeAdapter σ} {world : World σ}
    {report : ReconciliationReport} (h : (reconcileOpenOrders exchange world).1 = .ok report)
    (hreport : report.consistent = false) :
    (reconcileOpenOrders exchange world).2.safeMode.state = .safeMode := by
  cases hfetched : exchange.fetchOpenOrders world.outside with
  | mk answer outside =>
    cases answer with
    | error exc =>
      unfold reconcileOpenOrders
      rw [Program.get_bind, Program.attempt_bind (remote_of_eq hfetched)]
      rfl
    | ok orders =>
      rw [reconcileOpenOrders_of_fetched hfetched] at h ⊢
      cases h
      rw [hreport]
      rfl

-- The repair leaves a matter to a person in the safe mode only.
theorem repair_latches {queryOrder : String → String → Remote σ (Option ExchangeOrderSnapshot)}
    {clientOrderId : String} {world : World σ} {recommendation : RepairRecommendation}
    (h : (repairByClientOrderId queryOrder clientOrderId world).1 = .ok recommendation)
    (haction : recommendation.action = .manualReview ∨ recommendation.action = .enteredSafeMode) :
    (repairByClientOrderId queryOrder clientOrderId world).2.safeMode.state = .safeMode := by
  unfold repairByClientOrderId at h ⊢
  rw [Program.get_bind] at h ⊢
  cases hlocal : world.orders.getOrder clientOrderId with
  | none => rfl
  | some localOrder =>
    cases hquery : queryOrder localOrder.intent.symbol clientOrderId world.outside with
    | mk answer outside =>
      simp only [hlocal, Program.attempt_bind (remote_of_eq hquery)] at h ⊢
      rcases answer with exc | _ | snapshot
      · rfl
      · rfl
      · dsimp only at h ⊢
        split
        · rfl
        rename_i hsymbol
        rw [if_neg hsymbol] at h
        split at h
        · cases h
          simp at haction
        · cases h
          simp at haction

def SystemEvent.NotExit : SystemEvent σ → Prop
  | .exit _ => False
  | _ => True

section Runs

variable [DecimalContext]

namespace TradingSystem

variable (system : TradingSystem σ)

-- The law of the calls without the safe mode, which an exit may end.
structure RunCalls (world : World σ) (events : List (SystemEvent σ)) (calls : List Call) (after : World σ) :
    Prop where
  sent : ∀ order ∈ sentOrders calls, order.status = .submitted ∧ order.filledQuantity = 0 ∧
    0 < order.intent.quantity ∧ (order.intent.action ≠ .entry → order.intent.reduceOnly = true)
  canceled : canceledIds calls = []
  orders : after.orders = (writtenOrders calls).foldl OrderStore.upsertOrder world.orders
  rows : after.orders.rows.length ≤ world.orders.rows.length + (sentOrders calls).length
  bounded : (sentOrders calls).length ≤ (events.map system.maxOrders).sum

theorem run_calls (world : World σ) (events : List (SystemEvent σ)) :
    ∃ calls, (events.foldl system.step world).calls = world.calls ++ calls ∧
      system.RunCalls world events calls (events.foldl system.step world) := by
  induction events generalizing world with
  | nil =>
    exact ⟨[], (List.append_nil _).symm, by simp [sentOrders], rfl, rfl, le_rfl, le_rfl⟩
  | cons event events ih =>
    obtain ⟨calls, hcalls, hlawful, hcount⟩ := system.step_lawful world event
    obtain ⟨more, hmore, hrest⟩ := ih (system.step world event)
    refine ⟨calls ++ more, by rw [List.foldl_cons, hmore, hcalls, List.append_assoc], ?_, ?_, ?_, ?_, ?_⟩
    · intro order horder
      rw [sentOrders_append, List.mem_append] at horder
      exact horder.elim (hlawful.sent order) (hrest.sent order)
    · rw [canceledIds_append, hlawful.canceled, hrest.canceled, List.append_nil]
    · rw [List.foldl_cons, hrest.orders, hlawful.orders, writtenOrders_append, List.foldl_append]
    · have hrows := hlawful.rows
      have hrows' := hrest.rows
      rw [sentOrders_append, List.length_append, List.foldl_cons]
      omega
    · have hbounded := hrest.bounded
      rw [sentOrders_append, List.length_append, List.map_cons, List.sum_cons]
      exact Nat.add_le_add hcount hbounded

-- In every run of the system, whatever interleaves and raises: each step keeps the law of
-- its calls, nothing is ever canceled, and the orders sent stay within what the events allow.
theorem run_lawful (world : World σ) (events : List (SystemEvent σ)) :
    Run.Along system.step (LawfulEvent system) world events ∧
    ∃ calls, (events.foldl system.step world).calls = world.calls ++ calls ∧
      canceledIds calls = [] ∧ (sentOrders calls).length ≤ (events.map system.maxOrders).sum := by
  obtain ⟨calls, hcalls, hrun⟩ := system.run_calls world events
  exact ⟨Run.along_of_forall (fun event _ state => system.step_lawful state event) world,
    calls, hcalls, hrun.canceled, hrun.bounded⟩

-- The order store after a run is what was written over what it held: an id holds the
-- intent it was first stored with and the fields of its last write, no stored order is lost
-- or gets another intent, and there are no more new rows than orders sent.
theorem orders_replay (world : World σ) (events : List (SystemEvent σ)) :
    ∃ calls, (events.foldl system.step world).calls = world.calls ++ calls ∧
      (∀ id, (events.foldl system.step world).orders.getOrder id =
        rewrittenOrder (world.orders.getOrder id) (writesOf (writtenOrders calls) id)) ∧
      (∀ id stored, world.orders.getOrder id = some stored →
        ∃ order, (events.foldl system.step world).orders.getOrder id = some order ∧
          order.intent = stored.intent) ∧
      (events.foldl system.step world).orders.rows.length ≤
        world.orders.rows.length + (sentOrders calls).length := by
  obtain ⟨calls, hcalls, hrun⟩ := system.run_calls world events
  have hreplayed : ∀ id, (events.foldl system.step world).orders.getOrder id =
      rewrittenOrder (world.orders.getOrder id) (writesOf (writtenOrders calls) id) := by
    intro id
    rw [hrun.orders, OrderStore.getOrder_foldl]
  refine ⟨calls, hcalls, hreplayed, ?_, hrun.rows⟩
  intro id stored hstored
  rw [hreplayed, hstored]
  exact rewrittenOrder_of_stored stored _

end TradingSystem

theorem DaemonRunner.iterated_of_runOnce {daemon : DaemonRunner σ} {before after : World σ}
    {result : DaemonIterationResult} (h : daemon.runOnce before = (.ok result, after)) :
    Iterated before result after := by
  obtain ⟨_, refreshed, hrefreshed, -⟩ := Program.bind_eq_ok.mp h
  obtain ⟨_, _, hrun, hiterated, -⟩ := daemon.runOnce_iterated hrefreshed
  cases h.symm.trans hrun
  exact hiterated

namespace TradingSystem

variable (system : TradingSystem σ)

-- A component found something wrong and said so in what it returned, or was told to stop.
def Alarms (world : World σ) : SystemEvent σ → Prop
  | .enter _ => True
  | .reconcile => ∃ report,
      (reconcileOpenOrders system.loop.exchange.toExchangeAdapter world).1 = .ok report ∧
        report.consistent = false
  | .runDaemon fuel => ∃ result, system.daemon.polling.Returned fuel 0 world result ∧ result.consistent = false
  | .runPeriodic fuel => ∃ result, system.periodic.polling.Returned fuel 0 world result ∧
      result.report.consistent = false
  | .repair clientOrderId => ∃ recommendation,
      (repairByClientOrderId system.queryOrder clientOrderId world).1 = .ok recommendation ∧
        (recommendation.action = .manualReview ∨ recommendation.action = .enteredSafeMode)
  | _ => False

variable {system}

theorem Alarms.safeMode {world : World σ} {event : SystemEvent σ} (h : system.Alarms world event) :
    (system.step world event).safeMode.state = .safeMode := by
  cases event with
  | outside change => exact h.elim
  | enter reason => rfl
  | exit reason => exact h.elim
  | route mode intent => exact h.elim
  | runLoop candidates => exact h.elim
  | reconcile =>
    obtain ⟨report, hreport, hconsistent⟩ := h
    exact reconcileOpenOrders_latches hreport hconsistent
  | runDaemon fuel =>
    obtain ⟨result, hreturned, hinconsistent⟩ := h
    obtain ⟨before, after, hbody, hrest⟩ := hreturned.within system.daemon.runOnce_leaves (leavesOrders_sleep _ _)
    rw [← DaemonRunner.runFrom_eq_polling] at hrest
    exact hrest.latch ((DaemonRunner.iterated_of_runOnce hbody).latch (.inr hinconsistent))
  | runPeriodic fuel =>
    obtain ⟨result, hreturned, hinconsistent⟩ := h
    obtain ⟨before, after, hbody, hrest⟩ :=
      hreturned.within system.periodic.runner.runOnce_leaves (leavesOrders_sleep _ _)
    obtain ⟨_, _, hrun, hpass⟩ := system.periodic.runner.runOnce_accounted before
    cases hbody.symm.trans hrun
    refine hrest.latch ?_
    rw [hpass.safeMode, SafeModeController.afterReport, hinconsistent]
    rfl
  | repair clientOrderId =>
    obtain ⟨recommendation, hrecommendation, haction⟩ := h
    exact repair_latches hrecommendation haction

-- Until someone exits, the safe mode stays, and lets no entry through.
theorem step_blocked {world : World σ} {event : SystemEvent σ} (hsafe : world.safeMode.state = .safeMode)
    (hstay : event.NotExit) :
    (system.step world event).safeMode.state = .safeMode ∧
      ∃ calls, (system.step world event).calls = world.calls ++ calls ∧
        ∀ order ∈ sentOrders calls, order.intent.action ≠ .entry := by
  obtain ⟨calls, hcalls, hlawful, -⟩ := system.step_lawful world event
  refine ⟨?_, calls, hcalls, hlawful.blocked hsafe⟩
  cases event with
  | outside change => exact hsafe
  | enter reason => rfl
  | exit reason => exact hstay.elim
  | route mode intent =>
    have hkept := ((system.router mode).route_sendsOne intent world).safeMode
    exact hkept ▸ hsafe
  | runLoop candidates => exact (system.loop.runOnce_serves candidates world).latch hsafe
  | reconcile => exact (reconcileOpenOrders_leaves system.loop.exchange.toExchangeAdapter world).latch hsafe
  | runDaemon fuel => exact (system.daemon.run_leaves fuel world).latch hsafe
  | runPeriodic fuel => exact (system.periodic.run_leaves fuel world).latch hsafe
  | repair clientOrderId => exact (repair_serves system.queryOrder clientOrderId world).latch hsafe

theorem run_blocked {world : World σ} (hsafe : world.safeMode.state = .safeMode)
    {events : List (SystemEvent σ)} (hstay : ∀ event ∈ events, event.NotExit) :
    ∃ calls, (events.foldl system.step world).calls = world.calls ++ calls ∧
      ∀ order ∈ sentOrders calls, order.intent.action ≠ .entry := by
  induction events generalizing world with
  | nil => exact ⟨[], (List.append_nil _).symm, by simp [sentOrders]⟩
  | cons event events ih =>
    obtain ⟨hkept, calls, hcalls, hblocked⟩ := step_blocked hsafe (hstay event List.mem_cons_self)
    obtain ⟨more, hmore, hblocked'⟩ := ih hkept fun other hother => hstay other (List.mem_cons_of_mem _ hother)
    refine ⟨calls ++ more, by rw [List.foldl_cons, hmore, hcalls, List.append_assoc], ?_⟩
    intro order horder
    rw [sentOrders_append, List.mem_append] at horder
    exact horder.elim (hblocked order) (hblocked' order)

variable (system)

-- Once any component of a run has found something wrong, the safe mode stays and no entry
-- reaches the exchange in what follows, until someone exits the safe mode.
theorem entries_stay_blocked (world : World σ) (earlier : List (SystemEvent σ)) (alarm : SystemEvent σ)
    (later : List (SystemEvent σ)) (halarm : system.Alarms (earlier.foldl system.step world) alarm)
    (hstay : ∀ event ∈ later, event.NotExit) :
    Run.Always system.step (fun reached => reached.safeMode.state = .safeMode)
        (system.step (earlier.foldl system.step world) alarm) later ∧
      ∃ calls, ((earlier ++ alarm :: later).foldl system.step world).calls =
          (system.step (earlier.foldl system.step world) alarm).calls ++ calls ∧
        ∀ order ∈ sentOrders calls, order.intent.action ≠ .entry := by
  have hstopped := halarm.safeMode
  refine ⟨?_, ?_⟩
  · refine Run.always_of_step (V := fun _ event => event.NotExit) ?_ hstopped
      (Run.along_of_forall (fun event he _ => hstay event he) _)
    exact fun state event hsafe hnot => (step_blocked hsafe hnot).1
  · rw [List.foldl_append, List.foldl_cons]
    exact run_blocked hstopped hstay

end TradingSystem

end Runs

section Sample

open scoped DefaultContext

-- The loop and the routers of a market whose orders are stored, with a daemon and a periodic
-- reconciliation over stores that are empty.
def sampleSystem : TradingSystem Market where
  loop := Market.loop {} { requireAck := true }
  daemon := {
    orderStore := { listOpenOrders := pure [] }
    exchange := Market.exchange.toExchangeAdapter
    positionStore := { listPositions := fun _ => pure [], upsertPosition := fun _ => pure () }
    positionReconciler := { fetchPositionSnapshots := Market.exchange.fetchPositionSnapshots }
    alerts := { send := fun _ outside => outside }
    clock := { wait := fun _ _ => .ok () }
    config := {} }
  periodic := {
    runner := {
      orderStore := { listOpenOrders := pure [] }
      exchange := Market.exchange.toExchangeAdapter
      alerts := { send := fun _ outside => outside }
      printer := { tuple := fun ids => toString ids, error := fun _ => "" } }
    clock := { wait := fun _ _ => .ok () }
    config := {} }
  queryOrder _ _ := pure none

-- The loop enters a position; the order is not among the open orders of the exchange, so the
-- reconciliation of the store alarms, and the second candidate is not entered.
theorem entries_stay_blocked_sample :
    ∃ calls, ([.runLoop [sampleCandidate "BTCUSDT"], .reconcile, .runLoop [sampleCandidate "ETHUSDT"]].foldl
        sampleSystem.step sampleMarket).calls =
      (sampleSystem.step ([.runLoop [sampleCandidate "BTCUSDT"]].foldl sampleSystem.step sampleMarket)
        .reconcile).calls ++ calls ∧ ∀ order ∈ sentOrders calls, order.intent.action ≠ .entry := by
  have halarm : sampleSystem.Alarms
      ([.runLoop [sampleCandidate "BTCUSDT"]].foldl sampleSystem.step sampleMarket) .reconcile := by
    have hreport : (reconcileOpenOrders Market.exchange.toExchangeAdapter
        ([.runLoop [sampleCandidate "BTCUSDT"]].foldl sampleSystem.step sampleMarket)).1.map
          (·.consistent) = .ok false := by
      decide +kernel
    exact Raise.map_eq_ok.mp hreport
  have hblocked := sampleSystem.entries_stay_blocked sampleMarket [.runLoop [sampleCandidate "BTCUSDT"]]
    .reconcile [.runLoop [sampleCandidate "ETHUSDT"]] halarm (by simp [SystemEvent.NotExit])
  exact hblocked.2

end Sample

end DualSleeve

import DualSleeve.Exchange.BinanceTestnet
import DualSleeve.Execution.RouteTrace.Orphans
import DualSleeve.Execution.TradingSystem.Theorems

namespace DualSleeve

open Library

abbrev SessionWorld := World BinanceUsdmTestnetAdapter

-- A call of a component over the inert testnet adapter; the clock shows `now`.
inductive SessionEvent where
  | enter (reason : SafeModeReason)
  | exit (reason : String)
  | route (mode : TradingMode) (now : DateTime) (intent : OrderIntent)
  | cancel (clientOrderId symbol : String)
  | reconcile
  | repair (clientOrderId : String)

def sessionRouter (mode : TradingMode) (now : DateTime) : PersistentOrderRouter BinanceUsdmTestnetAdapter where
  router := { mode, exchange := BinanceUsdmTestnetAdapter.exchange, now := fun _ => now }

def sessionStep [DecimalContext] (world : SessionWorld) : SessionEvent → SessionWorld
  | .enter reason => (enterSafeMode reason world).2
  | .exit reason => (exitSafeMode reason world).2
  | .route mode now intent => ((sessionRouter mode now).route intent world).2
  | .cancel clientOrderId symbol => (remote (.cancelOrder clientOrderId symbol)
      (BinanceUsdmTestnetAdapter.cancelOrder clientOrderId symbol) world).2
  | .reconcile => (reconcileOpenOrders BinanceUsdmTestnetAdapter.exchange world).2
  | .repair clientOrderId =>
      (repairByClientOrderId BinanceUsdmTestnetAdapter.queryOrder clientOrderId world).2

-- A new adapter and an empty store.
def sessionStart (filters : List (String × SymbolFilters)) (positions : List ExchangePositionSnapshot)
    (safeMode : SafeModeController) : SessionWorld where
  outside := { filters, positions }
  safeMode := safeMode

-- Whether an order of the id rests on the book after a call, where it did before or not.
def Call.rests (clientOrderId : String) (before : Bool) : Call → Bool
  | .submitOrder order => before || order.clientOrderId = clientOrderId
  | .cancelOrder canceled _ => before && canceled ≠ clientOrderId
  | _ => before

-- The last call about the id handed an order over, and did not cancel it.
def restsAfter (calls : List Call) (clientOrderId : String) : Bool :=
  calls.foldl (Call.rests clientOrderId) false

def sentIds (calls : List Call) : List String := (sentOrders calls).map OrderRecord.clientOrderId

-- Nothing happened to the order since it was handed over.
def OrderRecord.Untouched (order : OrderRecord) : Prop :=
  order.status = .submitted ∧ order.exchangeOrderId = none ∧ order.filledQuantity = 0 ∧
    order.averageFillPrice = none

-- The book holds what was handed over and not canceled since, and the store all that was
-- handed over; neither side knows of anything that happened to an order.
structure SessionInvariant (world : SessionWorld) : Prop where
  book : ∀ id, (world.outside.orders.find? id).isSome = restsAfter world.calls id
  stored : ∀ id, (world.orders.getOrder id).isSome ↔ id ∈ sentIds world.calls
  booked : ∀ id order, world.outside.orders.find? id = some order → order.Untouched
  kept : ∀ id order, world.orders.getOrder id = some order → order.Untouched

theorem restsAfter_append (calls : List Call) (call : Call) (id : String) :
    restsAfter (calls ++ [call]) id = call.rests id (restsAfter calls id) := by
  rw [restsAfter, List.foldl_append]
  rfl

theorem restsAfter_of_unchanged {calls more : List Call} (h : ∀ call ∈ more, call.changesOrders = false)
    (id : String) : restsAfter (calls ++ more) id = restsAfter calls id := by
  induction more using List.reverseRecOn with
  | nil => rw [List.append_nil]
  | append_singleton more call ih =>
    have hcall := h call (by simp)
    rw [← List.append_assoc, restsAfter_append, ih fun other hother => h other (by simp [hother])]
    cases call <;> first | rfl | cases hcall

-- What rests was handed over.
theorem mem_sentIds_of_rests {calls : List Call} {id : String} (h : restsAfter calls id = true) :
    id ∈ sentIds calls := by
  induction calls using List.reverseRecOn with
  | nil => cases h
  | append_singleton calls call ih =>
    have hearlier : restsAfter calls id = true → id ∈ sentIds (calls ++ [call]) := by
      intro hrests
      rw [sentIds, sentOrders_append, List.map_append]
      exact List.mem_append_left _ (ih hrests)
    rw [restsAfter_append] at h
    cases call with
    | submitOrder order =>
      rw [Call.rests, Bool.or_eq_true, decide_eq_true_eq] at h
      rcases h with h | rfl
      · exact hearlier h
      · simp [sentIds, sentOrders]
    | cancelOrder canceled symbol =>
      rw [Call.rests, Bool.and_eq_true] at h
      exact hearlier h.1
    | _ => exact hearlier h

theorem sessionInvariant_start (filters : List (String × SymbolFilters))
    (positions : List ExchangePositionSnapshot) (safeMode : SafeModeController) :
    SessionInvariant (sessionStart filters positions safeMode) where
  book _ := rfl
  stored _ := by simp [sessionStart, sentIds, sentOrders, OrderStore.getOrder]
  booked _ _ h := by cases h
  kept _ _ h := by cases h

-- Calls that change no order keep the invariant.
theorem SessionInvariant.of_leaves {world after : SessionWorld} (h : SessionInvariant world)
    (hleaves : LeavesOrders world after) (hbook : after.outside.orders = world.outside.orders) :
    SessionInvariant after := by
  obtain ⟨calls, hcalls, hunchanged⟩ := hleaves.calls
  refine ⟨?_, ?_, ?_, ?_⟩
  · intro id
    rw [hbook, hcalls, restsAfter_of_unchanged hunchanged, h.book]
  · intro id
    rw [hleaves.orders, hcalls, sentIds, sentOrders_append, sentOrders_of_unchanged hunchanged,
      List.append_nil]
    exact h.stored id
  · intro id order hfind
    rw [hbook] at hfind
    exact h.booked id order hfind
  · intro id order hget
    rw [hleaves.orders] at hget
    exact h.kept id order hget

-- The invariant after an order was handed over, with what the store then holds.
theorem SessionInvariant.submit {world after : SessionWorld} (h : SessionInvariant world)
    (order : OrderRecord) (huntouched : order.Untouched) (symbol : String)
    (hcalls : after.calls = world.calls ++ submitCalls symbol order (some order))
    (hbook : after.outside.orders = world.outside.orders.upsert order)
    (horders : after.orders = world.orders.upsertOrder order) : SessionInvariant after := by
  have hfind : ∀ id, after.outside.orders.find? id =
      if id = order.clientOrderId then some order else world.outside.orders.find? id := by
    intro id
    rw [hbook]
    exact BinanceUsdmTestnetAdapter.find_submitOrder order world.outside id
  refine ⟨?_, ?_, ?_, ?_⟩
  · intro id
    have hrests : restsAfter after.calls id = (restsAfter world.calls id || order.clientOrderId = id) := by
      rw [hcalls]
      unfold restsAfter
      rw [List.foldl_append]
      rfl
    rw [hrests, hfind]
    by_cases hid : id = order.clientOrderId
    · simp [hid]
    · simp [hid, h.book, Ne.symm hid]
  · intro id
    rw [hcalls, sentIds, sentOrders_append, sentOrders_submitCalls, List.map_append, List.mem_append,
      List.map_singleton, List.mem_singleton, horders, isSome_getOrder_upsertOrder, h.stored, sentIds]
  · intro id other hother
    rw [hfind] at hother
    by_cases hid : id = order.clientOrderId
    · rw [if_pos hid] at hother
      cases hother
      exact huntouched
    · rw [if_neg hid] at hother
      exact h.booked id other hother
  · intro id other hother
    rw [horders] at hother
    by_cases hid : id = order.clientOrderId
    · subst hid
      rw [OrderStore.getOrder_upsertOrder_self] at hother
      cases hother
      exact huntouched
    · rw [OrderStore.getOrder_upsertOrder_of_ne _ hid] at hother
      exact h.kept id other hother

section Steps

variable [DecimalContext]

theorem SessionInvariant.route {world : SessionWorld} (h : SessionInvariant world) (mode : TradingMode)
    (now : DateTime) (intent : OrderIntent) :
    SessionInvariant ((sessionRouter mode now).route intent world).2 := by
  have hrouted := OrderRouter.route_routed (sessionRouter mode now).router intent world
  generalize hresult : (sessionRouter mode now).router.route intent world = result at hrouted
  obtain ⟨outcome, after⟩ := result
  cases hrouted with
  | blocked hentry hsafe =>
    rw [PersistentOrderRouter.route_of_kept (by simp) hresult]
    exact h
  | notReduceOnly hclose hreduce =>
    rw [PersistentOrderRouter.route_of_kept (by simp) hresult]
    exact h
  | noFilters hgate exc outside hfilters => cases hfilters
  | filtered hgate filters outside hfilters exc hnormal =>
    rw [PersistentOrderRouter.route_of_error hresult]
    cases hfilters
    exact h.of_leaves (leavesOrders_filters _ _ _) rfl
  | signalOnly hgate filters outside hfilters normalized hnormal hmode =>
    rw [PersistentOrderRouter.route_of_kept (by simp) hresult]
    cases hfilters
    exact h.of_leaves (leavesOrders_filters _ _ _) rfl
  | submitRaised hgate filters outside hfilters normalized hnormal hmode exc final hsubmit => cases hsubmit
  | submitted hgate filters outside hfilters normalized hnormal hmode order final hsubmit =>
    rw [PersistentOrderRouter.route_of_submitted hresult]
    cases hfilters
    cases hsubmit
    refine h.submit (OrderRouter.submittedOrder normalized now) ⟨rfl, rfl, rfl, rfl⟩ intent.symbol ?_ rfl rfl
    exact (List.append_assoc ..).trans (List.append_assoc ..)

theorem SessionInvariant.cancel {world : SessionWorld} (h : SessionInvariant world)
    (clientOrderId symbol : String) :
    SessionInvariant (sessionStep world (.cancel clientOrderId symbol)) := by
  have hfind : ∀ id, (sessionStep world (.cancel clientOrderId symbol)).outside.orders.find? id =
      if id = clientOrderId then none else world.outside.orders.find? id :=
    fun id => (BinanceUsdmTestnetAdapter.find_cancelOrder clientOrderId symbol world.outside id).2
  have hcalls : (sessionStep world (.cancel clientOrderId symbol)).calls =
      world.calls ++ [.cancelOrder clientOrderId symbol] := rfl
  refine ⟨?_, ?_, ?_, h.kept⟩
  · intro id
    rw [hfind, hcalls, restsAfter_append, Call.rests, ← h.book]
    by_cases hid : id = clientOrderId
    · simp [hid]
    · simp [hid, Ne.symm hid]
  · intro id
    have hsent : sentOrders [.cancelOrder clientOrderId symbol] = [] := rfl
    rw [hcalls, sentIds, sentOrders_append, hsent, List.append_nil]
    exact h.stored id
  · intro id order hother
    rw [hfind] at hother
    by_cases hid : id = clientOrderId
    · rw [if_pos hid] at hother
      cases hother
    · rw [if_neg hid] at hother
      exact h.booked id order hother

end Steps

theorem SessionInvariant.rests_iff {world : SessionWorld} (h : SessionInvariant world) {id : String} :
    restsAfter world.calls id = true ↔
      id ∈ (world.outside.orders.rows.map OrderRecord.clientOrderId) := by
  rw [← h.book, Option.isSome_iff_exists]
  exact Table.mem_keys_iff.symm

-- What is stored is open, since nothing ever happens to it.
theorem SessionInvariant.sent_iff {world : SessionWorld} (h : SessionInvariant world) {id : String} :
    id ∈ sentIds world.calls ↔ id ∈ world.orders.listOpenOrders.map OrderRecord.clientOrderId := by
  rw [← h.stored, Option.isSome_iff_exists, List.mem_map]
  constructor
  · rintro ⟨order, hget⟩
    have hid := OrderStore.clientOrderId_of_getOrder hget
    refine ⟨order, OrderStore.mem_listOpenOrders_iff.mpr ⟨hid.symm ▸ hget, ?_⟩, hid⟩
    rw [(h.kept id order hget).1]
    decide
  · rintro ⟨order, horder, rfl⟩
    exact ⟨order, (OrderStore.mem_listOpenOrders_iff.mp horder).1⟩

theorem SessionInvariant.no_mismatch {world : SessionWorld} (h : SessionInvariant world) (id : String) :
    statusesMismatch world.orders.listOpenOrders world.outside.orders.rows id = false := by
  unfold statusesMismatch
  split
  · rename_i localOrder bookOrder hlocal hbook
    have hopen : localOrder ∈ world.orders.listOpenOrders :=
      List.mem_reverse.mp (List.mem_of_find?_eq_some hlocal)
    have hrests : bookOrder ∈ world.outside.orders.rows :=
      List.mem_reverse.mp (List.mem_of_find?_eq_some hbook)
    have hsubmitted := (h.kept _ _ (OrderStore.mem_listOpenOrders_iff.mp hopen).1).1
    have hsubmitted' := (h.booked _ _ (Table.find_of_mem hrests)).1
    rw [hsubmitted, hsubmitted']
    rfl
  · rfl

-- The report of a session: what is missing on the exchange was canceled, and nothing else
-- ever differs.
structure SessionReport (world : SessionWorld) (report : ReconciliationReport) : Prop where
  missing : ∀ id, id ∈ report.missingOnExchange ↔
    id ∈ sentIds world.calls ∧ restsAfter world.calls id = false
  unknown : report.unknownOnLocal = []
  status : report.statusMismatches = []
  error : report.error = none
  consistent : report.consistent = true ↔ ∀ id ∈ sentIds world.calls, restsAfter world.calls id = true

theorem SessionInvariant.report {world : SessionWorld} (h : SessionInvariant world) :
    SessionReport world (compareOrders world.orders.listOpenOrders world.outside.orders.rows) := by
  refine ⟨?_, ?_, ?_, rfl, ?_⟩
  · intro id
    have hmem : id ∈ (compareOrders world.orders.listOpenOrders world.outside.orders.rows).missingOnExchange ↔ _ :=
      KeyedDiff.mem_missing (statusesMismatch world.orders.listOpenOrders world.outside.orders.rows)
    rw [hmem, ← h.sent_iff, ← h.rests_iff, Bool.not_eq_true]
  · rw [List.eq_nil_iff_forall_not_mem]
    intro id hunknown
    obtain ⟨hbook, hlocal⟩ := (KeyedDiff.mem_unknown
      (statusesMismatch world.orders.listOpenOrders world.outside.orders.rows)).mp hunknown
    exact hlocal (h.sent_iff.mp (mem_sentIds_of_rests (h.rests_iff.mpr hbook)))
  · rw [List.eq_nil_iff_forall_not_mem]
    intro id hmismatched
    have hmismatch := (KeyedDiff.mem_mismatched.mp hmismatched).2
    rw [h.no_mismatch] at hmismatch
    cases hmismatch
  · rw [compareOrders_consistent_iff]
    simp only [← h.sent_iff, ← h.rests_iff, h.no_mismatch, implies_true, and_true]
    exact ⟨fun hall id => (hall id).mp, fun hall id => ⟨hall id, mem_sentIds_of_rests⟩⟩

-- What a repair comes to after these calls.
def repairReason (world : SessionWorld) (id : String) : RepairReason :=
  if id ∉ sentIds world.calls then .localOrderMissing
  else if restsAfter world.calls id = false then .exchangeOrderMissing
  else if (world.outside.orders.find? id).map (·.intent.symbol) ≠ (world.orders.getOrder id).map (·.intent.symbol)
    then .symbolMismatch
  else .consistent

theorem unchanged_of_untouched {localOrder order : OrderRecord} (hlocal : localOrder.Untouched)
    (h : order.Untouched) : (applyRemoteSnapshot localOrder order.snapshot).1 = false := by
  obtain ⟨hstatus, hid, hfilled, haverage⟩ := hlocal
  obtain ⟨hstatus', hid', hfilled', haverage'⟩ := h
  exact unchanged_iff.mpr ⟨hstatus.trans hstatus'.symm, hid.trans hid'.symm, hfilled.trans hfilled'.symm,
    haverage.trans haverage'.symm⟩

-- A repair never finds anything to write: a snapshot of the book is that of the stored order.
theorem SessionInvariant.repair {world : SessionWorld} (h : SessionInvariant world) (id : String) :
    ∃ recommendation after,
      repairByClientOrderId BinanceUsdmTestnetAdapter.queryOrder id world = (.ok recommendation, after) ∧
        recommendation.reason = repairReason world id ∧ LeavesOrders world after ∧
        after.outside = world.outside := by
  have hsent := h.stored id
  have hrests := h.book id
  unfold repairByClientOrderId
  rw [Program.get_bind]
  cases hlocal : world.orders.getOrder id with
  | none =>
    rw [hlocal] at hsent
    have hreason : repairReason world id = .localOrderMissing :=
      if_pos fun hmem => Bool.noConfusion (hsent.mpr hmem)
    exact ⟨_, _, rfl, hreason.symm, allows_leavesOrders.enter _ world, rfl⟩
  | some localOrder =>
    rw [hlocal] at hsent
    have hmem := hsent.mp rfl
    have hquery : BinanceUsdmTestnetAdapter.queryOrder localOrder.intent.symbol id world.outside =
        (.ok ((world.outside.orders.find? id).map OrderRecord.snapshot), world.outside) := rfl
    have hasked : LeavesOrders world (world.after (.queryOrder localOrder.intent.symbol id) world.outside) :=
      ⟨⟨_, rfl, by simp [Call.changesOrders]⟩, rfl, fun hsafe => hsafe⟩
    have hentered := fun reason => IsTrans.trans _ _ _ hasked (allows_leavesOrders.enter reason _)
    simp only [Program.attempt_bind (remote_of_eq hquery)]
    cases hfind : world.outside.orders.find? id with
    | none =>
      rw [hfind, Option.isSome_none] at hrests
      have hreason : repairReason world id = .exchangeOrderMissing := by
        rw [repairReason, if_neg (not_not_intro hmem), if_pos hrests.symm]
      exact ⟨_, _, rfl, hreason.symm, hentered _, rfl⟩
    | some bookOrder =>
      rw [hfind, Option.isSome_some] at hrests
      have hreason : repairReason world id = if (world.outside.orders.find? id).map (·.intent.symbol) ≠
          (world.orders.getOrder id).map (·.intent.symbol) then .symbolMismatch else .consistent := by
        rw [repairReason, if_neg (not_not_intro hmem), ← hrests, if_neg Bool.noConfusion]
      rw [hreason, hfind, hlocal]
      simp only [Option.map_some]
      by_cases hsymbol : bookOrder.snapshot.symbol = localOrder.intent.symbol
      · have hsame := unchanged_of_untouched (h.kept id localOrder hlocal) (h.booked id bookOrder hfind)
        have hsymbols : some bookOrder.intent.symbol = some localOrder.intent.symbol := congrArg some hsymbol
        rw [if_neg (not_not_intro hsymbols), if_neg (not_not_intro hsymbol), hsame, if_neg Bool.false_ne_true]
        exact ⟨_, _, rfl, rfl, hasked, rfl⟩
      · have hsymbols : some bookOrder.intent.symbol ≠ some localOrder.intent.symbol :=
          fun he => hsymbol (Option.some.inj he)
        rw [if_pos hsymbols, if_pos hsymbol]
        exact ⟨_, _, rfl, rfl, hentered _, rfl⟩

theorem SessionInvariant.reconcile {world : SessionWorld} (h : SessionInvariant world) :
    ∃ report, (reconcileOpenOrders BinanceUsdmTestnetAdapter.exchange world).1 = .ok report ∧
      SessionReport world report :=
  ⟨_, congrArg Prod.fst (reconcileOpenOrders_of_fetched rfl), h.report⟩

section Session

variable [DecimalContext]

theorem sessionInvariant_step {world : SessionWorld} (h : SessionInvariant world) (event : SessionEvent) :
    SessionInvariant (sessionStep world event) := by
  cases event with
  | enter reason => exact h.of_leaves (allows_leavesOrders.enter reason world) rfl
  | exit reason => exact ⟨h.book, h.stored, h.booked, h.kept⟩
  | route mode now intent => exact h.route mode now intent
  | cancel clientOrderId symbol => exact h.cancel clientOrderId symbol
  | reconcile =>
    refine h.of_leaves (reconcileOpenOrders_leaves BinanceUsdmTestnetAdapter.exchange world) ?_
    have hfetched : BinanceUsdmTestnetAdapter.exchange.fetchOpenOrders world.outside =
        (.ok world.outside.orders.rows, world.outside) := rfl
    rw [sessionStep, reconcileOpenOrders_of_fetched hfetched]
    unfold World.settled
    split <;> rfl
  | repair clientOrderId =>
    obtain ⟨_, after, hrun, -, hleaves, houtside⟩ := h.repair clientOrderId
    have hafter : sessionStep world (.repair clientOrderId) = after := congrArg Prod.snd hrun
    rw [hafter]
    exact h.of_leaves hleaves (congrArg _ houtside)

-- In every session over the inert adapter, however routes in any mode, cancels, switches of
-- the safe mode, reconciliations and repairs follow each other: a reconciliation finds no
-- unknown order and no other status, and reports as missing what was handed over and then
-- canceled; a repair writes nothing, and gives the reason the calls so far explain.
theorem session_reconciles (filters : List (String × SymbolFilters))
    (positions : List ExchangePositionSnapshot) (safeMode : SafeModeController) (events : List SessionEvent) :
    Run.Always sessionStep (fun reached =>
        (∃ report, (reconcileOpenOrders BinanceUsdmTestnetAdapter.exchange reached).1 = .ok report ∧
          SessionReport reached report) ∧
        ∀ id, ∃ recommendation after,
          repairByClientOrderId BinanceUsdmTestnetAdapter.queryOrder id reached = (.ok recommendation, after) ∧
            recommendation.reason = repairReason reached id ∧ after.orders = reached.orders)
      (sessionStart filters positions safeMode) events := by
  have halways : Run.Always sessionStep SessionInvariant (sessionStart filters positions safeMode) events := by
    refine Run.always_of_step (V := fun _ _ => True) (fun _ event h _ => sessionInvariant_step h event)
      (sessionInvariant_start filters positions safeMode) (Run.along_of_forall (fun _ _ _ => trivial) _)
  intro reached hreached
  have hinvariant := halways reached hreached
  refine ⟨hinvariant.reconcile, fun id => ?_⟩
  obtain ⟨recommendation, after, hrun, hreason, hleaves, -⟩ := hinvariant.repair id
  exact ⟨recommendation, after, hrun, hreason, hleaves.orders⟩

end Session

end DualSleeve

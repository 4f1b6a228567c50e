import DualSleeve.Exchange.BinanceRest.Decimals
import DualSleeve.Exchange.BinanceRest.OrderQuery
import DualSleeve.Execution.TradingSystem.Runs

namespace DualSleeve

open Library Library.DecimalNumeral

-- The REST adapter, as the entry loop uses it.
def BinanceRest.loopExchange : SleeveBLoopExchange RestState where
  toExchangeAdapter := BinanceRest.adapter
  fetchAccountSnapshot := BinanceRest.fetchAccountSnapshot
  fetchPositionSnapshots := BinanceRest.fetchPositionSnapshots

-- All components are given one REST adapter, and what they are given besides, the stores and
-- the alerts, leaves its cache alone.
structure TradingSystem.OverRest (system : TradingSystem RestState) : Prop where
  loop : system.loop.exchange = BinanceRest.loopExchange
  daemon : system.daemon.exchange = BinanceRest.adapter
  positions : system.daemon.positionReconciler.fetchPositionSnapshots = BinanceRest.fetchPositionSnapshots
  periodic : system.periodic.runner.exchange = BinanceRest.adapter
  query : system.queryOrder = BinanceRest.queryOrder
  daemonOrders : Program.Keeps RestState.filtersCache system.daemon.orderStore.listOpenOrders
  listPositions : Program.Keeps RestState.filtersCache (system.daemon.positionStore.listPositions false)
  upsertPosition : ∀ position,
    Program.Keeps RestState.filtersCache (system.daemon.positionStore.upsertPosition position)
  daemonAlerts : ∀ message state, (system.daemon.alerts.send message state).filtersCache = state.filtersCache
  periodicOrders : Program.Keeps RestState.filtersCache system.periodic.runner.orderStore.listOpenOrders
  periodicAlerts : ∀ message state,
    (system.periodic.runner.alerts.send message state).filtersCache = state.filtersCache

-- What happens outside changes the answers of the exchange and the clock.
def SystemEvent.LeavesCache : SystemEvent RestState → Prop
  | .outside change => ∀ state, (change state).filtersCache = state.filtersCache
  | _ => True

-- The numbers of the filters and of the stored orders are decimals.
structure DecimalWorld (world : World RestState) : Prop where
  cache : BinanceRest.CacheDecimal world.outside
  orders : ∀ row ∈ world.orders.rows, (rowToOrder row).Decimal

-- From decimals, only decimals are handed over and written.
def KeepsDecimals (before after : World RestState) : Prop :=
  ∃ calls, after.calls = before.calls ++ calls ∧
    (DecimalWorld before → DecimalWorld after ∧
      ∀ order, order ∈ sentOrders calls ∨ order ∈ writtenOrders calls → order.Decimal)

instance : IsPreorder (World RestState) KeepsDecimals where
  refl world := ⟨[], (List.append_nil _).symm, fun h => ⟨h, by simp [sentOrders, writtenOrders]⟩⟩
  trans before between after first second := by
    obtain ⟨calls, hcalls, hdecimal⟩ := first
    obtain ⟨more, hmore, hdecimal'⟩ := second
    refine ⟨calls ++ more, by rw [hmore, hcalls, List.append_assoc], ?_⟩
    intro h
    obtain ⟨hbetween, horders⟩ := hdecimal h
    obtain ⟨hafter, horders'⟩ := hdecimal' hbetween
    refine ⟨hafter, ?_⟩
    intro order horder
    rw [sentOrders_append, writtenOrders_append, List.mem_append, List.mem_append] at horder
    rcases horder with (h | h) | h | h
    · exact horders order (.inl h)
    · exact horders' order (.inl h)
    · exact horders order (.inr h)
    · exact horders' order (.inr h)

section Calls

open Program

variable {α : Type} {world after : World RestState}

theorem KeepsDecimals.of_unchanged (calls : List Call) (hcalls : after.calls = world.calls ++ calls)
    (hunchanged : ∀ call ∈ calls, call.changesOrders = false) (horders : after.orders = world.orders)
    (hcache : BinanceRest.CacheDecimal world.outside → BinanceRest.CacheDecimal after.outside) :
    KeepsDecimals world after := by
  refine ⟨calls, hcalls, fun h => ⟨⟨hcache h.cache, by rw [horders]; exact h.orders⟩, ?_⟩⟩
  rw [sentOrders_of_unchanged hunchanged, writtenOrders_of_unchanged hunchanged]
  simp

theorem keepsDecimals_remote {call : Call} {answer : Remote RestState α} (hcall : call.changesOrders = false)
    (hcache : ∀ state, BinanceRest.CacheDecimal state → BinanceRest.CacheDecimal (answer state).2) :
    Leads KeepsDecimals (remote call answer) := by
  intro world
  exact .of_unchanged [call] rfl (by simpa using hcall) rfl (hcache world.outside)

theorem keepsDecimals_view {call : Call} {answer : Remote RestState α} (hcall : call.changesOrders = false)
    (hkeeps : Keeps RestState.filtersCache answer) : Leads KeepsDecimals (remote call answer) := by
  refine keepsDecimals_remote hcall ?_
  intro state h
  unfold BinanceRest.CacheDecimal at h ⊢
  rwa [hkeeps state]

theorem keepsDecimals_of_state {call : Call} {answer : Remote RestState α} (hcall : call.changesOrders = false)
    (hstate : ∀ state, (answer state).2 = state) : Leads KeepsDecimals (remote call answer) :=
  keepsDecimals_view hcall fun state => by rw [hstate]

theorem keepsDecimals_sendAlert {alerts : AlertSink RestState}
    (halerts : ∀ message state, (alerts.send message state).filtersCache = state.filtersCache)
    (message : String) : Leads KeepsDecimals (sendAlert alerts message) := by
  intro world
  refine .of_unchanged [.sendAlert message] rfl (by simp [Call.changesOrders]) rfl ?_
  unfold BinanceRest.CacheDecimal
  change _ → ∀ entry ∈ (alerts.send message world.outside).filtersCache, _
  rw [halerts]
  exact id

theorem allows_keepsDecimals : Allows KeepsDecimals where
  enter reason := by
    intro world
    exact .of_unchanged [] (List.append_nil _).symm (by simp) rfl id
  sleep clock seconds :=
    sleep_leads (fun _ => .of_unchanged [.sleep seconds] rfl (by simp [Call.changesOrders]) rfl id) clock

end Calls

theorem decimal_toRow {order : OrderRecord} (h : order.Decimal) : (rowToOrder order.toRow).Decimal :=
  ⟨⟨h.intent.quantity, h.intent.price⟩, h.filledQuantity, h.averageFillPrice⟩

-- A write of decimals leaves decimals, whether the row is new or not.
theorem decimal_rows_upsertOrder {store : OrderStore} {order : OrderRecord} (horder : order.Decimal)
    (h : ∀ row ∈ store.rows, (rowToOrder row).Decimal) :
    ∀ row ∈ (store.upsertOrder order).rows, (rowToOrder row).Decimal := by
  refine Table.forall_rows_upsert (P := fun row => (rowToOrder row).Decimal) ?_ h (decimal_toRow horder)
  intro old row hold hrow
  exact ⟨hold.intent, hrow.filledQuantity, hrow.averageFillPrice⟩

section Sending

open Program

variable {world after : World RestState}

theorem decimal_submittedOrder {normalized : OrderIntent} (h : normalized.Decimal) (now : DateTime) :
    (OrderRouter.submittedOrder normalized now).Decimal :=
  ⟨h, isDecimal_intCast 0, by simp [OrderRouter.submittedOrder, OrderRouter.newOrder]⟩

theorem getSymbolFilters_keepsDecimals (symbol : String) :
    Leads KeepsDecimals (remote (.getSymbolFilters symbol) (BinanceRest.getSymbolFilters symbol)) :=
  keepsDecimals_remote rfl fun _ h => (BinanceRest.getSymbolFilters_decimal h symbol).1

variable [DecimalContext]

-- An order that the adapter was handed, and what came back of it.
theorem keepsDecimals_submit {intent normalized : OrderIntent} {filters : SymbolFilters} {outside : RestState}
    (hfilters : BinanceRest.getSymbolFilters intent.symbol world.outside = (.ok filters, outside))
    (hnormal : normalizeOrderIntent intent filters = .ok normalized) {now : DateTime}
    {answer : Except PyError OrderRecord} {final : RestState} (reply : Option OrderRecord)
    (hsubmit : BinanceRest.submitOrder (OrderRouter.submittedOrder normalized now) outside = (answer, final))
    (hreply : ∀ order ∈ reply, answer = .ok order)
    (hcalls : after.calls = world.calls ++
      submitCalls intent.symbol (OrderRouter.submittedOrder normalized now) reply)
    (horders : after.orders = reply.elim world.orders world.orders.upsertOrder) (houtside : after.outside = final) :
    KeepsDecimals world after := by
  refine ⟨_, hcalls, fun h => ?_⟩
  obtain ⟨hcache, hdecimal⟩ := BinanceRest.getSymbolFilters_decimal h.cache intent.symbol
  rw [hfilters] at hcache hdecimal
  have hsent := decimal_submittedOrder (decimal_of_normalized (hdecimal filters rfl) hnormal) now
  have hfinal : final = outside := by
    exact (congrArg Prod.snd hsubmit).symm.trans (BinanceRest.submitOrder_state _)
  have hwritten : ∀ order ∈ reply, order.Decimal := by
    intro order horder
    refine BinanceRest.submitOrder_decimal hsent ((congrArg Prod.fst hsubmit).trans ?_)
    exact hreply order horder
  refine ⟨⟨by rw [houtside, hfinal]; exact hcache, ?_⟩, ?_⟩
  · rw [horders]
    cases reply with
    | none => exact h.orders
    | some order => exact decimal_rows_upsertOrder (hwritten order rfl) h.orders
  · intro order horder
    rw [sentOrders_submitCalls, writtenOrders_submitCalls, List.mem_singleton, Option.mem_toList] at horder
    rcases horder with rfl | hmem
    · exact hsent
    · exact hwritten order hmem

theorem route_keepsDecimals {persistent : PersistentOrderRouter RestState}
    (hexchange : persistent.router.exchange = BinanceRest.adapter) (intent : OrderIntent) :
    Leads KeepsDecimals (persistent.route intent) := by
  intro world
  obtain ⟨router⟩ := persistent
  obtain ⟨mode, exchange, now⟩ := router
  subst hexchange
  have hasked : ∀ {answer outside}, BinanceRest.getSymbolFilters intent.symbol world.outside = (answer, outside) →
      KeepsDecimals world (world.after (.getSymbolFilters intent.symbol) outside) :=
    fun hfilters => (getSymbolFilters_keepsDecimals intent.symbol).of_eq (remote_of_eq hfilters)
  have hrouted := OrderRouter.route_routed ⟨mode, BinanceRest.adapter, now⟩ intent world
  generalize hresult : OrderRouter.route ⟨mode, BinanceRest.adapter, now⟩ intent world = result at hrouted
  obtain ⟨outcome, after⟩ := result
  cases hrouted with
  | blocked hentry hsafe =>
    rw [PersistentOrderRouter.route_of_kept (by simp) hresult]
    exact refl after
  | notReduceOnly hclose hreduce =>
    rw [PersistentOrderRouter.route_of_kept (by simp) hresult]
    exact refl after
  | noFilters hgate exc outside hfilters =>
    rw [PersistentOrderRouter.route_of_error hresult]
    exact hasked hfilters
  | filtered hgate filters outside hfilters exc hnormal =>
    rw [PersistentOrderRouter.route_of_error hresult]
    exact hasked hfilters
  | signalOnly hgate filters outside hfilters normalized hnormal hmode =>
    rw [PersistentOrderRouter.route_of_kept (by simp) hresult]
    exact hasked hfilters
  | submitRaised hgate filters outside hfilters normalized hnormal hmode exc final hsubmit =>
    rw [PersistentOrderRouter.route_of_error hresult]
    refine keepsDecimals_submit hfilters hnormal none hsubmit (by simp) ?_ rfl rfl
    simp [submitCalls]
  | submitted hgate filters outside hfilters normalized hnormal hmode order final hsubmit =>
    rw [PersistentOrderRouter.route_of_submitted hresult]
    refine keepsDecimals_submit hfilters hnormal (some order) hsubmit (by simp) ?_ rfl rfl
    simp [submitCalls]

variable {loop : SleeveBAutoTestnetLoop RestState} (hexchange : loop.exchange = BinanceRest.loopExchange)

include hexchange

theorem considerCandidates_keepsDecimals (account : AccountSnapshotV3)
    (allPositions : List ExchangePositionSnapshot) (submitted : ℤ) (candidates : List SleeveBSignalCandidate) :
    Leads KeepsDecimals (loop.considerCandidates account allPositions submitted candidates) := by
  have hrouter : loop.router.router.exchange = BinanceRest.adapter :=
    congrArg SleeveBLoopExchange.toExchangeAdapter hexchange
  have hfilters : ∀ symbol, Leads KeepsDecimals
      (remote (.getSymbolFilters symbol) (loop.exchange.getSymbolFilters symbol)) := by
    intro symbol
    rw [hexchange]
    exact getSymbolFilters_keepsDecimals symbol
  have hone : ∀ submitted candidate,
      Leads KeepsDecimals (loop.considerCandidate account allPositions submitted candidate) := by
    intro submitted candidate
    refine leads_get_bind fun world => ?_
    refine (leads_pure _).ite ((leads_pure _).ite ((hfilters _).bind fun filters => ?_)) world
    refine (leads_ofExcept _).bind fun allocation => (leads_pure _).ite ?_
    exact (route_keepsDecimals hrouter _).bind fun _ => leads_pure _
  induction candidates generalizing submitted with
  | nil => exact leads_pure _
  | cons candidate candidates ih =>
    exact (hone submitted candidate).bind fun _ => (ih _).bind fun _ => leads_pure _

theorem runOnce_keepsDecimals (candidates : List SleeveBSignalCandidate) :
    Leads KeepsDecimals (loop.runOnce candidates) := by
  have haccount : Leads KeepsDecimals (remote .fetchAccountSnapshot loop.exchange.fetchAccountSnapshot) := by
    rw [hexchange]
    exact keepsDecimals_of_state rfl fun _ => BinanceRest.fetchAccountSnapshot_state
  have hpositions : Leads KeepsDecimals
      (remote (.fetchPositionSnapshots none) (loop.exchange.fetchPositionSnapshots none)) := by
    rw [hexchange]
    exact keepsDecimals_of_state rfl fun _ => BinanceRest.fetchPositionSnapshots_state none
  refine leads_get_bind fun world => ?_
  refine (leads_pure _).ite (haccount.bind fun account => hpositions.bind fun allPositions => ?_) world
  exact (considerCandidates_keepsDecimals hexchange account allPositions 0 candidates).bind fun _ =>
    leads_get_bind fun world => leads_pure _ world

end Sending

-- The snapshot that a repair writes is one of decimals, and so is the intent it keeps.
theorem repair_keepsDecimals (clientOrderId : String) :
    Program.Leads KeepsDecimals (repairByClientOrderId BinanceRest.queryOrder clientOrderId) := by
  intro world
  unfold repairByClientOrderId
  rw [Program.get_bind]
  cases hlocal : world.orders.getOrder clientOrderId with
  | none => exact allows_keepsDecimals.enter (.repairLocalOrderMissing clientOrderId) world
  | some localOrder =>
    cases hquery : BinanceRest.queryOrder localOrder.intent.symbol clientOrderId world.outside with
    | mk answer outside =>
      have hasked : KeepsDecimals world
          (world.after (.queryOrder localOrder.intent.symbol clientOrderId) outside) :=
        (keepsDecimals_of_state rfl fun _ => BinanceRest.queryOrder_state _ _).of_eq (remote_of_eq hquery)
      have hentered := fun reason => IsTrans.trans _ _ _ hasked (allows_keepsDecimals.enter reason _)
      simp only [Program.attempt_bind (remote_of_eq hquery)]
      rcases answer with exc | _ | snapshot
      · exact hentered _
      · exact hentered _
      · dsimp only
        split
        · exact hentered _
        split
        · refine IsTrans.trans _ _ _ hasked ⟨[.upsertOrder _], rfl, fun h => ?_⟩
          have hsnapshot : snapshot.Decimal := BinanceRest.queryOrder_decimal (congrArg Prod.fst hquery)
          obtain ⟨row, hrow, hstored⟩ := Option.map_eq_some_iff.mp hlocal
          have hintent := (h.orders row (Table.mem_of_find hrow)).intent
          rw [hstored] at hintent
          have happlied : (applyRemoteSnapshot localOrder snapshot).2.Decimal :=
            ⟨hintent, hsnapshot.executedQuantity, hsnapshot.averagePrice⟩
          refine ⟨⟨h.cache, decimal_rows_upsertOrder happlied h.orders⟩, ?_⟩
          simpa [sentOrders, writtenOrders] using happlied
        · exact hasked

-- The texts of decimals are read back.
theorem legible_of_decimal {str : ℚ → String} (hstr : WritesDecimals str) {row : OrderRow}
    (h : (rowToOrder row).Decimal) : SQLiteOrderStore.Legible str row where
  quantity := hstr _ h.intent.quantity
  price price hprice := hstr price (h.intent.price price hprice)
  filledQuantity := hstr _ h.filledQuantity
  averageFillPrice price hprice := hstr price (h.averageFillPrice price hprice)

-- The texts that writes leave in a table are those of the typed rows.
theorem columns_of_writes (str : ℚ → String) (store : OrderStore) (orders : List OrderRecord) :
    orders.foldl (SQLiteOrderStore.upsertOrder str) ((SQLiteOrderStore.coding str).table store) =
      (SQLiteOrderStore.coding str).table (orders.foldl OrderStore.upsertOrder store) := by
  induction orders generalizing store with
  | nil => rfl
  | cons order orders ih =>
    have hone : SQLiteOrderStore.upsertOrder str ((SQLiteOrderStore.coding str).table store) order =
        (SQLiteOrderStore.coding str).table (store.upsertOrder order) :=
      Encoding.upsert_table (SQLiteOrderStore.coding str) store order.toRow
    rw [List.foldl_cons, List.foldl_cons, hone, ih]

namespace TradingSystem

variable [DecimalContext] {system : TradingSystem RestState} (hrest : system.OverRest)

include hrest

theorem step_keepsDecimals (world : World RestState) {event : SystemEvent RestState} (hevent : event.LeavesCache) :
    KeepsDecimals world (system.step world event) := by
  have hopen : Program.Leads KeepsDecimals (remote .fetchOpenOrders BinanceRest.adapter.fetchOpenOrders) :=
    keepsDecimals_of_state rfl fun _ => BinanceRest.fetchOpenOrders_state
  have hadapter : system.loop.exchange.toExchangeAdapter = BinanceRest.adapter :=
    congrArg SleeveBLoopExchange.toExchangeAdapter hrest.loop
  cases event with
  | outside change =>
    refine .of_unchanged [] (List.append_nil _).symm (by simp) rfl ?_
    unfold BinanceRest.CacheDecimal
    change _ → ∀ entry ∈ (change world.outside).filtersCache, _
    rw [hevent]
    exact id
  | enter reason => exact allows_keepsDecimals.enter reason world
  | exit reason => exact .of_unchanged [] (List.append_nil _).symm (by simp) rfl id
  | route mode intent => exact route_keepsDecimals hadapter intent world
  | runLoop candidates => exact runOnce_keepsDecimals hrest.loop candidates world
  | reconcile =>
    refine reconcileOpenOrders_leads allows_keepsDecimals ?_ world
    rw [hadapter]
    exact hopen
  | runDaemon fuel =>
    refine DaemonRunner.run_leads allows_keepsDecimals ⟨keepsDecimals_view rfl hrest.daemonOrders, ?_,
      keepsDecimals_view rfl hrest.listPositions, ?_, fun position => keepsDecimals_view rfl
      (hrest.upsertPosition position), keepsDecimals_sendAlert hrest.daemonAlerts⟩ fuel world
    · rw [hrest.daemon]
      exact hopen
    · rw [hrest.positions]
      exact keepsDecimals_of_state rfl fun _ => BinanceRest.fetchPositionSnapshots_state none
  | runPeriodic fuel =>
    refine PeriodicReconciliationLoop.run_leads allows_keepsDecimals
      (keepsDecimals_view rfl hrest.periodicOrders) ?_ (keepsDecimals_sendAlert hrest.periodicAlerts) fuel world
    rw [hrest.periodic]
    exact hopen
  | repair clientOrderId =>
    rw [step, hrest.query]
    exact repair_keepsDecimals clientOrderId world

theorem run_keepsDecimals (world : World RestState) {events : List (SystemEvent RestState)}
    (hevents : ∀ event ∈ events, event.LeavesCache) :
    KeepsDecimals world (events.foldl system.step world) :=
  Run.foldl_related (fun event hevent state => step_keepsDecimals hrest state (hevents event hevent)) world

end TradingSystem

-- An exchange with one symbol that fills a part of every order.
def partlyFilling (request : HttpRequest) : Except PyError HttpResponse :=
  if request.path = "/fapi/v1/exchangeInfo" then
    .ok (.ok (.exchangeInfo [⟨some "BTCUSDT", some [
      [("filterType", .text "PRICE_FILTER"), ("tickSize", .text "0.1")],
      [("filterType", .text "LOT_SIZE"), ("stepSize", .text "0.001")]]⟩]))
  else if request.path = "/fapi/v3/account" then
    .ok (.ok (.object [("totalWalletBalance", .text "10000"), ("totalMarginBalance", .text "10000"),
      ("availableBalance", .text "10000")]))
  else if request.path = "/fapi/v3/positionRisk" then
    .ok (.ok (.list []))
  else if request.method = "POST" then
    .ok (.ok (.object [("orderId", .number "7"), ("status", .text "PARTIALLY_FILLED"),
      ("executedQty", .text "0.25"), ("avgPrice", .text "99.95")]))
  else
    .error (.otherError "connection refused")

def restWorld : World RestState := { outside := { transport := partlyFilling, now := sampleClock } }

-- The entry loop, a daemon and a periodic reconciliation over the adapter, with stores that
-- are empty.
def restSystem : TradingSystem RestState where
  loop := {
    exchange := BinanceRest.loopExchange
    config := { requireAck := true }
    now := RestState.now }
  daemon := {
    orderStore := { listOpenOrders := pure [] }
    exchange := BinanceRest.adapter
    positionStore := { listPositions := fun _ => pure [], upsertPosition := fun _ => pure () }
    positionReconciler := { fetchPositionSnapshots := BinanceRest.fetchPositionSnapshots }
    alerts := { send := fun _ outside => outside }
    clock := { wait := fun _ _ => .ok () }
    config := {} }
  periodic := {
    runner := {
      orderStore := { listOpenOrders := pure [] }
      exchange := BinanceRest.adapter
      alerts := { send := fun _ outside => outside }
      printer := { tuple := fun ids => toString ids, error := fun _ => "" } }
    clock := { wait := fun _ _ => .ok () }
    config := {} }
  queryOrder := BinanceRest.queryOrder

theorem restSystem_overRest : restSystem.OverRest :=
  ⟨rfl, rfl, rfl, rfl, rfl, fun _ => rfl, fun _ => rfl, fun _ _ => rfl, fun _ _ => rfl, fun _ => rfl,
    fun _ _ => rfl⟩

theorem decimalWorld_restWorld : DecimalWorld restWorld :=
  ⟨fun _ h => (List.not_mem_nil h).elim, fun _ h => (List.not_mem_nil h).elim⟩

-- The loop enters a position; then the exchange goes down, and the repair fails.
def restEvents : List (SystemEvent RestState) := [
  .runLoop [sampleCandidate "BTCUSDT"],
  .outside fun state => { state with transport := fun _ => .error (.otherError "connection refused") },
  .repair "B_auto-breakout_EN_20260101000000"]

theorem restEvents_leaveCache : ∀ event ∈ restEvents, event.LeavesCache := by
  simp [restEvents, SystemEvent.LeavesCache]

-- In every run over the REST adapter, whatever the exchange answers: whoever reads the
-- query of an order that was handed over finds the normalised order itself, since its numbers
-- are multiples of steps that were read off numerals.
theorem TradingSystem.orders_placed [DecimalContext] (system : TradingSystem RestState) (hrest : system.OverRest)
    {world : World RestState} (hworld : DecimalWorld world) (events : List (SystemEvent RestState))
    (hevents : ∀ event ∈ events, event.LeavesCache) {fixed : ℚ → String} (hfixed : WritesDecimals fixed) :
    ∃ calls, (events.foldl system.step world).calls = world.calls ++ calls ∧
      ∀ order ∈ sentOrders calls, ∀ hmac credentials recvWindow timestamp,
        (parseQuery (BinanceRest.orderQuery hmac credentials recvWindow timestamp fixed order)).map
          PlacedOrder.read = some (.ok order.placed) := by
  obtain ⟨calls, hcalls, hdecimal⟩ := run_keepsDecimals hrest world hevents
  refine ⟨calls, hcalls, ?_⟩
  intro order horder hmac credentials recvWindow timestamp
  have h := (hdecimal hworld).2 order (.inl horder)
  refine BinanceRest.parseQuery_orderQuery hmac credentials recvWindow timestamp ⟨hfixed _ h.intent.quantity, ?_⟩
  exact fun price hprice => hfixed price (h.intent.price price hprice)

open scoped DefaultContext in
theorem orders_placed_sample :
    ∃ calls, (restEvents.foldl restSystem.step restWorld).calls = calls ∧ (sentOrders calls).length = 1 ∧
      ∀ order ∈ sentOrders calls, ∀ hmac credentials recvWindow timestamp,
        (parseQuery (BinanceRest.orderQuery hmac credentials recvWindow timestamp
          (fun x => String.ofList (shortest x)) order)).map PlacedOrder.read = some (.ok order.placed) := by
  obtain ⟨calls, hcalls, hplaced⟩ := restSystem.orders_placed restSystem_overRest decimalWorld_restWorld restEvents
    restEvents_leaveCache writesDecimals_shortest
  have hone : (sentOrders (restEvents.foldl restSystem.step restWorld).calls).length = 1 := by decide +kernel
  rw [hcalls] at hone
  exact ⟨calls, hcalls, hone, hplaced⟩

-- The `orders` table in SQLite after a run over the REST adapter, of the texts that the run
-- wrote, is read as the typed store, id by id and listed: no text that was ever written of
-- what the exchange answered stops a reader.
theorem TradingSystem.orders_readable [DecimalContext] (system : TradingSystem RestState)
    (hrest : system.OverRest) {world : World RestState} (hworld : DecimalWorld world)
    (events : List (SystemEvent RestState))
    (hevents : ∀ event ∈ events, event.LeavesCache) {str : ℚ → String} (hstr : WritesDecimals str) :
    ∃ calls, (events.foldl system.step world).calls = world.calls ++ calls ∧
      let stored := (writtenOrders calls).foldl (SQLiteOrderStore.upsertOrder str)
        ((SQLiteOrderStore.coding str).table world.orders)
      (∀ id, SQLiteOrderStore.getOrder stored id = .ok ((events.foldl system.step world).orders.getOrder id)) ∧
        SQLiteOrderStore.listOpenOrders stored = .ok (events.foldl system.step world).orders.listOpenOrders := by
  obtain ⟨calls, hcalls, hdecimal⟩ := run_keepsDecimals hrest world hevents
  obtain ⟨others, hothers, hrun⟩ := system.run_calls world events
  obtain rfl := List.append_cancel_left (hcalls.symm.trans hothers)
  have hlegible : ∀ row ∈ (events.foldl system.step world).orders.rows, SQLiteOrderStore.Legible str row :=
    fun row hrow => legible_of_decimal hstr ((hdecimal hworld).1.orders row hrow)
  refine ⟨calls, hcalls, ?_⟩
  dsimp only
  rw [columns_of_writes, ← hrun.orders]
  exact ⟨SQLiteOrderStore.getOrder_coding hlegible, SQLiteOrderStore.listOpenOrders_coding hlegible⟩

open scoped DefaultContext in
theorem orders_readable_sample :
    ∃ calls, (restEvents.foldl restSystem.step restWorld).calls = calls ∧
      (writtenOrders calls).map (·.averageFillPrice) = [some (1999 / 20)] ∧
      SQLiteOrderStore.listOpenOrders ((writtenOrders calls).foldl
        (SQLiteOrderStore.upsertOrder fun x => String.ofList (shortest x)) (Table.empty columnSchema)) =
        .ok (restEvents.foldl restSystem.step restWorld).orders.listOpenOrders := by
  obtain ⟨calls, hcalls, hread⟩ := restSystem.orders_readable restSystem_overRest decimalWorld_restWorld restEvents
    restEvents_leaveCache writesDecimals_shortest
  have hwritten : (writtenOrders (restEvents.foldl restSystem.step restWorld).calls).map (·.averageFillPrice) =
      [some (1999 / 20)] := by
    decide +kernel
  rw [hcalls] at hwritten
  exact ⟨calls, hcalls, hwritten, hread.2⟩

end DualSleeve

import DualSleeve.Exchange.Filters.Context
import DualSleeve.Execution.RouteTrace.Theorems

namespace DualSleeve

open Library Library.Grid

-- An order the router may hand over for `intent` under `safeMode` and `filters`.
structure SafeOrder (safeMode : SafeModeController) (intent : OrderIntent) (filters : SymbolFilters)
    (order : OrderRecord) : Prop where
  status : order.status = .submitted
  entry : order.intent.action = .entry → safeMode.state = .normal
  close : order.intent.action ≠ .entry → order.intent.reduceOnly = true
  quantity : ∃ n : ℤ, 0 < n ∧ order.intent.quantity = n * filters.stepSize
  quantity_le : order.intent.quantity ≤ intent.quantity
  price : ∀ p ∈ order.intent.price,
    OnGrid p filters.tickSize ∧ filters.minNotional ≤ order.intent.quantity * p

-- The store reads what the orders say under their ids (an order that had a row keeps the
-- intent of that row), and under every other id what it read before.
structure RowsWritten (before : OrderStore) (written : List OrderRecord) (after : OrderStore) : Prop where
  rows : ∀ order ∈ written, after.getOrder order.clientOrderId = some
    { order with intent := (before.getOrder order.clientOrderId).elim order.intent.persisted (·.intent) }
  others : ∀ id, id ∉ written.map OrderRecord.clientOrderId → after.getOrder id = before.getOrder id

-- One call of `route`: `sent` are the orders it handed to the exchange and `written`
-- those it wrote to the store.
structure SafeRoute (mode : TradingMode) (world : RouteWorld) (intent : OrderIntent) (script : Script)
    (sent written : List OrderRecord) (outcome : Except PyError RouteResult) (after : RouteWorld) :
    Prop where
  sent_eq : sentOrders after.calls = sentOrders world.calls ++ sent
  written_eq : writtenOrders after.calls = writtenOrders world.calls ++ written
  atMostOne : sent.length ≤ 1
  safe : ∀ order ∈ sent, ∃ filters, script.filters intent.symbol = .ok filters ∧
    SafeOrder world.safeMode intent filters order
  signalOnly : mode = .signalOnly → sent = [] ∧ written = [] ∧ after.orders = world.orders
  stored : ∀ result, outcome = .ok result →
    written.map OrderRecord.clientOrderId = sent.map OrderRecord.clientOrderId ∧
      RowsWritten world.orders written after.orders
  close : intent.action ≠ .entry → intent.reduceOnly = true →
    ∀ result, outcome = .ok result → result.accepted = true

section Events

variable [DecimalContext]

def SafeEvent (mode : TradingMode) (world : RouteWorld) : RouteEvent → Prop
  | .enter reason =>
      (routeStep mode world (.enter reason)).calls = world.calls ∧
        (routeStep mode world (.enter reason)).orders = world.orders
  | .exit reason =>
      (routeStep mode world (.exit reason)).calls = world.calls ∧
        (routeStep mode world (.exit reason)).orders = world.orders
  | .route intent script => ∃ sent written, SafeRoute mode world intent script sent written
      (routeCall mode world intent script).1 (routeCall mode world intent script).2

end Events

-- The exchange answers with filters whose tick and step are positive, or raises.
def RouteEvent.PositiveFilters : RouteEvent → Prop
  | .enter _ => True
  | .exit _ => True
  | .route _ script => ∀ symbol filters, script.filters symbol = .ok filters →
      0 < filters.tickSize ∧ 0 < filters.stepSize

theorem rowsWritten_nil (store : OrderStore) : RowsWritten store [] store :=
  ⟨by simp, fun _ _ => rfl⟩

theorem rowsWritten_upsertOrder (store : OrderStore) (order : OrderRecord) :
    RowsWritten store [order] (store.upsertOrder order) := by
  constructor
  · intro written hwritten
    rw [List.mem_singleton.mp hwritten]
    exact OrderStore.getOrder_upsertOrder_self store order
  · intro id hid
    exact OrderStore.getOrder_upsertOrder_of_ne store (by simpa using hid)

theorem storedOrder_clientOrderId {script : Script} {order stored : OrderRecord}
    (h : storedOrder script order = some stored) : stored.clientOrderId = order.clientOrderId := by
  unfold storedOrder at h
  split at h
  · cases h
    rfl
  · cases h

section Exact

open scoped ExactDecimals

theorem safeOrder_of_handed {mode : TradingMode} {safeMode : SafeModeController} {intent : OrderIntent}
    {script : Script} (hfilters : (RouteEvent.route intent script).PositiveFilters) {order : OrderRecord}
    (h : handedOrder mode safeMode intent script = some order) :
    ∃ filters, script.filters intent.symbol = .ok filters ∧ SafeOrder safeMode intent filters order := by
  obtain ⟨hgate, _, filters, normalized, hf, hn, rfl⟩ := handedOrder_eq_some h
  obtain ⟨htick, hstep⟩ := hfilters _ _ hf
  obtain ⟨rfl, hq, hnotional⟩ := (normalizeOrderIntent_eq_ok htick hstep).mp hn
  refine ⟨filters, hf, rfl, ?_, hgate.2, ?_, truncateTo_le_of_pos hstep hq, ?_⟩
  · intro he
    exact SafeModeController.allowsNewEntries_iff.mp (hgate.1 he)
  · refine ⟨truncate (intent.quantity / filters.stepSize), ?_, rfl⟩
    have hpos : (0 : ℚ) < truncate (intent.quantity / filters.stepSize) :=
      (mul_pos_iff_of_pos_right hstep).mp hq
    exact_mod_cast hpos
  · intro p hp
    refine ⟨?_, hnotional p hp⟩
    obtain ⟨price, _, rfl⟩ := Option.mem_map.mp hp
    exact onGrid_truncateTo price filters.tickSize

-- A reduce-only close passes both gates, so a call that returns has accepted it.
theorem close_accepted {mode : TradingMode} {world : RouteWorld} {intent : OrderIntent} {script : Script}
    (hclose : intent.action ≠ .entry) (hreduce : intent.reduceOnly = true) {result : RouteResult}
    (h : (routeCall mode world intent script).1 = .ok result) : result.accepted = true := by
  have hrouted := OrderRouter.route_routed (scriptedRouter mode).router intent (world.scripted script)
  generalize hresult : (scriptedRouter mode).router.route intent (world.scripted script) = routed at hrouted
  obtain ⟨outcome, after⟩ := routed
  unfold routeCall at h
  cases hrouted with
  | blocked hentry _ => exact absurd hentry hclose
  | notReduceOnly _ hnot =>
    rw [hreduce] at hnot
    cases hnot
  | noFilters =>
    rw [PersistentOrderRouter.route_of_error hresult] at h
    cases h
  | filtered =>
    rw [PersistentOrderRouter.route_of_error hresult] at h
    cases h
  | submitRaised =>
    rw [PersistentOrderRouter.route_of_error hresult] at h
    cases h
  | signalOnly =>
    rw [PersistentOrderRouter.route_of_kept (by simp) hresult] at h
    cases h
    rfl
  | submitted =>
    rw [PersistentOrderRouter.route_of_submitted hresult] at h
    cases h
    rfl

theorem safeRoute_of_positive (mode : TradingMode) (world : RouteWorld) (intent : OrderIntent)
    (script : Script) (hfilters : (RouteEvent.route intent script).PositiveFilters) :
    SafeEvent mode world (.route intent script) := by
  have he := routeCall_effect mode world intent script
  refine ⟨_, _, he.sent, he.written, ?_, ?_, ?_, ?_, fun hclose hreduce _ => close_accepted hclose hreduce⟩
  · cases handedOrder mode world.safeMode intent script <;> simp
  · intro order ho
    exact safeOrder_of_handed hfilters (Option.mem_toList.mp ho)
  · intro hmode
    have hnone : handedOrder mode world.safeMode intent script = none := if_neg fun hc => hc.2 hmode
    have horders := he.orders
    simp only [hnone, Option.bind_none, Option.elim_none] at horders ⊢
    exact ⟨rfl, rfl, horders⟩
  · intro result hr
    have hs := he.stored result hr
    have horders := he.orders
    cases hh : handedOrder mode world.safeMode intent script with
    | none =>
      simp only [hh, Option.bind_none, Option.elim_none] at horders
      exact ⟨rfl, horders ▸ rowsWritten_nil _⟩
    | some order =>
      obtain ⟨stored, hst⟩ := Option.isSome_iff_exists.mp (hs order hh)
      simp only [hh, Option.bind_some, hst, Option.elim_some] at horders
      refine ⟨?_, ?_⟩
      · simp [hst, storedOrder_clientOrderId hst]
      · rw [horders, Option.bind_some, hst]
        exact rowsWritten_upsertOrder _ _

-- In exact arithmetic, routing is safe at every call of every trace, whatever the mode, the initial state,
-- the order of the events and the answers of the exchange.
theorem routing_safe_along (mode : TradingMode) (world : RouteWorld) (events : List RouteEvent)
    (hfilters : ∀ event ∈ events, event.PositiveFilters) :
    Run.Along (routeStep mode) (SafeEvent mode) world events := by
  apply Run.along_of_forall
  intro event he state
  cases event with
  | enter reason => exact ⟨rfl, rfl⟩
  | exit reason => exact ⟨rfl, rfl⟩
  | route intent script => exact safeRoute_of_positive mode state intent script (hfilters _ he)

theorem sampleScript_positiveFilters (intent : OrderIntent) :
    (RouteEvent.route intent sampleScript).PositiveFilters := by
  intro _ filters hf
  cases hf
  decide +kernel

theorem routing_safe_along_sample :
    Run.Along (routeStep .exchangeTestnet) (SafeEvent .exchangeTestnet)
      { outside := { script := sampleScript } }
      [.enter (.note "stop"), .exit "go", .route sampleIntent sampleScript] := by
  apply routing_safe_along
  simp only [List.mem_cons, List.not_mem_nil, or_false, forall_eq_or_imp, forall_eq]
  exact ⟨trivial, trivial, sampleScript_positiveFilters sampleIntent⟩

end Exact

section Rounding

open scoped DefaultContext

-- A quantity one unit of its last place below twelve steps: the quotient rounds up to twelve.
def nearlySixIntent : OrderIntent := { sampleIntent with quantity := almostSix }

def halfStepScript : Script :=
  { sampleScript with filters := fun _ => .ok { sampleFilters with stepSize := 1 / 2 } }

theorem routing_unsafe_by_rounding :
    (RouteEvent.route nearlySixIntent halfStepScript).PositiveFilters ∧
      ¬Run.Along (routeStep .exchangeTestnet) (SafeEvent .exchangeTestnet) (startWorld halfStepScript {})
        [.route nearlySixIntent halfStepScript] := by
  constructor
  · intro _ filters hf
    cases hf
    decide +kernel
  · rintro ⟨⟨sent, written, hsafe⟩, -⟩
    have hcalls : sentOrders (routeCall .exchangeTestnet (startWorld halfStepScript {}) nearlySixIntent
        halfStepScript).2.calls =
          [OrderRouter.submittedOrder { nearlySixIntent with quantity := 6 } sampleClock] := by
      decide +kernel
    have hsent : sent = _ := hsafe.sent_eq.symm.trans hcalls
    obtain ⟨_, -, horder⟩ := hsafe.safe _ (hsent ▸ List.mem_singleton_self _)
    exact absurd horder.quantity_le (by decide +kernel)

end Rounding

end DualSleeve

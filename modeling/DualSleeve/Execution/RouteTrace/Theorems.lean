import DualSleeve.Execution.RouteTrace

namespace DualSleeve

open Library

variable {mode : TradingMode} {world : RouteWorld} {intent : OrderIntent} {script : Script}

theorem scripted_submit_returned {order : OrderRecord} {update : OrderUpdate} {exchange : ScriptedExchange}
    (h : exchange.script.submit order = .returned update) :
    scriptedAdapter.submitOrder order exchange = (.ok (order.updated update), exchange.take order) := by
  simp only [scriptedAdapter, h]

theorem scripted_submit_raised {order : OrderRecord} {accepted : Bool} {exc : PyError}
    {exchange : ScriptedExchange} (h : exchange.script.submit order = .raised accepted exc) :
    scriptedAdapter.submitOrder order exchange =
      (.error exc, if accepted then exchange.take order else exchange) := by
  cases accepted <;> simp [scriptedAdapter, h]

-- The calls of one route that reaches the exchange's answer to `submit_order`.
theorem sentOrders_submit (calls : List Call) (symbol : String) (order : OrderRecord) :
    sentOrders (calls ++ [.getSymbolFilters symbol] ++ [.submitOrder order]) =
      sentOrders calls ++ [order] := by
  simp [sentOrders]

theorem writtenOrders_submit (calls : List Call) (symbol : String) (order : OrderRecord) :
    writtenOrders (calls ++ [.getSymbolFilters symbol] ++ [.submitOrder order]) =
      writtenOrders calls := by
  simp [writtenOrders]

theorem sentOrders_filters (calls : List Call) (symbol : String) :
    sentOrders (calls ++ [.getSymbolFilters symbol]) = sentOrders calls := by
  simp [sentOrders]

theorem writtenOrders_filters (calls : List Call) (symbol : String) :
    writtenOrders (calls ++ [.getSymbolFilters symbol]) = writtenOrders calls := by
  simp [writtenOrders]

variable [DecimalContext]

theorem handedOrder_of_not_admits (h : ¬OrderRouter.Admits world.safeMode intent) :
    handedOrder mode world.safeMode intent script = none :=
  if_neg fun hc => h hc.1

theorem handedOrder_of_filters_error (exc : PyError) (h : script.filters intent.symbol = .error exc) :
    handedOrder mode world.safeMode intent script = none := by
  simp only [handedOrder, h, ite_self]

theorem handedOrder_of_normalize_error {filters : SymbolFilters} {exc : PyError}
    (hf : script.filters intent.symbol = .ok filters)
    (hn : normalizeOrderIntent intent filters = .error exc) :
    handedOrder mode world.safeMode intent script = none := by
  simp only [handedOrder, hf, hn, ite_self]

-- The same order may be handed over, returned and stored; the rest of the world is
-- what it was.
structure RouteEffect (mode : TradingMode) (world : RouteWorld) (intent : OrderIntent) (script : Script)
    (outcome : Except PyError RouteResult) (after : RouteWorld) : Prop where
  safeMode : after.safeMode = world.safeMode
  positions : after.positions = world.positions
  sent : sentOrders after.calls =
    sentOrders world.calls ++ (handedOrder mode world.safeMode intent script).toList
  written : writtenOrders after.calls = writtenOrders world.calls ++
    ((handedOrder mode world.safeMode intent script).bind (storedOrder script)).toList
  orders : after.orders = ((handedOrder mode world.safeMode intent script).bind (storedOrder script)).elim
    world.orders world.orders.upsertOrder
  accepted : after.outside.accepted = world.outside.accepted ++
    ((handedOrder mode world.safeMode intent script).bind (acceptedOrder script)).toList
  -- a call that hands an order over and returns has stored it
  stored : ∀ result, outcome = .ok result → ∀ order ∈ handedOrder mode world.safeMode intent script,
    (storedOrder script order).isSome

-- A call that hands no order over changes nothing but the list of calls.
theorem RouteEffect.of_none {outcome : Except PyError RouteResult} {after : RouteWorld}
    (hnone : handedOrder mode world.safeMode intent script = none)
    (hsafe : after.safeMode = world.safeMode) (hpositions : after.positions = world.positions)
    (horders : after.orders = world.orders)
    (haccepted : after.outside.accepted = world.outside.accepted)
    (hsent : sentOrders after.calls = sentOrders world.calls)
    (hwritten : writtenOrders after.calls = writtenOrders world.calls) :
    RouteEffect mode world intent script outcome after := by
  refine ⟨hsafe, hpositions, ?_, ?_, ?_, ?_, ?_⟩
  · simp [hsent, hnone]
  · simp [hwritten, hnone]
  · simp [horders, hnone]
  · simp [haccepted, hnone]
  · simp [hnone]

theorem routeCall_effect (mode : TradingMode) (world : RouteWorld) (intent : OrderIntent) (script : Script) :
    RouteEffect mode world intent script (routeCall mode world intent script).1
      (routeCall mode world intent script).2 := by
  have hrouted := OrderRouter.route_routed (scriptedRouter mode).router intent (world.scripted script)
  generalize hresult : (scriptedRouter mode).router.route intent (world.scripted script) = result at hrouted
  obtain ⟨outcome, after⟩ := result
  unfold routeCall
  cases hrouted with
  | blocked hentry hsafe =>
    rw [PersistentOrderRouter.route_of_kept (by simp) hresult]
    have hgate : ¬OrderRouter.Admits world.safeMode intent := OrderRouter.not_admits_of_blocked hentry hsafe
    exact .of_none (handedOrder_of_not_admits hgate) rfl rfl rfl rfl rfl rfl
  | notReduceOnly hclose hreduce =>
    rw [PersistentOrderRouter.route_of_kept (by simp) hresult]
    have hgate : ¬OrderRouter.Admits world.safeMode intent :=
      OrderRouter.not_admits_of_notReduceOnly hclose hreduce
    exact .of_none (handedOrder_of_not_admits hgate) rfl rfl rfl rfl rfl rfl
  | noFilters hgate exc outside hfilters =>
    rw [PersistentOrderRouter.route_of_error hresult]
    obtain ⟨hf, rfl⟩ := Prod.mk.inj hfilters
    exact .of_none (handedOrder_of_filters_error exc hf) rfl rfl rfl rfl
      (sentOrders_filters _ _) (writtenOrders_filters _ _)
  | filtered hgate filters outside hfilters exc hnormal =>
    rw [PersistentOrderRouter.route_of_error hresult]
    obtain ⟨hf, rfl⟩ := Prod.mk.inj hfilters
    exact .of_none (handedOrder_of_normalize_error hf hnormal) rfl rfl rfl rfl
      (sentOrders_filters _ _) (writtenOrders_filters _ _)
  | signalOnly hgate filters outside hfilters normalized hnormal hmode =>
    rw [PersistentOrderRouter.route_of_kept (by simp) hresult]
    obtain ⟨hf, rfl⟩ := Prod.mk.inj hfilters
    exact .of_none (if_neg fun hc => hc.2 hmode) rfl rfl rfl rfl
      (sentOrders_filters _ _) (writtenOrders_filters _ _)
  | submitRaised hgate filters outside hfilters normalized hnormal hmode exc final hsubmit =>
    rw [PersistentOrderRouter.route_of_error hresult]
    obtain ⟨hf, rfl⟩ := Prod.mk.inj hfilters
    have hh : handedOrder mode world.safeMode intent script = _ :=
      handedOrder_of_ok hgate hmode hf hnormal
    cases hs : script.submit (OrderRouter.submittedOrder normalized script.now) with
    | returned update =>
      have hr := hsubmit.symm.trans (scripted_submit_returned hs)
      cases (Prod.mk.inj hr).1
    | raised accepted error =>
      obtain ⟨_, rfl⟩ := Prod.mk.inj (hsubmit.symm.trans (scripted_submit_raised hs))
      refine ⟨rfl, rfl, ?_, ?_, ?_, ?_, ?_⟩
      · rw [hh]
        exact sentOrders_submit _ _ _
      · simp only [hh, Option.bind_some, storedOrder, hs, Option.toList_none, List.append_nil]
        exact writtenOrders_submit _ _ _
      · simp [hh, storedOrder, hs, RouteWorld.scripted]
      · simp only [hh, Option.bind_some, acceptedOrder, hs, SubmitReply.accepted]
        cases accepted <;> simp [ScriptedExchange.take, RouteWorld.scripted, scriptedRouter]
      · intro result hok
        cases hok
  | submitted hgate filters outside hfilters normalized hnormal hmode order final hsubmit =>
    rw [PersistentOrderRouter.route_of_submitted hresult]
    obtain ⟨hf, rfl⟩ := Prod.mk.inj hfilters
    have hh : handedOrder mode world.safeMode intent script = _ :=
      handedOrder_of_ok hgate hmode hf hnormal
    cases hs : script.submit (OrderRouter.submittedOrder normalized script.now) with
    | raised accepted error =>
      have hr := hsubmit.symm.trans (scripted_submit_raised hs)
      cases (Prod.mk.inj hr).1
    | returned update =>
      obtain ⟨ho, rfl⟩ := Prod.mk.inj (hsubmit.symm.trans (scripted_submit_returned hs))
      cases ho
      have hstored : (handedOrder mode world.safeMode intent script).bind (storedOrder script) =
          some ((OrderRouter.submittedOrder normalized script.now).updated update) := by
        simp [hh, storedOrder, hs]
      refine ⟨rfl, rfl, ?_, ?_, ?_, ?_, ?_⟩
      · rw [hh, sentOrders_append]
        exact (List.append_nil _).trans (sentOrders_submit _ _ _)
      · rw [hstored, writtenOrders_append]
        exact congrArg (· ++ _) (writtenOrders_submit _ _ _)
      · rw [hstored]
        rfl
      · simp [hh, acceptedOrder, hs, SubmitReply.accepted, ScriptedExchange.take, RouteWorld.scripted,
          scriptedRouter]
      · simp [hh, storedOrder, hs]

end DualSleeve

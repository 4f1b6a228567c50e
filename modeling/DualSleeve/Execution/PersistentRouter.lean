import DualSleeve.Execution.OrderRouter.Theorems

namespace DualSleeve

open Library

variable [DecimalContext] {σ : Type}

structure PersistentOrderRouter (σ : Type) where
  router : OrderRouter σ

namespace PersistentOrderRouter

-- `upsert_order(result.order)`, where the result is that of a submitted order.
def storeSubmitted (result : RouteResult) : Action σ Unit :=
  match result with
  | ⟨true, some order, .submittedToSimOrTestnet⟩ => upsertOrder order
  | _ => pure ()

def route (persistent : PersistentOrderRouter σ) (intent : OrderIntent) : Action σ RouteResult := do
  let result ← persistent.router.route intent
  storeSubmitted result
  return result

theorem route_of_error {persistent : PersistentOrderRouter σ} {intent : OrderIntent}
    {world after : World σ} {exc : PyError}
    (h : persistent.router.route intent world = (.error exc, after)) :
    persistent.route intent world = (.error exc, after) :=
  Program.bind_of_error h

theorem route_of_submitted {persistent : PersistentOrderRouter σ} {intent : OrderIntent}
    {world after : World σ} {order : OrderRecord}
    (h : persistent.router.route intent world =
      (.ok ⟨true, some order, .submittedToSimOrTestnet⟩, after)) :
    persistent.route intent world = (.ok ⟨true, some order, .submittedToSimOrTestnet⟩,
      { after with
        orders := after.orders.upsertOrder order
        calls := after.calls ++ [.upsertOrder order] }) := by
  unfold route
  rw [Program.bind_of_ok h]
  rfl

-- A result that is not that of a submitted order is passed on as it is.
theorem route_of_kept {persistent : PersistentOrderRouter σ} {intent : OrderIntent}
    {world after : World σ} {result : RouteResult} (hreason : result.reason ≠ .submittedToSimOrTestnet)
    (h : persistent.router.route intent world = (.ok result, after)) :
    persistent.route intent world = (.ok result, after) := by
  unfold route
  rw [Program.bind_of_ok h]
  obtain ⟨accepted, order, reason⟩ := result
  unfold storeSubmitted
  split
  · rename_i heq
    cases heq
    exact absurd rfl hreason
  · rfl

end PersistentOrderRouter

-- The order `route` hands to the exchange, if it comes to that, and the state in which
-- the exchange gets it.
def OrderRouter.handed (router : OrderRouter σ) (intent : OrderIntent) (world : World σ) :
    Option (OrderRecord × σ) :=
  if OrderRouter.Admits world.safeMode intent ∧ router.mode ≠ .signalOnly then
    match router.exchange.getSymbolFilters intent.symbol world.outside with
    | (.error _, _) => none
    | (.ok filters, outside) =>
        match normalizeOrderIntent intent filters with
        | .error _ => none
        | .ok normalized => some (OrderRouter.submittedOrder normalized (router.now outside), outside)
  else none

-- A route stores the exchange's reply to the order it handed over, and nothing else.
inductive Stored (persistent : PersistentOrderRouter σ) (intent : OrderIntent) (world : World σ) :
    Except PyError RouteResult → World σ → Prop
  | kept (outcome : Except PyError RouteResult) (after : World σ)
      (hunsent : ∀ order outside reply,
        persistent.router.handed intent world = some (order, outside) →
        (persistent.router.exchange.submitOrder order outside).1 ≠ .ok reply)
      (horders : after.orders = world.orders)
      (houtcome : ∀ result, outcome = .ok result → result.reason ≠ .submittedToSimOrTestnet) :
      Stored persistent intent world outcome after
  | stored (order : OrderRecord) (outside : σ)
      (hhanded : persistent.router.handed intent world = some (order, outside)) (reply : OrderRecord)
      (hreply : (persistent.router.exchange.submitOrder order outside).1 = .ok reply)
      (after : World σ) (horders : after.orders = world.orders.upsertOrder reply) :
      Stored persistent intent world (.ok ⟨true, some reply, .submittedToSimOrTestnet⟩) after

theorem OrderRouter.handed_of_not_admits {router : OrderRouter σ} {intent : OrderIntent} {world : World σ}
    (h : ¬OrderRouter.Admits world.safeMode intent) : router.handed intent world = none :=
  if_neg fun hc => h hc.1

theorem OrderRouter.handed_of_ok {router : OrderRouter σ} {intent : OrderIntent} {world : World σ}
    {filters : SymbolFilters} {outside : σ} {normalized : OrderIntent}
    (hgate : OrderRouter.Admits world.safeMode intent) (hmode : router.mode ≠ .signalOnly)
    (hfilters : router.exchange.getSymbolFilters intent.symbol world.outside = (.ok filters, outside))
    (hnormal : normalizeOrderIntent intent filters = .ok normalized) :
    router.handed intent world =
      some (OrderRouter.submittedOrder normalized (router.now outside), outside) := by
  simp only [handed, hgate, hmode, hfilters, hnormal, ne_eq, not_false_eq_true, and_self, if_true]

theorem PersistentOrderRouter.route_stored (persistent : PersistentOrderRouter σ) (intent : OrderIntent)
    (world : World σ) :
    Stored persistent intent world (persistent.route intent world).1 (persistent.route intent world).2 := by
  have hrouted := OrderRouter.route_routed persistent.router intent world
  generalize hresult : persistent.router.route intent world = result at hrouted
  obtain ⟨outcome, after⟩ := result
  cases hrouted with
  | blocked hentry hsafe =>
    rw [route_of_kept (by simp) hresult]
    have hgate : ¬OrderRouter.Admits after.safeMode intent := OrderRouter.not_admits_of_blocked hentry hsafe
    exact .kept _ _ (by simp [OrderRouter.handed_of_not_admits hgate]) rfl (by simp)
  | notReduceOnly hclose hreduce =>
    rw [route_of_kept (by simp) hresult]
    have hgate : ¬OrderRouter.Admits after.safeMode intent :=
      OrderRouter.not_admits_of_notReduceOnly hclose hreduce
    exact .kept _ _ (by simp [OrderRouter.handed_of_not_admits hgate]) rfl (by simp)
  | noFilters hgate exc outside hfilters =>
    rw [route_of_error hresult]
    exact .kept _ _ (by simp [OrderRouter.handed, hfilters]) rfl (by simp)
  | filtered hgate filters outside hfilters exc hnormal =>
    rw [route_of_error hresult]
    exact .kept _ _ (by simp [OrderRouter.handed, hfilters, hnormal]) rfl (by simp)
  | signalOnly hgate filters outside hfilters normalized hnormal hmode =>
    rw [route_of_kept (by simp) hresult]
    exact .kept _ _ (by simp [OrderRouter.handed, hmode]) rfl (by simp)
  | submitRaised hgate filters outside hfilters normalized hnormal hmode exc final hsubmit =>
    rw [route_of_error hresult]
    refine .kept _ _ ?_ rfl (by simp)
    intro order state reply hhanded hreply
    rw [OrderRouter.handed_of_ok hgate hmode hfilters hnormal] at hhanded
    cases hhanded
    rw [hsubmit] at hreply
    cases hreply
  | submitted hgate filters outside hfilters normalized hnormal hmode order final hsubmit =>
    rw [route_of_submitted hresult]
    exact .stored _ outside (OrderRouter.handed_of_ok hgate hmode hfilters hnormal) order
      (by rw [hsubmit]) _ rfl

end DualSleeve

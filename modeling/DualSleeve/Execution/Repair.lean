import DualSleeve.Execution.World

namespace DualSleeve

open Library

inductive RepairAction where
  | none
  | updatedLocalFromExchange
  | enteredSafeMode
  | manualReview
  deriving DecidableEq

inductive RepairReason where
  | consistent
  | localOrderMissing
  | exchangeOrderMissing
  | exchangeFetchFailed
  | localUpdated
  | symbolMismatch
  deriving DecidableEq

-- `str(exc)` is kept as the exception.
inductive RepairMessage where
  | text (message : String)
  | exception (exc : PyError)
  deriving DecidableEq

structure RepairRecommendation where
  clientOrderId : String
  action : RepairAction
  reason : RepairReason
  message : RepairMessage
  deriving DecidableEq

-- Whether the snapshot changes anything, and the order it makes.
def applyRemoteSnapshot (localOrder : OrderRecord) (snapshot : ExchangeOrderSnapshot) : Bool × OrderRecord :=
  (localOrder.status != snapshot.status || localOrder.exchangeOrderId != snapshot.exchangeOrderId ||
      localOrder.filledQuantity != snapshot.executedQuantity ||
      localOrder.averageFillPrice != snapshot.averagePrice,
    { localOrder with
      status := snapshot.status
      exchangeOrderId := snapshot.exchangeOrderId
      filledQuantity := snapshot.executedQuantity
      averageFillPrice := snapshot.averagePrice })

theorem unchanged_iff {localOrder : OrderRecord} {snapshot : ExchangeOrderSnapshot} :
    (applyRemoteSnapshot localOrder snapshot).1 = false ↔
      localOrder.status = snapshot.status ∧ localOrder.exchangeOrderId = snapshot.exchangeOrderId ∧
        localOrder.filledQuantity = snapshot.executedQuantity ∧
        localOrder.averageFillPrice = snapshot.averagePrice := by
  simp [applyRemoteSnapshot, and_assoc]

-- Where nothing differs, the snapshot makes the order it was given.
theorem applied_of_unchanged {localOrder : OrderRecord} {snapshot : ExchangeOrderSnapshot}
    (h : (applyRemoteSnapshot localOrder snapshot).1 = false) :
    (applyRemoteSnapshot localOrder snapshot).2 = localOrder := by
  obtain ⟨hstatus, hexchange, hfilled, haverage⟩ := unchanged_iff.mp h
  simp only [applyRemoteSnapshot, ← hstatus, ← hexchange, ← hfilled, ← haverage]

-- A write of the order a snapshot makes changes the row of that order only.
theorem OrderStore.getOrder_applied {store : OrderStore} {clientOrderId : String} {localOrder : OrderRecord}
    (hlocal : store.getOrder clientOrderId = some localOrder) (snapshot : ExchangeOrderSnapshot)
    (id : String) :
    (store.upsertOrder (applyRemoteSnapshot localOrder snapshot).2).getOrder id =
      if id = clientOrderId then some (applyRemoteSnapshot localOrder snapshot).2 else store.getOrder id := by
  obtain rfl := OrderStore.clientOrderId_of_getOrder hlocal
  have hid : (applyRemoteSnapshot localOrder snapshot).2.clientOrderId = localOrder.clientOrderId := rfl
  by_cases he : id = localOrder.clientOrderId
  · -- the stored intent stays
    have hself := OrderStore.getOrder_upsertOrder_self store (applyRemoteSnapshot localOrder snapshot).2
    rw [hid, hlocal] at hself
    rw [if_pos he, he]
    exact hself
  · rw [if_neg he]
    exact OrderStore.getOrder_upsertOrder_of_ne store (hid ▸ he)

variable {σ : Type}

def repairByClientOrderId (queryOrder : String → String → Remote σ (Option ExchangeOrderSnapshot))
    (clientOrderId : String) : Action σ RepairRecommendation := do
  let world ← Program.get
  match world.orders.getOrder clientOrderId with
  | none =>
    enterSafeMode (.repairLocalOrderMissing clientOrderId)
    return ⟨clientOrderId, .manualReview, .localOrderMissing,
      .text "Local order is missing; cannot infer sleeve ownership from exchange alone."⟩
  | some localOrder =>
    let answer ← Program.attempt (remote (.queryOrder localOrder.intent.symbol clientOrderId)
      (queryOrder localOrder.intent.symbol clientOrderId))
    match answer with
    | .error exc =>
      enterSafeMode (.repairQueryFailed clientOrderId exc)
      return ⟨clientOrderId, .enteredSafeMode, .exchangeFetchFailed, .exception exc⟩
    | .ok none =>
      enterSafeMode (.repairExchangeOrderMissing clientOrderId)
      return ⟨clientOrderId, .manualReview, .exchangeOrderMissing,
        .text "Exchange did not return the local order; manual review required."⟩
    | .ok (some snapshot) =>
      if snapshot.symbol ≠ localOrder.intent.symbol then
        enterSafeMode (.repairSymbolMismatch clientOrderId)
        return ⟨clientOrderId, .manualReview, .symbolMismatch,
          .text ("Local symbol " ++ localOrder.intent.symbol ++ " != exchange symbol " ++
            snapshot.symbol ++ ".")⟩
      else if (applyRemoteSnapshot localOrder snapshot).1 then
        upsertOrder (applyRemoteSnapshot localOrder snapshot).2
        return ⟨clientOrderId, .updatedLocalFromExchange, .localUpdated,
          .text "Local order status/fill fields updated from exchange snapshot."⟩
      else
        return ⟨clientOrderId, .none, .consistent,
          .text "Local order already matches exchange snapshot."⟩

-- What a repair can do to the order store: nothing, or write the order the snapshot
-- makes of the stored one.
inductive Repaired (queryOrder : String → String → Remote σ (Option ExchangeOrderSnapshot))
    (clientOrderId : String) (world : World σ) : World σ → Prop
  | kept (after : World σ) (horders : after.orders = world.orders)
      (hwhy : ∀ localOrder snapshot outside, world.orders.getOrder clientOrderId = some localOrder →
        queryOrder localOrder.intent.symbol clientOrderId world.outside = (.ok (some snapshot), outside) →
        snapshot.symbol = localOrder.intent.symbol → snapshot.status = localOrder.status) :
      Repaired queryOrder clientOrderId world after
  | updated (localOrder : OrderRecord) (hlocal : world.orders.getOrder clientOrderId = some localOrder)
      (snapshot : ExchangeOrderSnapshot) (outside : σ)
      (hquery : queryOrder localOrder.intent.symbol clientOrderId world.outside =
        (.ok (some snapshot), outside))
      (hsymbol : snapshot.symbol = localOrder.intent.symbol) (after : World σ)
      (horders : after.orders = world.orders.upsertOrder (applyRemoteSnapshot localOrder snapshot).2) :
      Repaired queryOrder clientOrderId world after

end DualSleeve

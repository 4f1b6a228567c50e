import DualSleeve.Execution.Repair

namespace DualSleeve

open Library

-- `RepairOrderStore`: a store that keeps its orders as `ρ`.
structure RepairOrderStore (ρ : Type) where
  getOrder : ρ → String → Except PyError (Option OrderRecord)
  upsertOrder : ρ → OrderRecord → ρ

structure OrderRepairEngine (σ ρ : Type) where
  store : RepairOrderStore ρ
  queryOrder : String → String → Remote σ (Option ExchangeOrderSnapshot)

-- What the engine works on. `calls` lists the calls made so far, the latest last.
structure RepairWorld (σ ρ : Type) where
  outside : σ
  orders : ρ
  safeMode : SafeModeController := {}
  calls : List Call := []

namespace RepairWorld

variable {σ ρ : Type}

def queried (world : RepairWorld σ ρ) (symbol clientOrderId : String) (outside : σ) : RepairWorld σ ρ :=
  { world with outside, calls := world.calls ++ [.queryOrder symbol clientOrderId] }

def entered (world : RepairWorld σ ρ) (reason : SafeModeReason) : RepairWorld σ ρ :=
  { world with safeMode := world.safeMode.enter reason }

def written (world : RepairWorld σ ρ) (store : RepairOrderStore ρ) (order : OrderRecord) : RepairWorld σ ρ :=
  { world with
    orders := store.upsertOrder world.orders order
    calls := world.calls ++ [.upsertOrder order] }

end RepairWorld

namespace OrderRepairEngine

variable {σ ρ : Type} (engine : OrderRepairEngine σ ρ)

-- The exchange is asked for the order, and what it raises is caught.
def askExchange (symbol clientOrderId : String) :
    Program (RepairWorld σ ρ) PyError (Except PyError (Option ExchangeOrderSnapshot)) := fun world =>
  let (answer, outside) := engine.queryOrder symbol clientOrderId world.outside
  (.ok answer, world.queried symbol clientOrderId outside)

def repairByClientOrderId (clientOrderId : String) :
    Program (RepairWorld σ ρ) PyError RepairRecommendation := do
  let world ← Program.get
  let stored ← Program.ofExcept (engine.store.getOrder world.orders clientOrderId)
  match stored with
  | none =>
    Program.modify (·.entered (.repairLocalOrderMissing clientOrderId))
    return ⟨clientOrderId, .manualReview, .localOrderMissing,
      .text "Local order is missing; cannot infer sleeve ownership from exchange alone."⟩
  | some localOrder =>
    let answer ← engine.askExchange localOrder.intent.symbol clientOrderId
    match answer with
    | .error exc =>
      Program.modify (·.entered (.repairQueryFailed clientOrderId exc))
      return ⟨clientOrderId, .enteredSafeMode, .exchangeFetchFailed, .exception exc⟩
    | .ok none =>
      Program.modify (·.entered (.repairExchangeOrderMissing clientOrderId))
      return ⟨clientOrderId, .manualReview, .exchangeOrderMissing,
        .text "Exchange did not return the local order; manual review required."⟩
    | .ok (some snapshot) =>
      if snapshot.symbol ≠ localOrder.intent.symbol then
        Program.modify (·.entered (.repairSymbolMismatch clientOrderId))
        return ⟨clientOrderId, .manualReview, .symbolMismatch,
          .text ("Local symbol " ++ localOrder.intent.symbol ++ " != exchange symbol " ++
            snapshot.symbol ++ ".")⟩
      else if (applyRemoteSnapshot localOrder snapshot).1 then
        Program.modify (·.written engine.store (applyRemoteSnapshot localOrder snapshot).2)
        return ⟨clientOrderId, .updatedLocalFromExchange, .localUpdated,
          .text "Local order status/fill fields updated from exchange snapshot."⟩
      else
        return ⟨clientOrderId, .none, .consistent,
          .text "Local order already matches exchange snapshot."⟩

-- The four answers after which the engine gives up, and the reason it then recommends for.
inductive GivesUp (world : RepairWorld σ ρ) (clientOrderId : String) : RepairReason → Prop
  | localMissing (hstored : engine.store.getOrder world.orders clientOrderId = .ok none) :
      GivesUp world clientOrderId .localOrderMissing
  | fetchFailed {localOrder : OrderRecord} {exc : PyError} {outside : σ}
      (hstored : engine.store.getOrder world.orders clientOrderId = .ok (some localOrder))
      (hquery : engine.queryOrder localOrder.intent.symbol clientOrderId world.outside =
        (.error exc, outside)) :
      GivesUp world clientOrderId .exchangeFetchFailed
  | remoteMissing {localOrder : OrderRecord} {outside : σ}
      (hstored : engine.store.getOrder world.orders clientOrderId = .ok (some localOrder))
      (hquery : engine.queryOrder localOrder.intent.symbol clientOrderId world.outside =
        (.ok none, outside)) :
      GivesUp world clientOrderId .exchangeOrderMissing
  | symbolMismatch {localOrder : OrderRecord} {snapshot : ExchangeOrderSnapshot} {outside : σ}
      (hstored : engine.store.getOrder world.orders clientOrderId = .ok (some localOrder))
      (hquery : engine.queryOrder localOrder.intent.symbol clientOrderId world.outside =
        (.ok (some snapshot), outside))
      (hsymbol : snapshot.symbol ≠ localOrder.intent.symbol) :
      GivesUp world clientOrderId .symbolMismatch

-- The exchange answers with a snapshot of the stored order.
structure Finds (world : RepairWorld σ ρ) (clientOrderId : String) (localOrder : OrderRecord)
    (snapshot : ExchangeOrderSnapshot) (outside : σ) : Prop where
  stored : engine.store.getOrder world.orders clientOrderId = .ok (some localOrder)
  query : engine.queryOrder localOrder.intent.symbol clientOrderId world.outside =
    (.ok (some snapshot), outside)
  symbol : snapshot.symbol = localOrder.intent.symbol

-- All that a repair can come to.
inductive RepairCases (world : RepairWorld σ ρ) (clientOrderId : String) :
    Except PyError RepairRecommendation → RepairWorld σ ρ → Prop
  | unreadable {exc : PyError} (hstored : engine.store.getOrder world.orders clientOrderId = .error exc) :
      RepairCases world clientOrderId (.error exc) world
  | gaveUp (asked : RepairWorld σ ρ) (given : SafeModeReason) {action : RepairAction}
      {reason : RepairReason} {message : RepairMessage}
      (hreason : engine.GivesUp world clientOrderId reason) (horders : asked.orders = world.orders)
      (hsafe : asked.safeMode = world.safeMode)
      (hwrites : writtenOrders asked.calls = writtenOrders world.calls) :
      RepairCases world clientOrderId (.ok ⟨clientOrderId, action, reason, message⟩) (asked.entered given)
  | updated {localOrder : OrderRecord} {snapshot : ExchangeOrderSnapshot} {outside : σ}
      {message : RepairMessage} (hfinds : engine.Finds world clientOrderId localOrder snapshot outside)
      (hchanged : (applyRemoteSnapshot localOrder snapshot).1 = true) :
      RepairCases world clientOrderId
        (.ok ⟨clientOrderId, .updatedLocalFromExchange, .localUpdated, message⟩)
        ((world.queried localOrder.intent.symbol clientOrderId outside).written engine.store
          (applyRemoteSnapshot localOrder snapshot).2)
  | consistent {localOrder : OrderRecord} {snapshot : ExchangeOrderSnapshot} {outside : σ}
      {message : RepairMessage} (hfinds : engine.Finds world clientOrderId localOrder snapshot outside)
      (hsame : (applyRemoteSnapshot localOrder snapshot).1 = false) :
      RepairCases world clientOrderId (.ok ⟨clientOrderId, .none, .consistent, message⟩)
        (world.queried localOrder.intent.symbol clientOrderId outside)

variable {engine}

theorem askExchange_of_eq {symbol clientOrderId : String} {world : RepairWorld σ ρ}
    {answer : Except PyError (Option ExchangeOrderSnapshot)} {outside : σ}
    (h : engine.queryOrder symbol clientOrderId world.outside = (answer, outside)) :
    engine.askExchange symbol clientOrderId world =
      (.ok answer, world.queried symbol clientOrderId outside) := by
  rw [askExchange, h]

-- With a snapshot of the stored order the repair writes what differs.
theorem repair_of_finds {world : RepairWorld σ ρ} {clientOrderId : String} {localOrder : OrderRecord}
    {snapshot : ExchangeOrderSnapshot} {outside : σ}
    (h : engine.Finds world clientOrderId localOrder snapshot outside) :
    engine.repairByClientOrderId clientOrderId world =
      if (applyRemoteSnapshot localOrder snapshot).1 then
        (.ok ⟨clientOrderId, .updatedLocalFromExchange, .localUpdated,
            .text "Local order status/fill fields updated from exchange snapshot."⟩,
          (world.queried localOrder.intent.symbol clientOrderId outside).written engine.store
            (applyRemoteSnapshot localOrder snapshot).2)
      else
        (.ok ⟨clientOrderId, .none, .consistent, .text "Local order already matches exchange snapshot."⟩,
          world.queried localOrder.intent.symbol clientOrderId outside) := by
  unfold repairByClientOrderId
  rw [Program.get_bind, h.stored, Program.ofExcept_ok_bind]
  dsimp only
  rw [Program.bind_of_ok (askExchange_of_eq h.query)]
  dsimp only
  rw [if_neg (not_not.mpr h.symbol)]
  cases (applyRemoteSnapshot localOrder snapshot).1 <;> rfl

theorem repair_cases (engine : OrderRepairEngine σ ρ) (world : RepairWorld σ ρ) (clientOrderId : String) :
    engine.RepairCases world clientOrderId (engine.repairByClientOrderId clientOrderId world).1
      (engine.repairByClientOrderId clientOrderId world).2 := by
  by_cases hfinds : ∃ localOrder snapshot outside,
      engine.Finds world clientOrderId localOrder snapshot outside
  · obtain ⟨localOrder, snapshot, outside, hfinds⟩ := hfinds
    rw [repair_of_finds hfinds]
    by_cases hchanged : (applyRemoteSnapshot localOrder snapshot).1 = true
    · rw [if_pos hchanged]
      exact .updated hfinds hchanged
    · rw [if_neg hchanged]
      exact .consistent hfinds (Bool.eq_false_iff.mpr hchanged)
  unfold repairByClientOrderId
  rw [Program.get_bind]
  cases hstored : engine.store.getOrder world.orders clientOrderId with
  | error exc => exact .unreadable hstored
  | ok stored =>
    rw [Program.ofExcept_ok_bind]
    cases stored with
    | none => exact .gaveUp _ _ (.localMissing hstored) rfl rfl rfl
    | some localOrder =>
      dsimp only
      cases hquery : engine.queryOrder localOrder.intent.symbol clientOrderId world.outside with
      | mk answer outside =>
        have hwrites : writtenOrders (world.queried localOrder.intent.symbol clientOrderId outside).calls =
            writtenOrders world.calls := by
          rw [RepairWorld.queried, writtenOrders_append]
          exact List.append_nil _
        rw [Program.bind_of_ok (askExchange_of_eq hquery)]
        cases answer with
        | error exc => exact .gaveUp _ _ (.fetchFailed hstored hquery) rfl rfl hwrites
        | ok reply =>
          cases reply with
          | none => exact .gaveUp _ _ (.remoteMissing hstored hquery) rfl rfl hwrites
          | some snapshot =>
            have hsymbol : snapshot.symbol ≠ localOrder.intent.symbol :=
              fun h => hfinds ⟨localOrder, snapshot, outside, hstored, hquery, h⟩
            dsimp only
            rw [if_pos hsymbol]
            exact .gaveUp _ _ (.symbolMismatch hstored hquery hsymbol) rfl rfl hwrites

-- It does not give up on a snapshot of the stored order.
theorem GivesUp.not_finds {world : RepairWorld σ ρ} {clientOrderId : String} {reason : RepairReason}
    (h : engine.GivesUp world clientOrderId reason) {localOrder : OrderRecord}
    {snapshot : ExchangeOrderSnapshot} {outside : σ} :
    ¬engine.Finds world clientOrderId localOrder snapshot outside := by
  intro hfinds
  cases h with
  | localMissing hstored => cases hstored.symm.trans hfinds.stored
  | fetchFailed hstored hquery =>
    cases hstored.symm.trans hfinds.stored
    cases hquery.symm.trans hfinds.query
  | remoteMissing hstored hquery =>
    cases hstored.symm.trans hfinds.stored
    cases hquery.symm.trans hfinds.query
  | symbolMismatch hstored hquery hsymbol =>
    cases hstored.symm.trans hfinds.stored
    cases hquery.symm.trans hfinds.query
    exact hsymbol hfinds.symbol

-- Two stores that answer alike: `R` relates their contents, and the orders that are `fit` are
-- written to both in the same way.
structure Simulates {ρ' : Type} (store : RepairOrderStore ρ) (store' : RepairOrderStore ρ')
    (R : ρ → ρ' → Prop) (fit : OrderRecord → Prop) : Prop where
  getOrder : ∀ {orders orders'} clientOrderId, R orders orders' →
    store.getOrder orders clientOrderId = store'.getOrder orders' clientOrderId
  upsertOrder : ∀ {orders orders' order}, R orders orders' → fit order →
    R (store.upsertOrder orders order) (store'.upsertOrder orders' order)

-- A repair comes to the same on either store.
theorem repair_simulates {ρ' : Type} {store : RepairOrderStore ρ} {store' : RepairOrderStore ρ'}
    {R : ρ → ρ' → Prop} {fit : OrderRecord → Prop} (hsimulates : Simulates store store' R fit)
    {queryOrder : String → String → Remote σ (Option ExchangeOrderSnapshot)}
    {world : RepairWorld σ ρ} {orders' : ρ'} (hrelated : R world.orders orders') (clientOrderId : String)
    (hfit : ∀ localOrder snapshot outside,
      Finds ⟨store, queryOrder⟩ world clientOrderId localOrder snapshot outside →
        fit (applyRemoteSnapshot localOrder snapshot).2) :
    ∃ outcome after after', repairByClientOrderId ⟨store, queryOrder⟩ clientOrderId world = (outcome, after) ∧
      repairByClientOrderId ⟨store', queryOrder⟩ clientOrderId
          ⟨world.outside, orders', world.safeMode, world.calls⟩ =
        (outcome, ⟨after.outside, after', after.safeMode, after.calls⟩) ∧
      R after.orders after' := by
  have hread := hsimulates.getOrder clientOrderId hrelated
  unfold repairByClientOrderId
  simp only [Program.get_bind, ← hread]
  cases hstored : store.getOrder world.orders clientOrderId with
  | error exc => exact ⟨_, _, orders', rfl, rfl, hrelated⟩
  | ok stored =>
    simp only [Program.ofExcept_ok_bind]
    cases stored with
    | none => exact ⟨_, _, orders', rfl, rfl, hrelated⟩
    | some localOrder =>
      dsimp only
      cases hquery : queryOrder localOrder.intent.symbol clientOrderId world.outside with
      | mk answer outside =>
        rw [Program.bind_of_ok (askExchange_of_eq hquery), Program.bind_of_ok (askExchange_of_eq hquery)]
        cases answer with
        | error exc => exact ⟨_, _, orders', rfl, rfl, hrelated⟩
        | ok reply =>
          cases reply with
          | none => exact ⟨_, _, orders', rfl, rfl, hrelated⟩
          | some snapshot =>
            dsimp only
            by_cases hsymbol : snapshot.symbol = localOrder.intent.symbol
            · rw [if_neg (not_not.mpr hsymbol), if_neg (not_not.mpr hsymbol)]
              by_cases hchanged : (applyRemoteSnapshot localOrder snapshot).1 = true
              · rw [if_pos hchanged, if_pos hchanged]
                exact ⟨_, _, _, rfl, rfl,
                  hsimulates.upsertOrder hrelated (hfit _ _ _ ⟨hstored, hquery, hsymbol⟩)⟩
              · rw [if_neg hchanged, if_neg hchanged]
                exact ⟨_, _, orders', rfl, rfl, hrelated⟩
            · rw [if_pos hsymbol, if_pos hsymbol]
              exact ⟨_, _, orders', rfl, rfl, hrelated⟩

end OrderRepairEngine

-- The typed store, and the repair on it.
def OrderStore.repairStore : RepairOrderStore OrderStore where
  getOrder store clientOrderId := .ok (store.getOrder clientOrderId)
  upsertOrder := OrderStore.upsertOrder

def World.repairWorld {σ : Type} (world : World σ) : RepairWorld σ OrderStore :=
  ⟨world.outside, world.orders, world.safeMode, world.calls⟩

theorem repairByClientOrderId_eq {σ : Type}
    (queryOrder : String → String → Remote σ (Option ExchangeOrderSnapshot)) (clientOrderId : String)
    (world : World σ) :
    OrderRepairEngine.repairByClientOrderId ⟨OrderStore.repairStore, queryOrder⟩ clientOrderId
        world.repairWorld =
      ((repairByClientOrderId queryOrder clientOrderId world).1,
        (repairByClientOrderId queryOrder clientOrderId world).2.repairWorld) := by
  unfold OrderRepairEngine.repairByClientOrderId repairByClientOrderId
  rw [Program.get_bind, Program.get_bind]
  have hstored : OrderStore.repairStore.getOrder world.repairWorld.orders clientOrderId =
      .ok (world.orders.getOrder clientOrderId) := rfl
  dsimp only
  rw [hstored, Program.ofExcept_ok_bind]
  cases world.orders.getOrder clientOrderId with
  | none => rfl
  | some localOrder =>
    dsimp only
    cases hquery : queryOrder localOrder.intent.symbol clientOrderId world.outside with
    | mk answer outside =>
      have hasked : queryOrder localOrder.intent.symbol clientOrderId world.repairWorld.outside =
          (answer, outside) := hquery
      rw [Program.bind_of_ok (OrderRepairEngine.askExchange_of_eq hasked),
        Program.attempt_bind (remote_of_eq hquery)]
      cases answer with
      | error exc => rfl
      | ok reply =>
        cases reply with
        | none => rfl
        | some snapshot =>
          dsimp only
          split
          · rfl
          · split
            · rfl
            · rfl

-- What a repair of typed orders can come to.
theorem repairByClientOrderId_cases {σ : Type}
    (queryOrder : String → String → Remote σ (Option ExchangeOrderSnapshot)) (clientOrderId : String)
    (world : World σ) :
    OrderRepairEngine.RepairCases ⟨OrderStore.repairStore, queryOrder⟩ world.repairWorld clientOrderId
      (repairByClientOrderId queryOrder clientOrderId world).1
      (repairByClientOrderId queryOrder clientOrderId world).2.repairWorld := by
  have hcases := OrderRepairEngine.repair_cases ⟨OrderStore.repairStore, queryOrder⟩ world.repairWorld
    clientOrderId
  rw [repairByClientOrderId_eq] at hcases
  exact hcases

theorem repair_repaired {σ : Type}
    (queryOrder : String → String → Remote σ (Option ExchangeOrderSnapshot)) (clientOrderId : String)
    (world : World σ) :
    Repaired queryOrder clientOrderId world (repairByClientOrderId queryOrder clientOrderId world).2 := by
  have hcases := repairByClientOrderId_cases queryOrder clientOrderId world
  generalize repairByClientOrderId queryOrder clientOrderId world = result at hcases ⊢
  obtain ⟨outcome, after⟩ := result
  dsimp only at hcases ⊢
  have horders : after.orders = after.repairWorld.orders := rfl
  generalize after.repairWorld = final at hcases horders
  cases hcases with
  | unreadable hstored => cases hstored
  | gaveUp asked given hreason hkept _ _ =>
    refine .kept after (horders.trans hkept) ?_
    intro localOrder snapshot outside hlocal hquery hsymbol
    have hfinds : OrderRepairEngine.Finds ⟨OrderStore.repairStore, queryOrder⟩ world.repairWorld clientOrderId
        localOrder snapshot outside := ⟨congrArg Except.ok hlocal, hquery, hsymbol⟩
    exact absurd hfinds hreason.not_finds
  | updated hfinds _ =>
    exact .updated _ (Except.ok.inj hfinds.stored) _ _ hfinds.query hfinds.symbol after horders
  | consistent hfinds hsame =>
    refine .kept after horders ?_
    intro stored given other hlocal hquery _
    cases hfinds.stored.symm.trans (congrArg Except.ok hlocal)
    cases hfinds.query.symm.trans hquery
    exact (unchanged_iff.mp hsame).1.symm

end DualSleeve

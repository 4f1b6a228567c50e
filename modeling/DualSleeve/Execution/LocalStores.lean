import DualSleeve.Execution.PositionReconciliation
import DualSleeve.Execution.Reconciliation

namespace DualSleeve

open Library

variable {σ : Type}

-- The protocols the reconcilers are written against: stores whose calls may raise. What
-- such a store remembers is part of the outside.
structure LocalOrderStore (σ : Type) where
  listOpenOrders : Remote σ (List OrderRecord)

structure LocalPositionStore (σ : Type) where
  listPositions : Bool → Remote σ (List ExchangePositionSnapshot)
  upsertPosition : ExchangePositionSnapshot → Remote σ Unit

namespace LocalOrderStore

variable (store : LocalOrderStore σ)

-- The body of the `try` of `reconcile_open_orders`.
def fetch (exchange : ExchangeAdapter σ) : Action σ (List OrderRecord × List OrderRecord) := do
  let localOrders ← remote .listOpenOrders store.listOpenOrders
  let exchangeOrders ← remote .fetchOpenOrders exchange.fetchOpenOrders
  return (localOrders, exchangeOrders)

def reconcileOpenOrders (exchange : ExchangeAdapter σ) : Action σ ReconciliationReport := do
  let fetched ← Program.attempt (store.fetch exchange)
  match fetched with
  | .error exc =>
    enterSafeMode (.reconciliationFetchFailed exc)
    return {
      consistent := false
      missingOnExchange := []
      unknownOnLocal := []
      statusMismatches := []
      error := some (.reconciliationFetchFailed exc) }
  | .ok (localOrders, exchangeOrders) =>
    let report := compareOrders localOrders exchangeOrders
    if !report.consistent then
      enterSafeMode (.reconciliationMismatch report.missingOnExchange report.unknownOnLocal
        report.statusMismatches)
      return report
    else
      return report

end LocalOrderStore

namespace LocalPositionStore

variable (store : LocalPositionStore σ)

-- The body of the `try` of `reconcile_positions`.
def fetch (reconciler : PositionReconciler σ) :
    Action σ (List ExchangePositionSnapshot × List ExchangePositionSnapshot) := do
  let localPositions ← remote (.listPositions false) (store.listPositions false)
  let positions ← remote (.fetchPositionSnapshots none) (reconciler.fetchPositionSnapshots none)
  return (localPositions, positions.filter (!·.isFlat))

def reconcilePositions [DecimalContext] (reconciler : PositionReconciler σ) :
    Action σ PositionReconciliationReport := do
  let fetched ← Program.attempt (store.fetch reconciler)
  match fetched with
  | .error exc =>
    enterSafeMode (.positionReconciliationFetchFailed exc)
    return ⟨false, [], [], [], some (.positionReconciliationFetchFailed exc)⟩
  | .ok (localPositions, remotePositions) =>
    let report := comparePositions reconciler.amountTolerance localPositions remotePositions
    if !report.consistent then
      enterSafeMode (.positionReconciliationMismatch report.missingOnExchange report.unknownOnLocal
        report.amountMismatches)
      return report
    else
      return report

def storePositions : List ExchangePositionSnapshot → Action σ Unit
  | [] => return ()
  | position :: positions => do
    remote (.upsertPosition position) (store.upsertPosition position)
    storePositions positions

def refreshLocalPositionsFromExchange (reconciler : PositionReconciler σ) :
    Action σ (List ExchangePositionSnapshot) := do
  let positions ← remote (.fetchPositionSnapshots none) (reconciler.fetchPositionSnapshots none)
  store.storePositions positions
  return positions

end LocalPositionStore

end DualSleeve

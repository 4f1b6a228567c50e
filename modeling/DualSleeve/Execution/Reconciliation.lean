import DualSleeve.Execution.OrderStateMachine
import DualSleeve.Execution.World
import DualSleeve.Library.KeyedDiff
import Mathlib.Data.String.Basic

namespace DualSleeve

open Library

structure ReconciliationReport where
  consistent : Bool
  missingOnExchange : List String
  unknownOnLocal : List String
  statusMismatches : List String
  error : Option SafeModeReason := none
  deriving DecidableEq

def isMeaningfulStatusMismatch (before exchange : OrderStatus) : Bool :=
  if before = .unknown ∨ exchange = .unknown then false
  else if before = exchange then false
  else decide (before.IsTerminal ∨ exchange.IsTerminal)

def statusesMismatch (localOrders exchangeOrders : List OrderRecord) (clientOrderId : String) : Bool :=
  match lastWithKey OrderRecord.clientOrderId localOrders clientOrderId,
      lastWithKey OrderRecord.clientOrderId exchangeOrders clientOrderId with
  | some localOrder, some exchangeOrder =>
      isMeaningfulStatusMismatch localOrder.status exchangeOrder.status
  | _, _ => false

def compareOrders (localOrders exchangeOrders : List OrderRecord) : ReconciliationReport :=
  let diff := keyedDiff (localOrders.map OrderRecord.clientOrderId)
    (exchangeOrders.map OrderRecord.clientOrderId) (statusesMismatch localOrders exchangeOrders)
  { consistent := diff.isEmpty
    missingOnExchange := diff.missing
    unknownOnLocal := diff.unknown
    statusMismatches := diff.mismatched }

variable {σ : Type}

def reconcileOpenOrders (exchange : ExchangeAdapter σ) : Action σ ReconciliationReport := do
  let world ← Program.get
  let localOrders := world.orders.listOpenOrders
  let fetched ← Program.attempt (remote .fetchOpenOrders exchange.fetchOpenOrders)
  match fetched with
  | .error exc =>
    enterSafeMode (.reconciliationFetchFailed exc)
    return {
      consistent := false
      missingOnExchange := []
      unknownOnLocal := []
      statusMismatches := []
      error := some (.reconciliationFetchFailed exc) }
  | .ok exchangeOrders =>
    let report := compareOrders localOrders exchangeOrders
    if !report.consistent then
      enterSafeMode (.reconciliationMismatch report.missingOnExchange report.unknownOnLocal
        report.statusMismatches)
      return report
    else
      return report

theorem compareOrders_consistent_iff {localOrders exchangeOrders : List OrderRecord} :
    (compareOrders localOrders exchangeOrders).consistent = true ↔
      (∀ id, id ∈ localOrders.map OrderRecord.clientOrderId ↔
        id ∈ exchangeOrders.map OrderRecord.clientOrderId) ∧
      ∀ id ∈ localOrders.map OrderRecord.clientOrderId,
        statusesMismatch localOrders exchangeOrders id = false :=
  KeyedDiff.isEmpty_iff

-- Orders of the same id and status do not disagree.
theorem statusesMismatch_of_mem {localOrders exchangeOrders : List OrderRecord}
    (hlocal : (localOrders.map OrderRecord.clientOrderId).Nodup)
    (hexchange : (exchangeOrders.map OrderRecord.clientOrderId).Nodup)
    {localOrder exchangeOrder : OrderRecord} (hl : localOrder ∈ localOrders)
    (he : exchangeOrder ∈ exchangeOrders) (hid : exchangeOrder.clientOrderId = localOrder.clientOrderId)
    (hstatus : localOrder.status = exchangeOrder.status) :
    statusesMismatch localOrders exchangeOrders localOrder.clientOrderId = false := by
  have hlast := lastWithKey_of_mem hexchange he
  rw [hid] at hlast
  rw [statusesMismatch, lastWithKey_of_mem hlocal hl, hlast]
  dsimp only
  rw [isMeaningfulStatusMismatch, hstatus]
  simp

theorem reconcileOpenOrders_of_fetched {exchange : ExchangeAdapter σ} {world : World σ}
    {exchangeOrders : List OrderRecord} {outside : σ}
    (h : exchange.fetchOpenOrders world.outside = (.ok exchangeOrders, outside)) :
    reconcileOpenOrders exchange world =
      (.ok (compareOrders world.orders.listOpenOrders exchangeOrders),
        (world.after .fetchOpenOrders outside).settled
          (compareOrders world.orders.listOpenOrders exchangeOrders).consistent
          (.reconciliationMismatch
            (compareOrders world.orders.listOpenOrders exchangeOrders).missingOnExchange
            (compareOrders world.orders.listOpenOrders exchangeOrders).unknownOnLocal
            (compareOrders world.orders.listOpenOrders exchangeOrders).statusMismatches)) := by
  unfold reconcileOpenOrders
  rw [Program.get_bind, Program.attempt_bind (remote_of_eq h)]
  exact settle_eq _ _ _ _

end DualSleeve

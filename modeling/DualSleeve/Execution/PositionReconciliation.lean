import DualSleeve.Core.DecimalContext
import DualSleeve.Execution.World
import DualSleeve.Library.KeyedDiff
import Mathlib.Algebra.Order.Group.Unbundled.Abs
import Mathlib.Data.Rat.Floor

namespace DualSleeve

open Library

structure PositionReconciliationReport where
  consistent : Bool
  missingOnExchange : List PositionKey
  unknownOnLocal : List PositionKey
  amountMismatches : List PositionKey
  error : Option SafeModeReason := none
  deriving DecidableEq

structure PositionReconciler (σ : Type) where
  fetchPositionSnapshots : Option String → Remote σ (List ExchangePositionSnapshot)
  amountTolerance : ℚ := 0

section Compare

variable [DecimalContext]

def amountsMismatch (amountTolerance : ℚ) (localPositions remotePositions : List ExchangePositionSnapshot)
    (key : PositionKey) : Bool :=
  match lastWithKey ExchangePositionSnapshot.key localPositions key,
      lastWithKey ExchangePositionSnapshot.key remotePositions key with
  | some localPosition, some remotePosition =>
      amountTolerance < rounded |rounded (localPosition.positionAmt - remotePosition.positionAmt)|
  | _, _ => false

def comparePositions (amountTolerance : ℚ) (localPositions remotePositions : List ExchangePositionSnapshot) :
    PositionReconciliationReport :=
  let diff := keyedDiff (localPositions.map ExchangePositionSnapshot.key)
    (remotePositions.map ExchangePositionSnapshot.key)
    (amountsMismatch amountTolerance localPositions remotePositions)
  { consistent := diff.isEmpty
    missingOnExchange := diff.missing
    unknownOnLocal := diff.unknown
    amountMismatches := diff.mismatched }

end Compare

namespace PositionReconciler

variable {σ : Type} (reconciler : PositionReconciler σ)

def reconcilePositions [DecimalContext] : Action σ PositionReconciliationReport := do
  let world ← Program.get
  let localPositions := world.positions.listPositions
  let fetched ← Program.attempt
    (remote (.fetchPositionSnapshots none) (reconciler.fetchPositionSnapshots none))
  match fetched with
  | .error exc =>
    enterSafeMode (.positionReconciliationFetchFailed exc)
    return ⟨false, [], [], [], some (.positionReconciliationFetchFailed exc)⟩
  | .ok positions =>
    let remotePositions := positions.filter (!·.isFlat)
    let report := comparePositions reconciler.amountTolerance localPositions remotePositions
    if !report.consistent then
      enterSafeMode (.positionReconciliationMismatch report.missingOnExchange report.unknownOnLocal
        report.amountMismatches)
      return report
    else
      return report

-- `for position in positions: self.store.upsert_position(position)`
def storePositions : List ExchangePositionSnapshot → Action σ Unit
  | [] => pure ()
  | position :: positions => do
    upsertPosition position
    storePositions positions

def refreshLocalPositionsFromExchange : Action σ (List ExchangePositionSnapshot) := do
  let positions ← remote (.fetchPositionSnapshots none) (reconciler.fetchPositionSnapshots none)
  storePositions positions
  return positions

end PositionReconciler

end DualSleeve

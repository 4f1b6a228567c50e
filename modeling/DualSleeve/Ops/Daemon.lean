import DualSleeve.Execution.LocalStores
import DualSleeve.Library.Sequence

namespace DualSleeve

open Library

variable {σ : Type}

-- An alert sink that does not raise.
structure AlertSink (σ : Type) where
  send : String → σ → σ

def sendAlert (alerts : AlertSink σ) (message : String) : Action σ Unit :=
  Program.modify fun world => world.after (.sendAlert message) (alerts.send message world.outside)

-- The clock of the machine, which may refuse a sleep that is too long for it.
structure Clock (σ : Type) where
  wait : ℤ → σ → Except PyError Unit

-- `time.sleep(seconds)`
def sleep (clock : Clock σ) (seconds : ℤ) : Action σ Unit := fun world =>
  if seconds < 0 then
    (.error (.valueError "sleep length must be non-negative"), world)
  else
    match clock.wait seconds world.outside with
    | .error exc => (.error exc, world)
    | .ok () => (.ok (), world.after (.sleep seconds) world.outside)

structure DaemonConfig where
  intervalSeconds : ℤ := 30
  maxIterations : Option ℤ := none
  stopOnMismatch : Bool := true
  refreshPositionsBeforeReconcile : Bool := false

structure DaemonIterationResult where
  orderReport : ReconciliationReport
  positionReport : PositionReconciliationReport
  safeModeActive : Bool
  deriving DecidableEq

def DaemonIterationResult.consistent (result : DaemonIterationResult) : Bool :=
  result.orderReport.consistent && result.positionReport.consistent

-- `str` of a Python bool.
def boolText (value : Bool) : String := if value then "True" else "False"

def formatDaemonMismatch (result : DaemonIterationResult) : String :=
  "DAEMON_RECONCILIATION_MISMATCH " ++
    "order_consistent=" ++ boolText result.orderReport.consistent ++ " " ++
    "position_consistent=" ++ boolText result.positionReport.consistent ++ " " ++
    "safe_mode=" ++ boolText result.safeModeActive

-- A `DaemonRunner` with what its reconcilers were made of.
structure DaemonRunner (σ : Type) where
  orderStore : LocalOrderStore σ
  exchange : ExchangeAdapter σ
  positionStore : LocalPositionStore σ
  positionReconciler : PositionReconciler σ
  alerts : AlertSink σ
  clock : Clock σ
  config : DaemonConfig

namespace DaemonRunner

variable (daemon : DaemonRunner σ)

def refreshPositions : Action σ Unit :=
  if daemon.config.refreshPositionsBeforeReconcile then do
    let _ ← daemon.positionStore.refreshLocalPositionsFromExchange daemon.positionReconciler
    return ()
  else
    return ()

-- Whether the configured number of iterations was reached.
def exhausted (iterations : ℤ) : Bool := daemon.config.maxIterations.any (· ≤ iterations)

variable [DecimalContext]

def runOnce : Action σ DaemonIterationResult := do
  daemon.refreshPositions
  let orderReport ← daemon.orderStore.reconcileOpenOrders daemon.exchange
  let positionReport ← daemon.positionStore.reconcilePositions daemon.positionReconciler
  let world ← Program.get
  let result : DaemonIterationResult := {
    orderReport
    positionReport
    safeModeActive := !world.safeMode.allowsNewEntries }
  if !result.consistent then
    sendAlert daemon.alerts (formatDaemonMismatch result)
    return result
  else
    return result

-- The loop of `run` after so many iterations: the results it adds, or nothing where it is
-- still running after `fuel` more.
def runFrom : ℕ → ℤ → Action σ (Option (List DaemonIterationResult))
  | 0, _ => return none
  | fuel + 1, iterations =>
    if daemon.exhausted iterations then
      return some []
    else do
      let result ← daemon.runOnce
      if daemon.config.stopOnMismatch && !result.consistent then
        return some [result]
      else if daemon.exhausted (iterations + 1) then
        return some [result]
      else
        sleep daemon.clock daemon.config.intervalSeconds
        let results ← runFrom fuel (iterations + 1)
        return results.map (result :: ·)

def run (fuel : ℕ) : Action σ (Option (List DaemonIterationResult)) := daemon.runFrom fuel 0

end DaemonRunner

end DualSleeve

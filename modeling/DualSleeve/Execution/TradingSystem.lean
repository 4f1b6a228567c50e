import DualSleeve.Execution.PeriodicReconciliation
import DualSleeve.Execution.Repair
import DualSleeve.Execution.SleeveBTestnetLoop
import DualSleeve.Library.Effect

namespace DualSleeve

open Library

-- The components that are given one `SafeModeController`, one exchange and one order store:
-- the entry loop, the routers, the reconcilers, the daemon, the periodic reconciliation and
-- the repair. What the daemon and the periodic reconciliation read of a store is left open.
structure TradingSystem (σ : Type) where
  loop : SleeveBAutoTestnetLoop σ
  daemon : DaemonRunner σ
  periodic : PeriodicReconciliationLoop σ
  queryOrder : String → String → Remote σ (Option ExchangeOrderSnapshot)

-- One call of a component whose caller catches what it raises, a call of the controller
-- itself, or anything that happens outside: fills, cancels, the clock.
inductive SystemEvent (σ : Type) where
  | outside (change : σ → σ)
  | enter (reason : SafeModeReason)
  | exit (reason : String)
  | route (mode : TradingMode) (intent : OrderIntent)
  | runLoop (candidates : List SleeveBSignalCandidate)
  | reconcile
  | runDaemon (fuel : ℕ)
  | runPeriodic (fuel : ℕ)
  | repair (clientOrderId : String)

namespace TradingSystem

variable {σ : Type} (system : TradingSystem σ)

def router (mode : TradingMode) : PersistentOrderRouter σ where
  router := { mode, exchange := system.loop.exchange.toExchangeAdapter, now := system.loop.now }

-- How many orders an event may hand to the exchange.
def maxOrders : SystemEvent σ → ℕ
  | .route _ _ => 1
  | .runLoop _ => if system.loop.config.requireAck then system.loop.config.maxNewOrdersPerRun.toNat else 0
  | _ => 0

variable [DecimalContext]

def step (world : World σ) : SystemEvent σ → World σ
  | .outside change => { world with outside := change world.outside }
  | .enter reason => (enterSafeMode reason world).2
  | .exit reason => (exitSafeMode reason world).2
  | .route mode intent => ((system.router mode).route intent world).2
  | .runLoop candidates => (system.loop.runOnce candidates world).2
  | .reconcile => (reconcileOpenOrders system.loop.exchange.toExchangeAdapter world).2
  | .runDaemon fuel => (system.daemon.run fuel world).2
  | .runPeriodic fuel => (system.periodic.run fuel world).2
  | .repair clientOrderId => (repairByClientOrderId system.queryOrder clientOrderId world).2

end TradingSystem

-- The calls that change orders: on the exchange, or in the order store.
def Call.changesOrders : Call → Bool
  | .submitOrder _ => true
  | .cancelOrder _ _ => true
  | .upsertOrder _ => true
  | _ => false

def canceledIds : List Call → List String :=
  List.filterMap fun call => match call with
    | .cancelOrder clientOrderId _ => some clientOrderId
    | _ => none

@[simp] theorem canceledIds_append (calls more : List Call) :
    canceledIds (calls ++ more) = canceledIds calls ++ canceledIds more :=
  List.filterMap_append

variable {σ : Type}

-- Between two states no order was handed over, canceled or written, and an active safe mode
-- stayed active.
structure LeavesOrders (before after : World σ) : Prop where
  calls : ∃ calls, after.calls = before.calls ++ calls ∧ ∀ call ∈ calls, call.changesOrders = false
  orders : after.orders = before.orders
  latch : before.safeMode.state = .safeMode → after.safeMode.state = .safeMode

-- What `calls` between two states are, whichever components made them: nothing is canceled,
-- every order handed over is a submitted entry or a reduce-only close, and no entry while
-- the safe mode was active; the order store holds what was written over what it held.
structure CallsLawful (before : World σ) (calls : List Call) (after : World σ) : Prop where
  sent : ∀ order ∈ sentOrders calls, order.status = .submitted ∧ order.filledQuantity = 0 ∧
    0 < order.intent.quantity ∧ (order.intent.action ≠ .entry → order.intent.reduceOnly = true)
  canceled : canceledIds calls = []
  orders : after.orders = (writtenOrders calls).foldl OrderStore.upsertOrder before.orders
  rows : after.orders.rows.length ≤ before.orders.rows.length + (sentOrders calls).length
  blocked : before.safeMode.state = .safeMode → ∀ order ∈ sentOrders calls, order.intent.action ≠ .entry

-- The law of the calls, and that an active safe mode stays active.
structure Serves (count : ℕ) (before after : World σ) : Prop where
  calls : ∃ calls, after.calls = before.calls ++ calls ∧ CallsLawful before calls after ∧
    (sentOrders calls).length ≤ count
  latch : before.safeMode.state = .safeMode → after.safeMode.state = .safeMode

-- What a step of the system keeps to.
def LawfulEvent [DecimalContext] (system : TradingSystem σ) (world : World σ) (event : SystemEvent σ) : Prop :=
  ∃ calls, (system.step world event).calls = world.calls ++ calls ∧
    CallsLawful world calls (system.step world event) ∧ (sentOrders calls).length ≤ system.maxOrders event

end DualSleeve

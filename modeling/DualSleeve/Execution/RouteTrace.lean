import DualSleeve.Execution.PersistentRouter
import DualSleeve.Library.Run

namespace DualSleeve

open Library

-- The fields of an order that the exchange's answer to `submit_order` may change;
-- the order itself is the one that was handed over.
structure OrderUpdate where
  status : OrderStatus
  exchangeOrderId : Option String
  filledQuantity : ℚ
  averageFillPrice : Option ℚ
  deriving DecidableEq

def OrderRecord.updated (order : OrderRecord) (update : OrderUpdate) : OrderRecord :=
  { order with
    status := update.status
    exchangeOrderId := update.exchangeOrderId
    filledQuantity := update.filledQuantity
    averageFillPrice := update.averageFillPrice }

-- `submit_order` returns, or raises before or after the exchange took the order.
inductive SubmitReply where
  | returned (update : OrderUpdate)
  | raised (accepted : Bool) (exc : PyError)
  deriving DecidableEq

def SubmitReply.accepted : SubmitReply → Bool
  | .returned _ => true
  | .raised accepted _ => accepted

-- What the exchange and the clock answer during one call of `route`.
structure Script where
  filters : String → Except PyError SymbolFilters
  submit : OrderRecord → SubmitReply
  now : DateTime

structure ScriptedExchange where
  script : Script
  accepted : List OrderRecord := []

def ScriptedExchange.take (exchange : ScriptedExchange) (order : OrderRecord) : ScriptedExchange :=
  { exchange with accepted := exchange.accepted ++ [order] }

def scriptedAdapter : ExchangeAdapter ScriptedExchange where
  getSymbolFilters symbol := fun exchange => (exchange.script.filters symbol, exchange)
  submitOrder order := fun exchange =>
    match exchange.script.submit order with
    | .returned update => (.ok (order.updated update), exchange.take order)
    | .raised true exc => (.error exc, exchange.take order)
    | .raised false exc => (.error exc, exchange)
  cancelOrder _ _ := fun exchange => (.ok none, exchange)
  fetchOpenOrders := fun exchange => (.ok exchange.accepted, exchange)

def scriptedRouter (mode : TradingMode) : PersistentOrderRouter ScriptedExchange where
  router := { mode, exchange := scriptedAdapter, now := fun exchange => exchange.script.now }

-- One event of a trace: the safe mode is switched, or an intent is routed while the
-- exchange answers as the script says.
inductive RouteEvent where
  | enter (reason : SafeModeReason)
  | exit (reason : String)
  | route (intent : OrderIntent) (script : Script)

variable [DecimalContext]

abbrev RouteWorld := World ScriptedExchange

def RouteWorld.scripted (world : RouteWorld) (script : Script) : RouteWorld :=
  { world with outside := { world.outside with script } }

def routeCall (mode : TradingMode) (world : RouteWorld) (intent : OrderIntent) (script : Script) :
    Except PyError RouteResult × RouteWorld :=
  (scriptedRouter mode).route intent (world.scripted script)

def routeStep (mode : TradingMode) (world : RouteWorld) : RouteEvent → RouteWorld
  | .enter reason => { world with safeMode := world.safeMode.enter reason }
  | .exit reason => { world with safeMode := world.safeMode.exit reason }
  | .route intent script => (routeCall mode world intent script).2

-- The order a call hands to the exchange, if it comes to that: what the gates, the
-- filters and the mode make of the intent.
def handedOrder (mode : TradingMode) (safeMode : SafeModeController) (intent : OrderIntent)
    (script : Script) : Option OrderRecord :=
  if OrderRouter.Admits safeMode intent ∧ mode ≠ .signalOnly then
    match script.filters intent.symbol with
    | .error _ => none
    | .ok filters =>
        match normalizeOrderIntent intent filters with
        | .error _ => none
        | .ok normalized => some (OrderRouter.submittedOrder normalized script.now)
  else none

-- The order a call writes to the store, and the one the exchange takes.
def storedOrder (script : Script) (order : OrderRecord) : Option OrderRecord :=
  match script.submit order with
  | .returned update => some (order.updated update)
  | .raised _ _ => none

def acceptedOrder (script : Script) (order : OrderRecord) : Option OrderRecord :=
  if (script.submit order).accepted then some order else none

theorem handedOrder_of_ok {mode : TradingMode} {safeMode : SafeModeController} {intent : OrderIntent}
    {script : Script} {filters : SymbolFilters} {normalized : OrderIntent}
    (hgate : OrderRouter.Admits safeMode intent) (hmode : mode ≠ .signalOnly)
    (hfilters : script.filters intent.symbol = .ok filters)
    (hnormal : normalizeOrderIntent intent filters = .ok normalized) :
    handedOrder mode safeMode intent script =
      some (OrderRouter.submittedOrder normalized script.now) := by
  simp only [handedOrder, hgate, hmode, hfilters, hnormal, ne_eq, not_false_eq_true, and_self, ite_true]

theorem handedOrder_eq_some {mode : TradingMode} {safeMode : SafeModeController} {intent : OrderIntent}
    {script : Script} {order : OrderRecord} (h : handedOrder mode safeMode intent script = some order) :
    OrderRouter.Admits safeMode intent ∧ mode ≠ .signalOnly ∧
      ∃ filters normalized, script.filters intent.symbol = .ok filters ∧
        normalizeOrderIntent intent filters = .ok normalized ∧
        order = OrderRouter.submittedOrder normalized script.now := by
  unfold handedOrder at h
  split at h
  · rename_i hgate
    refine ⟨hgate.1, hgate.2, ?_⟩
    split at h
    · cases h
    · rename_i filters hf
      split at h
      · cases h
      · rename_i normalized hn
        exact ⟨filters, normalized, hf, hn, (Option.some.inj h).symm⟩
  · cases h

-- The world a trace starts in when nothing was ever sent.
def startWorld (script : Script) (safeMode : SafeModeController) : RouteWorld :=
  { outside := { script }, safeMode }

def sampleFilters : SymbolFilters := ⟨"BTCUSDT", 1 / 10, 1 / 1000, 50⟩

def sampleIntent : OrderIntent where
  sleeveId := .b
  symbol := "BTCUSDT"
  side := .buy
  orderType := .limit
  action := .entry
  quantity := 1 / 100
  price := some 100000
  setupId := some "setup12345678"

-- An exchange that takes every order and leaves it open.
def sampleScript : Script where
  filters _ := .ok sampleFilters
  submit order := .returned ⟨order.status, none, 0, none⟩
  now := sampleClock

end DualSleeve

import DualSleeve.Exchange.Filters
import DualSleeve.Execution.OrderIds
import DualSleeve.Execution.OrderStateMachine
import DualSleeve.Execution.World

namespace DualSleeve

open Library

-- The texts in `RouteResult.reason`, `SleeveBAllocationDecision.reason` and
-- `SleeveBAutoLoopDecision.reason`.
inductive Reason where
  | ackRequired
  | maxNewOrdersPerRunReached
  | safeModeBlocksNewEntries
  | closeOrderMustBeReduceOnly
  | signalOnlyNoSubmit
  | submittedToSimOrTestnet
  | symbolNotAllowed
  | availableBalanceTooLow
  | invalidStopDistance
  | symbolAlreadyHasPosition
  | maxConcurrentPositionsReached
  | portfolioMarginCapReached
  | quantityFloorsToZero
  | belowMinNotional
  | marginExceedsAllowedCap
  | accepted
  deriving DecidableEq

def Reason.value : Reason → String
  | .ackRequired => "ACK_REQUIRED"
  | .maxNewOrdersPerRunReached => "MAX_NEW_ORDERS_PER_RUN_REACHED"
  | .safeModeBlocksNewEntries => "SAFE_MODE_BLOCKS_NEW_ENTRIES"
  | .closeOrderMustBeReduceOnly => "CLOSE_ORDER_MUST_BE_REDUCE_ONLY"
  | .signalOnlyNoSubmit => "SIGNAL_ONLY_NO_SUBMIT"
  | .submittedToSimOrTestnet => "SUBMITTED_TO_SIM_OR_TESTNET"
  | .symbolNotAllowed => "SYMBOL_NOT_ALLOWED"
  | .availableBalanceTooLow => "AVAILABLE_BALANCE_TOO_LOW"
  | .invalidStopDistance => "INVALID_STOP_DISTANCE"
  | .symbolAlreadyHasPosition => "SYMBOL_ALREADY_HAS_POSITION"
  | .maxConcurrentPositionsReached => "MAX_CONCURRENT_POSITIONS_REACHED"
  | .portfolioMarginCapReached => "PORTFOLIO_MARGIN_CAP_REACHED"
  | .quantityFloorsToZero => "QUANTITY_FLOORS_TO_ZERO"
  | .belowMinNotional => "BELOW_MIN_NOTIONAL"
  | .marginExceedsAllowedCap => "MARGIN_EXCEEDS_ALLOWED_CAP"
  | .accepted => "ACCEPTED"

structure RouteResult where
  accepted : Bool
  order : Option OrderRecord
  reason : Reason
  deriving DecidableEq

structure OrderRouter (σ : Type) where
  mode : TradingMode
  exchange : ExchangeAdapter σ
  now : σ → DateTime

variable [DecimalContext] {σ : Type}

namespace OrderRouter

-- The order made of a normalised intent at time `now`.
def newOrder (normalized : OrderIntent) (now : DateTime) : OrderRecord where
  clientOrderId := makeClientOrderId normalized.sleeveId (setupIdOrManual normalized.setupId)
    normalized.action now
  intent := normalized

def route (router : OrderRouter σ) (intent : OrderIntent) : Action σ RouteResult := do
  let world ← Program.get
  if !world.safeMode.allowsNewEntries && intent.action = .entry then
    return ⟨false, none, .safeModeBlocksNewEntries⟩
  else if intent.action ≠ .entry && !intent.reduceOnly then
    return ⟨false, none, .closeOrderMustBeReduceOnly⟩
  else
    let filters ← remote (.getSymbolFilters intent.symbol)
      (router.exchange.getSymbolFilters intent.symbol)
    let normalized ← Program.ofExcept (normalizeOrderIntent intent filters)
    let world ← Program.get
    let order := newOrder normalized (router.now world.outside)
    if router.mode = .signalOnly then
      return ⟨true, some order, .signalOnlyNoSubmit⟩
    else if router.mode = .paperLocal || router.mode = .exchangeTestnet then
      let order ← Program.ofExcept (OrderStateMachine.transition order .submitted)
      let submitted ← remote (.submitOrder order) (router.exchange.submitOrder order)
      return ⟨true, some submitted, .submittedToSimOrTestnet⟩
    else
      Program.raise (.liveTradingDisabled router.mode)

-- The gates `route` checks before it asks the exchange for anything.
def Admits (safeMode : SafeModeController) (intent : OrderIntent) : Prop :=
  (intent.action = .entry → safeMode.allowsNewEntries = true) ∧
    (intent.action ≠ .entry → intent.reduceOnly = true)

instance (safeMode : SafeModeController) (intent : OrderIntent) : Decidable (Admits safeMode intent) :=
  inferInstanceAs (Decidable (_ ∧ _))

-- The order as it is handed to the exchange.
def submittedOrder (normalized : OrderIntent) (now : DateTime) : OrderRecord :=
  { newOrder normalized now with status := .submitted }

end OrderRouter

end DualSleeve

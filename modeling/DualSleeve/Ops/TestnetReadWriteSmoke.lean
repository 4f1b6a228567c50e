import DualSleeve.Execution.LocalStores
import DualSleeve.Execution.OrderRouter

namespace DualSleeve

open Library

variable {σ : Type}

structure ReadWriteSmokeExchange (σ : Type) extends ExchangeAdapter σ where
  fetchAccountSnapshot : Remote σ AccountSnapshotV3
  fetchPositionSnapshots : Option String → Remote σ (List ExchangePositionSnapshot)
  fetchMarkPrice : String → Remote σ ℚ
  queryOrder : String → String → Remote σ (Option ExchangeOrderSnapshot)

structure TestnetSmokeOrderConfig where
  symbol : String
  side : OrderSide
  quantity : ℚ
  limitPrice : ℚ
  setupId : String := "smoke010"
  nonMarketableMargin : ℚ := 1 / 5
  requireNonMarketable : Bool := true
  deriving DecidableEq

structure TestnetReadWriteSmokeResult where
  symbol : String
  clientOrderId : String
  exchangeOrderId : Option String
  submittedStatus : OrderStatus
  queriedStatusBeforeCancel : OrderStatus
  queriedStatusAfterCancel : OrderStatus
  orderReconciliationConsistent : Bool
  positionReconciliationConsistent : Bool
  safeModeActive : Bool
  accountTotalWalletBalance : ℚ
  positionCount : ℕ
  deriving DecidableEq

def acceptedSubmitStatuses : List OrderStatus := [.submitted, .partiallyFilled, .filled]

def TestnetReadWriteSmokeResult.ok (result : TestnetReadWriteSmokeResult) : Bool :=
  result.submittedStatus ∈ acceptedSubmitStatuses && result.queriedStatusAfterCancel == .canceled &&
    result.orderReconciliationConsistent && result.positionReconciliationConsistent && !result.safeModeActive

def findPositionMarkPrice (symbol : String) (positions : List ExchangePositionSnapshot) : Option ℚ :=
  positions.findSome? fun position => if position.symbol = symbol then position.markPrice else none

section Guard

variable [DecimalContext]

def TestnetSmokeOrderConfig.maxBuyPrice (config : TestnetSmokeOrderConfig) (markPrice : ℚ) : ℚ :=
  rounded (markPrice * rounded (1 - config.nonMarketableMargin))

def TestnetSmokeOrderConfig.minSellPrice (config : TestnetSmokeOrderConfig) (markPrice : ℚ) : ℚ :=
  rounded (markPrice * rounded (1 + config.nonMarketableMargin))

def TestnetSmokeOrderConfig.validateNonMarketable (config : TestnetSmokeOrderConfig) (markPrice : ℚ) :
    Except PyError Unit :=
  if !config.requireNonMarketable then .ok ()
  else if markPrice ≤ 0 then .error (.testnetSmokeSafetyError .positiveMarkPriceRequired)
  else if ¬(0 < config.nonMarketableMargin ∧ config.nonMarketableMargin < 1) then
    .error (.testnetSmokeSafetyError .marginOutOfRange)
  else if config.side = .buy ∧ config.maxBuyPrice markPrice ≤ config.limitPrice then
    .error (.testnetSmokeSafetyError (.buyPriceTooHigh (config.maxBuyPrice markPrice)))
  else if config.side = .sell ∧ config.limitPrice ≤ config.minSellPrice markPrice then
    .error (.testnetSmokeSafetyError (.sellPriceTooLow (config.minSellPrice markPrice)))
  else .ok ()

end Guard

def TestnetSmokeOrderConfig.intent (config : TestnetSmokeOrderConfig) : OrderIntent where
  sleeveId := .b
  symbol := config.symbol
  side := config.side
  orderType := .limit
  action := .entry
  quantity := config.quantity
  price := some config.limitPrice
  reduceOnly := false
  setupId := some config.setupId
  metadata := [("smoke_test", .text "PR-010")]

-- The exchange, the clock, and the two stores the run opens in memory: whatever they hold.
structure ReadWriteSmoke (σ : Type) where
  exchange : ReadWriteSmokeExchange σ
  orderStore : LocalOrderStore σ
  positionStore : LocalPositionStore σ
  now : σ → DateTime

-- What was read before the order is made.
structure SmokePreflight where
  account : AccountSnapshotV3
  positions : List ExchangePositionSnapshot
  markPrice : ℚ

-- The variables that the `try` and its `finally` assign.
structure SmokeLocals where
  submittedOrder : Option OrderRecord := none
  queryBefore : Option ExchangeOrderSnapshot := none
  queryAfter : Option ExchangeOrderSnapshot := none

namespace ReadWriteSmoke

variable (smoke : ReadWriteSmoke σ) (config : TestnetSmokeOrderConfig)

def router : OrderRouter σ where
  mode := .exchangeTestnet
  exchange := smoke.exchange.toExchangeAdapter
  now := smoke.now

def resolveMarkPrice (symbol : String) (positions : List ExchangePositionSnapshot) : Action σ ℚ :=
  match (findPositionMarkPrice symbol positions).filter (0 < ·) with
  | some markPrice => return markPrice
  | none => remote (.fetchMarkPrice symbol) (smoke.exchange.fetchMarkPrice symbol)

def preflight [DecimalContext] : Action σ SmokePreflight := do
  let _ ← remote (.getSymbolFilters config.symbol) (smoke.exchange.getSymbolFilters config.symbol)
  let account ← remote .fetchAccountSnapshot smoke.exchange.fetchAccountSnapshot
  let positions ← remote (.fetchPositionSnapshots (some config.symbol))
    (smoke.exchange.fetchPositionSnapshots (some config.symbol))
  let markPrice ← smoke.resolveMarkPrice config.symbol positions
  Program.ofExcept (config.validateNonMarketable markPrice)
  return { account, positions, markPrice }

def query (clientOrderId : String) : Action σ (Option ExchangeOrderSnapshot) :=
  remote (.queryOrder config.symbol clientOrderId) (smoke.exchange.queryOrder config.symbol clientOrderId)

def cancel (clientOrderId : String) : Action σ (Option OrderRecord) :=
  remote (.cancelOrder clientOrderId config.symbol) (smoke.exchange.cancelOrder clientOrderId config.symbol)

def assign (change : SmokeLocals → SmokeLocals) : Program (World σ × SmokeLocals) PyError Unit :=
  Program.modify fun state => (state.1, change state.2)

-- The body of the `try`.
def submitAndQuery [DecimalContext] : Program (World σ × SmokeLocals) PyError Unit := do
  let routeResult ← (smoke.router.route config.intent).beside
  match routeResult.accepted, routeResult.order with
  | true, some order => do
    assign fun locals => { locals with submittedOrder := some order }
    let queryBefore ← (smoke.query config order.clientOrderId).beside
    assign fun locals => { locals with queryBefore }
  | _, _ => Program.raise (.testnetSmokeSafetyError (.orderRejected routeResult.reason.value))

-- The body of the `finally`.
def cancelAndQuery : Program (World σ × SmokeLocals) PyError Unit := do
  let state ← Program.get
  match state.2.submittedOrder with
  | none => return ()
  | some order => do
    let _ ← (smoke.cancel config order.clientOrderId).beside
    let queryAfter ← (smoke.query config order.clientOrderId).beside
    assign fun locals => { locals with queryAfter }

def orderLifecycle [DecimalContext] : Action σ SmokeLocals :=
  Program.withLocals {} (Program.ensure (smoke.submitAndQuery config) (smoke.cancelAndQuery config))

def positionReconciler : PositionReconciler σ where
  fetchPositionSnapshots := smoke.exchange.fetchPositionSnapshots

def runReconciliation [DecimalContext] : Action σ (ReconciliationReport × PositionReconciliationReport) := do
  let _ ← smoke.positionStore.refreshLocalPositionsFromExchange smoke.positionReconciler
  let orderReport ← smoke.orderStore.reconcileOpenOrders smoke.exchange.toExchangeAdapter
  let positionReport ← smoke.positionStore.reconcilePositions smoke.positionReconciler
  return (orderReport, positionReport)

-- The end of the run, once the order was submitted, queried, canceled and queried again.
def report [DecimalContext] (ready : SmokePreflight) (submitted : OrderRecord)
    (queryBefore queryAfter : ExchangeOrderSnapshot) : Action σ TestnetReadWriteSmokeResult := do
  let (orderReport, positionReport) ← smoke.runReconciliation
  let world ← Program.get
  return {
    symbol := config.symbol
    clientOrderId := submitted.clientOrderId
    exchangeOrderId := submitted.exchangeOrderId
    submittedStatus := submitted.status
    queriedStatusBeforeCancel := queryBefore.status
    queriedStatusAfterCancel := queryAfter.status
    orderReconciliationConsistent := orderReport.consistent
    positionReconciliationConsistent := positionReport.consistent
    safeModeActive := !world.safeMode.allowsNewEntries
    accountTotalWalletBalance := ready.account.totalWalletBalance
    positionCount := ready.positions.length }

-- `safe_mode = SafeModeController()`: the run has one of its own.
def newSafeMode : Action σ Unit :=
  Program.modify fun world => { world with safeMode := {} }

def runTestnetReadWriteSmokeWithExchange [DecimalContext] (acknowledgeTestnetOrder : Bool) :
    Action σ TestnetReadWriteSmokeResult :=
  if !acknowledgeTestnetOrder then
    Program.raise (.testnetSmokeSafetyError .acknowledgementRequired)
  else do
    let ready ← smoke.preflight config
    newSafeMode
    let locals ← smoke.orderLifecycle config
    match locals.submittedOrder, locals.queryBefore, locals.queryAfter with
    | some submitted, some queryBefore, some queryAfter =>
      smoke.report config ready submitted queryBefore queryAfter
    | _, _, _ => Program.raise (.testnetSmokeSafetyError .lifecycleIncomplete)

end ReadWriteSmoke

-- An exchange that takes an order, leaves it open and cancels it on request. It remembers
-- the status of the order.
def restingSmoke (filters : SymbolFilters) (markPrice : ℚ) : ReadWriteSmoke OrderStatus where
  exchange := {
    getSymbolFilters _ := Program.ret filters
    submitOrder order := fun _ => (.ok order, .submitted)
    cancelOrder _ _ := fun _ => (.ok none, .canceled)
    fetchOpenOrders := Program.ret []
    fetchAccountSnapshot := Program.ret ⟨1000, 0, 1000, 1000⟩
    fetchPositionSnapshots _ := Program.ret []
    fetchMarkPrice _ := Program.ret markPrice
    queryOrder symbol clientOrderId := fun status => (.ok (some { clientOrderId, symbol, status }), status) }
  orderStore := { listOpenOrders := Program.ret [] }
  positionStore := { listPositions _ := Program.ret [], upsertPosition _ := Program.ret () }
  now _ := sampleClock

def smokeFilters : SymbolFilters := ⟨"BTCUSDT", 1 / 10, 1 / 1000, 1⟩

def smokeOrder (side : OrderSide) (limitPrice : ℚ) : TestnetSmokeOrderConfig where
  symbol := "BTCUSDT"
  side := side
  quantity := 1 / 100
  limitPrice := limitPrice

end DualSleeve

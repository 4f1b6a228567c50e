import DualSleeve.Execution.PersistentRouter
import DualSleeve.Execution.SleeveBAllocator

namespace DualSleeve

open Library

structure SleeveBLoopExchange (σ : Type) extends ExchangeAdapter σ where
  fetchAccountSnapshot : Remote σ AccountSnapshotV3
  fetchPositionSnapshots : Option String → Remote σ (List ExchangePositionSnapshot)

structure SleeveBAutoLoopConfig where
  maxNewOrdersPerRun : ℤ := 1
  requireAck : Bool := false
  limitPriceOffsetBps : ℚ := 5
  deriving DecidableEq

structure SleeveBAutoLoopDecision where
  symbol : String
  accepted : Bool
  allocation : SleeveBAllocationDecision
  routeResult : Option RouteResult
  reason : Reason
  deriving DecidableEq

structure SleeveBAutoLoopRunResult where
  decisions : List SleeveBAutoLoopDecision
  submittedOrders : ℤ
  safeModeActive : Bool
  deriving DecidableEq

structure SleeveBAutoTestnetLoop (σ : Type) where
  exchange : SleeveBLoopExchange σ
  allocator : SleeveBExecutionAllocatorConfig := {}
  config : SleeveBAutoLoopConfig := {}
  now : σ → DateTime

variable [DecimalContext]

def entryLimitPrice (candidate : SleeveBSignalCandidate) (offsetBps : ℚ) : ℚ :=
  let offset := rounded (offsetBps / 10000)
  match candidate.side with
  | .long => rounded (candidate.entryPrice * rounded (1 - offset))
  | .short => rounded (candidate.entryPrice * rounded (1 + offset))

def SleeveBAutoLoopConfig.allocationToIntent (config : SleeveBAutoLoopConfig)
    (candidate : SleeveBSignalCandidate) (allocation : SleeveBAllocationDecision) : OrderIntent where
  sleeveId := .b
  symbol := candidate.symbol
  side := if candidate.side = .long then .buy else .sell
  orderType := .limit
  action := .entry
  quantity := allocation.quantity
  price := some (entryLimitPrice candidate config.limitPriceOffsetBps)
  reduceOnly := false
  setupId := some candidate.setupId
  metadata := [
    ("source", .text "sleeve_b_auto_testnet_loop"),
    ("allocator_reason", .text allocation.reason.value),
    ("initial_margin", .decimal allocation.initialMargin),
    ("risk_amount", .decimal allocation.riskAmount),
    ("leverage", .decimal allocation.leverage)]

namespace SleeveBAutoTestnetLoop

variable {σ : Type} (loop : SleeveBAutoTestnetLoop σ)

def router : PersistentOrderRouter σ where
  router := { mode := .exchangeTestnet, exchange := loop.exchange.toExchangeAdapter, now := loop.now }

def skip (candidate : SleeveBSignalCandidate) (reason : Reason) : SleeveBAutoLoopDecision where
  symbol := candidate.symbol
  accepted := false
  allocation := loop.allocator.reject candidate reason
  routeResult := none
  reason := reason

-- The body of the loop over the candidates, after `submitted` orders of the run.
def considerCandidate (account : AccountSnapshotV3) (allPositions : List ExchangePositionSnapshot)
    (submitted : ℤ) (candidate : SleeveBSignalCandidate) : Action σ SleeveBAutoLoopDecision := do
  let world ← Program.get
  if loop.config.maxNewOrdersPerRun ≤ submitted then
    return loop.skip candidate .maxNewOrdersPerRunReached
  else if !world.safeMode.allowsNewEntries then
    return loop.skip candidate .safeModeBlocksNewEntries
  else
    let filters ← remote (.getSymbolFilters candidate.symbol)
      (loop.exchange.getSymbolFilters candidate.symbol)
    let allocation ← Program.ofExcept (loop.allocator.allocate candidate account allPositions filters)
    if !allocation.accepted then
      return ⟨candidate.symbol, false, allocation, none, allocation.reason⟩
    else
      let intent := loop.config.allocationToIntent candidate allocation
      let routeResult ← loop.router.route intent
      return ⟨candidate.symbol, routeResult.accepted, allocation, some routeResult, routeResult.reason⟩

-- The decisions in turn, and the orders submitted at the end. A decision is accepted
-- where its route result is, and there only the counter goes up.
def considerCandidates (account : AccountSnapshotV3) (allPositions : List ExchangePositionSnapshot) :
    ℤ → List SleeveBSignalCandidate → Action σ (List SleeveBAutoLoopDecision × ℤ)
  | submitted, [] => return ([], submitted)
  | submitted, candidate :: candidates => do
    let decision ← loop.considerCandidate account allPositions submitted candidate
    let (decisions, total) ← considerCandidates account allPositions
      (if decision.accepted then submitted + 1 else submitted) candidates
    return (decision :: decisions, total)

def runOnce (candidates : List SleeveBSignalCandidate) : Action σ SleeveBAutoLoopRunResult := do
  let world ← Program.get
  if !loop.config.requireAck then
    return {
      decisions := candidates.map (loop.skip · .ackRequired)
      submittedOrders := 0
      safeModeActive := !world.safeMode.allowsNewEntries }
  else
    let account ← remote .fetchAccountSnapshot loop.exchange.fetchAccountSnapshot
    let allPositions ← remote (.fetchPositionSnapshots none) (loop.exchange.fetchPositionSnapshots none)
    let (decisions, submitted) ← loop.considerCandidates account allPositions 0 candidates
    let world ← Program.get
    return {
      decisions
      submittedOrders := submitted
      safeModeActive := !world.safeMode.allowsNewEntries }

end SleeveBAutoTestnetLoop

end DualSleeve

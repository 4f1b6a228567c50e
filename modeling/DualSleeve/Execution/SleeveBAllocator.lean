import DualSleeve.Exchange.Filters
import DualSleeve.Execution.OrderRouter

namespace DualSleeve

open Library.Grid

structure SleeveBExecutionAllocatorConfig where
  symbols : List String := ["BTCUSDT", "ETHUSDT", "SOLUSDT", "BNBUSDT", "HYPEUSDT"]
  usableBalanceFraction : ℚ := 1 / 2
  maxPortfolioMarginFraction : ℚ := 1 / 2
  maxPerPositionMarginFraction : ℚ := 12 / 100
  maxLeverage : ℚ := 3
  maxConcurrentPositions : ℤ := 3
  minAvailableBalance : ℚ := 500
  defaultRiskFractionPerTrade : ℚ := 1 / 100
  deriving DecidableEq

structure SleeveBSignalCandidate where
  symbol : String
  side : PositionSide
  entryPrice : ℚ
  stopPrice : ℚ
  setupId : String
  deriving DecidableEq

structure SleeveBAllocationDecision where
  accepted : Bool
  symbol : String
  side : PositionSide
  quantity : ℚ
  entryPrice : ℚ
  notional : ℚ
  initialMargin : ℚ
  leverage : ℚ
  riskAmount : ℚ
  reason : Reason
  deriving DecidableEq

section Source

variable [DecimalContext]

def SleeveBSignalCandidate.stopDistance (candidate : SleeveBSignalCandidate) : ℚ :=
  rounded |rounded (candidate.entryPrice - candidate.stopPrice)|

def hasOpenPosition (symbol : String) (positions : List ExchangePositionSnapshot) : Bool :=
  positions.any fun position => position.symbol == symbol && !position.isFlat

-- The notional of a position, from its mark price where the exchange gives none.
def positionNotional (position : ExchangePositionSnapshot) : ℚ :=
  let notional := rounded |position.notional|
  match position.markPrice with
  | some markPrice =>
    if notional ≤ 0 then rounded |rounded (position.positionAmt * markPrice)| else notional
  | none => notional

def sumInitialMargin (positions : List ExchangePositionSnapshot) (leverage : ℚ) : Except PyError ℚ :=
  positions.foldlM (fun total position => do
    let margin ← divide (positionNotional position) leverage
    return rounded (total + rounded margin)) 0

-- `quantize(Decimal("0.01"), rounding=ROUND_DOWN)`
def quantizeUsdt (value : ℚ) : ℚ := truncateTo value (1 / 100)

namespace SleeveBExecutionAllocatorConfig

variable (config : SleeveBExecutionAllocatorConfig)

-- The amounts `allocate` derives from the account.

def usableBalance (account : AccountSnapshotV3) : ℚ :=
  rounded (account.availableBalance * config.usableBalanceFraction)

def portfolioMarginCap (account : AccountSnapshotV3) : ℚ :=
  rounded (config.usableBalance account * config.maxPortfolioMarginFraction)

def perPositionMarginCap (account : AccountSnapshotV3) : ℚ :=
  rounded (config.usableBalance account * config.maxPerPositionMarginFraction)

def riskBudget (account : AccountSnapshotV3) : ℚ :=
  rounded (config.usableBalance account * config.defaultRiskFractionPerTrade)

def reject (candidate : SleeveBSignalCandidate) (reason : Reason) : SleeveBAllocationDecision where
  accepted := false
  symbol := candidate.symbol
  side := candidate.side
  quantity := 0
  entryPrice := candidate.entryPrice
  notional := 0
  initialMargin := 0
  leverage := config.maxLeverage
  riskAmount := 0
  reason := reason

def allocate (candidate : SleeveBSignalCandidate) (account : AccountSnapshotV3)
    (positions : List ExchangePositionSnapshot) (filters : SymbolFilters) :
    Except PyError SleeveBAllocationDecision := do
  let openPositions := positions.filter (!·.isFlat)
  if candidate.symbol ∉ config.symbols then
    return config.reject candidate .symbolNotAllowed
  else if account.availableBalance < config.minAvailableBalance then
    return config.reject candidate .availableBalanceTooLow
  else if candidate.stopDistance ≤ 0 then
    return config.reject candidate .invalidStopDistance
  else if hasOpenPosition candidate.symbol positions then
    return config.reject candidate .symbolAlreadyHasPosition
  else if config.maxConcurrentPositions ≤ openPositions.length then
    return config.reject candidate .maxConcurrentPositionsReached
  else
    let usedMargin ← sumInitialMargin openPositions config.maxLeverage
    let remainingMargin := rounded (config.portfolioMarginCap account - usedMargin)
    if remainingMargin ≤ 0 then
      return config.reject candidate .portfolioMarginCapReached
    else
      let allowedMargin := min (config.perPositionMarginCap account) remainingMargin
      let allowedNotional := rounded (allowedMargin * config.maxLeverage)
      let riskSizedQuantity ← divide (config.riskBudget account) candidate.stopDistance
      let notionalSizedQuantity ← divide allowedNotional candidate.entryPrice
      let rawQuantity := min (rounded riskSizedQuantity) (rounded notionalSizedQuantity)
      let quantity ← floorToStep rawQuantity filters.stepSize
      let entryPrice ← roundPriceToTick candidate.entryPrice filters.tickSize
      let notional := rounded (quantity * entryPrice)
      if quantity ≤ 0 then
        return config.reject candidate .quantityFloorsToZero
      else if notional < filters.minNotional then
        return config.reject candidate .belowMinNotional
      else
        let margin ← divide notional config.maxLeverage
        let initialMargin := quantizeUsdt (rounded margin)
        if allowedMargin < initialMargin then
          return config.reject candidate .marginExceedsAllowedCap
        else
          return {
            accepted := true
            symbol := candidate.symbol
            side := candidate.side
            quantity
            entryPrice
            notional := quantizeUsdt notional
            initialMargin
            leverage := config.maxLeverage
            riskAmount := quantizeUsdt (rounded (quantity * candidate.stopDistance))
            reason := .accepted }

-- The same amounts as functions of the inputs, for a leverage and prices that are
-- not zero.

def usedMargin (positions : List ExchangePositionSnapshot) : ℚ :=
  sumOf ((positions.filter (!·.isFlat)).map fun position =>
    rounded (positionNotional position / config.maxLeverage))

def remainingMargin (account : AccountSnapshotV3) (positions : List ExchangePositionSnapshot) : ℚ :=
  rounded (config.portfolioMarginCap account - config.usedMargin positions)

def allowedMargin (account : AccountSnapshotV3) (positions : List ExchangePositionSnapshot) : ℚ :=
  min (config.perPositionMarginCap account) (config.remainingMargin account positions)

def rawQuantity (candidate : SleeveBSignalCandidate) (account : AccountSnapshotV3)
    (positions : List ExchangePositionSnapshot) : ℚ :=
  min (rounded (config.riskBudget account / candidate.stopDistance))
    (rounded (rounded (config.allowedMargin account positions * config.maxLeverage) / candidate.entryPrice))

def sizedQuantity (candidate : SleeveBSignalCandidate) (account : AccountSnapshotV3)
    (positions : List ExchangePositionSnapshot) (filters : SymbolFilters) : ℚ :=
  floored (config.rawQuantity candidate account positions) filters.stepSize

def sizedNotional (candidate : SleeveBSignalCandidate) (account : AccountSnapshotV3)
    (positions : List ExchangePositionSnapshot) (filters : SymbolFilters) : ℚ :=
  rounded (config.sizedQuantity candidate account positions filters *
    floored candidate.entryPrice filters.tickSize)

-- The margin an allocation takes, before it is rounded to cents.
def sizedMargin (candidate : SleeveBSignalCandidate) (account : AccountSnapshotV3)
    (positions : List ExchangePositionSnapshot) (filters : SymbolFilters) : ℚ :=
  rounded (config.sizedNotional candidate account positions filters / config.maxLeverage)

-- What a candidate must meet to be accepted.
structure Accepts (candidate : SleeveBSignalCandidate) (account : AccountSnapshotV3)
    (positions : List ExchangePositionSnapshot) (filters : SymbolFilters) : Prop where
  symbol : candidate.symbol ∈ config.symbols
  balance : config.minAvailableBalance ≤ account.availableBalance
  stop : 0 < candidate.stopDistance
  noPosition : hasOpenPosition candidate.symbol positions = false
  slot : ((positions.filter (!·.isFlat)).length : ℤ) < config.maxConcurrentPositions
  remaining : 0 < config.remainingMargin account positions
  quantity : 0 < config.sizedQuantity candidate account positions filters
  notional : filters.minNotional ≤ config.sizedNotional candidate account positions filters
  margin : quantizeUsdt (config.sizedMargin candidate account positions filters) ≤
    config.allowedMargin account positions

instance (candidate : SleeveBSignalCandidate) (account : AccountSnapshotV3)
    (positions : List ExchangePositionSnapshot) (filters : SymbolFilters) :
    Decidable (config.Accepts candidate account positions filters) :=
  decidable_of_iff
    (candidate.symbol ∈ config.symbols ∧ config.minAvailableBalance ≤ account.availableBalance ∧
      0 < candidate.stopDistance ∧ hasOpenPosition candidate.symbol positions = false ∧
      ((positions.filter (!·.isFlat)).length : ℤ) < config.maxConcurrentPositions ∧
      0 < config.remainingMargin account positions ∧
      0 < config.sizedQuantity candidate account positions filters ∧
      filters.minNotional ≤ config.sizedNotional candidate account positions filters ∧
      quantizeUsdt (config.sizedMargin candidate account positions filters) ≤
        config.allowedMargin account positions)
    ⟨fun ⟨h1, h2, h3, h4, h5, h6, h7, h8, h9⟩ => ⟨h1, h2, h3, h4, h5, h6, h7, h8, h9⟩,
      fun ⟨h1, h2, h3, h4, h5, h6, h7, h8, h9⟩ => ⟨h1, h2, h3, h4, h5, h6, h7, h8, h9⟩⟩

-- The decision an accepted candidate gets.
def allocation (candidate : SleeveBSignalCandidate) (account : AccountSnapshotV3)
    (positions : List ExchangePositionSnapshot) (filters : SymbolFilters) : SleeveBAllocationDecision where
  accepted := true
  symbol := candidate.symbol
  side := candidate.side
  quantity := config.sizedQuantity candidate account positions filters
  entryPrice := floored candidate.entryPrice filters.tickSize
  notional := quantizeUsdt (config.sizedNotional candidate account positions filters)
  initialMargin := quantizeUsdt (config.sizedMargin candidate account positions filters)
  leverage := config.maxLeverage
  riskAmount := quantizeUsdt
    (rounded (config.sizedQuantity candidate account positions filters * candidate.stopDistance))
  reason := .accepted

end SleeveBExecutionAllocatorConfig

end Source

end DualSleeve

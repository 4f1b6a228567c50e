import Mathlib.Data.Rat.Defs
import Mathlib.Data.Prod.Lex

namespace DualSleeve

-- A `Decimal` is modelled by the exact rational it denotes.

inductive TradingMode where
  | signalOnly
  | paperLocal
  | exchangeTestnet
  deriving DecidableEq

inductive SleeveId where
  | a
  | b
  deriving DecidableEq

def SleeveId.value : SleeveId → String
  | .a => "A"
  | .b => "B"

inductive OrderSide where
  | buy
  | sell
  deriving DecidableEq

def OrderSide.value : OrderSide → String
  | .buy => "BUY"
  | .sell => "SELL"

inductive PositionSide where
  | long
  | short
  deriving DecidableEq

inductive OrderType where
  | market
  | limit
  | stopMarket
  | stopLimit
  deriving DecidableEq

def OrderType.value : OrderType → String
  | .market => "MARKET"
  | .limit => "LIMIT"
  | .stopMarket => "STOP_MARKET"
  | .stopLimit => "STOP_LIMIT"

inductive OrderAction where
  | entry
  | stopLoss
  | takeProfit1
  | takeProfit2
  | takeProfit3
  | timeStop
  | circuitBreak
  deriving DecidableEq

def OrderAction.value : OrderAction → String
  | .entry => "EN"
  | .stopLoss => "SL"
  | .takeProfit1 => "TP1"
  | .takeProfit2 => "TP2"
  | .takeProfit3 => "TP3"
  | .timeStop => "TS"
  | .circuitBreak => "CB"

inductive OrderStatus where
  | created
  | submitted
  | partiallyFilled
  | filled
  | canceled
  | rejected
  | expired
  | unknown
  deriving DecidableEq

def OrderStatus.value : OrderStatus → String
  | .created => "CREATED"
  | .submitted => "SUBMITTED"
  | .partiallyFilled => "PARTIALLY_FILLED"
  | .filled => "FILLED"
  | .canceled => "CANCELED"
  | .rejected => "REJECTED"
  | .expired => "EXPIRED"
  | .unknown => "UNKNOWN"

inductive SafeModeState where
  | normal
  | safeMode
  deriving DecidableEq

structure SymbolFilters where
  symbol : String
  tickSize : ℚ
  stepSize : ℚ
  minNotional : ℚ
  deriving DecidableEq

-- A text of its own, or the text of a Decimal.
inductive FieldValue where
  | text (value : String)
  | decimal (value : ℚ)
  deriving DecidableEq

structure OrderIntent where
  sleeveId : SleeveId
  symbol : String
  side : OrderSide
  orderType : OrderType
  action : OrderAction
  quantity : ℚ
  price : Option ℚ := none
  reduceOnly : Bool := false
  setupId : Option String := none
  metadata : List (String × FieldValue) := []
  deriving DecidableEq

structure OrderRecord where
  clientOrderId : String
  intent : OrderIntent
  status : OrderStatus := .created
  exchangeOrderId : Option String := none
  filledQuantity : ℚ := 0
  averageFillPrice : Option ℚ := none
  deriving DecidableEq

structure ExchangeOrderSnapshot where
  clientOrderId : String
  symbol : String
  status : OrderStatus
  exchangeOrderId : Option String := none
  executedQuantity : ℚ := 0
  averagePrice : Option ℚ := none
  deriving DecidableEq

structure AccountSnapshotV3 where
  totalWalletBalance : ℚ
  totalUnrealizedProfit : ℚ
  totalMarginBalance : ℚ
  availableBalance : ℚ
  deriving DecidableEq

structure ExchangePositionSnapshot where
  symbol : String
  positionSide : String
  positionAmt : ℚ
  entryPrice : Option ℚ := none
  markPrice : Option ℚ := none
  unrealizedProfit : ℚ := 0
  notional : ℚ := 0
  isolatedMargin : ℚ := 0
  updateTimeMs : Option ℤ := none
  deriving DecidableEq

def ExchangePositionSnapshot.isFlat (position : ExchangePositionSnapshot) : Bool :=
  position.positionAmt == 0

-- Keys are compared as Python compares tuples: by symbol, then by side.
abbrev PositionKey := String ×ₗ String

def ExchangePositionSnapshot.key (position : ExchangePositionSnapshot) : PositionKey :=
  toLex (position.symbol, position.positionSide)

-- A UTC time to the second, the precision of `%Y%m%d%H%M%S`.
structure DateTime where
  year : Fin 10000
  month : Fin 13
  day : Fin 32
  hour : Fin 24
  minute : Fin 60
  second : Fin 60
  deriving DecidableEq

-- The time of the samples.
def sampleClock : DateTime := ⟨2026, 1, 1, 0, 0, 0⟩

-- The errors of exchange/filters.py, with what their messages name.
inductive ExchangeFilterError where
  | stepMustBePositive
  | notionalBelowMinNotional (symbol : String) (notional minNotional : ℚ)
  | quantityFloorsToZero (symbol : String)
  deriving DecidableEq

-- The errors of ops/testnet_read_write_smoke.py, with what their messages name.
inductive TestnetSmokeSafetyError where
  | acknowledgementRequired
  | positiveMarkPriceRequired
  | marginOutOfRange
  | buyPriceTooHigh (maxBuyPrice : ℚ)
  | sellPriceTooLow (minSellPrice : ℚ)
  | orderRejected (reason : String)
  | lifecycleIncomplete
  deriving DecidableEq

-- `emptyIterable` is the ValueError of `max` and `min` of nothing.
inductive PyError where
  | exchangeFilterError (error : ExchangeFilterError)
  | liveTradingDisabled (mode : TradingMode)
  | invalidOrderTransition (before after : OrderStatus)
  | divisionByZero
  | invalidOperation
  | binanceApiError (message : String)
  | attributeError (name : String)
  | typeError (message : String)
  | keyError (key : String)
  | valueError (message : String)
  | overflowError (message : String)
  | emptyIterable
  | indexError
  | testnetSmokeSafetyError (error : TestnetSmokeSafetyError)
  | otherError (message : String)
  deriving DecidableEq

def PyError.IsExchangeFilterError : PyError → Prop
  | .exchangeFilterError _ => True
  | _ => False

-- Division of two Decimals; 0 / 0 signals InvalidOperation.
def divide (x y : ℚ) : Except PyError ℚ :=
  if y ≠ 0 then .ok (x / y) else if x = 0 then .error .invalidOperation else .error .divisionByZero

theorem divide_of_ne_zero {y : ℚ} (x : ℚ) (h : y ≠ 0) : divide x y = .ok (x / y) :=
  if_pos h

end DualSleeve

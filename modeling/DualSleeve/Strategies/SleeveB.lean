import DualSleeve.Core.DecimalContext
import DualSleeve.Library.Raise
import DualSleeve.Library.Sequence
import DualSleeve.Library.Ema
import Mathlib.Data.Rat.Defs
import Mathlib.Algebra.Order.Ring.Rat

namespace DualSleeve

open Library

-- `values[index]`
def itemAt {α : Type} (values : List α) (index : ℤ) : Except PyError α :=
  match Sequence.item? values index with
  | some value => .ok value
  | none => .error .indexError

-- `max(values)` and `min(values)`

def maximumOf : List ℚ → Except PyError ℚ
  | [] => .error .emptyIterable
  | first :: rest => .ok (rest.foldl max first)

def minimumOf : List ℚ → Except PyError ℚ
  | [] => .error .emptyIterable
  | first :: rest => .ok (rest.foldl min first)

inductive Regime where
  | insufficientData
  | bull
  | bear
  | chop
  deriving DecidableEq

def Regime.value : Regime → String
  | .insufficientData => "INSUFFICIENT_DATA"
  | .bull => "BULL"
  | .bear => "BEAR"
  | .chop => "CHOP"

-- The answers of the hourly filter: "OK", or why it holds the entry back.
inductive OneHourTiming where
  | ok
  | longBelowEma20
  | longBearishReversal
  | longOverextended
  | shortAboveEma20
  | shortBullishReversal
  | shortOverextended
  deriving DecidableEq

def OneHourTiming.value : OneHourTiming → String
  | .ok => "OK"
  | .longBelowEma20 => "ONE_HOUR_LONG_BELOW_EMA20"
  | .longBearishReversal => "ONE_HOUR_LONG_BEARISH_REVERSAL"
  | .longOverextended => "ONE_HOUR_LONG_OVEREXTENDED"
  | .shortAboveEma20 => "ONE_HOUR_SHORT_ABOVE_EMA20"
  | .shortBullishReversal => "ONE_HOUR_SHORT_BULLISH_REVERSAL"
  | .shortOverextended => "ONE_HOUR_SHORT_OVEREXTENDED"

inductive SleeveBReason where
  | insufficientDailyData
  | insufficient4hData
  | insufficient1hData
  | regimeNoEntry (regime : Regime)
  | breakoutLong
  | breakdownShort
  | noEntry
  | oneHour (timing : OneHourTiming)
  deriving DecidableEq

def SleeveBReason.value : SleeveBReason → String
  | .insufficientDailyData => "INSUFFICIENT_DAILY_DATA"
  | .insufficient4hData => "INSUFFICIENT_4H_DATA"
  | .insufficient1hData => "INSUFFICIENT_1H_DATA"
  | .regimeNoEntry regime => "REGIME_" ++ regime.value ++ "_NO_ENTRY"
  | .breakoutLong => "20D_4H_BREAKOUT_LONG"
  | .breakdownShort => "20D_4H_BREAKDOWN_SHORT"
  | .noEntry => "NO_ENTRY"
  | .oneHour timing => timing.value

structure SleeveBSignal where
  symbol : String
  side : Option PositionSide
  trigger : Option String
  reason : SleeveBReason
  deriving DecidableEq

-- `alpha * value + (Decimal("1") - alpha) * result[-1]`
def emaStep [DecimalContext] (alpha last value : ℚ) : ℚ :=
  rounded (rounded (alpha * value) + rounded (rounded (1 - alpha) * last))

def ema [DecimalContext] (values : List ℚ) (period : ℤ) : Except PyError (List ℚ) :=
  if period ≤ 0 then
    .error (.valueError "period must be positive")
  else
    .ok (Ema.smoothBy (emaStep (rounded (2 / ((period : ℚ) + 1)))) values)

def Regime.ofAverages (last e50 e200 : ℚ) : Regime :=
  if last > e50 ∧ e50 > e200 then
    .bull
  else if last < e50 ∧ e50 < e200 then
    .bear
  else
    .chop

def regimeFromDailyClose [DecimalContext] (closes : List ℚ) : Except PyError Regime :=
  if closes.length < 200 then
    .ok .insufficientData
  else do
    let e50 ← itemAt (← ema closes 50) (-1)
    let e200 ← itemAt (← ema closes 200) (-1)
    let last ← itemAt closes (-1)
    return .ofAverages last e50 e200

def donchianSignal (symbol : String) (regime : Regime) (close4h high4h low4h : List ℚ)
    (lookbackBars : ℤ := 120) : Except PyError SleeveBSignal :=
  if regime ≠ .bull ∧ regime ≠ .bear then
    .ok ⟨symbol, none, none, .regimeNoEntry regime⟩
  else if (close4h.length : ℤ) < lookbackBars + 1 then
    .ok ⟨symbol, none, none, .insufficient4hData⟩
  else if regime = .bull then do
    let last ← itemAt close4h (-1)
    let ceiling ← maximumOf (Sequence.slice high4h (-lookbackBars - 1) (-1))
    if last > ceiling then
      return ⟨symbol, some .long, some "DONCHIAN", .breakoutLong⟩
    else
      return ⟨symbol, none, none, .noEntry⟩
  else do
    let last ← itemAt close4h (-1)
    let floor ← minimumOf (Sequence.slice low4h (-lookbackBars - 1) (-1))
    if last < floor then
      return ⟨symbol, some .short, some "DONCHIAN", .breakdownShort⟩
    else
      return ⟨symbol, none, none, .noEntry⟩

end DualSleeve

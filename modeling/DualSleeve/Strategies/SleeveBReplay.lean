import DualSleeve.Strategies.SleeveB

namespace DualSleeve

open Library

structure OhlcBar where
  timestamp : String
  openPrice : ℚ
  high : ℚ
  low : ℚ
  close : ℚ
  deriving DecidableEq

structure SleeveBReplayConfig where
  unitR : ℚ := 800
  sleeveEquity : ℚ := 80000
  maxLeverage : ℚ := 5
  donchianLookbackBars : ℤ := 120
  atrPeriod : ℤ := 14
  stopAtrMultiple : ℚ := 5 / 2
  tp1R : ℚ := 3 / 2
  tp2R : ℚ := 5 / 2
  tp3R : ℚ := 4
  tp1Fraction : ℚ := 3 / 10
  tp2Fraction : ℚ := 3 / 10
  timeStopBars : ℤ := 12
  deriving DecidableEq

def SleeveBReplayConfig.tp3Fraction [DecimalContext] (cfg : SleeveBReplayConfig) : ℚ :=
  rounded (rounded (1 - cfg.tp1Fraction) - cfg.tp2Fraction)

inductive TakeProfit where
  | tp1
  | tp2
  | tp3
  deriving DecidableEq

inductive ExitReason where
  | stopLoss
  | breakevenStop
  | takeProfit (label : TakeProfit)
  | timeStop
  | endOfData
  deriving DecidableEq

structure SleeveBTrade where
  symbol : String
  side : PositionSide
  entryTime : String
  entryPrice : ℚ
  initialStop : ℚ
  quantity : ℚ
  notional : ℚ
  exitTime : String
  exitPrice : ℚ
  exitReason : ExitReason
  realizedPnl : ℚ
  grossR : ℚ
  barsHeld : ℤ
  tpHits : List TakeProfit
  deriving DecidableEq

structure SleeveBReplaySummary where
  symbol : String
  trades : ℕ
  wins : ℕ
  losses : ℕ
  totalPnl : ℚ
  totalR : ℚ
  maxDrawdown : ℚ
  deriving DecidableEq

structure SleeveBReplayResult where
  symbol : String
  trades : List SleeveBTrade
  summary : SleeveBReplaySummary
  deriving DecidableEq

def dailyClosesUntil (dailyBars : List OhlcBar) (timestamp : String) : List ℚ :=
  (dailyBars.filter fun bar => bar.timestamp ≤ timestamp).map OhlcBar.close

section Ranges

variable [DecimalContext]

def OhlcBar.trueRange (current : OhlcBar) (previousClose : ℚ) : ℚ :=
  max (max (rounded (current.high - current.low)) (rounded |rounded (current.high - previousClose)|))
    (rounded |rounded (current.low - previousClose)|)

def trueRangeAt (bars : List OhlcBar) (index : ℤ) : Except PyError ℚ := do
  let current ← itemAt bars index
  let previous ← itemAt bars (index - 1)
  return current.trueRange previous.close

-- `_atr`, the same text in the replay and in the candidate builder.
def averageTrueRange (bars : List OhlcBar) (period : ℤ) : Except PyError ℚ :=
  if (bars.length : ℤ) < period + 1 then
    .error (.valueError "insufficient bars for ATR")
  else do
    let trueRanges ← (Sequence.integers (bars.length - period) bars.length).mapM (trueRangeAt bars)
    let average ← divide (sumOf trueRanges) period
    return rounded average

def replayAtr (bars : List OhlcBar) (period : ℤ) : Except PyError ℚ :=
  averageTrueRange bars period

end Ranges

def targetHit (side : PositionSide) (bar : OhlcBar) (price : ℚ) : Bool :=
  match side with
  | .long => bar.high ≥ price
  | .short => bar.low ≤ price

def stopHit (side : PositionSide) (bar : OhlcBar) (price : ℚ) : Bool :=
  match side with
  | .long => bar.low ≤ price
  | .short => bar.high ≥ price

def pnl [DecimalContext] (side : PositionSide) (entry exitPrice quantity : ℚ) : ℚ :=
  match side with
  | .long => rounded (rounded (exitPrice - entry) * quantity)
  | .short => rounded (rounded (entry - exitPrice) * quantity)

-- An entry of `tps`: its label, price and fraction.
structure Target where
  label : TakeProfit
  price : ℚ
  fraction : ℚ

-- What a trade is opened with, and what its loop over the bars does not change.
structure TradePlan where
  side : PositionSide
  entry : ℚ
  initialStop : ℚ
  tps : List Target
  quantity : ℚ
  timeStopBars : ℤ

-- The variables of the loop over the bars after the entry.
structure TradeState where
  remainingFraction : ℚ
  realized : ℚ
  stop : ℚ
  tpHits : List TakeProfit
  exitPrice : ℚ
  exitReason : ExitReason
  exitTime : String
  barsHeld : ℤ

def TradeState.reach (state : TradeState) (offset : ℤ) (bar : OhlcBar) : TradeState :=
  { state with barsHeld := offset, exitTime := bar.timestamp }

namespace TradePlan

variable [DecimalContext] (plan : TradePlan)

-- The part of the position that a target still finds open is closed at its price.
def closeTarget (state : TradeState) (tp : Target) : TradeState :=
  { state with
    realized := rounded (state.realized +
      pnl plan.side plan.entry tp.price (rounded (plan.quantity * min tp.fraction state.remainingFraction)))
    remainingFraction := rounded (state.remainingFraction - min tp.fraction state.remainingFraction)
    tpHits := state.tpHits ++ [tp.label]
    stop := if tp.label = .tp1 then plan.entry else state.stop
    exitPrice := tp.price
    exitReason := .takeProfit tp.label }

-- One round of `for label, price, fraction in tps`.
def takeTarget (bar : OhlcBar) (state : TradeState) (tp : Target) : TradeState :=
  if tp.label ∈ state.tpHits then
    state
  else if targetHit plan.side bar tp.price then
    plan.closeTarget state tp
  else
    state

def takeTargets (bar : OhlcBar) (state : TradeState) : TradeState :=
  plan.tps.foldl (plan.takeTarget bar) state

-- The exit at the stop of the state.
def stopOut (state : TradeState) : TradeState :=
  { state with
    realized := rounded (state.realized +
      pnl plan.side plan.entry state.stop (rounded (plan.quantity * state.remainingFraction)))
    exitPrice := state.stop
    exitReason := if state.stop = plan.initialStop then .stopLoss else .breakevenStop
    remainingFraction := 0 }

def timeOut (bar : OhlcBar) (state : TradeState) : TradeState :=
  { state with
    realized := rounded (state.realized +
      pnl plan.side plan.entry bar.close (rounded (plan.quantity * state.remainingFraction)))
    exitPrice := bar.close
    exitReason := .timeStop
    remainingFraction := 0 }

-- The end of a bar, after its targets: `done` is the loop's `break`.
def endBar (offset : ℤ) (bar : OhlcBar) (state : TradeState) : ForInStep TradeState :=
  if state.remainingFraction ≤ 0 then
    .done state
  else if offset ≥ plan.timeStopBars then
    .done (plan.timeOut bar state)
  else
    .yield state

-- One bar of the loop.
def onBar (offset : ℤ) (bar : OhlcBar) (state : TradeState) : ForInStep TradeState :=
  if stopHit plan.side bar state.stop then
    .done (plan.stopOut (state.reach offset bar))
  else
    plan.endBar offset bar (plan.takeTargets bar (state.reach offset bar))

-- `for offset, bar in enumerate(bars, start=offset)`
def tradeLoop (offset : ℤ) (bars : List OhlcBar) (state : TradeState) : TradeState :=
  match bars with
  | [] => state
  | bar :: later =>
    match plan.onBar offset bar state with
    | .done final => final
    | .yield next => tradeLoop (offset + 1) later next

def opening (entryBar : OhlcBar) : TradeState where
  remainingFraction := 1
  realized := 0
  stop := plan.initialStop
  tpHits := []
  exitPrice := plan.entry
  exitReason := .timeStop
  exitTime := entryBar.timestamp
  barsHeld := 0

-- What is left when the bars run out is closed at the last bar.
def closeAtEnd (bars : List OhlcBar) (entryIndex : ℤ) (state : TradeState) :
    Except PyError TradeState :=
  if state.remainingFraction > 0 then do
    let lastBar ← itemAt bars (-1)
    return { state with
      barsHeld := max (bars.length - entryIndex - 1) 0
      exitTime := lastBar.timestamp
      exitPrice := lastBar.close
      exitReason := .endOfData
      realized := rounded (state.realized +
        pnl plan.side plan.entry lastBar.close (rounded (plan.quantity * state.remainingFraction))) }
  else
    return state

end TradePlan

variable [DecimalContext]

-- The price `distance` away from the entry, on the side of the profit.
def profitAt (side : PositionSide) (entry distance : ℚ) : ℚ :=
  match side with
  | .long => rounded (entry + distance)
  | .short => rounded (entry - distance)

def stopAt (side : PositionSide) (entry stopDistance : ℚ) : ℚ :=
  match side with
  | .long => rounded (entry - stopDistance)
  | .short => rounded (entry + stopDistance)

def tradePlan (side : PositionSide) (entry stopDistance quantity : ℚ) (cfg : SleeveBReplayConfig) :
    TradePlan where
  side := side
  entry := entry
  initialStop := stopAt side entry stopDistance
  tps := [
    ⟨.tp1, profitAt side entry (rounded (cfg.tp1R * stopDistance)), cfg.tp1Fraction⟩,
    ⟨.tp2, profitAt side entry (rounded (cfg.tp2R * stopDistance)), cfg.tp2Fraction⟩,
    ⟨.tp3, profitAt side entry (rounded (cfg.tp3R * stopDistance)), cfg.tp3Fraction⟩]
  quantity := quantity
  timeStopBars := cfg.timeStopBars

def simulateTrade (symbol : String) (side : PositionSide) (bars : List OhlcBar) (entryIndex : ℤ)
    (cfg : SleeveBReplayConfig) : Except PyError SleeveBTrade := do
  let entryBar ← itemAt bars entryIndex
  let entry := entryBar.close
  let atrValue ← replayAtr (Sequence.upTo bars (entryIndex + 1)) cfg.atrPeriod
  let stopDistance := rounded (atrValue * cfg.stopAtrMultiple)
  if stopDistance ≤ 0 then
    throw (.valueError "stop distance must be positive")
  let maxNotional := rounded (cfg.sleeveEquity * cfg.maxLeverage)
  let byRisk ← divide cfg.unitR stopDistance
  let byNotional ← divide maxNotional entry
  let quantity := min (rounded byRisk) (rounded byNotional)
  let plan := tradePlan side entry stopDistance quantity cfg
  let looped := plan.tradeLoop 1 (Sequence.onward bars (entryIndex + 1)) (plan.opening entryBar)
  let final ← plan.closeAtEnd bars entryIndex looped
  let grossR ← divide final.realized cfg.unitR
  return {
    symbol := symbol
    side := side
    entryTime := entryBar.timestamp
    entryPrice := entry
    initialStop := plan.initialStop
    quantity := quantity
    notional := rounded (quantity * entry)
    exitTime := final.exitTime
    exitPrice := final.exitPrice
    exitReason := final.exitReason
    realizedPnl := final.realized
    grossR := rounded grossR
    barsHeld := final.barsHeld
    tpHits := final.tpHits }

-- The equity after each trade.
def equityCurve (trades : List SleeveBTrade) : List ℚ :=
  (trades.foldl (fun (curve : List ℚ × ℚ) trade =>
    (curve.1 ++ [rounded (curve.2 + trade.realizedPnl)], rounded (curve.2 + trade.realizedPnl))) ([], 0)).1

-- The largest fall below the peak so far, as a number that is not positive.
def maxDrawdown (curve : List ℚ) : ℚ :=
  (curve.foldl (fun (peakAndDrawdown : ℚ × ℚ) value =>
    let peak := max peakAndDrawdown.1 value
    (peak, min peakAndDrawdown.2 (rounded (value - peak)))) (0, 0)).2

def summarize (symbol : String) (trades : List SleeveBTrade) : SleeveBReplaySummary where
  symbol := symbol
  trades := trades.length
  wins := trades.countP fun trade => trade.realizedPnl > 0
  losses := trades.countP fun trade => trade.realizedPnl ≤ 0
  totalPnl := sumOf (trades.map SleeveBTrade.realizedPnl)
  totalR := sumOf (trades.map SleeveBTrade.grossR)
  maxDrawdown := maxDrawdown (equityCurve trades)

-- The signal `run_sleeve_b_replay` reads at a bar.
def replaySignal (symbol : String) (dailyBars fourHourBars : List OhlcBar) (cfg : SleeveBReplayConfig)
    (index : ℤ) : Except PyError SleeveBSignal := do
  let bar ← itemAt fourHourBars index
  let regime ← regimeFromDailyClose (dailyClosesUntil dailyBars bar.timestamp)
  let upToBar := Sequence.upTo fourHourBars (index + 1)
  donchianSignal symbol regime (upToBar.map OhlcBar.close) (upToBar.map OhlcBar.high)
    (upToBar.map OhlcBar.low) cfg.donchianLookbackBars

def SleeveBReplayConfig.startIndex (cfg : SleeveBReplayConfig) : ℤ :=
  max (cfg.donchianLookbackBars + 1) (cfg.atrPeriod + 1)

-- `while index < len(four_hour_bars)`. Every round raises the index, so a round for each
-- bar from the first index on is fuel enough.
def replayLoop (symbol : String) (dailyBars fourHourBars : List OhlcBar) (cfg : SleeveBReplayConfig) :
    ℕ → ℤ → List SleeveBTrade → Except PyError (List SleeveBTrade)
  | 0, _, trades => .ok trades
  | fuel + 1, index, trades =>
    if index < fourHourBars.length then do
      let signal ← replaySignal symbol dailyBars fourHourBars cfg index
      match signal.side with
      | none => replayLoop symbol dailyBars fourHourBars cfg fuel (index + 1) trades
      | some side => do
        let trade ← simulateTrade symbol side fourHourBars index cfg
        replayLoop symbol dailyBars fourHourBars cfg fuel (index + max trade.barsHeld 1)
          (trades ++ [trade])
    else
      .ok trades

def runSleeveBReplay (symbol : String) (dailyBars fourHourBars : List OhlcBar)
    (cfg : SleeveBReplayConfig := {}) : Except PyError SleeveBReplayResult := do
  let trades ← replayLoop symbol dailyBars fourHourBars cfg
    (fourHourBars.length - cfg.startIndex).toNat cfg.startIndex []
  return ⟨symbol, trades, summarize symbol trades⟩

end DualSleeve

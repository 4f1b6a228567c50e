import DualSleeve.Strategies.SleeveBReplay.Theorems

namespace DualSleeve

open Library
open scoped ExactDecimals

-- What closed a part of a position.
inductive ClosedBy where
  | target (label : TakeProfit)
  | stop
  | barClose
  deriving DecidableEq

-- A part of a position that was closed, with the targets hit before it.
structure ClosedPart where
  closedBy : ClosedBy
  price : ℚ
  fraction : ℚ
  tpHits : List TakeProfit
  deriving DecidableEq

-- How far a price is on the side of the profit.
def gain (side : PositionSide) (entry price : ℚ) : ℚ :=
  match side with
  | .long => price - entry
  | .short => entry - price

-- The prices of a bar a position would like best and least.

def OhlcBar.best (bar : OhlcBar) : PositionSide → ℚ
  | .long => bar.high
  | .short => bar.low

def OhlcBar.worst (bar : OhlcBar) : PositionSide → ℚ
  | .long => bar.low
  | .short => bar.high

namespace TradePlan

variable (plan : TradePlan)

-- The parts each step of the loop closes: one for every `realized += _pnl(...)`.

def targetPart (bar : OhlcBar) (state : TradeState) (tp : Target) : List ClosedPart :=
  if tp.label ∈ state.tpHits then
    []
  else if targetHit plan.side bar tp.price then
    [⟨.target tp.label, tp.price, min tp.fraction state.remainingFraction, state.tpHits⟩]
  else
    []

def targetParts (bar : OhlcBar) : TradeState → List Target → List ClosedPart
  | _, [] => []
  | state, tp :: tps =>
    plan.targetPart bar state tp ++ targetParts bar (plan.takeTarget bar state tp) tps

def endParts (offset : ℤ) (bar : OhlcBar) (state : TradeState) : List ClosedPart :=
  if state.remainingFraction ≤ 0 then
    []
  else if offset ≥ plan.timeStopBars then
    [⟨.barClose, bar.close, state.remainingFraction, state.tpHits⟩]
  else
    []

def barParts (offset : ℤ) (bar : OhlcBar) (state : TradeState) : List ClosedPart :=
  if stopHit plan.side bar state.stop then
    [⟨.stop, state.stop, state.remainingFraction, state.tpHits⟩]
  else
    plan.targetParts bar (state.reach offset bar) plan.tps ++
      plan.endParts offset bar (plan.takeTargets bar (state.reach offset bar))

def loopParts (offset : ℤ) (bars : List OhlcBar) (state : TradeState) : List ClosedPart :=
  match bars with
  | [] => []
  | bar :: later =>
    plan.barParts offset bar state ++
      match plan.onBar offset bar state with
      | .done _ => []
      | .yield next => loopParts (offset + 1) later next

-- The signed price moves of the parts, weighted by what was closed.
def weightedGain (parts : List ClosedPart) : ℚ :=
  (parts.map fun part => part.fraction * gain plan.side plan.entry part.price).sum

-- Of these targets, the ones that a bar reaches after the ones already taken.
def reachedOf (bar : OhlcBar) (taken tps : List Target) : List Target :=
  tps.filter fun tp => tp.label ∉ taken.map Target.label ∧ targetHit plan.side bar tp.price

def reached (bar : OhlcBar) (taken : List Target) : List Target :=
  plan.reachedOf bar taken plan.tps

def stopInForce (taken : List Target) : ℚ :=
  if .tp1 ∈ taken.map Target.label then plan.entry else plan.initialStop

end TradePlan

-- The part that `closeAtEnd` closes.
def partsAtEnd (bars : List OhlcBar) (state : TradeState) : Except PyError (List ClosedPart) :=
  if state.remainingFraction > 0 then do
    let lastBar ← itemAt bars (-1)
    return [⟨.barClose, lastBar.close, state.remainingFraction, state.tpHits⟩]
  else
    return []

-- What taking these targets in turn leaves of a position.
def openPart (taken : List Target) : ℚ :=
  taken.foldl (fun left tp => left - min tp.fraction left) 1

-- The bars did not end the trade, and reached these targets: none of them hit the stop in
-- force, and at the end of each a part was open and the time not up.
inductive Held (plan : TradePlan) : List OhlcBar → List Target → Prop where
  | opened : Held plan [] []
  | held {bars : List OhlcBar} {taken : List Target} (bar : OhlcBar) (hheld : Held plan bars taken)
    (hstop : stopHit plan.side bar (plan.stopInForce taken) = false)
    (hopen : 0 < openPart (taken ++ plan.reached bar taken))
    (htime : (bars.length : ℤ) + 1 < plan.timeStopBars) :
    Held plan (bars ++ [bar]) (taken ++ plan.reached bar taken)

-- The parts closed at these targets, after the ones in `done`.
def partsFrom (done : List Target) : List Target → List ClosedPart
  | [] => []
  | tp :: tps =>
    ⟨.target tp.label, tp.price, min tp.fraction (openPart done), done.map Target.label⟩ ::
      partsFrom (done ++ [tp]) tps

-- A state of the loop in which these targets were taken and no stop was hit.
structure Standing (plan : TradePlan) (taken : List Target) (state : TradeState) : Prop where
  hits : state.tpHits = taken.map Target.label
  remaining : state.remainingFraction = openPart taken
  stop : state.stop = plan.stopInForce taken
  realized : state.realized = plan.quantity * plan.weightedGain (partsFrom [] taken)
  notStopped : state.exitReason ≠ .stopLoss ∧ state.exitReason ≠ .breakevenStop

-- The trade left the market at this bar, with these targets taken.
structure TradeState.ExitsAt (final : TradeState) (barsHeld : ℤ) (bar : OhlcBar) (taken : List Target) :
    Prop where
  barsHeld : final.barsHeld = barsHeld
  exitTime : final.exitTime = bar.timestamp
  hits : final.tpHits = taken.map Target.label

-- Everything a trade can come to over the bars after its entry, with the parts it closes.
inductive Outcome (plan : TradePlan) (bars : List OhlcBar) (entryIndex : ℤ) (onward : List OhlcBar)
    (final : TradeState) : List ClosedPart → Prop where
  | stopped {before after : List OhlcBar} {bar : OhlcBar} {taken : List Target}
    (honward : onward = before ++ bar :: after) (hheld : Held plan before taken)
    (hstop : stopHit plan.side bar (plan.stopInForce taken) = true)
    (hexit : final.ExitsAt (before.length + 1) bar taken)
    (hprice : final.exitPrice = plan.stopInForce taken)
    (hreason : final.exitReason =
      if plan.stopInForce taken = plan.initialStop then .stopLoss else .breakevenStop) :
    Outcome plan bars entryIndex onward final (partsFrom [] taken ++
      [⟨.stop, plan.stopInForce taken, openPart taken, taken.map Target.label⟩])
  | filled {before after : List OhlcBar} {bar : OhlcBar} {taken : List Target}
    (honward : onward = before ++ bar :: after) (hheld : Held plan before taken)
    (hstop : stopHit plan.side bar (plan.stopInForce taken) = false)
    (hclosed : openPart (taken ++ plan.reached bar taken) ≤ 0)
    (hexit : final.ExitsAt (before.length + 1) bar (taken ++ plan.reached bar taken))
    (hreason : final.exitReason ≠ .stopLoss ∧ final.exitReason ≠ .breakevenStop) :
    Outcome plan bars entryIndex onward final (partsFrom [] (taken ++ plan.reached bar taken))
  | timedOut {before after : List OhlcBar} {bar : OhlcBar} {taken : List Target}
    (honward : onward = before ++ bar :: after) (hheld : Held plan before taken)
    (hstop : stopHit plan.side bar (plan.stopInForce taken) = false)
    (hopen : 0 < openPart (taken ++ plan.reached bar taken))
    (htime : plan.timeStopBars ≤ before.length + 1)
    (hexit : final.ExitsAt (before.length + 1) bar (taken ++ plan.reached bar taken))
    (hreason : final.exitReason = .timeStop) :
    Outcome plan bars entryIndex onward final (partsFrom [] (taken ++ plan.reached bar taken) ++
      [⟨.barClose, bar.close, openPart (taken ++ plan.reached bar taken),
        (taken ++ plan.reached bar taken).map Target.label⟩])
  | ranOut {taken : List Target} {lastBar : OhlcBar} (hheld : Held plan onward taken)
    (hlast : itemAt bars (-1) = .ok lastBar)
    (hexit : final.ExitsAt (max (bars.length - entryIndex - 1) 0) lastBar taken)
    (hreason : final.exitReason = .endOfData) :
    Outcome plan bars entryIndex onward final (partsFrom [] taken ++
      [⟨.barClose, lastBar.close, openPart taken, taken.map Target.label⟩])

-- The parts of an outcome by what ended them: the stop, the last target, the close of a bar
-- that is the last or ends the time, or the close of the entry when no bar follows it.
inductive Exit (plan : TradePlan) (entryBar : OhlcBar) (onward : List OhlcBar) : List ClosedPart → Prop where
  | stopped {before : List OhlcBar} {taken : List Target} (hheld : Held plan before taken) :
    Exit plan entryBar onward (partsFrom [] taken ++
      [⟨.stop, plan.stopInForce taken, openPart taken, taken.map Target.label⟩])
  | filled {before : List OhlcBar} {bar : OhlcBar} {taken : List Target} (hheld : Held plan before taken) :
    Exit plan entryBar onward (partsFrom [] (taken ++ plan.reached bar taken))
  | closed {before after : List OhlcBar} {bar : OhlcBar} {taken : List Target}
    (honward : onward = before ++ bar :: after) (hheld : Held plan before taken)
    (hstop : stopHit plan.side bar (plan.stopInForce taken) = false)
    (hopen : 0 < openPart (taken ++ plan.reached bar taken))
    (hend : after = [] ∨ plan.timeStopBars ≤ before.length + 1) :
    Exit plan entryBar onward (partsFrom [] (taken ++ plan.reached bar taken) ++
      [⟨.barClose, bar.close, openPart (taken ++ plan.reached bar taken),
        (taken ++ plan.reached bar taken).map Target.label⟩])
  | atEntry : Exit plan entryBar onward [⟨.barClose, entryBar.close, 1, []⟩]

abbrev SleeveBReplayConfig.plan (cfg : SleeveBReplayConfig) (side : PositionSide)
    (entry stopDistance : ℚ) : TradePlan :=
  tradePlan side entry stopDistance (cfg.quantity entry stopDistance) cfg

-- The parts that `simulateTrade` closes, in turn.
def closedParts (side : PositionSide) (bars : List OhlcBar) (entryIndex : ℤ) (cfg : SleeveBReplayConfig) :
    Except PyError (List ClosedPart) := do
  let entryBar ← itemAt bars entryIndex
  let atrValue ← replayAtr (Sequence.upTo bars (entryIndex + 1)) cfg.atrPeriod
  let stopDistance := rounded (atrValue * cfg.stopAtrMultiple)
  let plan := cfg.plan side entryBar.close stopDistance
  let later := Sequence.onward bars (entryIndex + 1)
  let atEnd ← partsAtEnd bars (plan.tradeLoop 1 later (plan.opening entryBar))
  return plan.loopParts 1 later (plan.opening entryBar) ++ atEnd

end DualSleeve

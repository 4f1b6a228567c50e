import DualSleeve.Execution.SleeveBAllocator
import DualSleeve.Strategies.SleeveBReplay

namespace DualSleeve

open Library

structure SleeveBCandidateBuilderConfig where
  donchianLookbackBars : ℤ := 120
  atrPeriod : ℤ := 14
  stopAtrMultiple : ℚ := 5 / 2
  require1hTiming : Bool := true
  oneHourEmaPeriod : ℤ := 20
  max1hExtensionAtr : ℚ := 3 / 2
  entryOffsetBps : ℚ := 5
  deriving DecidableEq

structure SleeveBMarketData where
  symbol : String
  dailyBars : List OhlcBar
  fourHourBars : List OhlcBar
  oneHourBars : List OhlcBar := []
  deriving DecidableEq

structure SleeveBCandidateBuildResult where
  symbol : String
  candidate : Option SleeveBSignalCandidate
  reason : SleeveBReason
  deriving DecidableEq

-- The symbols of the exchange are ASCII, where `toLower` is Python's `lower`.
def autoSetupId (symbol : String) (reason : SleeveBReason) : String :=
  "auto-" ++ symbol.toLower ++ "-" ++ String.ofList (reason.value.toLower.toList.take 16)

section Source

variable [DecimalContext]

def builderAtr (bars : List OhlcBar) (period : ℤ) : Except PyError ℚ :=
  averageTrueRange bars period

def OhlcBar.body (bar : OhlcBar) : ℚ := rounded |rounded (bar.close - bar.openPrice)|

def OhlcBar.rangeSize (bar : OhlcBar) : ℚ := rounded (bar.high - bar.low)

def bearishReversal (bar : OhlcBar) : Bool :=
  bar.close < bar.openPrice && bar.rangeSize > 0 && rounded (bar.body / bar.rangeSize) ≥ 7 / 10

def bullishReversal (bar : OhlcBar) : Bool :=
  bar.close > bar.openPrice && bar.rangeSize > 0 && rounded (bar.body / bar.rangeSize) ≥ 7 / 10

-- The branches of `_one_hour_timing`.
def oneHourVerdict (side : PositionSide) (last : OhlcBar) (emaValue atrValue : ℚ)
    (cfg : SleeveBCandidateBuilderConfig) : OneHourTiming :=
  match side with
  | .long =>
    if last.close < emaValue then
      .longBelowEma20
    else if bearishReversal last then
      .longBearishReversal
    else if rounded (last.close - emaValue) > rounded (atrValue * cfg.max1hExtensionAtr) then
      .longOverextended
    else
      .ok
  | .short =>
    if last.close > emaValue then
      .shortAboveEma20
    else if bullishReversal last then
      .shortBullishReversal
    else if rounded (emaValue - last.close) > rounded (atrValue * cfg.max1hExtensionAtr) then
      .shortOverextended
    else
      .ok

def oneHourTiming (side : PositionSide) (oneHourBars : List OhlcBar)
    (cfg : SleeveBCandidateBuilderConfig) : Except PyError OneHourTiming := do
  let closes := oneHourBars.map OhlcBar.close
  let emaValue ← itemAt (← ema closes cfg.oneHourEmaPeriod) (-1)
  let last ← itemAt oneHourBars (-1)
  let atrValue ← builderAtr oneHourBars cfg.atrPeriod
  return oneHourVerdict side last emaValue atrValue cfg

def refinedEntryPrice (side : PositionSide) (fourHourEntryPrice : ℚ) (oneHourBars : List OhlcBar)
    (cfg : SleeveBCandidateBuilderConfig) : ℚ :=
  match oneHourBars.getLast? with
  | none => fourHourEntryPrice
  | some last =>
    let offset := rounded (cfg.entryOffsetBps / 10000)
    match side with
    | .long => min fourHourEntryPrice (rounded (last.close * rounded (1 - offset)))
    | .short => max fourHourEntryPrice (rounded (last.close * rounded (1 + offset)))

-- `timing` of `build_sleeve_b_candidate`
def entryTiming (side : PositionSide) (oneHourBars : List OhlcBar)
    (cfg : SleeveBCandidateBuilderConfig) : Except PyError OneHourTiming :=
  if cfg.require1hTiming then oneHourTiming side oneHourBars cfg else .ok .ok

-- `build_sleeve_b_candidate` from its signal on.
def buildFromSignal (marketData : SleeveBMarketData) (cfg : SleeveBCandidateBuilderConfig)
    (signal : SleeveBSignal) : Except PyError SleeveBCandidateBuildResult :=
  match signal.side with
  | none => .ok ⟨marketData.symbol, none, signal.reason⟩
  | some side => do
    let timing ← entryTiming side marketData.oneHourBars cfg
    if timing ≠ .ok then
      return ⟨marketData.symbol, none, .oneHour timing⟩
    else
      let lastBar ← itemAt marketData.fourHourBars (-1)
      let entryPrice := refinedEntryPrice side lastBar.close marketData.oneHourBars cfg
      let atrValue ← builderAtr marketData.fourHourBars cfg.atrPeriod
      let stopDistance := rounded (atrValue * cfg.stopAtrMultiple)
      return {
        symbol := marketData.symbol
        candidate := some {
          symbol := marketData.symbol
          side := side
          entryPrice := entryPrice
          stopPrice := stopAt side entryPrice stopDistance
          setupId := autoSetupId marketData.symbol signal.reason }
        reason := signal.reason }

def buildSleeveBCandidate (marketData : SleeveBMarketData)
    (cfg : SleeveBCandidateBuilderConfig := {}) : Except PyError SleeveBCandidateBuildResult :=
  if marketData.dailyBars.length < 200 then
    .ok ⟨marketData.symbol, none, .insufficientDailyData⟩
  else if (marketData.fourHourBars.length : ℤ) < max (cfg.donchianLookbackBars + 1) (cfg.atrPeriod + 1) then
    .ok ⟨marketData.symbol, none, .insufficient4hData⟩
  else if cfg.require1hTiming ∧
      (marketData.oneHourBars.length : ℤ) < max cfg.oneHourEmaPeriod (cfg.atrPeriod + 1) then
    .ok ⟨marketData.symbol, none, .insufficient1hData⟩
  else do
    let regime ← regimeFromDailyClose (marketData.dailyBars.map OhlcBar.close)
    let signal ← donchianSignal marketData.symbol regime (marketData.fourHourBars.map OhlcBar.close)
      (marketData.fourHourBars.map OhlcBar.high) (marketData.fourHourBars.map OhlcBar.low)
      cfg.donchianLookbackBars
    buildFromSignal marketData cfg signal

def buildSleeveBCandidates (marketData : List SleeveBMarketData)
    (cfg : SleeveBCandidateBuilderConfig := {}) : Except PyError (List SleeveBCandidateBuildResult) :=
  marketData.mapM fun item => buildSleeveBCandidate item cfg

end Source

end DualSleeve

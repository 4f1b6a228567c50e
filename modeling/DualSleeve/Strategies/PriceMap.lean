import DualSleeve.Strategies.SleeveBCandidateBuilder
import DualSleeve.Strategies.SleeveBReplay.Theorems

namespace DualSleeve

def PositionSide.opposite : PositionSide → PositionSide
  | .long => .short
  | .short => .long

def Regime.mirror : Regime → Regime
  | .insufficientData => .insufficientData
  | .bull => .bear
  | .bear => .bull
  | .chop => .chop

def OneHourTiming.mirror : OneHourTiming → OneHourTiming
  | .ok => .ok
  | .longBelowEma20 => .shortAboveEma20
  | .longBearishReversal => .shortBullishReversal
  | .longOverextended => .shortOverextended
  | .shortAboveEma20 => .longBelowEma20
  | .shortBullishReversal => .longBearishReversal
  | .shortOverextended => .longOverextended

def SleeveBReason.mirror : SleeveBReason → SleeveBReason
  | .insufficientDailyData => .insufficientDailyData
  | .insufficient4hData => .insufficient4hData
  | .insufficient1hData => .insufficient1hData
  | .regimeNoEntry regime => .regimeNoEntry regime.mirror
  | .breakoutLong => .breakdownShort
  | .breakdownShort => .breakoutLong
  | .noEntry => .noEntry
  | .oneHour timing => .oneHour timing.mirror

def SleeveBSignal.mirror (signal : SleeveBSignal) : SleeveBSignal :=
  { signal with side := signal.side.map PositionSide.opposite, reason := signal.reason.mirror }

-- The signal that the replay and the builder read from the bars themselves.
def barSignal (symbol : String) (regime : Regime) (bars : List OhlcBar) (lookbackBars : ℤ) :
    Except PyError SleeveBSignal :=
  donchianSignal symbol regime (bars.map OhlcBar.close) (bars.map OhlcBar.high) (bars.map OhlcBar.low)
    lookbackBars

-- An affine change of all prices: a change of unit, or a reflection. A map that falls
-- exchanges highs with lows and the two sides of the market.
structure PriceMap where
  slope : ℚ
  intercept : ℚ
  slope_ne_zero : slope ≠ 0

namespace PriceMap

variable (change : PriceMap)

def price (p : ℚ) : ℚ := change.slope * p + change.intercept

-- How much a difference of prices grows.
def stretch : ℚ := |change.slope|

def falls : Prop := change.slope < 0

instance : Decidable change.falls := inferInstanceAs (Decidable (_ < _))

def bar (b : OhlcBar) : OhlcBar where
  timestamp := b.timestamp
  openPrice := change.price b.openPrice
  high := change.price (if change.falls then b.low else b.high)
  low := change.price (if change.falls then b.high else b.low)
  close := change.price b.close

def side (s : PositionSide) : PositionSide := if change.falls then s.opposite else s

def regime (r : Regime) : Regime := if change.falls then r.mirror else r

def timing (t : OneHourTiming) : OneHourTiming := if change.falls then t.mirror else t

def signal (s : SleeveBSignal) : SleeveBSignal := if change.falls then s.mirror else s

def target (tp : Target) : Target where
  label := tp.label
  price := change.price tp.price
  fraction := tp.fraction

-- A plan for one unit, carried over to `quantity` units at the changed prices.
def plan (quantity : ℚ) (p : TradePlan) : TradePlan where
  side := change.side p.side
  entry := change.price p.entry
  initialStop := change.price p.initialStop
  tps := p.tps.map change.target
  quantity := quantity
  timeStopBars := p.timeStopBars

-- The state of a loop for one unit, carried over in the same way.
def state (quantity : ℚ) (s : TradeState) : TradeState where
  remainingFraction := s.remainingFraction
  realized := change.stretch * quantity * s.realized
  stop := change.price s.stop
  tpHits := s.tpHits
  exitPrice := change.price s.exitPrice
  exitReason := s.exitReason
  exitTime := s.exitTime
  barsHeld := s.barsHeld

end PriceMap

end DualSleeve

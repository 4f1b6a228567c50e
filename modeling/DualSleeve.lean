import DualSleeve.Library.Csv
import DualSleeve.Library.DecimalText
import DualSleeve.Library.DecimalNumeral
import DualSleeve.Library.Drawdown
import DualSleeve.Library.Program
import DualSleeve.Library.Run
import DualSleeve.Library.Effect
import DualSleeve.Library.Ema
import DualSleeve.Library.Grid
import DualSleeve.Library.SortedSet
import DualSleeve.Library.KeyedDiff
import DualSleeve.Library.PercentEncoding
import DualSleeve.Library.Polling
import DualSleeve.Library.Raise
import DualSleeve.Library.Sequence
import DualSleeve.Library.Significant
import DualSleeve.Library.Table
import DualSleeve.Library.Text
import DualSleeve.Core.Models
import DualSleeve.Core.DecimalContext
import DualSleeve.Exchange.Http
import DualSleeve.Exchange.Interfaces
import DualSleeve.Exchange.BinanceRest
import DualSleeve.Execution.OrderStateMachine
import DualSleeve.Exchange.BinanceRest.Theorems
import DualSleeve.Exchange.BinanceRest.FiltersCache
import DualSleeve.Exchange.BinanceRest.Account
import DualSleeve.Exchange.Filters
import DualSleeve.Exchange.BinanceRest.Decimals
import DualSleeve.Exchange.BinanceRest.Signing
import DualSleeve.Storage.OrderStore
import DualSleeve.Storage.OrderStore.Columns
import DualSleeve.Storage.OrderStore.Refinement
import DualSleeve.Exchange.BinanceRest.OrderQuery
import DualSleeve.Exchange.BinanceRest.Spelling
import DualSleeve.Exchange.BinanceTestnet
import DualSleeve.Exchange.Filters.Context
import DualSleeve.Exchange.Filters.Fixpoint
import DualSleeve.Storage.PositionStore
import DualSleeve.Storage.PositionStore.Columns
import DualSleeve.Storage.PositionStore.Refinement
import DualSleeve.Execution.SafeMode
import DualSleeve.Execution.World
import DualSleeve.Execution.PositionReconciliation
import DualSleeve.Execution.Reconciliation
import DualSleeve.Execution.LocalStores
import DualSleeve.Execution.PositionReconciliation.Refresh
import DualSleeve.Execution.LocalStores.Theorems
import DualSleeve.Execution.OrderIds
import DualSleeve.Execution.OrderIds.Theorems
import DualSleeve.Execution.OrderRouter
import DualSleeve.Execution.OrderRouter.Theorems
import DualSleeve.Execution.PersistentRouter
import DualSleeve.Execution.RouteTrace
import DualSleeve.Execution.OrderIds.Recovery
import DualSleeve.Execution.OrderStateMachine.Calls
import DualSleeve.Execution.OrderStateMachine.Atomicity
import DualSleeve.Execution.OrderStateMachine.Coherence
import DualSleeve.Execution.OrderStateMachine.Remainder
import DualSleeve.Ops.Daemon
import DualSleeve.Ops.Daemon.Theorems
import DualSleeve.Execution.PeriodicReconciliation
import DualSleeve.Execution.PositionReconciliation.Exact
import DualSleeve.Execution.Reconciliation.RestOpenOrders
import DualSleeve.Execution.Repair
import DualSleeve.Execution.Repair.Engine
import DualSleeve.Execution.Repair.Convergence
import DualSleeve.Execution.Repair.Decoders
import DualSleeve.Execution.Repair.Framed
import DualSleeve.Execution.Repair.Identity
import DualSleeve.Execution.Repair.StatusWriters
import DualSleeve.Execution.RouteTrace.Theorems
import DualSleeve.Execution.RouteTrace.Collision
import DualSleeve.Execution.RouteTrace.Orphans
import DualSleeve.Execution.RouteTrace.Safety
import DualSleeve.Execution.SleeveBAllocator
import DualSleeve.Execution.SleeveBAllocator.Theorems
import DualSleeve.Execution.SleeveBAllocator.Maximality
import DualSleeve.Execution.SleeveBAllocator.Monotone
import DualSleeve.Execution.SleeveBTestnetLoop
import DualSleeve.Execution.SleeveBTestnetLoop.Theorems
import DualSleeve.Execution.SleeveBTestnetLoop.Market
import DualSleeve.Execution.SleeveBTestnetLoop.Accounting
import DualSleeve.Execution.SleeveBTestnetLoop.Taken
import DualSleeve.Execution.SleeveBTestnetLoop.LimitOrder
import DualSleeve.Execution.SleeveBTestnetLoop.SentCaps
import DualSleeve.Execution.SleeveBTestnetLoop.Bracket
import DualSleeve.Execution.SleeveBTestnetLoop.Gates
import DualSleeve.Execution.SleeveBTestnetLoop.Pyramiding
import DualSleeve.Execution.SleeveBTestnetLoop.Routable
import DualSleeve.Execution.TradingSystem
import DualSleeve.Execution.TradingSystem.Theorems
import DualSleeve.Execution.TestnetSession
import DualSleeve.Execution.TradingSystem.Runs
import DualSleeve.Execution.TradingSystem.RestOrders
import DualSleeve.Strategies.SleeveB
import DualSleeve.Strategies.SleeveBReplay
import DualSleeve.Strategies.SleeveBCandidateBuilder
import DualSleeve.Strategies.SleeveB.Theorems
import DualSleeve.Strategies.SleeveBReplay.Theorems
import DualSleeve.Strategies.PriceMap
import DualSleeve.Strategies.PriceMap.Theorems
import DualSleeve.Strategies.PriceMap.TradeLoop
import DualSleeve.Strategies.PriceMap.Timing
import DualSleeve.Strategies.PriceMap.Mirror
import DualSleeve.Strategies.PriceMap.PriceUnit
import DualSleeve.Strategies.SleeveB.Average
import DualSleeve.Strategies.SleeveAScanner
import DualSleeve.Strategies.SleeveB.Trend
import DualSleeve.Strategies.SleeveBCandidateBuilder.RecentBars
import DualSleeve.Strategies.SleeveBReplay.Parts
import DualSleeve.Strategies.SleeveBReplay.PrefixStability
import DualSleeve.Strategies.SleeveBReplay.Parts.Theorems
import DualSleeve.Strategies.SleeveBReplay.Ladder
import DualSleeve.Strategies.SleeveBReplay.Bounded
import DualSleeve.Strategies.SleeveBReplay.Breakeven
import DualSleeve.Strategies.SleeveBReplay.Bookkeeping
import DualSleeve.Strategies.SleeveBReplay.BuilderAgreement
import DualSleeve.Strategies.SleeveBReplay.Completeness
import DualSleeve.Strategies.SleeveBReplay.Totality
import DualSleeve.Strategies.SleeveBReplay.FinalBar
import DualSleeve.Strategies.SleeveBReplay.LookAhead
import DualSleeve.Strategies.SleeveBReplay.OhlcCsv
import DualSleeve.Strategies.SleeveBReplay.Summary
import DualSleeve.Strategies.SleeveBReplay.Sizing
import DualSleeve.Strategies.SleeveBReplay.StopFills
import DualSleeve.Strategies.SleeveBReplay.Timestamps
import DualSleeve.Risk.BorrowStress
import DualSleeve.Risk.BorrowStress.Monotone
import DualSleeve.Risk.CircuitBreakers
import DualSleeve.Portfolio.Ledger
import DualSleeve.Ops.Daemon.Latch
import DualSleeve.Ops.Daemon.FailSafe
import DualSleeve.Ops.TestnetReadWriteSmoke
import DualSleeve.Ops.TestnetReadWriteSmoke.Recorded
import DualSleeve.Ops.TestnetReadWriteSmoke.Lifecycle
import DualSleeve.Ops.TestnetReadWriteSmoke.Cleanup
import DualSleeve.Ops.TestnetReadWriteSmoke.NonMarketable

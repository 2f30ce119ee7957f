import AegisQuant.Risk.FurtherLosses
import AegisQuant.Pipeline.PositionLimit
import AegisQuant.Testnet.KillSwitch
import AegisQuant.Testnet.OnePromotion
import AegisQuant.Paper.MarkToMarket
import AegisQuant.Paper.ConcurrentBooks
import AegisQuant.Pipeline.InterruptedOrders
import AegisQuant.Strategy.DiagnosticsAgree
import AegisQuant.Scheduler.Locking
import AegisQuant.Research.RepeatedLooks
import AegisQuant.Research.LifecycleChain
import AegisQuant.Research.WindowOrder
import AegisQuant.Testnet.OpenOrders
import AegisQuant.Testnet.ShadowIsolation
import AegisQuant.Testnet.RunnerCalls
import AegisQuant.Auth.SessionSafety
import AegisQuant.Store.ConfigHistory
import AegisQuant.Market.IncrementalAggregation
import AegisQuant.Testnet.ShadowReferences
import AegisQuant.Migrations.LedgerTruth
import AegisQuant.Replay.Drawdown
import AegisQuant.Replay.EquityLookAhead
import AegisQuant.Replay.FeatureCounts
import AegisQuant.Replay.WindowDrawdown
import AegisQuant.Experiment.History
import AegisQuant.Experiment.Ranking
import AegisQuant.Exchange.BinanceResponses
import AegisQuant.Exchange.ReconciliationRuns
import AegisQuant.Paper.Composition
import AegisQuant.Market.ProviderFallback
import AegisQuant.Strategy.Revalidation
import AegisQuant.Research.QualificationScore
import AegisQuant.Scheduler.FailureAccounting
import AegisQuant.Research.ExpectedCounts
import AegisQuant.Readiness.RejectionRate
import AegisQuant.Research.RobustnessGrid
import AegisQuant.Research.ShadowPnlAttribution
import AegisQuant.Research.LosingTrades
import AegisQuant.Research.EntryAtZero
import AegisQuant.Research.SymbolOrder
import AegisQuant.Replay.FunnelChain
import AegisQuant.Testnet.CandleGate
import AegisQuant.Testnet.RepairOutcomes
import AegisQuant.Exchange.SignedQuery
import AegisQuant.Exchange.ReconciliationCoverage
import AegisQuant.Market.TradeContexts
import AegisQuant.Market.Microstructure

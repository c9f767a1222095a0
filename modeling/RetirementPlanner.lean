import RetirementPlanner.Proof.CashFlow
import RetirementPlanner.Proof.Conversion
import RetirementPlanner.Proof.Ledger
import RetirementPlanner.Proof.MagiCeiling
import RetirementPlanner.Proof.WorkingYear
import RetirementPlanner.Proof.RetiredYear
import RetirementPlanner.Proof.Accounting
import RetirementPlanner.Lib.Schema
import RetirementPlanner.Web.Schemas
import RetirementPlanner.Web.Plan
import RetirementPlanner.Proof.Migration
import RetirementPlanner.Lib.Codec
import RetirementPlanner.Proof.Codec
import RetirementPlanner.Web.Persistence
import RetirementPlanner.Web.Server
import RetirementPlanner.Web.Store
import RetirementPlanner.Web.Sync
import RetirementPlanner.Web.World
import RetirementPlanner.Lib.Runs
import RetirementPlanner.Proof.Results
import RetirementPlanner.Lib.InFlight
import RetirementPlanner.Proof.AccountSync
import RetirementPlanner.Proof.Link
import RetirementPlanner.Proof.ProfileHistory
import RetirementPlanner.Proof.ProfileSync
import RetirementPlanner.Proof.Persistence
import RetirementPlanner.Proof.PremiumPreview
import RetirementPlanner.Proof.CareCost
import RetirementPlanner.Engine.MonteCarlo
import RetirementPlanner.Lib.Ranges
import RetirementPlanner.Lib.Sample
import RetirementPlanner.Proof.Aggregation
import RetirementPlanner.Engine.Sweep
import RetirementPlanner.Web.Sweep
import RetirementPlanner.Lib.Tally
import RetirementPlanner.Proof.Sweep
import RetirementPlanner.Web.SimulationRequest
import RetirementPlanner.Web.Wire
import RetirementPlanner.Proof.SimulationRequest
import RetirementPlanner.Proof.Admission
import RetirementPlanner.Web.Levers
import RetirementPlanner.Web.Sensitivity
import RetirementPlanner.Proof.Levers
import RetirementPlanner.Proof.StoredPlans
import RetirementPlanner.Proof.Sensitivity
import RetirementPlanner.Proof.Ownership
import RetirementPlanner.Proof.Isolation
import RetirementPlanner.Proof.Durability
import RetirementPlanner.Engine.Operations
import RetirementPlanner.Proof.Operations
import RetirementPlanner.Engine.ParametricReturns
import RetirementPlanner.Proof.Safety
import RetirementPlanner.Proof.Holdings
import RetirementPlanner.Proof.RetirementTax
import RetirementPlanner.Proof.ConversionCeiling
import RetirementPlanner.Lib.FalsePosition
import RetirementPlanner.Proof.ConversionSearch
import RetirementPlanner.Lib.Iteration
import RetirementPlanner.Proof.ConversionTax
import RetirementPlanner.Proof.RothLedger
import RetirementPlanner.Proof.MagiBand
import RetirementPlanner.Proof.MonotoneCash
import RetirementPlanner.Proof.Shortfall
import RetirementPlanner.Lib.TopSum
import RetirementPlanner.Proof.Benefit
import RetirementPlanner.Lib.Interpolation
import RetirementPlanner.Proof.CareDraw
import RetirementPlanner.Lib.KeyedStore
import RetirementPlanner.Web.Quota
import RetirementPlanner.Lib.FixedWindow
import RetirementPlanner.Proof.Quota
import RetirementPlanner.Lib.SlidingWindow
import RetirementPlanner.Web.RateLimit
import RetirementPlanner.Proof.RateLimit
import RetirementPlanner.Proof.NewBucket
import RetirementPlanner.Proof.RequiredDistribution
import RetirementPlanner.Proof.LegacyAge
import RetirementPlanner.Lib.Spans
import RetirementPlanner.Proof.LeverDomain
import RetirementPlanner.Proof.SpendingDrag
import RetirementPlanner.Lib.Refill
import RetirementPlanner.Proof.BlockBootstrap
import RetirementPlanner.Lib.Drain
import RetirementPlanner.Web.CashFlowData
import RetirementPlanner.Proof.CashFlowData
import RetirementPlanner.Lib.Transactions
import RetirementPlanner.Lib.Serial
import RetirementPlanner.Web.Transactions
import RetirementPlanner.Proof.Transactions
import RetirementPlanner.Lib.Exclusive
import RetirementPlanner.Web.SchemaMigrations
import RetirementPlanner.Proof.SchemaMigrations
import RetirementPlanner.Lib.Polling
import RetirementPlanner.Lib.Permits
import RetirementPlanner.Lib.Handlers
import RetirementPlanner.Engine.Cancellation
import RetirementPlanner.Engine.Server
import RetirementPlanner.Proof.Cancellation
import RetirementPlanner.Proof.Server
import RetirementPlanner.Proof.Causality
import RetirementPlanner.Web.MainRun
import RetirementPlanner.Proof.MainRun
import RetirementPlanner.Web.Edge
import RetirementPlanner.Proof.Edge
import RetirementPlanner.Proof.EdgeAccess
import RetirementPlanner.Web.IdToken
import RetirementPlanner.Proof.IdToken

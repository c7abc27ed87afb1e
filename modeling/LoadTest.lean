import LoadTest.RecordType
import LoadTest.Run.Engine
import LoadTest.Settings
import LoadTest.Stats.Assertion
import LoadTest.Stats.Report
import LoadTest.Proofs.User.Journey
import LoadTest.Proofs.User.Evaluation
import LoadTest.Proofs.User.Station
import LoadTest.Proofs.User.Interpretation
import LoadTest.Proofs.User.Turn
import LoadTest.Proofs.User.Cancellation
import LoadTest.Proofs.Run.Interleaving
import LoadTest.Proofs.Run.Tally
import LoadTest.Proofs.Run.Agreement
import LoadTest.Proofs.Run.Collection
import LoadTest.Proofs.Injection.Composition
import LoadTest.Proofs.Injection.Order
import LoadTest.Proofs.Injection.Rate
import LoadTest.Proofs.Injection.Carry
import LoadTest.Proofs.Injection.Spread
import LoadTest.Proofs.Check
import LoadTest.Proofs.Check.Order
import LoadTest.Proofs.Check.Optional
import LoadTest.Proofs.Feeder
import LoadTest.Proofs.Stats.Totals
import LoadTest.Proofs.Stats.Figures
import LoadTest.Proofs.Stats.Rows
import LoadTest.Proofs.RecordType
import LoadTest.Proofs.User.Stack
import LoadTest.Proofs.Run.Spawning
import LoadTest.Proofs.User.Request
import LoadTest.Proofs.User.Grouping
import LoadTest.Proofs.User.Accounting
import LoadTest.Proofs.User.Rounds
import LoadTest.Proofs.Run.Clock
import LoadTest.Proofs.Run.Completion
import LoadTest.Proofs.Run.Independence
import LoadTest.Proofs.Http.Preparation
import LoadTest.Proofs.JsonPath.Addressing
import LoadTest.Proofs.Check.Reference
import LoadTest.Proofs.Scenario.Validation
import LoadTest.Proofs.User.Effort
import LoadTest.Proofs.User.Writers
import LoadTest.Proofs.User.Finishing

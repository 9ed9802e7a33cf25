import AccountManagement.Library.Results
import AccountManagement.Library.Machine
import AccountManagement.Library.EventSourcing
import AccountManagement.Library.Text
import AccountManagement.Library.Time
import AccountManagement.Library.Double
import AccountManagement.Domain.Values
import AccountManagement.Domain.EmailReservation
import AccountManagement.Domain.UserAccount
import AccountManagement.Task.Data
import AccountManagement.Task.Queue
import AccountManagement.Outbox.Row
import AccountManagement.Outbox.Statements
import AccountManagement.Store.WritePlan
import AccountManagement.Store.Write
import AccountManagement.Store.Framework
import AccountManagement.Store.Streams
import AccountManagement.Store.Interleaving
import AccountManagement.Store.Serializability
import AccountManagement.Store.Snapshots
import AccountManagement.Store.Reapplication
import AccountManagement.Store.Outcome
import AccountManagement.Outbox.Lifecycle
import AccountManagement.Library.Keyed
import AccountManagement.Library.Lookups
import AccountManagement.Outbox.Transactions
import AccountManagement.Outbox.Fencing
import AccountManagement.Outbox.Tokens
import AccountManagement.Runtime.Config
import AccountManagement.Runtime.LeaseBudget
import AccountManagement.Runtime.Invocations
import AccountManagement.Domain.Histories
import AccountManagement.Store.Answers
import AccountManagement.Runtime.Handling
import AccountManagement.Service.Tasks
import AccountManagement.Service.UseCases
import AccountManagement.Service.Postings
import AccountManagement.Service.System
import AccountManagement.Service.Tracing
import AccountManagement.Service.Agreement
import AccountManagement.Service.Continuations
import AccountManagement.Service.Progress
import AccountManagement.Service.Wiring
import AccountManagement.Service.Correspondence
import AccountManagement.Service.NoPoison
import AccountManagement.Domain.Language
import AccountManagement.Domain.Supersession
import AccountManagement.Runtime.Executor
import AccountManagement.Outbox.Reports
import AccountManagement.Outbox.Waiting
import AccountManagement.Runtime.Admission
import AccountManagement.Runtime.Shutdown
import AccountManagement.Library.Rounds
import AccountManagement.Runtime.Schedule
import AccountManagement.Host.Environment
import AccountManagement.Host.Lifecycle
import AccountManagement.Host.Process
import AccountManagement.Library.Rotation
import AccountManagement.Runtime.Poller
import AccountManagement.Runtime.Registry
import AccountManagement.Runtime.Wakeups
import AccountManagement.Library.Words
import AccountManagement.Runtime.Budget
import AccountManagement.Runtime.Deadlines
import AccountManagement.Runtime.Dispatcher
import AccountManagement.Runtime.Dispatching
import AccountManagement.Library.QueryBuilder
import AccountManagement.Store.Statement
import AccountManagement.Library.Refinement
import AccountManagement.Store.Atomic
import AccountManagement.Store.Overtaking
import AccountManagement.Service.Atomic
import AccountManagement.Runtime.WindingDown
import AccountManagement.Presentation.Http
import AccountManagement.Presentation.Exchanges
import AccountManagement.Presentation.Provenance

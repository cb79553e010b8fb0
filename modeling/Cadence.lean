import Cadence.Calendar
import Cadence.Cancellation.Machine
import Cadence.Cancellation.World
import Cadence.Cli.Config
import Cadence.Cli.Dispatch
import Cadence.Cli.Next
import Cadence.Cli.Options
import Cadence.Cli.RunTasks
import Cadence.Cli.Validate
import Cadence.Decimal
import Cadence.Fault
import Cadence.Field.Kind
import Cadence.Field.ParseError
import Cadence.Field.Parser
import Cadence.Field.Printer
import Cadence.Field.Set
import Cadence.Host.Channel
import Cadence.Host.Errno
import Cadence.Host.Files
import Cadence.Host.Image
import Cadence.Host.Machine
import Cadence.Host.Program
import Cadence.Host.Request
import Cadence.Host.Signal
import Cadence.Log.Level
import Cadence.Log.Logger
import Cadence.Log.Threads
import Cadence.Loop.Command
import Cadence.Loop.Event
import Cadence.Loop.Executor
import Cadence.Loop.Groups
import Cadence.Loop.Perform
import Cadence.Loop.Registry
import Cadence.Loop.Run
import Cadence.Loop.Session
import Cadence.Loop.State
import Cadence.Loop.Wait
import Cadence.Main
import Cadence.Proofs.Calendar
import Cadence.Proofs.Cancellation.Calls
import Cadence.Proofs.Cancellation.Descent
import Cadence.Proofs.Cancellation.Firings
import Cadence.Proofs.Cancellation.Jobs
import Cadence.Proofs.Cancellation.Links
import Cadence.Proofs.Cancellation.Ownership
import Cadence.Proofs.Cancellation.Pending
import Cadence.Proofs.Cancellation.Propagation
import Cadence.Proofs.Cancellation.Quiet
import Cadence.Proofs.Cancellation.Registrations
import Cadence.Proofs.Cancellation.Serials
import Cadence.Proofs.Cancellation.Soundness
import Cadence.Proofs.Cancellation.Weight
import Cadence.Proofs.CivilOrder
import Cadence.Proofs.Cli.Agreement
import Cadence.Proofs.Field.Canonical
import Cadence.Proofs.Field.Denotation
import Cadence.Proofs.Field.Grammar
import Cadence.Proofs.Field.Members
import Cadence.Proofs.Field.Parsing
import Cadence.Proofs.Field.Queries
import Cadence.Proofs.Field.RoundTrip
import Cadence.Proofs.LeapCycle
import Cadence.Proofs.Log.Calls
import Cadence.Proofs.Log.Conservation
import Cadence.Proofs.Log.Destruction
import Cadence.Proofs.Log.Moves
import Cadence.Proofs.Loop.Actions
import Cadence.Proofs.Loop.Additions
import Cadence.Proofs.Loop.Attempts
import Cadence.Proofs.Loop.Batches
import Cadence.Proofs.Loop.Bookkeeping
import Cadence.Proofs.Loop.ClockRange
import Cadence.Proofs.Loop.ClockWaits
import Cadence.Proofs.Loop.Configured
import Cadence.Proofs.Loop.Course
import Cadence.Proofs.Loop.Disturbances
import Cadence.Proofs.Loop.Episodes
import Cadence.Proofs.Loop.Failures
import Cadence.Proofs.Loop.Finality
import Cadence.Proofs.Loop.Forecast
import Cadence.Proofs.Loop.Groups
import Cadence.Proofs.Loop.Introspection
import Cadence.Proofs.Loop.LateWakes
import Cadence.Proofs.Loop.Ledger
import Cadence.Proofs.Loop.Lifecycle
import Cadence.Proofs.Loop.Listeners
import Cadence.Proofs.Loop.Notices
import Cadence.Proofs.Loop.Protocol
import Cadence.Proofs.Loop.Rearrangements
import Cadence.Proofs.Loop.Registered
import Cadence.Proofs.Loop.Registration
import Cadence.Proofs.Loop.Rescans
import Cadence.Proofs.Loop.Rounds
import Cadence.Proofs.Loop.Runs
import Cadence.Proofs.Loop.Seclusion
import Cadence.Proofs.Loop.Steps
import Cadence.Proofs.Loop.Stops
import Cadence.Proofs.Loop.Timeline
import Cadence.Proofs.Loop.Waits
import Cadence.Proofs.Loop.WakeToken
import Cadence.Proofs.Loop.Wiring
import Cadence.Proofs.Schedule.Corrections
import Cadence.Proofs.Schedule.DateSearch
import Cadence.Proofs.Schedule.NextOccurrence
import Cadence.Proofs.Schedule.Occurrences
import Cadence.Proofs.Schedule.Ranges
import Cadence.Proofs.Schedule.Reading
import Cadence.Proofs.Schedule.Recurrence
import Cadence.Proofs.Schedule.Restarts
import Cadence.Proofs.Schedule.RoundTrip
import Cadence.Proofs.Schedule.TimeSearch
import Cadence.Proofs.Schedule.WellFormed
import Cadence.Proofs.Table
import Cadence.Proofs.Timestamp.Grammar
import Cadence.Proofs.Timestamp.Reading
import Cadence.Proofs.Timestamp.RoundTrip
import Cadence.Proofs.Words
import Cadence.Schedule.Basic
import Cadence.Schedule.Occurrences
import Cadence.Schedule.Parser
import Cadence.Schedule.Printer
import Cadence.Schedule.Search
import Cadence.Shell.Arithmetic
import Cadence.Shell.Builtin.Condition
import Cadence.Shell.Builtin.Directory
import Cadence.Shell.Builtin.Jobs
import Cadence.Shell.Builtin.Names
import Cadence.Shell.Builtin.Options
import Cadence.Shell.Builtin.Output
import Cadence.Shell.Builtin.Parameters
import Cadence.Shell.Children
import Cadence.Shell.Descriptors
import Cadence.Shell.Evaluator
import Cadence.Shell.Expansion
import Cadence.Shell.Field
import Cadence.Shell.Format
import Cadence.Shell.Grammar
import Cadence.Shell.Invoked
import Cadence.Shell.LogFile
import Cadence.Shell.Numeral
import Cadence.Shell.Parser
import Cadence.Shell.Pattern
import Cadence.Shell.Reader
import Cadence.Shell.Run
import Cadence.Shell.Scanner
import Cadence.Shell.Simple
import Cadence.Shell.Start
import Cadence.Shell.Store
import Cadence.Sum
import Cadence.System
import Cadence.Table
import Cadence.Text
import Cadence.Timestamp
import Cadence.Tool.Basic
import Cadence.Tool.Date
import Cadence.Tool.Difference
import Cadence.Tool.Duration
import Cadence.Tool.Expr
import Cadence.Tool.Facts
import Cadence.Tool.Fields
import Cadence.Tool.Files
import Cadence.Tool.Grep
import Cadence.Tool.Listing
import Cadence.Tool.Mode
import Cadence.Tool.Paths
import Cadence.Tool.Processes
import Cadence.Tool.Regex
import Cadence.Tool.Sed
import Cadence.Tool.Streams
import Cadence.Proofs.Field.Ranges
import Cadence.Proofs.Field.Errors

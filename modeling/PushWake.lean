import PushWake.Collaborators.Basic
import PushWake.Collaborators.Plan
import PushWake.Collaborators.PlanFormat
import PushWake.Command.Arguments
import PushWake.Command.Basic
import PushWake.Command.Rehearsal
import PushWake.Config.Basic
import PushWake.Config.Format
import PushWake.Connection.Basic
import PushWake.Connection.Error
import PushWake.Console.Basic
import PushWake.Decimal.Binary64
import PushWake.Decimal.Numeral
import PushWake.Decimal.Shortest
import PushWake.Digest.Sha256
import PushWake.Host.Basic
import PushWake.Identity
import PushWake.Job.Basic
import PushWake.Job.Set
import PushWake.Job.Swap
import PushWake.Job.Work
import PushWake.Json.Access
import PushWake.Json.Decode
import PushWake.Json.Flaw
import PushWake.Json.Printer
import PushWake.Json.Reader
import PushWake.Json.Tree
import PushWake.Json.Value
import PushWake.Lnurl.Metadata
import PushWake.Lnurl.Reply
import PushWake.Lock
import PushWake.Log.Basic
import PushWake.Main
import PushWake.Plugin.Basic
import PushWake.Plugin.Shelf
import PushWake.Proofs.Amounts
import PushWake.Proofs.AnsweredJobs
import PushWake.Proofs.AsideFromEnd
import PushWake.Proofs.Completers
import PushWake.Proofs.Deadlines
import PushWake.Proofs.DealTurns
import PushWake.Proofs.EmptyDelay
import PushWake.Proofs.EndCourse
import PushWake.Proofs.EndSignals
import PushWake.Proofs.FirstSignal
import PushWake.Proofs.ForeseenDeadlines
import PushWake.Proofs.HardLimitReach
import PushWake.Proofs.Holdings
import PushWake.Proofs.InLineAtEnd
import PushWake.Proofs.JobChanges
import PushWake.Proofs.JobListeners
import PushWake.Proofs.JobLives
import PushWake.Proofs.JobsToldFirst
import PushWake.Proofs.LastCommand
import PushWake.Proofs.Layout
import PushWake.Proofs.Ledger
import PushWake.Proofs.LockCalls
import PushWake.Proofs.LockQueue
import PushWake.Proofs.LockTurns
import PushWake.Proofs.MemberEvents
import PushWake.Proofs.Members
import PushWake.Proofs.Membership
import PushWake.Proofs.Metadata
import PushWake.Proofs.MoveStable
import PushWake.Proofs.NodeMeaning
import PushWake.Proofs.NonInterference
import PushWake.Proofs.NormalForms
import PushWake.Proofs.NothingLeaks
import PushWake.Proofs.Offers
import PushWake.Proofs.OneEnd
import PushWake.Proofs.OpenSteps
import PushWake.Proofs.PacedOperations
import PushWake.Proofs.PayRequests
import PushWake.Proofs.Payloads
import PushWake.Proofs.PerformedOperations
import PushWake.Proofs.PluginShelf
import PushWake.Proofs.PromisedSettlement
import PushWake.Proofs.PromisesKept
import PushWake.Proofs.PunctualRehearsal
import PushWake.Proofs.PunctualRuns
import PushWake.Proofs.Readback
import PushWake.Proofs.RecordReaders
import PushWake.Proofs.RefusedSettings
import PushWake.Proofs.Replies
import PushWake.Proofs.RoundTrip
import PushWake.Proofs.RunInvariant
import PushWake.Proofs.RunRecord
import PushWake.Proofs.Runs
import PushWake.Proofs.SavedSettings
import PushWake.Proofs.SchedulerPresence
import PushWake.Proofs.ScriptLines
import PushWake.Proofs.Secrecy
import PushWake.Proofs.SessionSlot
import PushWake.Proofs.SessionStable
import PushWake.Proofs.SetAside
import PushWake.Proofs.SetEntries
import PushWake.Proofs.SetOperations
import PushWake.Proofs.SettingsStore
import PushWake.Proofs.SharedSession
import PushWake.Proofs.ShutdownAnswers
import PushWake.Proofs.SimulatedSettlement
import PushWake.Proofs.SinglePlugin
import PushWake.Proofs.Starts
import PushWake.Proofs.StepStable
import PushWake.Proofs.SwapCourse
import PushWake.Proofs.SwapNotices
import PushWake.Proofs.Tokens
import PushWake.Proofs.TriggerProgress
import PushWake.Proofs.Turns
import PushWake.Proofs.TwoDeadlines
import PushWake.Proofs.ValueShape
import PushWake.Proofs.Veil
import PushWake.Proofs.VeiledCalls
import PushWake.Proofs.VeiledRuns
import PushWake.Proofs.VeiledSteps
import PushWake.Proofs.WatchedSwaps
import PushWake.Proofs.WorkStable
import PushWake.Runner.Basic
import PushWake.Scheduler.Basic
import PushWake.Script.Line
import PushWake.Service.Activity
import PushWake.Service.Body
import PushWake.Service.Connecting
import PushWake.Service.Error
import PushWake.Service.Jobs
import PushWake.Service.Occurrence
import PushWake.Service.Plugins
import PushWake.Service.State
import PushWake.Service.Step
import PushWake.Service.Teardown
import PushWake.Service.Triggers
import PushWake.Settings.Basic
import PushWake.Settings.File
import PushWake.Settings.Keys
import PushWake.Settings.Number
import PushWake.Simulator.Basic
import PushWake.Text.Blank
import PushWake.Text.Duration
import PushWake.Text.Lowercase
import PushWake.Text.Printable
import PushWake.Text.Quoted
import PushWake.Text.Ranges
import PushWake.Trigger.Basic
import PushWake.Wallet.Error
import PushWake.Wallet.Event
import PushWake.Wallet.Session

import MailSchedule.Main
import MailSchedule.Rehearsal.Run
import MailSchedule.Rehearsal.Terminal
import MailSchedule.Proofs.Actions
import MailSchedule.Proofs.Payloads
import MailSchedule.Proofs.Reports
import MailSchedule.Proofs.Selecting
import MailSchedule.Proofs.Collaborators
import MailSchedule.Proofs.Loading
import MailSchedule.Proofs.Calm
import MailSchedule.Proofs.Delivering
import MailSchedule.Proofs.DueAccounts
import MailSchedule.Proofs.AlwaysWoken
import MailSchedule.Proofs.Course
import MailSchedule.Proofs.AlwaysOnSchedule
import MailSchedule.Proofs.Occurrences
import MailSchedule.Proofs.Restarting
import MailSchedule.Proofs.SteadyStore
import MailSchedule.Proofs.WholeRegistry
import MailSchedule.Proofs.Unambiguous
import MailSchedule.Proofs.CheckTimes
import MailSchedule.Proofs.Dependable
import MailSchedule.Proofs.CurrentWakes
import MailSchedule.Proofs.OpenChecks
import MailSchedule.Proofs.Reading
import MailSchedule.Proofs.RoundTrip
import MailSchedule.Proofs.UnforeseenPayloads
import MailSchedule.Proofs.AfterClosing
import MailSchedule.Proofs.Announced
import MailSchedule.Proofs.Ledgers
import MailSchedule.Proofs.Arrivals
import MailSchedule.Proofs.Completions
import MailSchedule.Proofs.WorkedOff
import MailSchedule.Proofs.Bystanders
import MailSchedule.Proofs.Requests
import MailSchedule.Proofs.FiniteMap
import MailSchedule.Proofs.Disturbances
import MailSchedule.Proofs.Rebuilding
import MailSchedule.Proofs.ArmedWakes
import MailSchedule.Proofs.FallingCounts
import MailSchedule.Proofs.FailedChecks
import MailSchedule.Proofs.CheckAttempts
import MailSchedule.Proofs.RequestedChecks
import MailSchedule.Proofs.ExactSelection
import MailSchedule.Proofs.Rearming
import MailSchedule.Proofs.FillingGaps
import MailSchedule.Proofs.ListedAccounts
import MailSchedule.Proofs.RecordedChecks
import MailSchedule.Proofs.CommutingEnds
import MailSchedule.Proofs.AllOrNothing
import MailSchedule.Proofs.Unfailing
import MailSchedule.Proofs.Meanwhile
import MailSchedule.Proofs.WorkerLoop
import MailSchedule.Proofs.CallsMade
import MailSchedule.Proofs.DeletedProtocol
import MailSchedule.Proofs.ClearedCounts
import MailSchedule.Proofs.LaterClocks
import MailSchedule.Proofs.ClockOrigin
import MailSchedule.Proofs.Characters
import MailSchedule.Proofs.JsonTexts
import MailSchedule.Proofs.ExactTexts
import MailSchedule.Proofs.Meanings

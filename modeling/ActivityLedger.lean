import ActivityLedger.Main
import ActivityLedger.Relational.Tampering
import ActivityLedger.Store.Faults
import ActivityLedger.Proofs.Calls
import ActivityLedger.Proofs.Counters
import ActivityLedger.Proofs.Shelf
import ActivityLedger.Proofs.Answers
import ActivityLedger.Proofs.Batches
import ActivityLedger.Proofs.Merging
import ActivityLedger.Proofs.MemorySteps
import ActivityLedger.Proofs.RollUp
import ActivityLedger.Proofs.DigitOrder
import ActivityLedger.Proofs.Keys
import ActivityLedger.Proofs.Plans
import ActivityLedger.Proofs.Quadrants
import ActivityLedger.Proofs.Groups
import ActivityLedger.Proofs.DoubleEntry
import ActivityLedger.Proofs.Validity
import ActivityLedger.Proofs.Accounts
import ActivityLedger.Proofs.Intervals
import ActivityLedger.Proofs.Recordings
import ActivityLedger.Proofs.Courses
import ActivityLedger.Proofs.Checks
import ActivityLedger.Proofs.Interruptions
import ActivityLedger.Proofs.Days
import ActivityLedger.Proofs.Ledger
import ActivityLedger.Proofs.Periods
import ActivityLedger.Proofs.Scans
import ActivityLedger.Proofs.Selections
import ActivityLedger.Proofs.Interleavings
import ActivityLedger.Proofs.Determinacy
import ActivityLedger.Proofs.DayTotals
import ActivityLedger.Proofs.Capacity
import ActivityLedger.Proofs.Creations
import ActivityLedger.Proofs.Schedules
import ActivityLedger.Proofs.Verdicts
import ActivityLedger.Proofs.Fronts
import ActivityLedger.Proofs.Assemblies
import ActivityLedger.Proofs.VoteSplits
import ActivityLedger.Proofs.Limits
import ActivityLedger.Proofs.Places
import ActivityLedger.Proofs.Additions
import ActivityLedger.Proofs.SelfVotes
import ActivityLedger.Proofs.Retries
import ActivityLedger.Proofs.DryRuns
import ActivityLedger.Proofs.Relational.Cells
import ActivityLedger.Proofs.StoredDates
import ActivityLedger.Proofs.Json.Scalars
import ActivityLedger.Proofs.Json.Spellings
import ActivityLedger.Proofs.Json.Layouts
import ActivityLedger.Proofs.Exchange.Formats
import ActivityLedger.Proofs.Exchange.RoundTrips
import ActivityLedger.Proofs.Relational.Rows
import ActivityLedger.Proofs.Relational.Mirrors
import ActivityLedger.Proofs.Relational.Readings
import ActivityLedger.Proofs.Relational.Agreement
import ActivityLedger.Proofs.Relational.Recordings
import ActivityLedger.Proofs.Rounding
import ActivityLedger.Proofs.Relational.Increments
import ActivityLedger.Proofs.Relational.SettingUp
import ActivityLedger.Proofs.Relational.SelfVotes
import ActivityLedger.Proofs.Relational.Integrity
import ActivityLedger.Proofs.Requests
import ActivityLedger.Proofs.CompactDates
import ActivityLedger.Proofs.RunningTotals
import ActivityLedger.Proofs.Identities
import ActivityLedger.Proofs.Relational.Identities
import ActivityLedger.Proofs.Relational.Lookups
import ActivityLedger.Proofs.Relational.SingleTrackers
import ActivityLedger.Proofs.MonthLengths
import ActivityLedger.Proofs.Constructions
import ActivityLedger.Proofs.ReportedIds

import Household.Alarm.Presenting
import Household.Api.Handler
import Household.Remote.Traffic
import Household.Settings.EnvFile
import Household.Timer
import Household.Timer.Scheduler
import Household.Alarm.Firing
import Household.Text.CombiningClass
import Household.Text.Composition
import Household.Text.NormalForm
import Household.Text.Punycode
import Household.Remote.HostName.Direction
import Household.Remote.HostName.Joining
import Household.Remote.HostName.Label
import Household.Proofs.Instant.Order
import Household.Proofs.StableSort
import Household.Proofs.Table
import Household.Proofs.Loop
import Household.Proofs.Alarm.Bounds
import Household.Proofs.Alarm.Reconciling
import Household.Proofs.Alarm.Keeping
import Household.Proofs.Alarm.Passing
import Household.Proofs.Alarm.Convergence
import Household.Proofs.Settings
import Household.Proofs.Alarm.Commitment
import Household.Proofs.Alarm.Isolation
import Household.Proofs.Watch.Basic
import Household.Proofs.Watch.Obeying
import Household.Proofs.Watch.Coverage
import Household.Proofs.Schedule.Running
import Household.Proofs.Schedule.Order
import Household.Proofs.Alarm.Stepping
import Household.Proofs.Remote.Fetching
import Household.Proofs.Overlap.Basic
import Household.Proofs.Overlap.Deeds
import Household.Proofs.Overlap.Coherence
import Household.Proofs.Overlap.Agreement
import Household.Proofs.Overlap.Failing
import Household.Proofs.Overlap.Provenance
import Household.Proofs.Watch.Course
import Household.Proofs.Watch.Chain
import Household.Proofs.Watch.Lateness
import Household.Proofs.Json.Reading
import Household.Proofs.Json.Fields
import Household.Proofs.Session.Slot
import Household.Proofs.Remote.Protocol
import Household.Proofs.Remote.Sharing
import Household.Proofs.Schedule.Joining
import Household.Proofs.Alarm.Reordering
import Household.Proofs.Schedule.Latest
import Household.Proofs.Schedule.Overview
import Household.Proofs.Api.Overview
import Household.Proofs.Alarm.Simulation
import Household.Proofs.Api.Separation
import Household.Proofs.Session.Expiry
import Household.Proofs.Timer.Registrations
import Household.Proofs.Timer.Scheduling
import Household.Proofs.Alarm.Rows
import Household.Proofs.Alarm.Classifying
import Household.Proofs.Alarm.Settling
import Household.Proofs.Text.Numerals
import Household.Proofs.Instant.Reading
import Household.Proofs.Json.Spelling
import Household.Proofs.Schedule.Wire
import Household.Proofs.Api.Forwarding
import Household.Proofs.Text.Words
import Household.Proofs.Settings.Variables
import Household.Proofs.Alarm.Minutes
import Household.Proofs.Api.Histories
import Household.Proofs.Schedule.Fitting
import Household.Proofs.Api.Admission
import Household.Proofs.Alarm.Dispatching
import Household.Proofs.Session.Keeping
import Household.Proofs.Timer.Napping

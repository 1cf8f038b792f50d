import MediaWatch.Client.Host
import MediaWatch.Json.Writer
import MediaWatch.Library.Poll
import MediaWatch.Rehearsal.Life
import MediaWatch.Rehearsal.Sleeps
import MediaWatch.Rehearsal.Stage
import MediaWatch.Service.Endpoint
import MediaWatch.Watch.Setup
import MediaWatch.Proofs.Library.Course
import MediaWatch.Proofs.Library.SweepRun
import MediaWatch.Proofs.Library.Isolation
import MediaWatch.Proofs.Library.Pages
import MediaWatch.Proofs.Library.Complete
import MediaWatch.Proofs.Library.FirstPage
import MediaWatch.Proofs.Library.Bounded
import MediaWatch.Proofs.Library.Register
import MediaWatch.Proofs.Policy.Outage
import MediaWatch.Proofs.Policy.Line
import MediaWatch.Proofs.Policy.Burst
import MediaWatch.Proofs.Policy.Delays
import MediaWatch.Proofs.Schema.Wire
import MediaWatch.Proofs.Server.Overwriting
import MediaWatch.Proofs.Shelf.Update
import MediaWatch.Proofs.Shelf.Mapping
import MediaWatch.Proofs.Decimal.Bounds
import MediaWatch.Proofs.Decimal.Denotation
import MediaWatch.Proofs.Shelf.Numbering
import MediaWatch.Proofs.Url.Endpoint
import MediaWatch.Proofs.Client.Pace
import MediaWatch.Proofs.Client.Envelope
import MediaWatch.Proofs.Client.Verdict
import MediaWatch.Proofs.Watch.Crew
import MediaWatch.Proofs.Watch.Crash
import MediaWatch.Proofs.Watch.Reaction
import MediaWatch.Proofs.Watch.Session
import MediaWatch.Proofs.Watch.Reconnect
import MediaWatch.Proofs.Watch.Mood
import MediaWatch.Proofs.Watch.Turns
import MediaWatch.Proofs.Watch.NoGap
import MediaWatch.Proofs.Watch.Condition
import MediaWatch.Proofs.Watch.Move
import MediaWatch.Proofs.Watch.Fallback
import MediaWatch.Proofs.Watch.Occupation
import MediaWatch.Proofs.Watch.Ceiling
import MediaWatch.Proofs.Watch.Spacing
import MediaWatch.Proofs.Watch.Quiet
import MediaWatch.Proofs.Watch.Delivery
import MediaWatch.Proofs.Watch.FanOut
import MediaWatch.Proofs.Watch.Wakeup
import MediaWatch.Proofs.Watch.Handling
import MediaWatch.Proofs.Watch.Waning
import MediaWatch.Proofs.Service.Shutdown

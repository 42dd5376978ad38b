import Daylight.Main
import Daylight.Scenario.Mirroring
import Daylight.Scenario.Passing
import Daylight.Scenario.Session
import Daylight.Scenario.Wakeup
import Daylight.Web.Hosting
import Daylight.Proofs.Instants
import Daylight.Proofs.SunEvents
import Daylight.Proofs.Evaluating
import Daylight.Proofs.WallClocks
import Daylight.Proofs.Following
import Daylight.Proofs.Outlook
import Daylight.Proofs.Neighbours
import Daylight.Proofs.Cycle
import Daylight.Proofs.Posting
import Daylight.Proofs.Publishing
import Daylight.Proofs.AlarmClock
import Daylight.Proofs.Wakeups
import Daylight.Proofs.AllOrNothing
import Daylight.Proofs.Chain
import Daylight.Proofs.Arrivals
import Daylight.Proofs.Deliveries
import Daylight.Proofs.Alike
import Daylight.Proofs.NullIsland
import Daylight.Proofs.LiveTimer
import Daylight.Proofs.Leftover
import Daylight.Proofs.Drift
import Daylight.Proofs.Queue
import Daylight.Proofs.Quiescence
import Daylight.Proofs.MirroredFlag
import Daylight.Proofs.Strides
import Daylight.Proofs.Restarts
import Daylight.Proofs.Removal
import Daylight.Proofs.Rebinding
import Daylight.Proofs.Subscriptions
import Daylight.Proofs.Overtaking
import Daylight.Proofs.Ahead
import Daylight.Proofs.Calendar
import Daylight.Proofs.ReadingBack
import Daylight.Proofs.Transitions
import Daylight.Proofs.Milliseconds
import Daylight.Proofs.SameDay
import Daylight.Proofs.RequestedFixes
import Daylight.Proofs.Environments
import Daylight.Proofs.Nesting
import Daylight.Proofs.PassingOn
import Daylight.Proofs.Leaving
import Daylight.Proofs.WrittenMoments
import Daylight.Proofs.Arguments
import Daylight.Proofs.Invocations
import Daylight.Proofs.SharedFile

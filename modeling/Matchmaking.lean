import Matchmaking.Main
import Matchmaking.Rehearsal.Session
import Matchmaking.Queue.Shared
import Matchmaking.Allocation.Remote
import Matchmaking.Announcement.Remote
import Matchmaking.Json.Tree
import Matchmaking.Proofs.Allocation.Echo
import Matchmaking.Proofs.Allocation.Interpretation
import Matchmaking.Proofs.Allocation.Isolation
import Matchmaking.Proofs.Allocation.RoundTrip
import Matchmaking.Proofs.Config.Load
import Matchmaking.Proofs.Event.Format
import Matchmaking.Proofs.Event.RoundTrip
import Matchmaking.Proofs.Id.Grammar
import Matchmaking.Proofs.Intake.Queueing
import Matchmaking.Proofs.Queue.Interleaving
import Matchmaking.Proofs.Scheduler.Accounting
import Matchmaking.Proofs.Scheduler.Aftermath
import Matchmaking.Proofs.Scheduler.Announced
import Matchmaking.Proofs.Scheduler.LatestWish
import Matchmaking.Proofs.Scheduler.Pacing
import Matchmaking.Proofs.Allocation.Rotation
import Matchmaking.Proofs.Id.Player
import Matchmaking.Proofs.Id.Order

import Matchmaking.Queue.Basic
import Matchmaking.Trace.Log

/-!
# What the queue logs
-/

namespace Matchmaking

namespace TicketQueue

/-- What putting wishes back logs: nothing if none was put back. -/
def requeueTrace (restored : Nat) (after : TicketQueue) : Trace :=
  if restored = 0 then []
  else .line .debug "Requeued players" [
    ("restored", .number restored),
    ("queued", .number after.size)]

end TicketQueue

end Matchmaking

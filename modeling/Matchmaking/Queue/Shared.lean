import Matchmaking.Queue.Basic

/-!
# Queues behind handles

Submitters and the scheduler hold handles; a copy of a handle leads to the same queue.
-/

namespace Matchmaking

/-- Several queues behind numbered handles; handles of one queue see the same players. -/
structure SharedQueues where
  queues : List TicketQueue
  /-- The queue behind each handle. -/
  handles : List Nat

namespace SharedQueues

def single : SharedQueues := ⟨[.empty], [0]⟩

/-- The place of the queue behind a handle; handle numbers wrap. -/
def place (s : SharedQueues) (handle : Nat) : Nat :=
  s.handles.getD (handle % s.handles.length) 0

def queue (s : SharedQueues) (handle : Nat) : TicketQueue := s.queues.getD (s.place handle) .empty

def set (s : SharedQueues) (handle : Nat) (q : TicketQueue) : SharedQueues :=
  { s with queues := s.queues.set (s.place handle) q }

def clone (s : SharedQueues) (handle : Nat) : SharedQueues :=
  { s with handles := s.handles ++ [s.place handle] }

def add (s : SharedQueues) : SharedQueues :=
  ⟨s.queues ++ [.empty], s.handles ++ [s.queues.length]⟩

def views (s : SharedQueues) : List TicketQueue :=
  (List.range s.handles.length).map s.queue

def drainAll (s : SharedQueues) : List (List Intent) :=
  (go (List.range s.handles.length) s)
where
  go : List Nat → SharedQueues → List (List Intent)
    | [], _ => []
    | h :: hs, s => (s.queue h).drain.1 :: go hs (s.set h (s.queue h).drain.2)

end SharedQueues

end Matchmaking

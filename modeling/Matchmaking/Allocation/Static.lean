import Matchmaking.Trace.Log

/-!
# Servers without a fleet

An allocator for development: it always answers, with one address and consecutive ports.
-/

namespace Matchmaking.Allocation

/-- An allocator that makes servers up. The count of calls wraps at 32 bits. -/
structure StaticAllocator where
  address : String
  basePort : UInt16
  calls : UInt32
  annotations : Labels

namespace StaticAllocator

/-- An allocator for an address and a first port. -/
def new (address : String) (basePort : UInt16) : StaticAllocator := ⟨address, basePort, 0, .empty⟩

/-- The allocator used when nothing is configured. -/
def standard : StaticAllocator := new "127.0.0.1" 25565

/-- Reports a protocol version and a build name with every server. -/
def withVersions (a : StaticAllocator) (protocolVersion : Int64) (name : String) :
    StaticAllocator :=
  let version := toString protocolVersion.toInt
  let annotations := a.annotations.set protocolVersionAnnotation version
  { a with annotations := annotations.set versionNameAnnotation name }

/-- The port of the call with a number: a thousand ports in turn, as far as port numbers go. -/
def portOf (a : StaticAllocator) (call : UInt32) : Nat :=
  min (a.basePort.toNat + call.toNat % 1000) 65535

def serverOf (fleet : String) (call : UInt32) : String := fleet ++ "-" ++ Text.padded 5 call.toNat

def answer (a : StaticAllocator) (r : Request) (call : UInt32) : Response where
  state := some .allocated
  server := serverOf r.fleet call
  address := a.address
  ports := [⟨"default", Int32.ofNat (a.portOf call)⟩]
  annotations := a.annotations

def logCall (a : StaticAllocator) (r : Request) (call : UInt32) : Trace :=
  .line .info "[STATIC] Allocated game server" [
    ("match_id", .text r.matchId.text),
    ("game_server", .text (serverOf r.fleet call)),
    ("port", .number (a.portOf call))]

/-- The allocator after so many further calls. -/
def skip (a : StaticAllocator) (count : Nat) : StaticAllocator :=
  { a with calls := a.calls + UInt32.ofNat count }

def allocate (a : StaticAllocator) (r : Request) : StaticAllocator × Response × Trace :=
  (a.skip 1, a.answer r a.calls, a.logCall r a.calls)

end StaticAllocator

end Matchmaking.Allocation

import Matchmaking.Net.Host.Name
import Matchmaking.Net.Host.Octets
import Matchmaking.Text.Percent

/-!
# Hosts

The one text of a host: an address of version 6 in brackets, an address of version 4 however its
numbers are written, a name in its ASCII spelling, or, under a scheme that gives no meaning to
hosts, whatever stands there.
-/

namespace Matchmaking.Net.Host

open Text

/-- An address of version 6 in brackets, from the characters after the first bracket. -/
def bracketed? (cs : List Char) : Option String :=
  match SocketAddress.segments cs with
  | some (groups, [']']) => some ("[" ++ SocketAddress.compressedText groups ++ "]")
  | _ => none

/-- The parts of a host between its dots; a dot at the end opens no further part. -/
def parts (name : List Char) : List (List Char) :=
  let ps := piecesAt '.' name
  if 1 < ps.length ∧ ps.getLast? = some [] then ps.dropLast else ps

/-- A host under a scheme whose hosts are looked up: an address, or a name. -/
def resolvable? (cs : List Char) : Option String :=
  match cs with
  | '[' :: inside => bracketed? inside
  | _ => do
    let name ← name? (← Percent.decodeText? cs).toList
    if name = [] then none
    else if (parts name).getLast?.any isNumeric then
      (octets? (parts name)).map SocketAddress.octetsText
    else some (String.ofList name)

/-- What may not stand in a host, even where hosts have no meaning. -/
def verbatimForbidden : List Char :=
  ['\u0000', '\t', '\n', '\r', ' ', '#', '/', ':', '<', '>', '?', '@', '[', '\\', ']', '^', '|']

/-- A host under a scheme that gives no meaning to it. -/
def verbatim? (cs : List Char) : Option String :=
  match cs with
  | '[' :: inside => bracketed? inside
  | _ => if cs.any verbatimForbidden.contains then none else some (Percent.encode [] cs)

end Matchmaking.Net.Host

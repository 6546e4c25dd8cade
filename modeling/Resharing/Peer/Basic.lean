import Resharing.Http.Network
import Resharing.Mailbox.Service

/-!
# Peers on a network

A peer answers the requests that arrive at its authority: nobody is there, or a script says
what is answered, or the service of a mailbox runs there. Whatever is reached at a peer with a
script is kept.

## Main definitions

* `Peer`, `Peer.answer`: who is at an authority
* `Peers`, `Peers.network`: the network on which some peers can be reached
-/

namespace Resharing

/-- Who is at an authority. -/
inductive Peer where
  | nobody
  /-- The answers to come, the last of which is repeated, and the requests that have arrived. -/
  | scripted (script : List Http.Answer) (received : List Http.Request)
  /-- The service of a mailbox, with a clock. -/
  | mailbox (service : Service) (now : Instant) (state : Mailbox)

namespace Peer

/-- The nanoseconds that the clock of a mailbox advances with each request. -/
def tick : Instant := 1000

/-- What a peer answers, and the peer afterwards. A crash of a service takes down the one
connection on which the request came, and nothing else. -/
def answer (request : Http.Request) : Peer → Http.Answer × Peer
  | .nobody => (.unreachable, .nobody)
  | .scripted script received =>
    match script with
    | [] => (.silence, .scripted [] (received ++ [request]))
    | [last] => (last, .scripted [last] (received ++ [request]))
    | first :: rest => (first, .scripted rest (received ++ [request]))
  | .mailbox service now state =>
    match service.respond now request state with
    | .ok (response, state) => (.response response, .mailbox service (now + tick) state)
    | .error _ => (.unreachable, .mailbox service (now + tick) state)

/-- The requests that have arrived at a peer with a script. -/
def received : Peer → List Http.Request
  | .scripted _ received => received
  | _ => []

end Peer

abbrev Peers := Table String Peer

/-- Peers at the given authorities. -/
def Peers.ofList (peers : List (String × Peer)) : Peers :=
  peers.foldl (fun table (authority, peer) => table.insert authority peer) .empty

/-- The requests that have arrived at an authority. -/
def Peers.received (peers : Peers) (authority : String) : List Http.Request :=
  ((peers.find? authority).map Peer.received).getD []

/-- The network on which some peers can be reached, and nobody else. -/
def Peers.network : Http.Network Peers where
  send url request peers :=
    match peers.find? url.authority with
    | some peer =>
      let (answer, peer) := peer.answer request
      (answer, peers.insert url.authority peer)
    | none => (.unreachable, peers)

end Resharing

import PacedRtp.Event
import PacedRtp.Net.Network

/-!
# Datagram transport

A transport sends to one peer. In direct mode the peer is given; in rendezvous mode the transport
listens on a port, and the sender of the first datagram that arrives becomes the peer. Once known,
the peer never changes, and no further datagram is read.

A transport value holds its phase, the datagrams that have arrived and were not read, oldest first,
and those it has sent, in order.
-/

namespace PacedRtp
namespace Net

/-! ## Finding the peer -/

/-- The port that devices talk to unless told otherwise. -/
def defaultPort : UInt16 := 5004

inductive Discovery
  /-- Send to a given endpoint. -/
  | direct (peer : Endpoint)
  /-- Listen on a port and send to whoever speaks first. -/
  | rendezvous (port : UInt16)
  deriving DecidableEq, Repr

instance : Inhabited Discovery := ⟨.rendezvous defaultPort⟩

def Discovery.port : Discovery → UInt16
  | .direct peer => peer.port
  | .rendezvous port => port

def Discovery.check (d : Discovery) : Except ConfigError Unit :=
  if d.port = 0 then .error .zeroPort else .ok ()

/-! ## Transports -/

inductive Phase
  | awaitingPeer
  | streaming (peer : Endpoint)
  deriving DecidableEq, Repr

structure Transport where
  phase : Phase
  inbound : List Datagram := []
  outbound : Array Datagram := #[]
  deriving DecidableEq

/-- Octets of a hello that are read; longer ones are cut. -/
def helloLimit : Nat := 1024

namespace Transport

def peer? (t : Transport) : Option Endpoint :=
  match t.phase with
  | .awaitingPeer => none
  | .streaming peer => some peer

/-! ## Opening -/

/-- A transport to a given peer, bound to a port of the system's choice. -/
def direct (net : Network) (peer : Endpoint) : List Event × Except Error Transport :=
  match net.bindFailure 0 with
  | some errno => ([], .error (.io (.number errno)))
  | none => ([.directBound], .ok { phase := .streaming peer })

/-- A transport that listens on a port. -/
def rendezvous (net : Network) (port : UInt16) : List Event × Except Error Transport :=
  match net.bindFailure port with
  | some errno => ([], .error (.io (.number errno)))
  | none => ([.listening], .ok { phase := .awaitingPeer })

/-- Opens a transport by a mode that has a port. -/
def «open» (net : Network) (mode : Discovery) : List Event × Except Error Transport :=
  match mode.check with
  | .error e => ([], .error (.config e))
  | .ok () =>
    match mode with
    | .direct peer => direct net peer
    | .rendezvous port => rendezvous net port

/-! ## Datagrams -/

/-- A datagram arrives from the network. -/
def arrive (t : Transport) (d : Datagram) : Transport :=
  { t with inbound := t.inbound ++ [d] }

/-- Sends one datagram to the peer; gives the octets sent. -/
def send (net : Network) (t : Transport) (packet : List UInt8) : Except Error Nat × Transport :=
  match t.phase with
  | .awaitingPeer => (.error .noPeer, t)
  | .streaming peer =>
    match net.refusal peer packet.length with
    | some errno => (.error (.io (.number errno)), t)
    | none => (.ok packet.length, { t with outbound := t.outbound.push ⟨peer, packet⟩ })

/-! ## Waiting -/

/-- What waiting for the peer comes to. -/
structure Waited where
  result : Except Error Endpoint
  transport : Transport
  log : List Event

/-- Makes sure that the peer is known. A transport that has one answers at once; otherwise the oldest
datagram that has arrived decides, and if there is none the time runs out. -/
def waitForPeer (timeout : Duration) (t : Transport) : Waited :=
  match t.phase with
  | .streaming peer => ⟨.ok peer, t, []⟩
  | .awaitingPeer =>
    if timeout.isZero then ⟨.error (.config .zeroRendezvousTimeout), t, []⟩
    else
      match t.inbound with
      | [] => ⟨.error (.rendezvousTimeout timeout), t, [.noClient timeout.seconds]⟩
      | hello :: rest =>
        ⟨.ok hello.peer, { t with phase := .streaming hello.peer, inbound := rest },
          [.clientConnected (min hello.payload.length helloLimit)]⟩

end Transport
end Net
end PacedRtp

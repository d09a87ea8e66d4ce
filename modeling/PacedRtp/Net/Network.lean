import PacedRtp.Net.Address
import PacedRtp.SystemError

/-!
# Networks

What the network below a transport accepts: which datagrams it refuses, by destination and length,
and which local ports cannot be bound. A datagram that is not refused is delivered at once and
without loss.
-/

namespace PacedRtp
namespace Net

/-- A datagram together with the endpoint at its far end. -/
structure Datagram where
  peer : Endpoint
  payload : List UInt8
  deriving DecidableEq, Repr

structure Network where
  /-- Why a datagram of so many octets to an endpoint is refused. -/
  refusal : Endpoint → Nat → Option Errno
  /-- Why a local port cannot be bound; zero stands for a port of the system's choice. -/
  bindFailure : UInt16 → Option Errno := fun _ => none

namespace Network

/-- Takes every datagram. -/
def lossless : Network where
  refusal _ _ := none

/-- The largest length that a UDP header can state. -/
def udpLengthLimit : Nat := 65535

/-- The octets that fit behind the headers of a UDP datagram. -/
def udpPayloadLimit : Address → Nat
  | .v4 _ => udpLengthLimit - 28
  | .v6 _ => udpLengthLimit - 8

/-- A UDP network with or without a route to its endpoints. A version 4 datagram whose length cannot
be stated and a datagram to port zero are refused before the route is looked up, one that does not
fit behind the headers after that. -/
def udp (hasRoute : Bool) : Network where
  refusal endpoint length :=
    let stated := match endpoint.address with
      | .v4 _ => length ≤ udpLengthLimit
      | .v6 _ => true
    if !stated then some .messageTooLong
    else if endpoint.port = 0 then some .invalidArgument
    else if !hasRoute then some .networkUnreachable
    else if udpPayloadLimit endpoint.address < length then some .messageTooLong
    else none

end Network
end Net
end PacedRtp

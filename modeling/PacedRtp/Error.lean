import PacedRtp.Audio.Track
import PacedRtp.Pcm.Framing
import PacedRtp.Rtp.Packet
import PacedRtp.SystemError
import PacedRtp.Ieee.Decimal

/-!
# Errors of a streaming session

Every way in which preparing or running a stream can fail, with the causes of each. A stream that
the user stops is no error.
-/

namespace PacedRtp

open Ieee

/-! ## Configuration -/

inductive ConfigError
  | framing (error : Pcm.FramingError)
  | pacingBias (bias : Binary64)
  | payloadType (value : UInt8)
  | zeroRendezvousTimeout
  | zeroPort
  | fileNotFound (path : String)
  | unresolvedHost (host reason : String)
  | noAddress (host : String)
  | other (reason : String)
  deriving DecidableEq

def ConfigError.message : ConfigError → String
  | .framing e => e.message
  | .pacingBias bias => s!"pacing bias {bias.text} outside 0.0-1.0"
  | .payloadType value => s!"payload type {value.toNat} does not fit in 7 bits"
  | .zeroRendezvousTimeout => "rendezvous timeout must be non-zero"
  | .zeroPort => "port must be in 1-65535"
  | .fileNotFound path => "audio file not found: " ++ path
  | .unresolvedHost host reason => s!"cannot resolve {host}: {reason}"
  | .noAddress host => "no address for " ++ host
  | .other reason => reason

/-! ## Sessions -/

inductive Error
  | config (cause : ConfigError)
  | decode (cause : Audio.DecodeError)
  /-- No device announced itself in time. -/
  | rendezvousTimeout (timeout : Duration)
  /-- A send failed after `sent` packets were handed over. -/
  | transmission (sent : Nat) (source : SystemError)
  | noPeer
  | io (source : SystemError)
  | parse (cause : Rtp.ParseError)
  /-- No error that is handed on: the program ends with it at once. -/
  | panic (cause : Panic)
  deriving DecidableEq

def Error.message : Error → String
  | .config cause => "configuration error: " ++ cause.message
  | .decode cause => "decode error: " ++ cause.message
  | .rendezvousTimeout timeout => s!"no client connected within {timeout.seconds}s"
  | .transmission sent source => s!"transmission failed after {sent} packets: {source.message}"
  | .noPeer => "no peer address: rendezvous has not completed"
  | .io source => "I/O error: " ++ source.message
  | .parse cause => "RTP parse error: " ++ cause.message
  | .panic cause => cause.message

/-- What the program ends with at once, where an error is fatal. -/
def Error.fatalMessage? : Error → Option String
  | .decode (.container fault) => if fault.isFatal then some fault.message else none
  | .decode (.panic cause) | .panic cause => some cause.message
  | _ => none

end PacedRtp

import PacedRtp.Audio.Downmix
import PacedRtp.Panic
import PacedRtp.Wav.Fault

/-!
# Decoded tracks

What a container reader makes of a file: the rate its header declares, and the packets of the file
in order, each already decoded as far as it can be.
-/

namespace PacedRtp
namespace Audio

inductive DecodeError
  | container (fault : Wav.Fault)
  /-- No track of the file has a known coding. -/
  | noTrack
  | noRate
  /-- The program ends with it at once. -/
  | panic (cause : Panic)
  | other (reason : String)
  deriving DecidableEq, Repr

def DecodeError.message : DecodeError → String
  | .container fault => fault.message
  | .noTrack => "no supported audio tracks"
  | .noRate => "stream does not declare a sample rate"
  | .panic cause => cause.message
  | .other reason => reason

/-- One packet of a file. -/
inductive TrackEvent
  /-- A packet of a track that is not played. -/
  | foreign
  /-- Interleaved sample frames with their rate and channel count. -/
  | samples (rate : UInt32) (channels : Nat) (interleaved : List Sample)
  /-- A damaged packet that can be left out. -/
  | damaged (reason : String)
  /-- A fault that ends the decoding. -/
  | fault (error : DecodeError)
  deriving DecidableEq

/-- How the packets of a file come to an end. -/
inductive TrackEnd
  | complete
  | fault (error : DecodeError)
  deriving DecidableEq, Repr

structure Track where
  /-- The rate that the header declares. -/
  rate : Option UInt32
  events : List TrackEvent
  ending : TrackEnd

end Audio
end PacedRtp

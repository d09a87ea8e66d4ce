import PacedRtp.Audio.Track
import PacedRtp.Audio.Resample
import PacedRtp.Audio.Quantize
import PacedRtp.Event

/-!
# Decoding a track

The packets of a track are mixed down one by one and joined; the result is brought to the target
rate and to 16 bits. Packets of other tracks are passed over, a damaged packet is reported and
passed over, and any other fault ends the decoding without a result. The source rate is that of the
last decoded packet, or else the declared one.
-/

namespace PacedRtp
namespace Audio

/-! ## Collecting the samples -/

/-- What the packets so far have given. -/
structure Mix where
  rate : Option UInt32
  samples : List Sample := []

/-- Mixes the packets into what came before, with the reports on damaged ones. -/
def collect : Mix → List TrackEvent → List Event × Except DecodeError Mix
  | mix, [] => ([], .ok mix)
  | mix, .foreign :: rest => collect mix rest
  | mix, .samples rate channels interleaved :: rest =>
    collect ⟨some rate, downmixInto channels interleaved mix.samples⟩ rest
  | mix, .damaged reason :: rest =>
    let (log, result) := collect mix rest
    (.packetSkipped reason :: log, result)
  | _, .fault e :: _ => ([], .error e)

/-! ## Whole tracks -/

/-- A track as 16-bit samples at the target rate, and the events on the way. -/
def Track.toLinear16 (track : Track) (target : UInt32) :
    List Event × Except DecodeError (List UInt8) :=
  match collect { rate := track.rate } track.events with
  | (log, .error e) => (log, .error e)
  | (log, .ok mix) =>
    match track.ending, mix.rate with
    | .fault e, _ => (log, .error e)
    | .complete, none => (log, .error .noRate)
    | .complete, some source =>
      (log ++ [.decoded source target mix.samples.length],
        ((resample source target mix.samples).map Audio.toLinear16).mapError .panic)

/-- The first playable track of a file as 16-bit samples at the target rate. -/
def decode (tracks : Except Wav.Fault (List Track)) (target : UInt32) :
    List Event × Except DecodeError (List UInt8) :=
  match tracks with
  | .error fault => ([], .error (.container fault))
  | .ok [] => ([], .error .noTrack)
  | .ok (track :: _) => track.toLinear16 target

end Audio
end PacedRtp

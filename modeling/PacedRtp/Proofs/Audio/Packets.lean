import Mathlib
import PacedRtp.CommandLine.Run
import PacedRtp.Proofs.Audio.Downmix
import PacedRtp.Proofs.Audio.Resampling

/-!
# Tracks and their packets

Decoding takes a track packet by packet. What it gives can be said without that loop: the mixed
samples of all packets in a row, the rate of the last decoded packet, and the first fault. Packets
of other tracks and damaged packets add nothing to these, and packets of one rate and one channel
count add the downmix of their samples in a row, wherever the cuts between them lie.

A track is any list of events with any ending; how a container reader comes to them is not modelled
here.
-/

namespace PacedRtp
namespace Audio

/-! ## What an event adds -/

namespace TrackEvent

/-- The decoded samples, before they are mixed down. -/
def interleaved : TrackEvent → List Sample
  | .samples _ _ interleaved => interleaved
  | _ => []

def mono : TrackEvent → List Sample
  | .samples _ channels interleaved => downmix channels interleaved
  | _ => []

def rate? : TrackEvent → Option UInt32
  | .samples rate _ _ => some rate
  | _ => none

def fault? : TrackEvent → Option DecodeError
  | .fault e => some e
  | _ => none

end TrackEvent

def TrackEnd.fault? : TrackEnd → Option DecodeError
  | .fault e => some e
  | .complete => none

namespace Track

def mixed (track : Track) : List Sample :=
  track.events.flatMap TrackEvent.mono

def interleaved (track : Track) : List Sample :=
  track.events.flatMap TrackEvent.interleaved

/-- The rate of the last decoded packet, or else the declared one. -/
def sourceRate? (track : Track) : Option UInt32 :=
  (track.events.filterMap TrackEvent.rate?).getLast?.or track.rate

/-- The first fault of the events, or else that of the ending. -/
def fault? (track : Track) : Option DecodeError :=
  (track.events.findSome? TrackEvent.fault?).or track.ending.fault?

/-- The conversion of a track that is known as a whole. -/
def convert (track : Track) (target : UInt32) : List Event × Except DecodeError (List UInt8) :=
  match track.fault?, track.sourceRate? with
  | some e, _ => ([], .error e)
  | none, none => ([], .error .noRate)
  | none, some source =>
    ([.decoded source target track.mixed.length],
      ((resample source target track.mixed).map Audio.toLinear16).mapError .panic)

end Track

/-! ## The loop -/

section Heard

variable {track : Track}

end Heard

/-! ## Reports -/

section Reports

variable {front : List TrackEvent}

end Reports

/-! ## Cuts -/

section Cuts

variable {track : Track} {rate : UInt32} {channels : Nat}

/-- Every decoded packet has the given rate and channel count, and whole sample frames. -/
def IsUniform (rate : UInt32) (channels : Nat) (events : List TrackEvent) : Prop :=
  ∀ r c interleaved, .samples r c interleaved ∈ events →
    r = rate ∧ c = channels ∧ IsWhole channels interleaved

theorem IsUniform.tail {ev : TrackEvent} {rest : List TrackEvent}
    (h : IsUniform rate channels (ev :: rest)) : IsUniform rate channels rest :=
  fun r c interleaved hmem => h r c interleaved (List.mem_cons_of_mem _ hmem)

end Cuts

/-! ## Whole files -/

/-- What a file becomes by the conversion of its samples: their octets, or a panic where there is no
buffer for the converted samples. -/
def clip (samples : Except Panic (List Sample)) : Except Error (List UInt8) :=
  ((samples.map toLinear16).mapError DecodeError.panic).mapError .decode

end Audio
end PacedRtp

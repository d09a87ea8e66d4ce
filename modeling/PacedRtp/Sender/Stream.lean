import PacedRtp.Net.Transport
import PacedRtp.Sender.Run

/-!
# Streaming a clip

A clip is framed, the peer is found, and the frames are sent as one stream with a numbering of its
own. A clip that cannot be framed is refused before the transport is touched, and no stream is
started unless the peer is found. A clip whose frames or packets are too long for a buffer is framed
all the same, and ends the stream at its first packet.
-/

namespace PacedRtp
namespace Sender

open Net

/-- A transport as a destination of packets. It never raises the stop flag. -/
def transportSink (net : Network) : Sink Transport where
  send t packet :=
    let (result, t) := t.send net packet
    { state := t, result }

/-- Everything the streaming of a clip leaves behind. -/
structure Session where
  outcome : Except Error Summary
  transport : Transport
  stopped : Bool
  log : List Event

/-! ## Stages of a session -/

/-- The playback time of a clip. It is in range for every clip that fits in memory. -/
def clipDuration (format : Pcm.Format) (pcm : List UInt8) : Duration :=
  match format.durationOf pcm.length with
  | .ok d => d
  | .error _ => .zero

/-- The events once a clip is framed. -/
def loadedEvents (framing : Pcm.Framing) (pcm : List UInt8) : List Event :=
  let format := framing.format
  [.framingCreated framing,
    .audioLoaded format.sampleRate format.channels format.bits (clipDuration format pcm)]

/-- The numbering of a new stream: the configured source identifier, or else the one drawn. -/
def numbering (s : Sender) (framing : Pcm.Framing) (drawn : UInt32) : Rtp.Numbering where
  ssrc := s.config.ssrc.getD drawn
  payloadType := s.config.payloadType
  samplesPerFrame := framing.samplesPerFrame

/-- The events once the peer is known. -/
def startEvents (framing : Pcm.Framing) (n : Rtp.Numbering) : List Event :=
  [.numberingCreated n.payloadType n.samplesPerFrame n.ssrc, .streaming framing]

/-- The frames that a run takes from an iterator. They and the packets made of them are buffers of
one length, so the first of them is a panic or none is; with the stop flag up no packet is made. -/
def pull (s : Sender) (fs : Pcm.Frames) : Except Panic (List Pcm.Frame) := do
  let frames ← fs.collect
  if !s.stopped && !frames.isEmpty then
    reserve (Rtp.headerLength + fs.frameSize)
  return frames

/-! ## Sessions -/

/-- Streams a clip over a transport; `drawn` is the source identifier to use if none is set. -/
def stream (s : Sender) (net : Network) (drawn : UInt32) (format : Pcm.Format) (pcm : List UInt8)
    (t : Transport) : Session :=
  match Pcm.Framing.new format s.config.frameMs with
  | .error e => ⟨.error (.config (.framing e)), t, s.stopped, []⟩
  | .ok framing =>
    let loaded := loadedEvents framing pcm
    let waited := t.waitForPeer s.config.rendezvousTimeout
    match waited.result with
    | .error e => ⟨.error e, waited.transport, s.stopped, loaded ++ waited.log⟩
    | .ok _ =>
      let n := s.numbering framing drawn
      let started := loaded ++ waited.log ++ startEvents framing n
      match s.pull (framing.frames pcm) with
      | .error p => ⟨.error (.panic p), waited.transport, s.stopped, started⟩
      | .ok frames =>
        let run := s.run (transportSink net) frames n waited.transport
        ⟨run.outcome, run.sink, run.stopped, started ++ run.log⟩

end Sender
end PacedRtp

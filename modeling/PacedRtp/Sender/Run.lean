import PacedRtp.Event
import PacedRtp.Sender.Config

/-!
# The send loop

A run takes frames one at a time. Before each it looks at the stop flag; then it writes the packet,
hands it to a sink, moves the numbering past it, and counts it if the sink took it. The first send
that fails ends the run, and nothing is repeated. A frame that was taken when the flag was seen is
not sent.

`Loop` holds what a run knows between two packets and what it does at each of these points; `run`
drives it over any sink with a state.
-/

namespace PacedRtp
namespace Sender

open Ieee

/-! ## Results -/

structure Summary where
  packetsSent : Nat
  /-- Audio bytes, without headers. -/
  payloadBytes : Nat
  /-- Whether the stop flag ended the run early. -/
  cancelled : Bool
  deriving DecidableEq, Repr

/-- Kibibytes of audio a second, in binary64; zero if no time has passed. -/
def Summary.dataRate (s : Summary) (elapsed : Duration) : Binary64 :=
  let seconds := elapsed.toBinary64
  if seconds.isZero then Number.zero false
  else Number.ofNat s.payloadBytes / seconds / Number.ofNat 1024

/-! ## Between two packets -/

structure Loop where
  config : Config
  numbering : Rtp.Numbering
  packetsSent : Nat := 0
  payloadBytes : Nat := 0
  deriving DecidableEq

namespace Loop

def packet (l : Loop) (frame : Pcm.Frame) : List UInt8 :=
  (l.numbering.header frame.isFirst).packet frame.payload

/-- A packet was handed over, whether or not the sink took it. -/
def handedOver (l : Loop) : Loop :=
  { l with numbering := l.numbering.advance }

/-- The sink took the packet of `frame`. -/
def counted (l : Loop) (frame : Pcm.Frame) : Loop :=
  { l with
    packetsSent := l.packetsSent + 1
    payloadBytes := l.payloadBytes + frame.payload.length }

/-- The report that is due after the packets sent so far, if one is. -/
def report (l : Loop) : List Event :=
  if l.config.reportsAt l.packetsSent then
    [.progress l.packetsSent (l.config.audioSeconds l.packetsSent)]
  else []

/-- How a failed send ends the run: a failure of the system tells how many packets came before. -/
def failure (l : Loop) : Error → Error
  | .io source => .transmission l.packetsSent source
  | e => e

def summary (l : Loop) (cancelled : Bool) : Summary :=
  ⟨l.packetsSent, l.payloadBytes, cancelled⟩

/-- The events at the end of a run in which no send failed. -/
def closing (l : Loop) (cancelled : Bool) : List Event :=
  (if cancelled then [.stoppedByUser l.packetsSent] else []) ++ [.complete l.packetsSent]

end Loop

/-! ## Sinks -/

/-- A sink's answer to one packet. -/
structure Reply (σ : Type) where
  state : σ
  /-- Octets taken, or why the packet was not. -/
  result : Except Error Nat
  /-- Whether the stop flag was raised meanwhile. -/
  stop : Bool := false

/-- A destination for packets with a state of type `σ`. -/
structure Sink (σ : Type) where
  send : σ → List UInt8 → Reply σ

/-! ## Runs -/

/-- Everything a run leaves behind. -/
structure Run (σ : Type) where
  outcome : Except Error Summary
  numbering : Rtp.Numbering
  sink : σ
  stopped : Bool
  /-- The frames that were not taken. -/
  unread : List Pcm.Frame
  log : List Event

def Run.after {σ : Type} (events : List Event) (r : Run σ) : Run σ :=
  { r with log := events ++ r.log }

def Loop.run {σ : Type} (sink : Sink σ) : List Pcm.Frame → Loop → σ → Bool → Run σ
  | [], l, state, stopped =>
    ⟨.ok (l.summary false), l.numbering, state, stopped, [], l.closing false⟩
  | frame :: rest, l, state, stopped =>
    if stopped then
      ⟨.ok (l.summary true), l.numbering, state, stopped, rest, l.closing true⟩
    else
      let reply := sink.send state (l.packet frame)
      let l := l.handedOver
      match reply.result with
      | .error e =>
        ⟨.error (l.failure e), l.numbering, reply.state, reply.stop, rest,
          [.sendFailed l.packetsSent e]⟩
      | .ok _ =>
        let l := l.counted frame
        (Loop.run sink rest l reply.state reply.stop).after l.report

/-- Sends the frames through the sink, numbered from `numbering` on. -/
def run {σ : Type} (s : Sender) (sink : Sink σ) (frames : List Pcm.Frame)
    (numbering : Rtp.Numbering) (state : σ) : Run σ :=
  Loop.run sink frames { config := s.config, numbering } state s.stopped

end Sender
end PacedRtp

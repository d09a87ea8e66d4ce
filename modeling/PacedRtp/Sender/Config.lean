import PacedRtp.Error
import PacedRtp.Rtp.Numbering

/-!
# Settings of a sender

Settings are checked once, in a fixed order, when a sender is made from them; the first that is out
of range is reported. The pause between packets is a fraction, the pacing bias, of the duration of a
frame.
-/

namespace PacedRtp
namespace Sender

open Ieee

/-- The share of a frame's duration that passes between packets: 0.95. -/
def defaultBias : Binary64 := Number.ofRatio 19 20

def defaultTimeout : Duration := .ofSeconds 60

def defaultProgressInterval : UInt64 := 50

structure Config where
  frameMs : UInt32 := Pcm.defaultFrameMs
  /-- Zero sends without a pause. -/
  pacingBias : Binary64 := defaultBias
  payloadType : UInt8 := Rtp.linearAudio
  /-- The source identifier; a random one is drawn for every session if there is none. -/
  ssrc : Option UInt32 := none
  /-- How long to wait for a device to announce itself. -/
  rendezvousTimeout : Duration := defaultTimeout
  /-- Packets between progress reports; zero for no reports. -/
  progressInterval : UInt64 := defaultProgressInterval
  deriving DecidableEq

namespace Config

/-! ## Validity -/

def largestPayloadType : UInt8 := 0x7f

def check (c : Config) : Except ConfigError Unit :=
  if c.frameMs = 0 then .error (.framing .zeroDuration)
  else if !((Number.zero false).le c.pacingBias && c.pacingBias.le (Number.ofNat 1)) then
    .error (.pacingBias c.pacingBias)
  else if largestPayloadType < c.payloadType then .error (.payloadType c.payloadType)
  else if c.rendezvousTimeout.isZero then .error .zeroRendezvousTimeout
  else .ok ()

/-! ## Times -/

/-- Milliseconds over a thousand times the bias, in binary64. -/
def pacingSeconds (c : Config) : Binary64 :=
  Number.ofNat c.frameMs.toNat / Number.ofNat 1000 * c.pacingBias

/-- The pause between two packets. -/
def pacingInterval (c : Config) : Except Duration.ConversionError Duration :=
  Duration.ofBinary64 c.pacingSeconds

/-- The audio in a number of packets, in seconds: the milliseconds over a thousand, in binary64. -/
def audioSeconds (c : Config) (packets : Nat) : Binary64 :=
  Number.ofNat packets * Number.ofNat c.frameMs.toNat / Number.ofNat 1000

/-- Whether a report is due after so many packets. -/
def reportsAt (c : Config) (packets : Nat) : Bool :=
  0 < c.progressInterval && packets % c.progressInterval.toNat == 0

end Config
end Sender

/-! ## Senders -/

/-- A sender with checked settings. Its stop flag, once raised, stays raised. -/
structure Sender where
  config : Sender.Config
  valid : config.check = .ok ()
  stopped : Bool := false

namespace Sender

def new (config : Config) : Except ConfigError Sender :=
  match h : config.check with
  | .ok () => .ok { config, valid := h }
  | .error e => .error e

/-- Asks for the end of the current run and of every later one. -/
def stop (s : Sender) : Sender :=
  { s with stopped := true }

end Sender
end PacedRtp

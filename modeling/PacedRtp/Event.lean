import PacedRtp.Error

/-!
# Events of a streaming session

What a session reports while it runs, in the order in which it happens.
-/

namespace PacedRtp

open Ieee

inductive Level
  | debug
  | info
  | warn
  deriving DecidableEq, Repr

def Level.name : Level → String
  | .debug => "DEBUG"
  | .info => "INFO"
  | .warn => "WARN"

inductive Event
  | framingCreated (framing : Pcm.Framing)
  | numberingCreated (payloadType : UInt8) (samplesPerFrame ssrc : UInt32)
  | directBound
  | listening
  | noClient (timeoutSeconds : Nat)
  | clientConnected (helloLength : Nat)
  | audioLoaded (sampleRate : UInt32) (channels bits : UInt16) (duration : Duration)
  | streaming (framing : Pcm.Framing)
  | sendFailed (packetsSent : Nat) (error : Error)
  | progress (packetsSent : Nat) (audioSeconds : Binary64)
  | stoppedByUser (packetsSent : Nat)
  | complete (packetsSent : Nat)
  | decoded (sourceRate targetRate : UInt32) (samples : Nat)
  | packetSkipped (reason : String)
  | loadingFile
  | connectDevice
  | waitingForClient (timeoutSeconds : Nat)
  deriving DecidableEq

def Event.level : Event → Level
  | .framingCreated _ | .numberingCreated .. | .directBound | .decoded .. => .debug
  | .noClient _ | .sendFailed .. | .stoppedByUser _ | .packetSkipped _ => .warn
  | _ => .info

def Event.message : Event → String
  | .framingCreated _ => "PCM packetizer created"
  | .numberingCreated .. => "RTP stream state created"
  | .directBound => "direct UDP transport bound"
  | .listening => "RTP server listening for client hello"
  | .noClient _ => "no client connected"
  | .clientConnected _ => "client connected"
  | .audioLoaded .. => "audio loaded"
  | .streaming _ => "streaming to client"
  | .sendFailed .. => "send failed, stopping stream"
  | .progress .. => "progress"
  | .stoppedByUser _ => "streaming stopped by user"
  | .complete _ => "streaming complete"
  | .decoded .. => "decoded audio"
  | .packetSkipped _ => "skipping undecodable packet"
  | .loadingFile => "loading audio file"
  | .connectDevice => "connect the device"
  | .waitingForClient _ => "waiting for client"

end PacedRtp

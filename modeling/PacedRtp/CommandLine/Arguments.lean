import PacedRtp.Net.AddressText
import PacedRtp.Net.Transport
import PacedRtp.Sender.Config

/-!
# Arguments of a run

The arguments of one run, and the peer and the sender settings that they stand for. A target that is
an address literal stands for itself; any other is looked up.
-/

namespace PacedRtp
namespace CommandLine

/-- The values of the options. -/
structure Settings where
  target : Option String := none
  port : UInt16 := Net.defaultPort
  sampleRate : UInt32 := Pcm.defaultRate
  frameMs : UInt32 := Pcm.defaultFrameMs
  ssrc : Option UInt32 := none
  /-- In seconds. -/
  timeout : UInt64 := 60
  deriving DecidableEq

structure Arguments extends Settings where
  file : String
  deriving DecidableEq

/-! ## Hosts -/

/-- Finds the addresses of a host by name, or says why it cannot. -/
abbrev LookUp := String → Except String (List Net.Address)

/-- The addresses of a host. A name with a NUL in it is not looked up. -/
def hostAddresses (lookUp : LookUp) (host : String) : Except String (List Net.Address) :=
  match Net.Address.ofText? host with
  | some address => .ok [address]
  | none =>
    if '\x00' ∈ host.toList then .error "file name contained an unexpected NUL byte"
    else lookUp host

/-! ## What the arguments stand for -/

namespace Arguments

/-- How the peer is found: at the target if there is one, and else by waiting for it. -/
def discovery (lookUp : LookUp) (a : Arguments) : Except ConfigError Net.Discovery :=
  if a.port = 0 then .error .zeroPort
  else
    match a.target with
    | none => .ok (.rendezvous a.port)
    | some host =>
      match hostAddresses lookUp host with
      | .error reason => .error (.unresolvedHost host reason)
      | .ok [] => .error (.noAddress host)
      | .ok (address :: _) => .ok (.direct { address, port := a.port })

def config (a : Arguments) : Sender.Config where
  frameMs := a.frameMs
  ssrc := a.ssrc
  rendezvousTimeout := .ofSeconds a.timeout

end Arguments
end CommandLine
end PacedRtp

import PacedRtp.CommandLine.Host
import PacedRtp.CommandLine.Transcript
import PacedRtp.Wav.File
import Std.Async.DNS
import Std.Async.Signal
import Std.Async.Timer
import Std.Async.UDP

/-!
# The program

Reads the arguments, and runs them with real files, sockets, clocks and signals. What is done and in
which order is decided in the library; `systemHost` carries out one step at a time.
-/

namespace PacedRtp
namespace CommandLine

open Std.Async
open Ieee (Number)

/-! ## Output -/

/-- Prints the events that concern the user. -/
def say (events : List Event) : IO Unit :=
  for e in events do
    if e.level ≠ .debug then IO.println s!"{e.level.name} {e.message}"

/-- Prints a transcript and gives its exit status. -/
def finish (t : Transcript) : IO UInt32 := do
  t.output.forM IO.println
  t.errors.forM IO.eprintln
  return t.status.toUInt32

/-! ## Errors and files -/

def systemError : IO.Error → SystemError
  | .alreadyExists _ code _ | .otherError code _ | .resourceBusy code _
  | .resourceVanished code _ | .unsupportedOperation code _ | .hardwareFault code _
  | .unsatisfiedConstraints code _ | .illegalOperation code _ | .protocolError code _
  | .timeExpired code _ | .interrupted _ code _ | .noFileOrDirectory _ code _
  | .invalidArgument _ code _ | .permissionDenied _ code _ | .resourceExhausted _ code _
  | .inappropriateType _ code _ | .noSuchThing _ code _ => .number ⟨code.toNat⟩
  | e => .text (toString e)

def audioFile (path : String) : IO AudioFile := do
  match ← (IO.FS.readBinFile path).toBaseIO with
  | .ok bytes => return .readable (Wav.tracks bytes.toList)
  | .error (.permissionDenied _ code _) => return .unreadable (.number ⟨code.toNat⟩)
  | .error _ => return .missing

/-! ## Addresses -/

def ofSocketAddress : Std.Net.IPAddr → Net.Address
  | .v4 ip => .v4 ⟨ip.octets[0], ip.octets[1], ip.octets[2], ip.octets[3]⟩
  | .v6 ip => .v6 ⟨ip.segments.toList, by simp⟩

def ofSocketEndpoint (e : Std.Net.SocketAddress) : Net.Endpoint where
  address := ofSocketAddress e.ipAddr
  port := e.port

def toSocketEndpoint (e : Net.Endpoint) : Std.Net.SocketAddress :=
  match e.address with
  | .v4 ip => .v4 ⟨.ofParts ip.a ip.b ip.c ip.d, e.port⟩
  | .v6 ip => .v6 ⟨⟨⟨ip.groups.toArray, by simpa using ip.length_groups⟩⟩, e.port⟩

/-- Asks the name server about a host. -/
def lookUpHost (host : String) : IO (Except String (List Net.Address)) := do
  match ← (DNS.getAddrInfo host "").block.toBaseIO with
  | .ok found => return .ok (found.toList.map ofSocketAddress)
  | .error e => return .error s!"failed to lookup address information: {e}"

/-! ## Sockets -/

def anyAddress : Net.Address → Net.Address
  | .v4 _ => .v4 ⟨0, 0, 0, 0⟩
  | .v6 _ => .v6 ⟨List.replicate 8 0, rfl⟩

/-- The local endpoint of a transport: the port that it listens on, or one of the system's choice. -/
def localEndpoint : Net.Discovery → Net.Endpoint
  | .direct peer => { address := anyAddress peer.address, port := 0 }
  | .rendezvous port => { address := .v4 ⟨0, 0, 0, 0⟩, port }

def bindSocket (mode : Net.Discovery) : IO (Except SystemError UDP.Socket) := do
  let bound ← (do
    let socket ← UDP.Socket.mk
    socket.bind (toSocketEndpoint (localEndpoint mode))
    return socket : IO UDP.Socket).toBaseIO
  return bound.mapError systemError

/-- Whole milliseconds that are no shorter. -/
def milliseconds (d : Duration) : Nat :=
  (d.nanoseconds + 999999) / 1000000

/-- The longest time that a timer is set to, in milliseconds. -/
def longestPause : Nat := 0x4000000000000000

inductive Waking
  | hello (datagram : Net.Datagram)
  | timedOut
  | interrupted

/-- Waits for a datagram, the end of the time or an interrupt. -/
def awaitHello (socket : UDP.Socket) (timeout : Duration) : Async Waking := do
  let interrupt ← Signal.Waiter.mk .sigint false
  let pause ← Selector.sleep (.ofNat (min (milliseconds timeout) longestPause))
  Selectable.one #[
    .case (socket.recvSelector Net.helloLimit.toUInt64) fun (bytes, peer) =>
      return match peer with
        | some peer => .hello ⟨ofSocketEndpoint peer, bytes.toList⟩
        | none => .timedOut,
    .case interrupt.selector fun _ => return .interrupted,
    .case pause fun _ => return .timedOut]

/-! ## The system as a host -/

/-- What a run holds of the system. -/
structure Station where
  socket : Option UDP.Socket := none
  transport : Net.Transport := { phase := .awaitingPeer }
  /-- The interrupt that stops the stream, once streaming has begun. -/
  interrupt : Option (AsyncTask Int) := none
  /-- When streaming began. -/
  startNanos : Nat := 0

/-- The exit status after an interrupt that comes before streaming. -/
def interruptedStatus : UInt32 := 130

/-- Steps on the system. An interrupt before streaming ends the run with an exit status. -/
abbrev Live := StateT Station (ExceptT UInt32 IO)

def openSocket (mode : Net.Discovery) : Live (Except Error Unit) := do
  -- The port is checked before the system is asked to bind one.
  let (log, opened) := Net.Transport.open .lossless mode
  match opened with
  | .error e => return .error e
  | .ok transport =>
    match ← (bindSocket mode : IO _) with
    | .error e => return .error (.io e)
    | .ok socket =>
      say log
      modify ({ · with socket := some socket, transport })
      return .ok ()

/-- Waits on the socket for the first datagram, if the peer is not known. -/
def receiveHello (timeout : Duration) : Live Unit := do
  let station ← get
  if let (some socket, none) := (station.socket, station.transport.peer?) then
    match ← ((awaitHello socket timeout).block : IO _) with
    | .hello d => set { station with transport := station.transport.arrive d }
    | .timedOut => return
    | .interrupted => throw interruptedStatus

def findPeer (timeout : Duration) : Live (Except Error Net.Endpoint) := do
  receiveHello timeout
  let waited := (← get).transport.waitForPeer timeout
  modify ({ · with transport := waited.transport })
  say waited.log
  return waited.result

def sendToPeer (packet : List UInt8) : Live (Except Error Nat) := do
  let station ← get
  match station.socket, station.transport.peer? with
  | some socket, some peer =>
    let sent := socket.send (ByteArray.mk packet.toArray) (some (toSocketEndpoint peer))
    match ← (sent.block.toBaseIO : IO _) with
    | .ok () => return .ok packet.length
    | .error e => return .error (.io (systemError e))
  | _, _ => return .error .noPeer

def beginStreaming : Live Unit := do
  IO.println streamingNotice
  let interrupt ← ((do (← Signal.Waiter.mk .sigint false).wait) : IO _)
  let startNanos ← IO.monoNanosNow
  modify ({ · with interrupt := some interrupt, startNanos })

def systemHost : Host Live where
  stopped := do
    match (← get).interrupt with
    | some interrupt => IO.hasFinished interrupt
    | none => return false
  send := sendToPeer
  report := fun events => say events
  pause := fun length => IO.sleep (milliseconds length).toUInt32
  waitForPeer := findPeer
  drawn := return .ofNat (← IO.rand 0 (UInt32.size - 1))
  audioFile := fun path => audioFile path
  lookUp := fun host => lookUpHost host
  openTransport := openSocket
  announce := beginStreaming

/-! ## Runs -/

def runArguments (a : Arguments) : IO UInt32 := do
  match ← ((drive systemHost a).run {}).run with
  | .error status => return status
  | .ok (result, station) =>
    let nanos := (← IO.monoNanosNow) - station.startNanos
    let elapsed := (Duration.ofNanoseconds? nanos).getD .zero
    let speed := match result with
      | .ok s => s.dataRate elapsed
      | .error _ => Number.zero false
    finish (.ofResult result s!"{elapsed.toBinary64.fixed 2}s" s!"{speed.fixed 2} KB/s")

def start (words : List String) : IO UInt32 :=
  match parse words with
  | .error e => finish (.ofUsageError e)
  | .ok .help => finish .ofHelp
  | .ok (.stream a) => runArguments a

end CommandLine
end PacedRtp

def main (words : List String) : IO UInt32 :=
  PacedRtp.CommandLine.start words

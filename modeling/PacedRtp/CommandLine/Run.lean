import PacedRtp.CommandLine.Arguments
import PacedRtp.Sender.Stream
import PacedRtp.Audio.Decode

/-!
# Runs of the program

A run checks its file, finds out where the peer is, makes the sender and decodes the file before it
touches the network. Then it opens the transport, waits for the peer and streams. The first stage
that fails ends it.
-/

namespace PacedRtp
namespace CommandLine

/-! ## Surroundings -/

/-- An audio file as a run finds it. -/
inductive AudioFile
  /-- There is no regular file. -/
  | missing
  | unreadable (error : SystemError)
  | readable (tracks : Except Wav.Fault (List Audio.Track))

/-- The file as 16-bit samples at a rate, and the events on the way. -/
def AudioFile.decode (file : AudioFile) (rate : UInt32) :
    List Event × Except Error (List UInt8) :=
  match file with
  | .missing => ([], .error (.io (.number .noSuchFile)))
  | .unreadable e => ([], .error (.io e))
  | .readable tracks =>
    let (log, result) := Audio.decode tracks rate
    (log, result.mapError .decode)

/-- Everything outside the program that a run depends on. -/
structure Surroundings where
  /-- The file that the arguments name. -/
  file : AudioFile
  lookUp : LookUp
  network : Net.Network
  /-- The datagrams that arrive while the run waits for its peer. -/
  arrivals : List Net.Datagram := []
  /-- The source identifier that is drawn if none is set. -/
  drawn : UInt32 := 0

/-! ## Before the network -/

/-- A run that is ready for the network. -/
structure Job where
  sender : Sender
  discovery : Net.Discovery
  clip : List UInt8

def Job.timeout (j : Job) : Duration :=
  j.sender.config.rendezvousTimeout

/-- The file, the peer, the sender and the clip, in this order. -/
def prepare (lookUp : LookUp) (file : AudioFile) (a : Arguments) :
    List Event × Except Error Job :=
  match file with
  | .missing => ([], .error (.config (.fileNotFound a.file)))
  | file =>
    match a.discovery lookUp with
    | .error e => ([], .error (.config e))
    | .ok discovery =>
      match Sender.new a.config with
      | .error e => ([], .error (.config e))
      | .ok sender =>
        let (log, decoded) := file.decode a.sampleRate
        (.loadingFile :: log, decoded.map fun clip => { sender, discovery, clip })

/-- What the user is told before the wait for the peer; nothing if the peer is given. -/
def Job.waitingEvents (j : Job) : List Event :=
  match j.discovery with
  | .direct _ => []
  | .rendezvous _ => [.connectDevice, .waitingForClient j.timeout.seconds]

/-! ## Whole runs -/

/-- Everything that a run leaves behind. -/
structure Outcome where
  result : Except Error Sender.Summary
  /-- The transport, if it was opened. -/
  transport : Option Net.Transport := none
  /-- Whether the peer was found, so that streaming could begin. -/
  streaming : Bool := false
  log : List Event

def Outcome.after (events : List Event) (o : Outcome) : Outcome :=
  { o with log := events ++ o.log }

/-- Waits for the peer, and streams. -/
def Job.stream (w : Surroundings) (rate : UInt32) (j : Job) (t : Net.Transport) : Outcome :=
  let waited := (w.arrivals.foldl Net.Transport.arrive t).waitForPeer j.timeout
  match waited.result with
  | .error e => { result := .error e, transport := some waited.transport, log := waited.log }
  | .ok _ =>
    let session := j.sender.stream w.network w.drawn (.mono16 rate) j.clip waited.transport
    { result := session.outcome
      transport := some session.transport
      streaming := true
      log := waited.log ++ session.log }

def run (w : Surroundings) (a : Arguments) : Outcome :=
  match prepare w.lookUp w.file a with
  | (log, .error e) => { result := .error e, log }
  | (log, .ok job) =>
    match Net.Transport.open w.network job.discovery with
    | (opened, .error e) => { result := .error e, log := log ++ opened }
    | (opened, .ok t) =>
      (job.stream w a.sampleRate t).after (log ++ opened ++ job.waitingEvents)

end CommandLine
end PacedRtp

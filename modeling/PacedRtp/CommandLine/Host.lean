import PacedRtp.CommandLine.Run
import PacedRtp.Sender.Host

/-!
# Runs on a host

A run of the program as steps that a host carries out, in the order of `run`: besides what a session
needs, the host reads files, looks up names, opens the transport and speaks to the user.
-/

namespace PacedRtp
namespace CommandLine

variable {m : Type → Type}

/-- What a run needs. -/
structure Host (m : Type → Type) extends Sender.Host m where
  audioFile : String → m AudioFile
  /-- The addresses of a host by name, or why there are none. -/
  lookUp : String → m (Except String (List Net.Address))
  openTransport : Net.Discovery → m (Except Error Unit)
  /-- Tells the user that streaming begins. -/
  announce : m Unit

/-- What the name of the target stands for, if there is a target. -/
def Host.lookUpTarget [Monad m] (h : Host m) (a : Arguments) : m LookUp :=
  match a.target with
  | none => return fun _ => .ok []
  | some host => do
    let found ← h.lookUp host
    return fun _ => found

/-- Waits for the peer, and streams. -/
def Job.drive [Monad m] (h : Host m) (rate : UInt32) (j : Job) :
    m (Except Error Sender.Summary) := do
  match ← h.waitForPeer j.timeout with
  | .error e => return .error e
  | .ok _ =>
    h.announce
    j.sender.drive h.toHost (.mono16 rate) j.clip

def drive [Monad m] (h : Host m) (a : Arguments) : m (Except Error Sender.Summary) := do
  let file ← h.audioFile a.file
  let lookUp ← h.lookUpTarget a
  let (log, prepared) := prepare lookUp file a
  h.report log
  match prepared with
  | .error e => return .error e
  | .ok job =>
    match ← h.openTransport job.discovery with
    | .error e => return .error e
    | .ok () =>
      h.report job.waitingEvents
      job.drive h a.sampleRate

end CommandLine
end PacedRtp

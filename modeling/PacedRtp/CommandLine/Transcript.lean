import PacedRtp.CommandLine.Parse
import PacedRtp.CommandLine.Run

/-!
# What the program prints

The lines on standard output and standard error and the exit status, for each way in which the
program can end. Events are not part of it.
-/

namespace PacedRtp
namespace CommandLine

structure Transcript where
  status : UInt8
  output : List String := []
  errors : List String := []
  deriving DecidableEq, Repr

/-! ## Lines -/

/-- Printed when the peer is known and streaming begins. -/
def streamingNotice : String := "Streaming... press Ctrl+C to stop"

/-- The line after a stream, with the texts of its time and its data rate. -/
def summaryLine (s : Sender.Summary) (time rate : String) : String :=
  let ending := if s.cancelled then ", stopped by user" else ""
  s!"Sent {s.packetsSent} packets in {time} ({rate}){ending}"

/-! ## Endings -/

def Transcript.ofUsageError (e : UsageError) : Transcript where
  status := 2
  errors := [e.message, "", "For more information, try '--help'."]

def Transcript.ofHelp : Transcript where
  status := 0
  output := usage

/-- The exit status after a fatal error. -/
def fatalStatus : UInt8 := 101

/-- A fatal error leaves a line free before its message. -/
def Transcript.ofError (e : Error) : Transcript :=
  match e.fatalMessage? with
  | some message => { status := fatalStatus, errors := ["", message] }
  | none => { status := 1, errors := ["Error: " ++ e.message] }

def Transcript.ofResult (result : Except Error Sender.Summary) (time rate : String) :
    Transcript :=
  match result with
  | .ok s => { status := 0, output := [summaryLine s time rate] }
  | .error e => .ofError e

def Transcript.ofOutcome (o : Outcome) (time rate : String) : Transcript :=
  let closing := Transcript.ofResult o.result time rate
  { closing with output := (if o.streaming then [streamingNotice] else []) ++ closing.output }

end CommandLine
end PacedRtp

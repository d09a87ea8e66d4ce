import PacedRtp.Net.Transport
import PacedRtp.Sender.Config

/-!
# Settings on the command line

The options that take a value, with their spellings and their descriptions, and the usage text,
which lists them in one column and what they do in the next.
-/

namespace PacedRtp
namespace CommandLine

def programName : String := "rtp-audio-stream"

def programPurpose : String := "Stream an audio file to a device as paced RTP (L16 mono)"

/-- An option that takes a value. -/
inductive Setting
  | target
  | port
  | sampleRate
  | frameMs
  | ssrc
  | timeout
  deriving DecidableEq, Repr

namespace Setting

def all : List Setting := [.target, .port, .sampleRate, .frameMs, .ssrc, .timeout]

/-! ## Spellings -/

/-- The name behind two hyphens. -/
def name : Setting → String
  | .target => "target"
  | .port => "port"
  | .sampleRate => "sample-rate"
  | .frameMs => "frame-ms"
  | .ssrc => "ssrc"
  | .timeout => "timeout"

/-- The letter behind one hyphen. -/
def letter? : Setting → Option Char
  | .target => some 't'
  | .port => some 'p'
  | _ => none

/-- What stands for the value in a description. -/
def placeholder : Setting → String
  | .target => "TARGET"
  | .port => "PORT"
  | .sampleRate => "SAMPLE_RATE"
  | .frameMs => "FRAME_MS"
  | .ssrc => "SSRC"
  | .timeout => "TIMEOUT"

def spelling (s : Setting) : String :=
  s!"--{s.name} <{s.placeholder}>"

def ofName? (name : String) : Option Setting :=
  all.find? (·.name == name)

def ofLetter? (letter : Char) : Option Setting :=
  all.find? (·.letter? == some letter)

/-! ## Descriptions -/

/-- The number that an omitted setting stands for. -/
def default? : Setting → Option Nat
  | .port => some Net.defaultPort.toNat
  | .sampleRate => some Pcm.defaultRate.toNat
  | .frameMs => some Pcm.defaultFrameMs.toNat
  | .timeout => some Sender.defaultTimeout.seconds
  | .target | .ssrc => none

def purpose : Setting → String
  | .target => "Device address. Without it, wait for the device's hello on --port"
  | .port => "UDP port: listen port for rendezvous, destination port with --target"
  | .sampleRate => "Sample rate the audio is resampled to"
  | .frameMs => "Audio per packet in milliseconds"
  | .ssrc => "Fixed SSRC, decimal or 0x-prefixed hex (random when omitted)"
  | .timeout => "Seconds to wait for the device's hello datagram"

def description (s : Setting) : String :=
  match s.default? with
  | some n => s!"{s.purpose} [default: {n}]"
  | none => s.purpose

end Setting

/-! ## Usage -/

/-- The name of the one positional argument. -/
def filePlaceholder : String := "<FILE>"

/-- An option as it is listed: letter, spelling, description. -/
structure Row where
  letter? : Option Char
  spelling : String
  description : String

def helpName : String := "help"

def helpLetter : Char := 'h'

def helpRow : Row := ⟨some helpLetter, "--" ++ helpName, "Print help"⟩

def rows : List Row :=
  Setting.all.map (fun s => ⟨s.letter?, s.spelling, s.description⟩) ++ [helpRow]

/-- The width of the widest spelling. -/
def spellingWidth : Nat :=
  rows.foldl (fun width row => max width row.spelling.length) 0

def Row.line (row : Row) : String :=
  let letter := match row.letter? with
    | some c => s!"-{c}, "
    | none => "    "
  let padding := String.ofList (List.replicate (spellingWidth - row.spelling.length) ' ')
  s!"  {letter}{row.spelling}{padding}  {row.description}"

def usage : List String :=
  [programPurpose, "", s!"Usage: {programName} [OPTIONS] {filePlaceholder}", "", "Arguments:",
    s!"  {filePlaceholder}  Audio file to stream (wav, mp3, flac, aac, ogg)", "", "Options:"] ++
    rows.map Row.line

end CommandLine
end PacedRtp

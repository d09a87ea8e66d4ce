import PacedRtp.CommandLine.Arguments
import PacedRtp.CommandLine.Setting
import PacedRtp.Text.Lines
import PacedRtp.Text.Ssrc
import PacedRtp.Text.Terminal

/-!
# Reading the command line

Words are read from the left. A word that begins with a hyphen is an option, and two hyphens alone
end the options; any other word is the value of the option before it, if that wants one, and else
the file. An option's value may also stand in its own word, behind an equals sign or, for a letter,
directly behind it.

A value is looked at only when the next option or file follows it or the line ends, so that an
unknown option is reported before a bad value in front of it.
-/

namespace PacedRtp
namespace CommandLine

open Text

/-! ## Faults -/

/-- What takes a value. -/
inductive Operand
  | file
  | setting (setting : Setting)
  deriving DecidableEq, Repr

def Operand.spelling : Operand → String
  | .file => filePlaceholder
  | .setting s => s.spelling

inductive ValueError
  | numeral (cause : NumeralError)
  | outOfRange (value : Int) (most : Nat)
  | ssrc (cause : Ssrc.ParseError)
  deriving DecidableEq, Repr

def ValueError.message : ValueError → String
  | .numeral cause => cause.message
  | .outOfRange value most => s!"{value} is not in 0..={most}"
  | .ssrc cause => cause.message

inductive UsageError
  | invalidValue (setting : Setting) (value : String) (cause : ValueError)
  | unknownArgument (argument : String)
  | missingValue (operand : Operand)
  | repeated (setting : Setting)
  | missingFile
  /-- A value for the option that shows the usage. -/
  | valueForHelp (value : String)
  deriving DecidableEq, Repr

namespace UsageError

/-- The message. Words of the command line stand in it as a terminal shows them. -/
def message : UsageError → String
  | .invalidValue s value cause =>
    s!"error: invalid value '{visible value}' for '{s.spelling}': {cause.message}"
  | .unknownArgument argument => s!"error: unexpected argument '{visible argument}' found"
  | .missingValue operand =>
    s!"error: a value is required for '{operand.spelling}' but none was supplied"
  | .repeated s => s!"error: the argument '{s.spelling}' cannot be used multiple times"
  | .missingFile =>
    s!"error: the following required arguments were not provided:\n  {filePlaceholder}"
  | .valueForHelp value =>
    s!"error: unexpected value '{visible value}' for '--help' found; no more were expected"

def headline (e : UsageError) : String :=
  firstLine e.message

end UsageError

/-! ## Values -/

/-- A number from zero to `most`, read as a signed 64-bit number first. -/
def readBounded (most : Nat) (value : String) : Except ValueError Nat :=
  match readInt 0x7fffffffffffffff value.toList with
  | .error cause => .error (.numeral cause)
  | .ok n => if 0 ≤ n ∧ n ≤ most then .ok n.toNat else .error (.outOfRange n most)

/-- The settings with one more of them read. -/
def Settings.read (s : Settings) : Setting → String → Except ValueError Settings
  | .target, value => .ok { s with target := some value }
  | .port, value => (readBounded 65535 value).map fun n => { s with port := .ofNat n }
  | .sampleRate, value =>
    (readBounded 4294967295 value).map fun n => { s with sampleRate := .ofNat n }
  | .frameMs, value => (readBounded 4294967295 value).map fun n => { s with frameMs := .ofNat n }
  | .ssrc, value =>
    match Ssrc.parse value with
    | .ok n => .ok { s with ssrc := some n }
    | .error cause => .error (.ssrc cause)
  | .timeout, value =>
    match readNat 10 (UInt64.size - 1) value.toList with
    | .ok n => .ok { s with timeout := .ofNat n }
    | .error cause => .error (.numeral cause)

/-! ## Words -/

inductive Word
  /-- Two hyphens alone. -/
  | endOfOptions
  | long (name : String) (value : Option String)
  /-- A letter behind one hyphen, and what stands behind the letter. -/
  | short (letter : Char) (rest : List Char)
  | plain (text : String)
  deriving DecidableEq, Repr

def Word.ofText (s : String) : Word :=
  match s.toList with
  | ['-', '-'] => .endOfOptions
  | '-' :: '-' :: cs =>
    match cs.span (· ≠ '=') with
    | (name, _ :: value) => .long (String.ofList name) (some (String.ofList value))
    | (name, []) => .long (String.ofList name) none
  | '-' :: letter :: rest => .short letter rest
  | _ => .plain s

/-- The value that stands directly behind a letter. -/
def attachedValue : List Char → Option String
  | [] => none
  | '=' :: value => some (String.ofList value)
  | value => some (String.ofList value)

/-! ## Reading -/

/-- The values read so far. -/
structure Draft where
  settings : Settings := {}
  given : List Setting := []
  file : Option String := none
  deriving DecidableEq

/-- Gives an operand its value. -/
def Draft.take (d : Draft) : Operand → Option String → Except UsageError Draft
  | operand, none => .error (.missingValue operand)
  | .file, some path =>
    if path = "" then .error (.missingValue .file) else .ok { d with file := some path }
  | .setting s, some value =>
    if s ∈ d.given then .error (.repeated s)
    else
      match d.settings.read s value with
      | .ok settings => .ok { d with settings, given := s :: d.given }
      | .error cause => .error (.invalidValue s value cause)

/-- Reading between two words: an operand may wait for its value, or its value for being read. -/
structure Scan where
  draft : Draft := {}
  pending : Option (Operand × Option String) := none
  deriving DecidableEq

/-- What the line asks for. -/
inductive Request
  | help
  | stream (arguments : Arguments)
  deriving DecidableEq

namespace Scan

/-- Reads what is pending. -/
def settle (s : Scan) : Except UsageError Draft :=
  match s.pending with
  | none => .ok s.draft
  | some (operand, value) => s.draft.take operand value

def hasFile (s : Scan) : Bool :=
  s.draft.file.isSome || (s.pending.map Prod.fst) == some .file

/-- An option with a value in its own word, or else in the next. -/
def option (s : Scan) (setting : Setting) (value : Option String) : Except UsageError Scan := do
  let draft ← s.settle
  match value with
  | none => return { draft, pending := some (.setting setting, none) }
  | some value => return { draft := ← draft.take (.setting setting) (some value) }

def positional (s : Scan) (text : String) : Except UsageError Scan := do
  if s.hasFile then throw (.unknownArgument text)
  return { draft := ← s.settle, pending := some (.file, some text) }

/-- A word without a hyphen: a value if one is wanted, and else the file. -/
def plain (s : Scan) (text : String) : Except UsageError Scan :=
  match s.pending with
  | some (operand, none) => .ok { s with pending := some (operand, some text) }
  | _ => s.positional text

def help (s : Scan) : Except UsageError Request := do
  let _ ← s.settle
  return .help

/-- The end of the line. -/
def finish (s : Scan) : Except UsageError Request := do
  let draft ← s.settle
  match draft.file with
  | some file => return .stream { draft.settings with file }
  | none => throw .missingFile

/-- Reads the words that follow the end of the options. -/
def readFiles (s : Scan) : List String → Except UsageError Request
  | [] => s.finish
  | text :: rest => do (← s.positional text).readFiles rest

def readWords (s : Scan) : List String → Except UsageError Request
  | [] => s.finish
  | text :: rest =>
    match Word.ofText text with
    | .endOfOptions => s.readFiles rest
    | .plain text => do (← s.plain text).readWords rest
    | .long name value =>
      match Setting.ofName? name, value with
      | some setting, value => do (← s.option setting value).readWords rest
      | none, none =>
        if name = helpName then s.help else .error (.unknownArgument s!"--{name}")
      | none, some value =>
        if name = helpName then .error (.valueForHelp value)
        else .error (.unknownArgument s!"--{name}")
    | .short letter attached =>
      match Setting.ofLetter? letter with
      | some setting => do (← s.option setting (attachedValue attached)).readWords rest
      | none =>
        if letter = helpLetter then s.help else .error (.unknownArgument s!"-{letter}")

end Scan

/-- Reads the words that follow the program's name. -/
def parse (words : List String) : Except UsageError Request :=
  ({} : Scan).readWords words

end CommandLine
end PacedRtp

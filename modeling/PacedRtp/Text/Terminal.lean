/-!
# What a terminal shows

A terminal takes some characters for commands: controls, and the sequences that an escape begins. A
sequence is a letter behind intermediate characters, a control sequence with parameters, or a string
of its own. What is shown of a text is what no command takes; a sequence that the text does not
complete takes all that follows it.

White space inside a sequence ends it and is shown. A new escape, a cancel and a substitute end any
sequence.
-/

namespace PacedRtp
namespace Text

/-! ## Characters -/

def isBlankControl (c : Char) : Bool :=
  c ∈ ['\t', '\n', '\r', '\x0c']

def isControl (c : Char) : Bool :=
  c < ' ' || c == '\x7f'

/-- The characters that may stand in front of the letter that ends a sequence. -/
def isIntermediate (c : Char) : Bool :=
  ' ' ≤ c && c ≤ '/'

/-- Digits, separators and private markers. -/
def isParameter (c : Char) : Bool :=
  '0' ≤ c && c ≤ '?'

def isPrivateMarker (c : Char) : Bool :=
  '<' ≤ c && c ≤ '?'

/-! ## Sequences -/

/-- Where the reading of a text stands. -/
inductive Sequence
  /-- Outside any sequence. -/
  | text
  | escape
  | escapeIntermediate
  | control
  | controlParameter
  | controlIntermediate
  /-- A malformed control sequence. -/
  | controlIgnored
  /-- A command to the operating system, which a bell ends too. -/
  | systemString
  | string
  deriving DecidableEq, Repr

namespace Sequence

/-- After one more character of a sequence that is no control. -/
def next (s : Sequence) (c : Char) : Sequence :=
  match s with
  | .text => .text
  | .escape =>
    if isIntermediate c then .escapeIntermediate
    else if c = '[' then .control
    else if c = ']' then .systemString
    else if c ∈ ['P', 'X', '^', '_'] then .string
    else .text
  | .escapeIntermediate => if isIntermediate c then .escapeIntermediate else .text
  | .control =>
    if isParameter c then .controlParameter
    else if isIntermediate c then .controlIntermediate
    else .text
  | .controlParameter =>
    if isPrivateMarker c then .controlIgnored
    else if isParameter c then .controlParameter
    else if isIntermediate c then .controlIntermediate
    else .text
  | .controlIntermediate =>
    if isParameter c then .controlIgnored
    else if isIntermediate c then .controlIntermediate
    else .text
  | .controlIgnored => if isParameter c || isIntermediate c then .controlIgnored else .text
  | .systemString => .systemString
  | .string => .string

/-- After one more character, and whether that is shown. A character beyond ASCII is no part of a
sequence and does not end it. -/
def step (s : Sequence) (c : Char) : Sequence × Bool :=
  if c = '\x1b' then (.escape, false)
  else if c = '\x18' || c = '\x1a' then (.text, false)
  else
    match s with
    | .text => (.text, isBlankControl c || !isControl c)
    | .systemString => (if c = '\x07' then .text else .systemString, false)
    | .string => (.string, false)
    | s =>
      if isBlankControl c then (.text, true)
      else if isControl c || '\x7f' < c then (s, false)
      else (s.next c, false)

/-- What is shown of the characters that follow. -/
def shown (s : Sequence) : List Char → List Char
  | [] => []
  | c :: rest =>
    match s.step c with
    | (s, true) => c :: s.shown rest
    | (s, false) => s.shown rest

end Sequence

/-- What a terminal shows of a text. -/
def visible (s : String) : String :=
  String.ofList (Sequence.text.shown s.toList)

end Text
end PacedRtp

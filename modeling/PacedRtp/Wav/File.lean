import PacedRtp.Wav.Layout
import PacedRtp.Audio.Track

/-!
# Wave files

A wave file is found by its RIFF signature, which may stand behind other octets. Its chunks are read
up to the data chunk, which is cut into packets of whole blocks; what follows is not read. A file
that ends early gives the complete sample frames that are there.
-/

namespace PacedRtp
namespace Wav

open Audio

/-! ## Finding the file -/

def signature : List UInt8 := "RIFF".toUTF8.toList

/-- The signature is searched for in this many octets. -/
def searchLimit : Nat := 0x100000

/-- Octets that a signature is looked at with. -/
def signatureWindow : Nat := 16

/-- The first two octets of the signatures that a file or a tag in front of it may begin with: of
RIFF, ID3, Ogg, FLAC, MPEG-4, Matroska and ADTS. -/
def signatureStarts : List (List UInt8) :=
  ["RI", "ID", "Og", "fL", "ft"].map (·.toUTF8.toList) ++ [[0x1a, 0x45], [0xff, 0xf1]]

/-- The first two octets of a frame of MPEG audio. -/
def frameStarts : List (List UInt8) :=
  [0xe2, 0xe3, 0xf2, 0xf3, 0xfa, 0xfb].map fun b => [0xff, b]

/-- The file from its signature on. The first two octets of any signature call for a whole window
behind them. Frames of MPEG audio are not played: whoever follows them comes to the end of the file.
`scanned` counts the octets passed so far. -/
def findSignature (scanned : Nat) : List UInt8 → Except Fault (List UInt8)
  | b₁ :: b₂ :: rest =>
    if searchLimit < scanned + 2 then .error .noSignature
    else if [b₁, b₂] ∈ frameStarts then .error .endOfStream
    else if [b₁, b₂] ∈ signatureStarts then
      let window := (b₁ :: b₂ :: rest).take signatureWindow
      if window.length < signatureWindow then .error .endOfStream
      else if window.take 4 = signature then .ok (b₁ :: b₂ :: rest)
      else findSignature (scanned + 1) (b₂ :: rest)
    else findSignature (scanned + 1) (b₂ :: rest)
  | _ => .error .noSignature

/-! ## Chunks up to the data -/

/-- What the chunks before the audio say: the last format chunk, if any, and the length of the data
chunk, at whose first octet reading stops. Every chunk takes eight octets at least, so `fuel` need
not exceed the length of the file. -/
def readChunks : Nat → Span → Option Layout → Reader (Option Layout × Nat)
  | 0, _, _ => fail .endOfStream
  | fuel + 1, span, layout => do
    match ← span.next with
    | (none, _) => fail .missingData
    | (some chunk, span) =>
      if chunk.name = "fmt ".toUTF8.toList then
        readChunks fuel span (some (← readLayout chunk.length layout))
      else if chunk.name = "fact".toUTF8.toList then
        if chunk.length ≠ 4 then fail (.malformedChunk "fact")
        ignore 4
        readChunks fuel span layout
      else if chunk.name = "LIST".toUTF8.toList then
        if chunk.length < 4 then fail (.malformedChunk "list")
        let form ← octets 4
        let inner : Span := { length := chunk.length - 4 }
        if form = "INFO".toUTF8.toList then readInfo fuel inner else inner.finish
        readChunks fuel span layout
      else if chunk.name = "data".toUTF8.toList then
        return (layout, chunk.length)
      else
        ignore chunk.length
        readChunks fuel span layout

/-- Reads from the signature to the first octet of the data. -/
def readHeader : Reader (Option Layout × Nat) := fun file => do
  let read : Reader (Option Layout × Nat) := do
    ignore 4
    let length ← number 4
    if (← octets 4) ≠ "WAVE".toUTF8.toList then fail .formNotWave
    readChunks file.length { length } none
  read file

/-! ## Packets -/

/-- Sample frames that a packet is filled up to. -/
def packetFrames : Nat := 1152

/-- Octets of a block's header, for each channel. -/
def Adpcm.headerWidth : Adpcm → Nat
  | .ima => 4
  | .microsoft => 7

/-- Sample frames that a block's header holds. -/
def Adpcm.headerFrames : Adpcm → Nat
  | .ima => 1
  | .microsoft => 2

/-- Sample frames in one block. The bits behind the header are counted modulo 65536. -/
def Layout.blockFrames (l : Layout) : Nat :=
  match l.data with
  | .plain _ => 1
  | .blocks kind =>
    let bits := (UInt16.ofNat l.blockAlign - .ofNat (kind.headerWidth * l.channels)) * 8
    bits.toNat / (4 * l.channels) + kind.headerFrames

/-- Blocks in a full packet. -/
def Layout.packetBlocks (l : Layout) : Nat :=
  max l.blockFrames packetFrames / l.blockFrames

/-- Cuts the data into packets of `blocks` blocks. Only whole blocks of the declared length count;
the file may hold fewer octets than declared. -/
def packets (blockAlign blocks declared : Nat) (data : List UInt8) : List (List UInt8) :=
  let size := min blocks (declared / blockAlign) * blockAlign
  if _h : 0 < size ∧ data ≠ [] then
    data.take size :: packets blockAlign blocks (declared - size) (data.drop size)
  else []
termination_by data.length
decreasing_by
  have := List.length_pos_iff.2 _h.2
  simp only [List.length_drop]
  omega

/-- The largest step index of a block. -/
def maxStepIndex : Nat := 88

/-- The largest predictor of a block. -/
def maxPredictor : Nat := 6

/-- Reads the headers of an IMA block, one for each channel. -/
def imaHeaders : Nat → List UInt8 → TrackEvent
  | 0, _ => .fault (.container .adpcmData)
  | channels + 1, _ :: _ :: index :: rest =>
    if maxStepIndex < index.toNat then .damaged "adpcm (ima): invalid step index"
    else
      match rest with
      | _ :: rest => imaHeaders channels rest
      | [] => .fault (.container .packetUnderrun)
  | _ + 1, _ => .fault (.container .packetUnderrun)

/-- Reads the predictors of a Microsoft block, one for each channel. -/
def predictors : Nat → List UInt8 → TrackEvent
  | 0, _ => .fault (.container .adpcmData)
  | channels + 1, predictor :: rest =>
    if maxPredictor < predictor.toNat then .fault (.container .blockPredictor)
    else predictors channels rest
  | _ + 1, [] => .fault (.container .packetUnderrun)

/-- What becomes of a packet of four-bit blocks: the header of its first block is checked. -/
def Adpcm.event (kind : Adpcm) (channels : Nat) (packet : List UInt8) : TrackEvent :=
  if 2 < channels then .fault (.container .adpcmChannels)
  else
    match kind with
    | .ima => imaHeaders channels packet
    | .microsoft => predictors channels packet

def Layout.event (l : Layout) (packet : List UInt8) : TrackEvent :=
  match l.data with
  | .plain coding => .samples l.rate l.channels (coding.frames l.channels packetFrames packet)
  | .blocks kind => kind.event l.channels packet

/-- The track of a file, from its format chunk and its data. -/
def Layout.track (l : Layout) (declared : Nat) (data : List UInt8) : Track :=
  if l.blockAlign = 0 then ⟨some l.rate, [], .fault (.container .emptyBlock)⟩
  else
    let events := (packets l.blockAlign l.packetBlocks declared data).map l.event
    ⟨some l.rate, events, .complete⟩

/-- Whether the samples of a layout can be played: there are channels, and a coded sample has no more
bits than its coding. -/
def Layout.check (l : Layout) : Except Fault Unit :=
  if l.channels = 0 then .error .noChannels
  else
    match l.data with
    | .plain coding => if coding.bits < l.codedBits then .error .codedWidth else .ok ()
    | .blocks _ => .ok ()

/-- The playable tracks of a file. -/
def tracks (file : List UInt8) : Except Fault (List Track) := do
  let ((layout?, declared), data) ← readHeader (← findSignature 0 file)
  match layout? with
  | none => return []
  | some layout =>
    layout.check
    return [layout.track declared data]

end Wav
end PacedRtp

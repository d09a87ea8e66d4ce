import PacedRtp.Wav.Chunk
import PacedRtp.Wav.Coding

/-!
# Format chunks

The format chunk of a wave file names a coding, a rate, a channel count and the octets of one block.
Each format tag has its own lengths and extension, and allows certain sample widths. A later chunk
replaces an earlier one, but for the bits of a coded sample, which not every tag names.
-/

namespace PacedRtp
namespace Wav

/-! ## Layouts -/

/-- Block codings of four bits a sample. Their blocks are recognised but not expanded. -/
inductive Adpcm
  | microsoft
  | ima
  deriving DecidableEq, Repr

inductive SampleData
  | plain (coding : Coding)
  | blocks (kind : Adpcm)
  deriving DecidableEq, Repr

structure Layout where
  channels : Nat
  rate : UInt32
  /-- Octets of one block. -/
  blockAlign : Nat
  data : SampleData
  /-- Bits of one coded sample; zero if no chunk names them. -/
  codedBits : Nat := 0
  deriving DecidableEq, Repr

/-! ## Format extensions -/

def maxChannels : Nat := 26

def checkChannels (channels : Nat) : Reader Unit :=
  if 1 ≤ channels ∧ channels ≤ maxChannels then pure () else fail .channelCount

/-- The coding of integer samples of the given width. -/
def integerCoding? : Nat → Option Coding
  | 8 => some .unsigned8
  | 16 => some .signed16
  | 24 => some .signed24
  | 32 => some .signed32
  | _ => none

def floatCoding? : Nat → Option Coding
  | 32 => some .float32
  | 64 => some .float64
  | _ => none

def orFail {α : Type} (fault : Fault) : Option α → Reader α
  | some a => pure a
  | none => fail fault

/-- What a format tag and its extension say. -/
structure FormatData where
  channels : Nat
  data : SampleData
  /-- Bits of one coded sample, where the tag names them. -/
  codedBits : Option Nat := none

/-- Octets of a full extension, its length field included. -/
def fullExtension : Nat := 24

def readInteger (length bits channels : Nat) : Reader FormatData := do
  match length with
  | 16 => pure ()
  | 18 => ignore 2
  | 40 => ignore fullExtension
  | _ => fail (.malformedChunk "fmt_pcm")
  let coding ← orFail .pcmBits (integerCoding? bits)
  checkChannels channels
  return { channels, data := .plain coding, codedBits := some bits }

/-- The width and the channels are checked before a full extension is passed over. -/
def readFloat (length bits channels : Nat) : Reader FormatData := do
  let extension ← match length with
    | 16 => pure 0
    | 18 => do
      if (← number 2) ≠ 0 then fail .floatExtension
      pure 0
    | 40 => pure fullExtension
    | _ => fail (.malformedChunk "fmt_ieee")
  let coding ← orFail .floatBits (floatCoding? bits)
  checkChannels channels
  ignore extension
  return { channels, data := .plain coding }

def readCompanded (name : String) (coding : Coding) (length channels : Nat) :
    Reader FormatData := do
  if length ≠ 18 then fail (.malformedChunk name)
  ignore (← number 2)
  checkChannels channels
  return { channels, data := .plain coding }

def readAdpcm (kind : Adpcm) (length bits channels : Nat) : Reader FormatData := do
  if bits ≠ 4 then fail .adpcmBits
  if length < 20 then fail (.malformedChunk "fmt_adpcm")
  let extension ← number 2
  let fits : Bool := match kind with
    | .microsoft => 32 ≤ extension
    | .ima => extension == 2
  if !fits then fail (.malformedChunk "fmt_adpcm")
  ignore extension
  checkChannels channels
  return { channels, data := .blocks kind }

/-! ## Extensible formats -/

/-- Codings that an extensible format names by an identifier. -/
inductive SubType
  | integer
  | float
  | aLaw
  | muLaw
  deriving DecidableEq, Repr

/-- The last fourteen octets of the identifiers of plain codings. -/
def codingSuffix : List UInt8 :=
  [0x00, 0x00, 0x00, 0x00, 0x10, 0x00, 0x80, 0x00, 0x00, 0xaa, 0x00, 0x38, 0x9b, 0x71]

/-- The last fourteen octets of the identifiers of ambisonic codings. -/
def ambisonicSuffix : List UInt8 :=
  [0x00, 0x00, 0x21, 0x07, 0xd3, 0x11, 0x86, 0x44, 0xc8, 0xc1, 0xca, 0x00, 0x00, 0x00]

/-- The coding of an identifier, from its first two octets as a number and from the others. -/
def subType? (tag : Nat) (suffix : List UInt8) : Option SubType :=
  if suffix = codingSuffix then
    match tag with
    | 1 => some .integer
    | 3 => some .float
    | 4 => some .muLaw
    | 6 => some .aLaw
    | _ => none
  else if suffix = ambisonicSuffix then
    match tag with
    | 1 => some .integer
    | 3 => some .float
    | _ => none
  else none

/-- The speaker positions of a channel mask, from the lowest on. -/
def positions (mask : Nat) : List Nat :=
  (List.range 32).filter mask.testBit

/-- The first position above all of these. -/
def reach (positions : List Nat) : Nat :=
  match positions.getLast? with
  | some highest => highest + 1
  | none => 0

/-- A channel mask made to hold `channels` positions: the lowest ones of a fuller mask, or further
ones above the highest of a sparser one. A mask has 32 bits; the number of further ones counts
modulo 32. -/
def fitMask (mask channels : Nat) : Nat :=
  let given := positions mask
  if channels ≤ given.length then mask % (1 <<< reach (given.take channels))
  else
    let further := (1 <<< ((channels - given.length) % 32)) - 1
    (mask ||| further <<< (reach given % 32)) % UInt32.size

/-- The coding of a sub-type with samples of `bits` bits, `validBits` of which count. -/
def SubType.coding (t : SubType) (bits validBits : Nat) : Reader Coding :=
  match t with
  | .integer =>
    if bits = 0 then fail .extensiblePcmEmpty
    else orFail .extensiblePcmBits (integerCoding? bits)
  | .float =>
    if bits ≠ validBits then fail .extensibleFloatWidth
    else orFail .extensibleFloatBits (floatCoding? bits)
  | .aLaw => pure .aLaw
  | .muLaw => pure .muLaw

def readExtensible (length bits channels : Nat) : Reader FormatData := do
  if length < 40 then fail (.malformedChunk "fmt_ext")
  if (← number 2) ≠ 22 then fail .extensibleExtension
  let validBits ← number 2
  if bits % 8 ≠ 0 then fail .extensibleAlignment
  if bits < validBits then fail .extensibleValidBits
  let mask := fitMask (← number 4) channels
  if 1 <<< maxChannels ≤ mask then fail .extensibleMask
  let tag ← number 2
  let subType ← orFail .extensibleCoding (subType? tag (← octets 14))
  let coding ← subType.coding bits validBits
  return { channels := (positions mask).length, data := .plain coding, codedBits := some bits }

/-! ## The format chunk -/

/-- The layout that a format chunk of `length` octets gives after the one before it, if any. -/
def readLayout (length : Nat) (before : Option Layout) : Reader Layout := do
  if length < 16 then fail (.malformedChunk "fmt")
  let tag ← number 2
  let channels ← number 2
  let rate ← number 4
  ignore 4
  let blockAlign ← number 2
  let bits ← number 2
  let format ← match tag with
    | 0x0001 => readInteger length bits channels
    | 0x0002 => readAdpcm .microsoft length bits channels
    | 0x0003 => readFloat length bits channels
    | 0x0006 => readCompanded "fmt_alaw" .aLaw length channels
    | 0x0007 => readCompanded "fmt_mulaw" .muLaw length channels
    | 0x0011 => readAdpcm .ima length bits channels
    | 0xfffe => readExtensible length bits channels
    | _ => fail .unknownCoding
  if rate = 0 then fail .zeroRate
  let codedBits := format.codedBits.getD ((before.map Layout.codedBits).getD 0)
  return {
    channels := format.channels
    rate := .ofNat rate
    blockAlign
    data := format.data
    codedBits }

end Wav
end PacedRtp

/-!
# Faults of a wave file

Why a file cannot be read as wave audio. A feature outside the supported subset, a malformed stream
and an early end are told apart by their message. A fatal fault breaks a rule that reading relies on,
and ends the program.
-/

namespace PacedRtp
namespace Wav

inductive Fault
  /-- No RIFF signature near the start of the file. -/
  | noSignature
  | endOfStream
  /-- A packet ends inside a field of its header. -/
  | packetUnderrun
  | formNotWave
  | missingData
  | chunkOverrun
  | unknownCoding
  | malformedChunk (name : String)
  | pcmBits
  | floatBits
  | adpcmBits
  | floatExtension
  | extensibleExtension
  | extensibleAlignment
  | extensibleValidBits
  | extensiblePcmBits
  /-- Integer samples without bits. -/
  | extensiblePcmEmpty
  | extensibleFloatWidth
  | extensibleFloatBits
  | extensibleCoding
  | extensibleMask
  | channelCount
  | noChannels
  /-- More bits are coded than a sample of the coding has. -/
  | codedWidth
  | zeroRate
  | emptyBlock
  | blockPredictor
  | adpcmChannels
  | adpcmData
  deriving DecidableEq, Repr

/-- What a supported decoder does not offer. -/
def unsupported (feature : String) : String :=
  "unsupported feature: " ++ feature

def malformed (reason : String) : String :=
  "malformed stream: " ++ reason

/-- A state that no file was expected to lead to. -/
def unexpected : String := "internal error: entered unreachable code"

def Fault.message : Fault → String
  | .noSignature => unsupported "core (probe): no suitable format reader found"
  | .endOfStream => "end of stream"
  | .packetUnderrun => "buffer underrun"
  | .formNotWave => unsupported "wav: riff form is not wave"
  | .missingData => unsupported "wav: missing data chunk"
  | .chunkOverrun => malformed "riff: chunk length exceeds parent (list) chunk length"
  | .unknownCoding => unsupported "wav: unsupported wave format"
  | .malformedChunk name => malformed s!"wav: malformed {name} chunk"
  | .pcmBits => malformed "wav: bits per sample for fmt_pcm must be 8, 16, 24 or 32 bits"
  | .floatBits => malformed "wav: bits per sample for fmt_ieee must be 32 or 64 bits"
  | .adpcmBits => malformed "wav: bits per sample for fmt_adpcm must be 4 bits"
  | .floatExtension => malformed "wav: extra data not expected for fmt_ieee chunk"
  | .extensibleExtension => malformed "wav: extra data size not 22 bytes for fmt_ext chunk"
  | .extensibleAlignment =>
    malformed "wav: bits per coded sample for fmt_ext must be a multiple of 8"
  | .extensibleValidBits =>
    malformed "wav: bits per sample must be <= bits per coded sample for fmt_ext"
  | .extensiblePcmBits =>
    malformed "bits per sample for fmt_ext PCM sub-type must be <= 32 bits"
  | .extensiblePcmEmpty => unexpected
  | .extensibleFloatWidth =>
    malformed "wav: bits per sample for fmt_ext IEEE sub-type must equal bits per coded sample"
  | .extensibleFloatBits =>
    malformed "wav: bits per sample for fmt_ext IEEE sub-type must be 32 or 64 bits"
  | .extensibleCoding => unsupported "wav: unsupported fmt_ext sub-type"
  | .extensibleMask => unsupported "wav: too many channels in mask for fmt_ext"
  | .channelCount => malformed "riff: invalid channel count"
  | .noChannels => unsupported "pcm: number of channels cannot be 0"
  | .codedWidth => malformed "pcm: coded bits per sample is greater than the sample format"
  | .zeroRate => "TimeBase cannot have 0 numerator or denominator"
  | .emptyBlock => malformed "riff: block size is 0"
  | .blockPredictor => unsupported "adpcm: block predictor exceeds range"
  | .adpcmChannels => unexpected
  | .adpcmData => unsupported "adpcm: sample data"

def Fault.isFatal : Fault → Bool
  | .extensiblePcmEmpty | .zeroRate | .adpcmChannels => true
  | _ => false

end Wav
end PacedRtp

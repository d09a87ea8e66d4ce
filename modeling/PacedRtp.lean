import PacedRtp.Audio.Decode
import PacedRtp.CommandLine.Transcript
import PacedRtp.Main
import PacedRtp.Net.AddressText
import PacedRtp.Sender.Stream
import PacedRtp.Wav.File
import PacedRtp.Proofs.Octets
import PacedRtp.Proofs.Ieee.Rounding
import PacedRtp.Proofs.Ieee.Bounds
import PacedRtp.Proofs.Ieee.Order
import PacedRtp.Proofs.Ieee.Nearest
import PacedRtp.Proofs.Ieee.Value
import PacedRtp.Proofs.Ieee.Clamping
import PacedRtp.Proofs.Rtp.Fixed
import PacedRtp.Proofs.Rtp.Grammar
import PacedRtp.Proofs.Rtp.Position
import PacedRtp.Proofs.Rtp.Acceptance
import PacedRtp.Proofs.Rtp.Canonical
import PacedRtp.Proofs.Rtp.Truncation
import PacedRtp.Proofs.Rtp.Numbering
import PacedRtp.Proofs.Rtp.Period
import PacedRtp.Proofs.Pcm.Frames
import PacedRtp.Proofs.Pcm.Iteration
import PacedRtp.Proofs.Pcm.Geometry
import PacedRtp.Proofs.Net.Transport
import PacedRtp.Proofs.Net.Peer
import PacedRtp.Proofs.Sender.Times
import PacedRtp.Proofs.Duration
import PacedRtp.Proofs.Pcm.Playback
import PacedRtp.Proofs.Sender.Calls
import PacedRtp.Proofs.Sender.Accounting
import PacedRtp.Proofs.Sender.Splitting
import PacedRtp.Proofs.Sender.History
import PacedRtp.Proofs.Sender.Machine
import PacedRtp.Proofs.Sender.Progress
import PacedRtp.Proofs.Sender.Cancellation
import PacedRtp.Proofs.Sender.Log
import PacedRtp.Proofs.Sender.Session
import PacedRtp.Proofs.Sender.Delivery
import PacedRtp.Proofs.Sender.Joining
import PacedRtp.Proofs.Sender.Settings
import PacedRtp.Proofs.Sender.Pacing
import PacedRtp.Proofs.Sender.Reassembly
import PacedRtp.Proofs.Sender.Outcomes
import PacedRtp.Proofs.Sender.Retrying
import PacedRtp.Proofs.Sender.SizeLimit
import PacedRtp.Proofs.Sender.Host
import PacedRtp.Proofs.Audio.Downmix
import PacedRtp.Proofs.Audio.Pieces
import PacedRtp.Proofs.Audio.Packets
import PacedRtp.Proofs.Audio.Resampling
import PacedRtp.Proofs.Audio.Locality
import PacedRtp.Proofs.Audio.Quantizing
import PacedRtp.Proofs.CommandLine.Stages
import PacedRtp.Proofs.CommandLine.Endings
import PacedRtp.Proofs.CommandLine.Host
import PacedRtp.Proofs.Text.Numeral
import PacedRtp.Proofs.Text.Ssrc

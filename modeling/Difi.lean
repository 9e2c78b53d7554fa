import Difi.Machine.Outcome
import Difi.Machine.BitFields
import Difi.Machine.Bytes
import Difi.Machine.Buffer
import Difi.Machine.Framing
import Difi.Machine.History
import Difi.Machine.Places
import Difi.Machine.Chunks
import Difi.Machine.Iteration
import Difi.Machine.Loop
import Difi.Machine.Walk
import Difi.Machine.Effect
import Difi.Machine.Tally
import Difi.Codes
import Difi.Packet
import Difi.Standard
import Difi.Parser
import Difi.Samples
import Difi.Writer
import Difi.Sequence
import Difi.PacketStream
import Difi.Checks
import Difi.Fields
import Difi.Bodies
import Difi.Layout
import Difi.Decoding
import Difi.Acceptance
import Difi.Padding
import Difi.Preparation
import Difi.Storing
import Difi.RoundTrip
import Difi.Grammar
import Difi.Profiles
import Difi.WriterProfiles
import Difi.Faults
import Difi.BodyFaults
import Difi.Diagnosis
import Difi.Complaints
import Difi.Incompleteness
import Difi.Segmentation
import Difi.Streams
import Difi.Loss
import Difi.Refusals
import Difi.BodyRefusals
import Difi.WriterDiagnosis
import Difi.SampleCodec
import Difi.Sampling
import Difi.SampleDiagnosis
import Difi.Atomicity
import Difi.IqCodec
import Difi.ExactSize
import Difi.UdpSender
import Difi.Sending
import Difi.UdpReceiver
import Difi.Receiving
import Difi.Reports
import Difi.UdpLink
import Difi.Capture
import Difi.Encapsulation
import Difi.CaptureWalk
import Difi.CaptureReading
import Difi.CaptureJoin
import Difi.Certification
import Difi.SupportedProfiles
import Difi.Census

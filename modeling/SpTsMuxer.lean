import SpTsMuxer.Memory.Block
import SpTsMuxer.Memory.Tiling
import SpTsMuxer.Memory.Word
import SpTsMuxer.Machine.Mealy
import SpTsMuxer.Machine.Fallible
import SpTsMuxer.Merge.Queues
import SpTsMuxer.Schedule.Release
import SpTsMuxer.Schedule.Peak
import SpTsMuxer.Schedule.Cut
import SpTsMuxer.Crc.BitSerial
import SpTsMuxer.Crc.ErrorDetection
import SpTsMuxer.Crc.Burst
import SpTsMuxer.Transport.Packet
import SpTsMuxer.Transport.WellFormed
import SpTsMuxer.Transport.Demux
import SpTsMuxer.Transport.Delimit
import SpTsMuxer.Transport.Section
import SpTsMuxer.Transport.Tuner
import SpTsMuxer.Transport.Impaired
import SpTsMuxer.Transport.Loss
import SpTsMuxer.Transport.Renumbering
import SpTsMuxer.Psi.Crc
import SpTsMuxer.Psi.Integrity
import SpTsMuxer.Psi.Damage
import SpTsMuxer.Psi.Section
import SpTsMuxer.Psi.Representation
import SpTsMuxer.Pes.Header
import SpTsMuxer.Spts.TsPacket
import SpTsMuxer.Spts.Model
import SpTsMuxer.Spts.Multiplex
import SpTsMuxer.Spts.Packetize
import SpTsMuxer.Spts.Refinement
import SpTsMuxer.Spts.Calls
import SpTsMuxer.Spts.Setup
import SpTsMuxer.Spts.Streams
import SpTsMuxer.Spts.Observation
import SpTsMuxer.Spts.Report
import SpTsMuxer.Spts.Startup
import SpTsMuxer.Spts.Receiver
import SpTsMuxer.Spts.Clock
import SpTsMuxer.Spts.PacketLength
import SpTsMuxer.Spts.Copies
import SpTsMuxer.Spts.Continuity
import SpTsMuxer.Spts.Conformance
import SpTsMuxer.Spts.Interference
import SpTsMuxer.Spts.Index
import SpTsMuxer.Spts.Accounting
import SpTsMuxer.Muxer.PushBuffer
import SpTsMuxer.Muxer.PushCalls
import SpTsMuxer.Muxer.Model
import SpTsMuxer.Muxer.Scan
import SpTsMuxer.Muxer.Collect
import SpTsMuxer.Muxer.Pads
import SpTsMuxer.Muxer.Requests
import SpTsMuxer.Muxer.Program
import SpTsMuxer.Muxer.Instances
import SpTsMuxer.Muxer.PadRuns
import SpTsMuxer.Muxer.Arrivals
import SpTsMuxer.Muxer.SingleStream
import SpTsMuxer.Spts.Handover
import SpTsMuxer.Spts.Counting
import SpTsMuxer.Muxer.Batches
import SpTsMuxer.Muxer.EndOfStream
import SpTsMuxer.Muxer.Tuning
import SpTsMuxer.Muxer.DamagedTables
import SpTsMuxer.Muxer.EndToEnd
import SpTsMuxer.Muxer.Losses
import SpTsMuxer.Muxer.FixedRate
import SpTsMuxer.Muxer.RunState
import SpTsMuxer.Muxer.Faults
import SpTsMuxer.Muxer.ClockChoice
import SpTsMuxer.Muxer.Discontinuity
import SpTsMuxer.Muxer.SourcePad

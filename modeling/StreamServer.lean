import StreamServer.Common.BufQueue
import StreamServer.State.QueueRefinement
import StreamServer.Congestion.WindowedFilter
import StreamServer.Congestion.BbrRuns
import StreamServer.Congestion.TokenlessPacer
import StreamServer.State.StreamResets
import StreamServer.State.LossBuffer
import StreamServer.FlowControl.CreditReturn
import StreamServer.Codec.AckFrames
import StreamServer.Api.PathLimits
import StreamServer.Api.ControlRotation
import StreamServer.Api.DatagramPrefix
import StreamServer.Codec.Coalescing
import StreamServer.Api.PacketSizes
import StreamServer.State.RttAverage
import StreamServer.Loss.Reordering
import StreamServer.Loss.TimeThreshold
import StreamServer.Loss.PersistentCongestion
import StreamServer.Loss.LossAlarm
import StreamServer.Codec.GroupStreamFrames
import StreamServer.Codec.NegotiationPackets
import StreamServer.State.AckSending
import StreamServer.Codec.CloseFrames
import StreamServer.Server.ReadDatagram
import StreamServer.State.StreamCredit
import StreamServer.Loss.HandshakeCleanup
import StreamServer.Codec.TimestampParsing
import StreamServer.State.Reaping

import Dperf.SocketTimer
import Dperf.HttpParse
import Dperf.Tcp.Input
import Dperf.SocketTable
import Dperf.Udp
import Dperf.Tcp.Client
import Dperf.Tcp.Server
import Dperf.System
import Dperf.Steady
import Dperf.SocketCount
import Dperf.ServerTimers
import Dperf.Moves
import Dperf.FinStates
import Dperf.Lib.Traces
import Dperf.Outstanding
import Dperf.Lib.Sequence
import Dperf.HttpChunk
import Dperf.ChunkFormat
import Dperf.ChunkSound
import Dperf.ChunkComplete
import Dperf.Resets
import Dperf.ClientTargets
import Dperf.Received
import Dperf.FirstPayload
import Dperf.Lib.Loops
import Dperf.TableInit
import Dperf.Lib.Memory
import Dperf.Packets
import Dperf.Lib.OnesComplement
import Dperf.Recycled
import Dperf.Checksum
import Dperf.Custody
import Dperf.Receive
import Dperf.LostAck
import Dperf.Lib.Rings
import Dperf.SocketPool
import Dperf.Rss
import Dperf.PoolSize
import Dperf.Lib.Links
import Dperf.TimerQueues
import Dperf.Frames
import Dperf.Payloads
import Dperf.PayloadLengths
import Dperf.PacketSizes
import Dperf.Responses
import Dperf.Announced
import Dperf.Acts
import Dperf.CallRuns
import Dperf.Elapsed
import Dperf.Budget
import Dperf.DupAck
import Dperf.HeaderLines
import Dperf.ContentLength
import Dperf.SoftCsum
import Dperf.SentPackets
import Dperf.ResetPacket
import Dperf.Pieces
import Dperf.Expiry
import Dperf.DelayedAcks
import Dperf.Flight
import Dperf.Stranded
import Dperf.Echo
import Dperf.Neighbour
import Dperf.PoolWalk
import Dperf.Batches
import Dperf.Pacing
import Dperf.Targets
import Dperf.TxRing
import Dperf.PseudoSum
import Dperf.Keywords
import Dperf.Duplicates
import Dperf.PayloadChecks
import Dperf.Lib.Decimal
import Dperf.NetStats
import Dperf.Requests
import Dperf.Numbers
import Dperf.StoredNumbers
import Dperf.AddressRanges
import Dperf.Options
import Dperf.VxlanFrames
import Dperf.TemplateLengths
import Dperf.CpuUsage
import Dperf.Consumed
import Dperf.KeepaliveRounds
import Dperf.Addresses
import Dperf.HandOver
import Dperf.SegmentedHeaders
import Dperf.Agreement
import Dperf.Delivery
import Dperf.FlowRules
import Dperf.Lib.Barrier
import Dperf.ResponseStream
import Dperf.Startup
import Dperf.Reclaim
import Dperf.Gateway
import Dperf.Icmp6Answers

import Rdma.BufferPools
import Rdma.Routing
import Rdma.Connections
import Rdma.Responses
import Rdma.Immediates
import Rdma.SlotPools
import Rdma.WheelRuns
import Rdma.CompletionQueues
import Rdma.Backpressure
import Rdma.WrCounts
import Rdma.TimeoutEntries
import Rdma.Reactors
import Rdma.Reentrancy
import Rdma.Incarnations
import Rdma.SlotRuns
import Rdma.Receives
import Rdma.SignalGaps
import Rdma.MpscQueues
import Rdma.SpscRings
import Rdma.Doorbells
import Rdma.BatchSizes
import Rdma.FlowControls
import Rdma.LazyCredits
import Rdma.ConnectionIds
import Rdma.Handshakes
import Rdma.ExpiryTimes
import Rdma.KvMaps
import Rdma.KvConservation
import Rdma.KvPuts
import Rdma.Fragments
import Rdma.Labels
import Rdma.HierarchicalExpiries
import Rdma.BufferStacks
import Rdma.HighLoads
import Rdma.HandshakeChannels
import Rdma.Sockets
import Rdma.BufferRanges
import Rdma.KvSegments
import Rdma.KvParsing
import Rdma.KvUpdates
import Rdma.KvSlots
import Rdma.BoundedMaps
import Rdma.Observations
import Rdma.KvServices
import Rdma.KvDeliveries
import Rdma.Spacings
import Rdma.KvExhaustions
import Rdma.HandshakeMessages
import Rdma.KvAcceptances
import Rdma.KvFailures
import Rdma.KvHandshakes
import Rdma.KvAgreements
import Rdma.KvLoops
import Rdma.KvPolls
import Rdma.KvBenchmarks
import Rdma.Histories
import Rdma.KvSessions

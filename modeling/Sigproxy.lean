import Sigproxy.Library.Machine
import Sigproxy.Library.Table
import Sigproxy.Net
import Sigproxy.Cluster
import Sigproxy.Affinity
import Sigproxy.Persistence
import Sigproxy.Ha.ActiveStandby
import Sigproxy.Ha.Election
import Sigproxy.Ha.Fencing
import Sigproxy.Ha.EventLog
import Sigproxy.Proxy.State
import Sigproxy.Ha.Replay
import Sigproxy.Replicator
import Sigproxy.Replicator.ConsistentCut
import Sigproxy.Library.InOrder
import Sigproxy.Replicator.LogOrder
import Sigproxy.Ha.Promotion
import Sigproxy.Library.Expiring
import Sigproxy.Library.Program
import Sigproxy.Proxy.Message
import Sigproxy.Proxy.Server
import Sigproxy.Proxy.Forward
import Sigproxy.Proxy.Handlers
import Sigproxy.Proxy.Paths
import Sigproxy.Proxy.ResponsePath
import Sigproxy.Proxy.Ledger
import Sigproxy.Proxy.ResponseRouting
import Sigproxy.Proxy.RegisterResponse
import Sigproxy.Proxy.RequestPath
import Sigproxy.Proxy.Courses
import Sigproxy.Proxy.Retransmission
import Sigproxy.Proxy.CancelRouting
import Sigproxy.Proxy.Incarnations
import Sigproxy.Proxy.SessionAffinity
import Sigproxy.Proxy.TransportAgreement
import Sigproxy.Proxy.TcpUpstream
import Sigproxy.Proxy.TcpClient
import Sigproxy.Library.Lpm
import Sigproxy.Library.Blocks
import Sigproxy.Security.Cidr
import Sigproxy.Xdp.Plan
import Sigproxy.Xdp.Sync
import Sigproxy.Xdp.Upkeep
import Sigproxy.Xdp.Restart
import Sigproxy.Library.Ranges
import Sigproxy.Security.Geo
import Sigproxy.Security.GeoCache
import Sigproxy.Xdp.GeoPrefixes
import Sigproxy.Xdp.GeoSearch
import Sigproxy.Xdp.ThreatPrefixes
import Sigproxy.Ha.FuzzySnapshot
import Sigproxy.Library.Mirror
import Sigproxy.Ha.DiskAgreement
import Sigproxy.Ha.Checkpoint
import Sigproxy.Ha.Restore
import Sigproxy.Security.Runtime
import Sigproxy.Library.Absence
import Sigproxy.Proxy.DeniedSource
import Sigproxy.Proxy.Stun
import Sigproxy.Library.Sequential
import Sigproxy.Proxy.PendingBindings
import Sigproxy.Proxy.DeviceDelivery
import Sigproxy.Proxy.RegisteredSource
import Sigproxy.Xdp.Policy
import Sigproxy.Xdp.StaticFilter
import Sigproxy.Xdp.KernelAgreement
import Sigproxy.Library.Bucket
import Sigproxy.Security.TokenBucket
import Sigproxy.Xdp.RateAgreement
import Sigproxy.Xdp.BanMirror
import Sigproxy.Xdp.Parsing
import Sigproxy.Xdp.Classification
import Sigproxy.Proxy.Contacts
import Sigproxy.Security.InviteRate
import Sigproxy.Security.TrustedLayers
import Sigproxy.Ha.Cleanup
import Sigproxy.Library.Cursor
import Sigproxy.Library.Framing
import Sigproxy.Library.DecimalText
import Sigproxy.Cluster.Lookups
import Sigproxy.Proxy.GrantedLifetime
import Sigproxy.Proxy.RegisterFrame
import Sigproxy.Library.Panics
import Sigproxy.Platform
import Sigproxy.Proxy.ExpiryArithmetic
import Sigproxy.Security.Validation
import Sigproxy.Security.IdleBuckets
import Sigproxy.Proxy.AckAnswers
import Sigproxy.Proxy.AckForwarding
import Sigproxy.Proxy.TcpHygiene
import Sigproxy.Proxy.TcpReader
import Sigproxy.Proxy.SendRollback
import Sigproxy.Proxy.FinalStability
import Sigproxy.Ha.Convergence
import Sigproxy.Security.GeoPartial
import Sigproxy.Upstream
import Sigproxy.Upstream.Selection
import Sigproxy.Upstream.Hysteresis
import Sigproxy.Config
import Sigproxy.Upstream.Routing
import Sigproxy.Xdp.ThreatCache
import Sigproxy.Library.Splitter
import Sigproxy.Proxy.HeaderValues
import Sigproxy.Proxy.ViaStack
import Sigproxy.Proxy.RouteStripping
import Sigproxy.Library.Reinstated
import Sigproxy.Proxy.RecordRoutes
import Sigproxy.Library.Counted
import Sigproxy.Affinity.Counter
import Sigproxy.Library.Words
import Sigproxy.Xdp.MapSizing
import Sigproxy.Library.Quotation
import Sigproxy.Library.TextSlices
import Sigproxy.Proxy.StunMapping
import Sigproxy.Proxy.UdpDispatch
import Sigproxy.Proxy.HeaderSplitting
import Sigproxy.Library.Fields
import Sigproxy.Proxy.StartLines
import Sigproxy.Library.Numerals
import Sigproxy.Net.AddressText
import Sigproxy.Proxy.TransactionKeys
import Sigproxy.Ha.Checksum
import Sigproxy.CacheFiles
import Sigproxy.Proxy.Exposition
import Sigproxy.Proxy.TcpPool
import Sigproxy.Environment
import Sigproxy.Ha.Hooks
import Sigproxy.Library.Isolation
import Sigproxy.Proxy.FailureLogs
import Sigproxy.Proxy.MetricHandles
import Sigproxy.Security.Sources
import Sigproxy.Supervision
import Sigproxy.Security.Prefilter

import Rathole.SupervisorConverges
import Rathole.SupervisorStartup
import Rathole.ProcessLifetime
import Rathole.StatusEndpoint
import Rathole.Protocol
import Rathole.Websocket
import Rathole.ServerFrame
import Rathole.ConfigLoadable
import Rathole.ConfigOrder
import Rathole.HotReload
import Rathole.ServiceUnwraps
import Rathole.UdpDeadlock
import Rathole.Heartbeat
import Rathole.UdpTransparent
import Rathole.PoolAccounting
import Rathole.TcpStranded
import Rathole.WatcherUpToDate
import Rathole.ServerAuth
import Rathole.ServerFailed
import Rathole.ServerStatus
import Rathole.ClientChannel
import Rathole.ClientRebuild
import Rathole.Client
import Rathole.ClientShutdown
import Rathole.ClientServer
import Rathole.ClientStatus
import Rathole.ConfigClean
import Rathole.ConfigAccount
import Rathole.SchemaSame
import Rathole.TomlHeaders
import Rathole.ConfigFresh
import Rathole.Transport
import Rathole.RawMultiMap
import Rathole.UdpFrames
import Rathole.StuckDeadline
import Rathole.ConfigServices
import Rathole.WindowsGrants
import Rathole.WindowsService
import Rathole.CommandOutput
import Rathole.CommandEnvelope
import Rathole.CommandClean
import Rathole.QuoteArg
import Rathole.RegistryLock
import Rathole.WriteAtomic
import Rathole.EnsureRole
import Rathole.ServiceFiles
import Rathole.SystemdUnit
import Rathole.InitCommand
import Rathole.StatusBound
import Rathole.TcpTransparent
import Rathole.ServiceEvents
import Rathole.ControlSettles
import Rathole.StatusCommand
import Rathole.ServerProgress
import Rathole.LinuxServices

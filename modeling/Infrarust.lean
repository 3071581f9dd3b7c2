import Infrarust.Proofs.Config.Migrate
import Infrarust.Proofs.Api.Component
import Infrarust.Proofs.Protocol.PacketStream
import Infrarust.Proofs.Protocol.Decoders
import Infrarust.Proofs.Protocol.Chunk
import Infrarust.Proofs.Core.Injections
import Infrarust.Proofs.Core.PhaseTracking
import Infrarust.Proofs.Core.Filter.Ordering
import Infrarust.Proofs.Core.Routing.Concurrent
import Infrarust.Proofs.Core.Identity
import Infrarust.Proofs.Core.Commands
import Infrarust.Proofs.Core.Permissions
import Infrarust.Proofs.Core.EventDispatch
import Infrarust.Proofs.Core.LoginFlow
import Infrarust.Proofs.Core.Limbo.RegistryCache
import Infrarust.Proofs.Core.Limbo.Spawn
import Infrarust.Proofs.Core.SwitchPackets
import Infrarust.Proofs.Core.Legacy
import Infrarust.Proofs.Core.Status.Cache
import Infrarust.Proofs.Core.Provider.Docker
import Infrarust.Proofs.Core.Provider.Plugin
import Infrarust.Proofs.Core.Services.Scheduler
import Infrarust.Proofs.Core.Plugin.Shutdown
import Infrarust.Proofs.Core.Plugin.Cleanup
import Infrarust.Proofs.Core.Plugin.Commands
import Infrarust.Proofs.Core.TabComplete
import Infrarust.Proofs.Core.BanFile
import Infrarust.Proofs.ServerManager.Inactivity
import Infrarust.Proofs.ServerManager.Notifications
import Infrarust.Proofs.Plugins.ServerWake.Handler
import Infrarust.Proofs.Plugins.Auth.Handler
import Infrarust.Proofs.Plugins.Auth.Persistence
import Infrarust.Proofs.Plugins.AdminApi.ServerStore

import Sandook.Base.Types
import Sandook.Lib.Cyclic
import Sandook.Lib.Random
import Sandook.DiskServer.DiskMonitor
import Sandook.ControlPlane.ServerStatsManager
import Sandook.ControlPlane.RWIsolationBase
import Sandook.DataPlane.CongestionControl
import Sandook.DataPlane.ServerStatsManager
import Sandook.DataPlane.Scheduler
import Sandook.ControlPlane.Scheduler
import Sandook.Base.CoreLocalCache
import Sandook.Controller.ControllerAgent
import Sandook.VirtualDisk.BlockResolver
import Sandook.VirtualDisk.Base
import Sandook.VirtualDisk.Remote
import Sandook.Lib.Loops
import Sandook.Lib.Placement
import Sandook.Lib.Bytes
import Sandook.Messages.Decoders
import Sandook.Messages.Registration
import Sandook.Messages.StorageOp
import Sandook.Rpc.Flow
import Sandook.DiskModel.Model
import Sandook.Lib.Distribution
import Sandook.ControlPlane.ProfileGuided
import Sandook.VirtualDisk.Cluster
import Sandook.VirtualDisk.OnServers
import Sandook.VirtualDisk.Write
import Sandook.VirtualDisk.Read
import Sandook.BlkDev.RequestDispatcher
import Sandook.VirtualDisk.Exclusivity
import Sandook.VirtualDisk.CounterWrap
import Sandook.Mem.Slab
import Sandook.VirtualDisk.Isolation
import Sandook.DiskServer.MemServer
import Sandook.DiskServer.DiskConnHandler
import Sandook.DiskServer.Congestion
import Sandook.Lib.Align
import Sandook.Lib.Binary64
import Sandook.Mem.MemHook
import Sandook.Lib.Transfer
import Sandook.Base.Io
import Sandook.Mem.FreePtrsHeap
import Sandook.Base.CoreLocalCacheRuns
import Sandook.Base.Counter
import Sandook.Base.CounterInterleaving
import Sandook.VirtualDisk.GarbageCollector
import Sandook.System.Cluster
import Sandook.System.ModeHandshake
import Sandook.System.Convergence
import Sandook.Base.FullIO
import Sandook.DiskServer.BlkServer
import Sandook.System.BlkHandlers

import Sandook.Base.Types
import Sandook.Lib.Binary64

/-!
# The disk server's stats report (`disk_server/disk_monitor.h`)

`DiskMonitor` holds a disk server's running counters. What leaves the server is the
`ServerStats` record `GetServerStats` builds from them with a designated initialiser
(`disk_monitor.h:115-136`), sent to the controller by `StorageServer::ControllerStatsUpdater`
(`storage_server.cc:55-81`), followed by a separate `CommitServerMode` message carrying
`GetMode()`.

The monitor is modelled by the members `GetServerStats` reads, under their source names.
`UpdateStats` (`updateStats`) sets the counts from what it reads off the data path's per-core
counters, a parameter (`OpCounts`), and the rates as double quotients (`Lib.Binary64.round`; a
zero elapsed time, whose quotient is `inf` or `NaN` in the code, gives `0`). The flusher and the
load calculator are in `Congestion`.

Result: `getServerStats_committedMode`: the designated initialiser leaves `committed_mode` out,
so every report carries the value-initialised `kMix`, whatever mode the server is in.
-/

namespace Sandook.DiskServer

/-- The members of `DiskMonitor` that `GetServerStats` reads. -/
structure DiskMonitor where
  serverId : ServerID
  mode : ServerMode
  readMops : ℚ
  writeMops : ℚ
  readWeight : ServerWeight
  writeWeight : ServerWeight
  inflightReadsT : UInt32
  inflightWritesT : UInt32
  completedReadsT : UInt32
  pureReadsT : UInt32
  impureReadsT : UInt32
  completedWritesT : UInt32
  rejectedReadsT : UInt32
  rejectedWritesT : UInt32
  medianReadLatencyTd : UInt64
  medianWriteLatencyTd : UInt64
  signalReadLatency : UInt64
  signalWriteLatency : UInt64
  congestionState : ServerCongestionState
  deriving DecidableEq, Repr

/-- `DiskMonitor::GetServerStats`: the designated initialiser names every field but
`committed_mode`, which is value-initialised (`kMix`); `is_rejecting_requests` is `false`. -/
def DiskMonitor.getServerStats (m : DiskMonitor) : ServerStats where
  serverId := m.serverId
  mode := m.mode
  committedMode := .kMix
  readMops := m.readMops
  writeMops := m.writeMops
  readWeight := m.readWeight
  writeWeight := m.writeWeight
  inflightReads := m.inflightReadsT
  inflightWrites := m.inflightWritesT
  completedReads := m.completedReadsT
  pureReads := m.pureReadsT
  impureReads := m.impureReadsT
  completedWrites := m.completedWritesT
  rejectedReads := m.rejectedReadsT
  rejectedWrites := m.rejectedWritesT
  medianReadLatency := m.medianReadLatencyTd
  medianWriteLatency := m.medianWriteLatencyTd
  signalReadLatency := m.signalReadLatency
  signalWriteLatency := m.signalWriteLatency
  isRejectingRequests := false
  congestionState := m.congestionState

/-- What `UpdateStats` reads off the data path's per-core counters (`ThreadSafeCounter`): the
completed, pure, impure and rejected operations since its last call (`get_sum_and_reset`) and the
operations in flight (`get_sum`), each cast to `uint32_t`, and the microseconds since the last
call. -/
structure OpCounts where
  completedReads : UInt32
  completedWrites : UInt32
  pureReads : UInt32
  impureReads : UInt32
  inflightReads : UInt32
  inflightWrites : UInt32
  rejectedReads : UInt32
  rejectedWrites : UInt32
  elapsedUs : UInt64
  deriving DecidableEq, Repr

/-- `UpdateStats` (`disk_monitor.h:321-343`): the counts become the members the report carries,
and the completed counts over the elapsed time the read and write rates. -/
def DiskMonitor.updateStats (m : DiskMonitor) (c : OpCounts) : DiskMonitor :=
  { m with
    completedReadsT := c.completedReads, completedWritesT := c.completedWrites,
    pureReadsT := c.pureReads, impureReadsT := c.impureReads,
    inflightReadsT := c.inflightReads, inflightWritesT := c.inflightWrites,
    rejectedReadsT := c.rejectedReads, rejectedWritesT := c.rejectedWrites,
    readMops := Lib.Binary64.round
      (Lib.Binary64.round c.completedReads.toNat / Lib.Binary64.round c.elapsedUs.toNat),
    writeMops := Lib.Binary64.round
      (Lib.Binary64.round c.completedWrites.toNat / Lib.Binary64.round c.elapsedUs.toNat) }

/-- Every report a disk server sends carries `committed_mode = kMix`. -/
@[simp] theorem getServerStats_committedMode (m : DiskMonitor) :
    m.getServerStats.committedMode = .kMix := rfl

@[simp] theorem getServerStats_serverId (m : DiskMonitor) :
    m.getServerStats.serverId = m.serverId := rfl

end Sandook.DiskServer

import Mathlib

/-!
# Base types and constants (`sandook/base`)

Model of `base/constants.h`, `base/types.h`, `base/server_stats.h`, `base/io_desc.h`,
`base/msg.h` (the storage reply codes) and `base/error.h`.

* `Status<T>` is `Except ℕ T`: the error is the Linux errno the code hands to `MakeError`.
* Identifiers, sector numbers and block addresses are `ℕ`; where the code adds `uint64_t` or
  `uint32_t` values and the sum can wrap, the model writes the `% 2 ^ 64` (or `2 ^ 32`) out.
  The counters of `ServerStats` and the system load, which the schedulers add up, are `UInt32`
  and `UInt64`, as in the source.
* `double` is read as an exact rational.
* A `std::array<T, kNumMaxServers>` indexed by server id is a function `ℕ → T`. Its
  bounds-checked `.at` is `arrayAt?` / `arraySet?`: `none` stands for the `std::out_of_range`
  the source throws past the array.
-/

namespace Sandook

/-! ## Constants (`base/constants.h`, `base/types.h`) -/

/-- `kNumReplicas`. -/
def kNumReplicas : ℕ := 2

/-- `kAllocationBatch`: blocks per `AllocateBlocks` call. -/
def kAllocationBatch : ℕ := 2048

/-- `kNumMaxServers`: the length of every per-server array. -/
def kNumMaxServers : ℕ := 20

/-- `kSectorShift`: a Sandook sector is `2 ^ 12` bytes. -/
def kSectorShift : ℕ := 12

/-- `kDeviceAlignment = 1 << kSectorShift`. -/
def kDeviceAlignment : ℕ := 2 ^ kSectorShift

/-- `kLinuxSectorShift`: a Linux sector is `2 ^ 9` bytes. -/
def kLinuxSectorShift : ℕ := 9

/-- `kNumLinuxSectorsPerSandookSector = 1 << (kSectorShift - kLinuxSectorShift)`. -/
def kNumLinuxSectorsPerSandookSector : ℕ := 2 ^ (kSectorShift - kLinuxSectorShift)

/-- `kInvalidServerID`. -/
def kInvalidServerID : ℕ := 0

/-- `kModeSwitchIntervalUs = 300 * kOneMilliSecond`. -/
def kModeSwitchIntervalUs : UInt64 := 300000

/-! ## Errors (`base/error.h`) -/

/-- Linux `ENOENT`. -/
def ENOENT : ℕ := 2
/-- Linux `EAGAIN`. -/
def EAGAIN : ℕ := 11
/-- Linux `EBUSY`. -/
def EBUSY : ℕ := 16
/-- Linux `EINVAL`. -/
def EINVAL : ℕ := 22
/-- Linux `EROFS`. -/
def EROFS : ℕ := 30
/-- Linux `ENOTSUP`. -/
def ENOTSUP : ℕ := 95
/-- Linux `EALREADY`. -/
def EALREADY : ℕ := 114

/-- `Status<T>`: a value, or the errno of `MakeError`. -/
abbrev Status (α : Type) := Except ℕ α

/-! ## Identifiers and block information (`base/types.h`) -/

/-- `ServerID` (`uint32_t`). -/
abbrev ServerID := ℕ
/-- `ServerBlockAddr` (`uint64_t`). -/
abbrev ServerBlockAddr := ℕ
/-- `VolumeBlockAddr` (`uint64_t`). -/
abbrev VolumeBlockAddr := ℕ
/-- `VolumeID` (`uint32_t`). -/
abbrev VolumeID := ℕ

/-- `ServerBlockInfo`: a physical block, the server and the block address on it. -/
structure ServerBlockInfo where
  serverId : ServerID
  blockAddr : ServerBlockAddr
  deriving DecidableEq, Repr

/-- `ServerReplicaBlockInfo`: a physical block and its dirty bit. -/
abbrev ServerReplicaBlockInfo := ServerBlockInfo × Bool

/-- `ServerReplicaBlockInfoList = std::array<ServerReplicaBlockInfo, kNumReplicas>`. -/
abbrev ServerReplicaBlockInfoList := List ServerReplicaBlockInfo

/-- `ServerAllocation`: is there traffic, the number of read servers, of write servers. -/
abbrev ServerAllocation := Bool × ℕ × ℕ

/-- `SystemLoad`: the current read and write IOPS. -/
abbrev SystemLoad := UInt64 × UInt64

/-! ## Per-server arrays -/

/-- `arr.at(i)`: `none` past the end of a `kNumMaxServers` array. -/
def arrayAt? {α : Type} (arr : ℕ → α) (i : ℕ) : Option α :=
  if i < kNumMaxServers then some (arr i) else none

/-- `arr.at(i) = v`: `none` past the end of a `kNumMaxServers` array. -/
def arraySet? {α : Type} (arr : ℕ → α) (i : ℕ) (v : α) : Option (ℕ → α) :=
  if i < kNumMaxServers then some (Function.update arr i v) else none

theorem arrayAt?_of_lt {α : Type} (arr : ℕ → α) {i : ℕ} (h : i < kNumMaxServers) :
    arrayAt? arr i = some (arr i) := by
  simp [arrayAt?, h]

theorem arraySet?_of_lt {α : Type} (arr : ℕ → α) {i : ℕ} (v : α) (h : i < kNumMaxServers) :
    arraySet? arr i v = some (Function.update arr i v) := by
  simp [arraySet?, h]

/-! ## Operations (`base/io_desc.h`) -/

/-- `OpType`. -/
inductive OpType where
  | kRead | kWrite | kFlush | kDiscard | kWriteSame | kWriteZeroes | kAllocate
  deriving DecidableEq, Repr

/-- `IODesc`, less the completion callback (modelled where it is called). The op is
`get_op`'s decoding of `op_flags`. -/
structure IODesc where
  op : OpType
  numSectors : ℕ
  startSector : ℕ
  addr : ℕ
  deriving DecidableEq, Repr

/-- `StorageOpReplyCode` (`base/msg.h`). -/
inductive StorageOpReplyCode where
  | kSuccess | kFailure | kRejectModeMismatch | kRejectDeviceBusy | kSuccessCongested
  deriving DecidableEq, Repr

/-! ## Server statistics (`base/server_stats.h`) -/

/-- `ServerMode`. -/
inductive ServerMode where
  | kMix | kRead | kWrite
  deriving DecidableEq, Repr

/-- `ServerCongestionState`. -/
inductive ServerCongestionState where
  | kInvalid | kUnCongested | kCongested | kCongestedUnstable | kCongestedStable
  deriving DecidableEq, Repr

/-- `ServerWeight` (`double`). -/
abbrev ServerWeight := ℚ

/-- `ServerStats`: the record disk servers report and the controller keeps per server. -/
structure ServerStats where
  serverId : ServerID
  mode : ServerMode
  committedMode : ServerMode
  readMops : ℚ
  writeMops : ℚ
  readWeight : ServerWeight
  writeWeight : ServerWeight
  inflightReads : UInt32
  inflightWrites : UInt32
  completedReads : UInt32
  pureReads : UInt32
  impureReads : UInt32
  completedWrites : UInt32
  rejectedReads : UInt32
  rejectedWrites : UInt32
  medianReadLatency : UInt64
  medianWriteLatency : UInt64
  signalReadLatency : UInt64
  signalWriteLatency : UInt64
  isRejectingRequests : Bool
  congestionState : ServerCongestionState
  deriving DecidableEq, Repr

/-- A value-initialised `ServerStats{}`: every field zero, so both modes are `kMix` and the
congestion state is `kInvalid`. -/
def ServerStats.zero : ServerStats where
  serverId := 0
  mode := .kMix
  committedMode := .kMix
  readMops := 0
  writeMops := 0
  readWeight := 0
  writeWeight := 0
  inflightReads := 0
  inflightWrites := 0
  completedReads := 0
  pureReads := 0
  impureReads := 0
  completedWrites := 0
  rejectedReads := 0
  rejectedWrites := 0
  medianReadLatency := 0
  medianWriteLatency := 0
  signalReadLatency := 0
  signalWriteLatency := 0
  isRejectingRequests := false
  congestionState := .kInvalid

/-- `ServerStatsList = std::vector<ServerStats>`. -/
abbrev ServerStatsList := List ServerStats

/-- `DataPlaneServerStats`: mode, congestion state, read weight, write weight. -/
abbrev DataPlaneServerStats := ServerMode × ServerCongestionState × ServerWeight × ServerWeight

/-- `ServerModes = std::array<ServerMode, kNumMaxServers>`. -/
abbrev ServerModes := ℕ → ServerMode

/-- `ServerWeights = std::array<ServerWeight, kNumMaxServers>`. -/
abbrev ServerWeights := ℕ → ServerWeight

/-- `kDefaultServerWeight = 1.0`. -/
def kDefaultServerWeight : ServerWeight := 1

/-- `kInvalidServerWeight = std::numeric_limits<double>::min()`, the least positive normal
double `2 ^ (-1022)`. -/
def kInvalidServerWeight : ServerWeight := 1 / 2 ^ 1022

/-- `InitServerWeights`: every entry `kInvalidServerWeight`. -/
def initServerWeights : ServerWeights := fun _ => kInvalidServerWeight

end Sandook

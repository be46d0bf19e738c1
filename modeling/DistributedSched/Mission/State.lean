import DistributedSched.Base.Env
import Std.Data.ExtTreeSet

/-!
# Mission — the state of DistributedSchedMissionManager

On the device that shows the missions of others: `listenDeviceMap_`, the listeners of each
device with the flag that its sync was started, and `deviceMissionInfos_`, the list of each
device by its uuid.  On the device that shares its missions: `remoteSyncDeviceSet_`, the
subscribers, and `isRegMissionChange_`.  A task that is posted to a handler is an effect, with
what its closure captured (`MissionTask`).
-/

namespace DistributedSched

/-- `std::set`. -/
abbrev OrdSet (α : Type) [Ord α] := Std.ExtTreeSet α compare

def getLocalDeviceErr : Int := 29360144
def getRemoteDmsFail : Int := 29360174

def maxRetryTimes : Nat := 15

structure DstbMissionInfo where
  id : Int := -1
  runingState : Int := -1
  userId : Int := 0
  missionStackId : Int := -1
  combinedMissionIds : List Int := []
  windowMode : Int := 0
  boundsLeft : Int := 0
  boundsTop : Int := 0
  boundsRight : Int := 0
  boundsBottom : Int := 0
  baseWant : Option Want := none
  topAbility : Option ElementName := none
  baseAbility : Option ElementName := none
  reservedAbility : Option ElementName := none
  lastMissionActiveTime : Int := 0
  displayId : Int := 0
  label : String := ""
  size : Int := 0
  iconPath : String := ""
  continuable : Int := 0
  windowType : Int := 0
  lockedState : Bool := false
  missionType : Int := 2147483647
  windowTypeMode : Int := 0
deriving DecidableEq

structure ListenerInfo where
  called : Bool := false
  listenerSet : OrdSet RemoteObject := ∅

namespace ListenerInfo

def emplace (info : ListenerInfo) (listener : RemoteObject) : ListenerInfo :=
  { info with listenerSet := info.listenerSet.insert listener }

def find (info : ListenerInfo) (listener : RemoteObject) : Bool :=
  info.listenerSet.contains listener

def erase (info : ListenerInfo) (listener : RemoteObject) : ListenerInfo :=
  { info with listenerSet := info.listenerSet.erase listener }

def empty (info : ListenerInfo) : Bool := info.listenerSet.isEmpty

end ListenerInfo

structure DistributedSchedMissionManager where
  listenDeviceMap : Map String ListenerInfo := ∅
  deviceMissionInfos : Map String (List DstbMissionInfo) := ∅
  remoteSyncDeviceSet : OrdSet String := ∅
  isRegMissionChange : Bool := false

/-! ### The environment -/

structure MissionEnv where
  /-- `GetLocalDeviceId` -/
  localDeviceId : Option String := none
  /-- `GetUuidByNetworkId`; empty when the device is not known -/
  getUuidByNetworkId : String → String := fun _ => ""
  /-- `GetDeviceInfoById(deviceId) != nullptr` -/
  getDeviceInfoById : String → Bool := fun _ => false
  /-- `GetRemoteDms(deviceId) != nullptr` -/
  getRemoteDms : String → Bool := fun _ => false
  /-- `IPCSkeleton::GetCallingUid` and `GetCallingPid` -/
  callingUid : Int := 0
  callingPid : Int := 0
  /-- the answer of `StartSyncMissionsFromRemote` on the device, with the list it read -/
  startSyncMissionsFromRemote : String → CallerInfo → Int × List DstbMissionInfo :=
    fun _ _ => (0, [])
  /-- the answer of `StopSyncMissionsFromRemote` on the device -/
  stopSyncMissionsFromRemote : String → CallerInfo → Int := fun _ _ => 0
  /-- `GetLocalMissionInfos(GET_MAX_MISSIONS)`, with the list it leaves -/
  getLocalMissionInfos : Int × List DstbMissionInfo := (0, [])
  /-- the ability manager's `RegisterMissionListener` and `UnRegisterMissionListener` -/
  amsRegisterMissionListener : Int := 0
  amsUnRegisterMissionListener : Int := 0
  /-- whether `PostTask` succeeds -/
  postTask : Bool := true
  /-- IPC's `ERR_FLATTEN_OBJECT` and `ERR_NULL_OBJECT` -/
  errFlattenObject : Failure := ⟨1, one_ne_errOk⟩
  errNullObject : Failure := ⟨2, two_ne_errOk⟩

/-- The local id is there, and is not the id of the other device. -/
def MissionEnv.isRemote (env : MissionEnv) (devId : String) : Bool :=
  env.localDeviceId.any fun localDeviceId => localDeviceId ≠ devId

/-- `GenerateCallerInfo`. -/
def MissionEnv.generateCallerInfo (env : MissionEnv) : Option CallerInfo :=
  env.localDeviceId.map fun localUuid =>
    { uid := env.callingUid, pid := env.callingPid, callerType := callerTypeHarmony,
      sourceDeviceId := localUuid }

/-! ### Effects -/

/-- A task of `missionHandler_`. -/
inductive MissionTask where
  /-- of `StartSyncMissionsFromRemote`, with the list for `InitAllSnapshots` -/
  | registerMissionListener (missionInfos : List DstbMissionInfo)
  /-- of `StopSyncMissionsFromRemote` -/
  | unRegisterMissionListener
  /-- of `OnDnetDied` -/
  | dnetDied
  /-- of `OnRemoteDied` -/
  | missionListenerDied (listener : RemoteObject)
  /-- of `RetryStartSyncRemoteMissions`, posted with `RETRY_DELAYED` -/
  | retryStartSync (dstDeviceId : String) (retryTimes : Nat)
  /-- of `NotifyMissionsChangedFromRemote` -/
  | notifyMissionsChanged (listenerSet : OrdSet RemoteObject) (devId : String)

inductive MissionEffect where
  | post (task : MissionTask)
  /-- `NotifyMissionsChangedToRemoteInner`, posted to the handler of a uuid -/
  | postToDevice (uuid destDeviceId : String) (missionInfos : List DstbMissionInfo)
      (callerInfo : CallerInfo)
  /-- `MissionChangedNotify::NotifyMissionsChanged` -/
  | notifyMissionsChanged (listener : RemoteObject) (devId : String)
  /-- `RemoveTask(DELETE_DATA_STORAGE + uuid)` -/
  | removeDataStorageTask (uuid : String)
  /-- `DeleteDataStorage(deviceId, true)` -/
  | deleteDataStorage (deviceId : String)
  | deleteCachedSnapshotInfo (networkId : String)
  /-- `MissionSnapshotChanged` of every mission of the list -/
  | initAllSnapshots (missionInfos : List DstbMissionInfo)
  /-- `listenerDeath_` -/
  | addDeathRecipient (listener : RemoteObject)
  | removeDeathRecipient (listener : RemoteObject)
  | startSyncMissionsFromRemote (deviceId : String) (callerInfo : CallerInfo)
  | stopSyncMissionsFromRemote (deviceId : String) (callerInfo : CallerInfo)
  | amsRegisterMissionListener
  | amsUnRegisterMissionListener

/-- What a call leaves: its result, the manager, and its effects in their order. -/
structure MissionOutcome where
  result : Int
  manager : DistributedSchedMissionManager
  effects : List MissionEffect := []

end DistributedSched

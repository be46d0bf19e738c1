import DistributedSched.Library.TreeWalk
import DistributedSched.Mission.State

/-!
# Mission — DistributedSchedMissionManager

The functions of the mission manager that start and stop the sync of missions between two
devices, and that carry the changes.  `RegisterMissionListener` and its opposite keep the
listeners, `StartSyncRemoteMissions` and its opposite subscribe at the other device, whose side
are `StartSyncMissionsFromRemote` and its opposite.  An answer of another device is part of the
environment, and the request is an effect.
-/

namespace DistributedSched

open Std (ExtTreeMap)

namespace DistributedSchedMissionManager

variable (env : MissionEnv) (m : DistributedSchedMissionManager)

/-! ### The cache of lists -/

def rebornMissionCache (deviceId : String) (missionInfos : List DstbMissionInfo) :
    DistributedSchedMissionManager :=
  let uuid := env.getUuidByNetworkId deviceId
  if uuid = "" then m
  else { m with deviceMissionInfos := m.deviceMissionInfos.insert uuid missionInfos }

def cleanMissionCache (deviceId : String) : DistributedSchedMissionManager :=
  let uuid := env.getUuidByNetworkId deviceId
  if uuid = "" then m else { m with deviceMissionInfos := m.deviceMissionInfos.erase uuid }

/-! ### Listeners -/

def registerMissionListener (devId : String) (listener : Option RemoteObject) : MissionOutcome :=
  let removed := MissionEffect.removeDataStorageTask (env.getUuidByNetworkId devId)
  match listener with
  | none => ⟨invalidParametersErr, m, [removed]⟩
  | some listener =>
    if !env.isRemote devId then ⟨invalidParametersErr, m, [removed]⟩
    else
      -- `listenDeviceMap_[devId]` makes an entry when there is none
      let listenerInfo := m.listenDeviceMap[devId]?.getD {}
      if listenerInfo.find listener then ⟨errOk, m, [removed]⟩
      else ⟨errOk, { m with
          listenDeviceMap := m.listenDeviceMap.insert devId (listenerInfo.emplace listener) },
        [removed, .addDeathRecipient listener]⟩

def unRegisterMissionListener (devId : String) (listener : Option RemoteObject) :
    MissionOutcome :=
  match listener with
  | none => ⟨invalidParametersErr, m, []⟩
  | some listener =>
    if !env.isRemote devId then ⟨invalidParametersErr, m, []⟩
    else match m.listenDeviceMap[devId]? with
      | none => ⟨errOk, m, []⟩
      | some listenerInfo =>
        if !listenerInfo.find listener then ⟨errOk, m, []⟩
        else
          let listenerInfo := listenerInfo.erase listener
          ⟨errOk, { m with listenDeviceMap :=
              if !listenerInfo.empty then m.listenDeviceMap.insert devId listenerInfo
              else m.listenDeviceMap.erase devId },
            [.removeDeathRecipient listener]⟩

def hasSyncListener (networkId : String) : Bool :=
  match m.listenDeviceMap[networkId]? with
  | some listenerInfo => listenerInfo.called
  | none => false

/-- `iterItem->second.called = true`, when there is an entry. -/
def setCalled (devId : String) : DistributedSchedMissionManager :=
  match m.listenDeviceMap[devId]? with
  | some listenerInfo =>
    { m with listenDeviceMap :=
        m.listenDeviceMap.insert devId { listenerInfo with called := true } }
  | none => m

/-! ### Starting a sync -/

/-- `RetryStartSyncRemoteMissions`. -/
def retryStartSync (dstDeviceId : String) (retryTimes : Nat) : List MissionEffect :=
  if retryTimes < maxRetryTimes then [.post (.retryStartSync dstDeviceId retryTimes)] else []

/-- `StartSyncRemoteMissions(dstDevId, remoteDms)`. -/
def startSyncAt (dstDevId : String) : MissionOutcome :=
  match env.generateCallerInfo with
  | none => ⟨getLocalDeviceErr, m, []⟩
  | some callerInfo =>
    let reply := env.startSyncMissionsFromRemote dstDevId callerInfo
    ⟨reply.1, if reply.1 = errOk then m.rebornMissionCache env dstDevId reply.2 else m,
      [.startSyncMissionsFromRemote dstDevId callerInfo]⟩

/-- `StartSyncRemoteMissions(dstDevId, localDevId)`. -/
def startSyncListened (dstDevId : String) : MissionOutcome :=
  match m.listenDeviceMap[dstDevId]? with
  | none => ⟨errOk, m, []⟩
  | some listenerInfo =>
    if listenerInfo.called then ⟨errOk, m, []⟩
    else if !env.getRemoteDms dstDevId then ⟨getRemoteDmsFail, m, retryStartSync dstDevId 0⟩
    else
      let o := m.startSyncAt env dstDevId
      if o.result = errOk then { o with manager := o.manager.setCalled dstDevId } else o

def startSyncRemoteMissions (dstDevId : String) : MissionOutcome :=
  if !env.isRemote dstDevId then ⟨invalidParametersErr, m, []⟩
  else m.startSyncListened env dstDevId

/-- The task of `RetryStartSyncRemoteMissions`. -/
def runRetryStartSync (dstDeviceId : String) (retryTimes : Nat) :
    DistributedSchedMissionManager × List MissionEffect :=
  if !m.hasSyncListener dstDeviceId then (m, [])
  else if !env.getRemoteDms dstDeviceId then (m, retryStartSync dstDeviceId (retryTimes + 1))
  else
    let o := m.startSyncAt env dstDeviceId
    (o.manager, o.effects)

/-! ### Stopping a sync -/

def stopSyncRemoteMissions (dstDevId : String) (offline : Bool) : MissionOutcome :=
  let m := m.cleanMissionCache env dstDevId
  let cleaned := [MissionEffect.deleteCachedSnapshotInfo dstDevId, .deleteDataStorage dstDevId]
  if offline then ⟨errOk, m, cleaned⟩
  else if !env.getRemoteDms dstDevId then ⟨getRemoteDmsFail, m, cleaned⟩
  else match env.generateCallerInfo with
    | none => ⟨getLocalDeviceErr, m, cleaned⟩
    | some callerInfo =>
      ⟨env.stopSyncMissionsFromRemote dstDevId callerInfo, m,
        cleaned ++ [.stopSyncMissionsFromRemote dstDevId callerInfo]⟩

def cleanMissionResources (dstDevId : String) :
    DistributedSchedMissionManager × List MissionEffect :=
  match m.listenDeviceMap[dstDevId]? with
  | none => (m, [])
  | some listenerInfo =>
    let o := stopSyncRemoteMissions env
      { m with listenDeviceMap := m.listenDeviceMap.erase dstDevId } dstDevId true
    (o.manager, listenerInfo.listenerSet.toList.map .removeDeathRecipient ++ o.effects)

/-- One round of the loop of `OnMissionListenerDied`: the effects so far with the devices to
stop, in the order of the map. -/
def listenerDied (remote : RemoteObject) (acc : List MissionEffect × List String)
    (devId : String) (listenerInfo : ListenerInfo) :
    (List MissionEffect × List String) × Option ListenerInfo :=
  if !listenerInfo.find remote then (acc, some listenerInfo)
  else
    let effects := acc.1 ++ [.removeDeathRecipient remote]
    let listenerInfo := listenerInfo.erase remote
    if listenerInfo.empty then
      ((effects, if listenerInfo.called then acc.2 ++ [devId] else acc.2), none)
    else ((effects, acc.2), some listenerInfo)

/-- `StopSyncRemoteMissions(devId, false)` of each device. -/
def stopSyncAll (m : DistributedSchedMissionManager) :
    List String → DistributedSchedMissionManager × List MissionEffect
  | [] => (m, [])
  | devId :: deviceSet =>
    let o := m.stopSyncRemoteMissions env devId false
    let r := stopSyncAll o.manager deviceSet
    (r.1, o.effects ++ r.2)

def onMissionListenerDied (remote : RemoteObject) :
    DistributedSchedMissionManager × List MissionEffect :=
  let r := m.listenDeviceMap.walk (listenerDied remote) ([], [])
  let s := stopSyncAll env { m with listenDeviceMap := r.2 } r.1.2
  (s.1, r.1.1 ++ s.2)

/-! ### The side of the device that shares its missions -/

/-- The `remoteSyncDeviceLock_` block of `StartSyncMissionsFromRemote`. -/
def addSyncDevice (deviceId : String) : DistributedSchedMissionManager :=
  { m with remoteSyncDeviceSet := m.remoteSyncDeviceSet.insert deviceId }

/-- What `StartSyncMissionsFromRemote` posts after it has the list. -/
def postRegister (missionInfos : List DstbMissionInfo) : List MissionEffect :=
  if env.postTask then [.post (.registerMissionListener missionInfos)] else []

/-- `StartSyncMissionsFromRemote`, with the list that it answers. -/
def startSyncMissionsFromRemote (callerInfo : CallerInfo) :
    MissionOutcome × List DstbMissionInfo :=
  let m := m.addSyncDevice callerInfo.sourceDeviceId
  let missions := env.getLocalMissionInfos
  (⟨missions.1, m, postRegister env missions.2⟩, missions.2)

def stopSyncMissionsFromRemote (deviceId : String) :
    DistributedSchedMissionManager × List MissionEffect :=
  let m := { m with remoteSyncDeviceSet := m.remoteSyncDeviceSet.erase deviceId }
  (m, if m.remoteSyncDeviceSet.isEmpty && env.postTask then [.post .unRegisterMissionListener]
    else [])

/-- `StartSyncMissionsFromRemoteInner`, with the list it writes into the reply. -/
def onStartSyncMissionsFromRemote (callerInfo : CallerInfo) :
    MissionOutcome × List DstbMissionInfo :=
  let r := m.startSyncMissionsFromRemote env callerInfo
  if r.1.result = errOk then r else (⟨env.errFlattenObject.1, r.1.manager, r.1.effects⟩, [])

/-- `OnDnetDied`. -/
def onDnetDied : List MissionEffect := if env.postTask then [.post .dnetDied] else []

/-- The task of `StartSyncMissionsFromRemote`. -/
def runRegister (missionInfos : List DstbMissionInfo) :
    DistributedSchedMissionManager × List MissionEffect :=
  if m.isRegMissionChange then (m, [])
  else
    (if env.amsRegisterMissionListener = errOk then { m with isRegMissionChange := true } else m,
      [.amsRegisterMissionListener, .initAllSnapshots missionInfos])

/-- The task of `StopSyncMissionsFromRemote`. -/
def runUnRegister : DistributedSchedMissionManager × List MissionEffect :=
  (if env.amsUnRegisterMissionListener = errOk then { m with isRegMissionChange := false } else m,
    [.amsUnRegisterMissionListener])

/-- The task of `OnDnetDied`. -/
def runDnetDied : DistributedSchedMissionManager × List MissionEffect :=
  if !m.isRegMissionChange then (m, [])
  else ({ m with remoteSyncDeviceSet := ∅, isRegMissionChange := false },
    [.amsUnRegisterMissionListener])

/-- A task of `missionHandler_`. -/
def runTask : MissionTask → DistributedSchedMissionManager × List MissionEffect
  | .registerMissionListener missionInfos => m.runRegister env missionInfos
  | .unRegisterMissionListener => m.runUnRegister env
  | .dnetDied => m.runDnetDied
  | .missionListenerDied listener => m.onMissionListenerDied env listener
  | .retryStartSync dstDeviceId retryTimes => m.runRetryStartSync env dstDeviceId retryTimes
  | .notifyMissionsChanged listenerSet devId =>
    (m, listenerSet.toList.map fun listener => .notifyMissionsChanged listener devId)

/-! ### Changes -/

/-- `FetchDeviceHandler`: the uuid whose handler it is. -/
def fetchDeviceHandler (deviceId : String) : Option String :=
  if deviceId = "" || !env.getDeviceInfoById deviceId then none
  else
    let uuid := env.getUuidByNetworkId deviceId
    if uuid = "" then none else some uuid

/-- The loop of `NotifyMissionsChangedToRemote`. -/
def notifyDevices (missionInfos : List DstbMissionInfo) (callerInfo : CallerInfo) :
    List String → Int × List MissionEffect
  | [] => (errOk, [])
  | destDeviceId :: rest =>
    match fetchDeviceHandler env destDeviceId with
    | none => notifyDevices missionInfos callerInfo rest
    | some uuid =>
      if !env.postTask then (env.errNullObject.1, [])
      else
        let r := notifyDevices missionInfos callerInfo rest
        (r.1, .postToDevice uuid destDeviceId missionInfos callerInfo :: r.2)

def notifyMissionsChangedToRemote (missionInfos : List DstbMissionInfo) :
    Int × List MissionEffect :=
  match env.generateCallerInfo with
  | none => (getLocalDeviceErr, [])
  | some callerInfo => notifyDevices env missionInfos callerInfo m.remoteSyncDeviceSet.toList

def notifyMissionsChangedFromRemote (callerInfo : CallerInfo)
    (missionInfos : List DstbMissionInfo) : MissionOutcome :=
  let m := m.rebornMissionCache env callerInfo.sourceDeviceId missionInfos
  match m.listenDeviceMap[callerInfo.sourceDeviceId]? with
  | none => ⟨invalidParametersErr, m, []⟩
  | some listenerInfo =>
    -- the answer of `PostTask` is not looked at
    ⟨errOk, m, if env.postTask then
      [.post (.notifyMissionsChanged listenerInfo.listenerSet callerInfo.sourceDeviceId)] else []⟩

/-- `remoteDmsMap_` is part of what `getRemoteDms` answers. -/
def deviceOfflineNotify (deviceId : String) :
    DistributedSchedMissionManager × List MissionEffect :=
  if deviceId = "" then (m, [])
  else
    let r := m.stopSyncMissionsFromRemote env deviceId
    let c := r.1.cleanMissionResources env deviceId
    (c.1, r.2 ++ c.2)

/-! ### The lists of other devices -/

def fetchCachedRemoteMissions (srcId : String) (numMissions : Int) :
    Except Int (List DstbMissionInfo) :=
  let uuid := env.getUuidByNetworkId srcId
  if uuid = "" then .error invalidParametersErr
  else match m.deviceMissionInfos[uuid]? with
    | none => .error env.errNullObject.1
    | some missionInfos => .ok (missionInfos.take numMissions.toNat)

/-- `GetMissionInfos`, with the list that is converted for the caller. -/
def getMissionInfos (deviceId : String) (numMissions : Int) :
    Except Int (List DstbMissionInfo) :=
  if deviceId = "" || !env.getDeviceInfoById deviceId then .error invalidParametersErr
  else if numMissions ≤ 0 then .error invalidParametersErr
  else m.fetchCachedRemoteMissions env deviceId numMissions

/-! ### What the functions do -/

section functions

variable {env} {m}

/-- The entry of a device after the listener has died. -/
def withoutListener (remote : RemoteObject) (listenerInfo : ListenerInfo) : Option ListenerInfo :=
  if !listenerInfo.find remote then some listenerInfo
  else if (listenerInfo.erase remote).empty then none
  else some (listenerInfo.erase remote)

theorem walk_listenerDied_getElem? (remote : RemoteObject)
    (acc : List MissionEffect × List String) (devId : String) :
    (m.listenDeviceMap.walk (listenerDied remote) acc).2[devId]? =
      m.listenDeviceMap[devId]?.bind (withoutListener remote) := by
  refine ExtTreeMap.walk_getElem? (g := fun _ => withoutListener remote)
    (fun acc devId listenerInfo => ?_) acc m.listenDeviceMap devId
  simp only [listenerDied, withoutListener]
  split
  · rfl
  · split <;> rfl

/-- The devices to stop, in the order of the map. -/
theorem walk_listenerDied_devices (remote : RemoteObject) :
    (m.listenDeviceMap.walk (listenerDied remote) ([], [])).1.2 =
      m.listenDeviceMap.toList.flatMap fun e =>
        if e.2.called ∧ withoutListener remote e.2 = none then [e.1] else [] := by
  rw [ExtTreeMap.walk_append (l := Prod.snd) (g := fun devId listenerInfo =>
    if listenerInfo.called ∧ withoutListener remote listenerInfo = none then [devId] else [])]
  · rw [List.nil_append]
  · intro acc devId listenerInfo
    simp only [listenerDied, withoutListener]
    split
    · simp
    · split
      · rename_i he
        cases hc : listenerInfo.called <;> simp [ListenerInfo.erase, hc]
      · simp

/-- The devices to stop are those that lose their entry and whose sync was started. -/
theorem mem_walk_listenerDied (remote : RemoteObject) (devId : String) :
    devId ∈ (m.listenDeviceMap.walk (listenerDied remote) ([], [])).1.2 ↔
      ∃ listenerInfo, m.listenDeviceMap[devId]? = some listenerInfo ∧
        withoutListener remote listenerInfo = none ∧ listenerInfo.called = true := by
  simp only [walk_listenerDied_devices, List.mem_flatMap, Prod.exists,
    ExtTreeMap.mem_toList_iff_getElem?_eq_some]
  constructor
  · rintro ⟨devId', listenerInfo, hk, hd⟩
    split at hd
    · rename_i h
      cases List.mem_singleton.mp hd
      exact ⟨listenerInfo, hk, h.2, h.1⟩
    · cases hd
  · rintro ⟨listenerInfo, hk, hn, hc⟩
    exact ⟨devId, listenerInfo, hk, by rw [if_pos ⟨hc, hn⟩]; exact List.mem_singleton_self _⟩

theorem walk_listenerDied_effects (remote : RemoteObject) :
    ∀ e ∈ (m.listenDeviceMap.walk (listenerDied remote) ([], [])).1.1,
      e = .removeDeathRecipient remote := by
  refine ExtTreeMap.walk_acc (Q := fun acc : List MissionEffect × List String =>
    ∀ e ∈ acc.1, e = .removeDeathRecipient remote) (fun e he => nomatch he)
    fun acc devId listenerInfo _ ih => ?_
  have happend : ∀ e ∈ acc.1 ++ [MissionEffect.removeDeathRecipient remote],
      e = .removeDeathRecipient remote := by
    intro e he
    exact (List.mem_append.mp he).elim (ih e) List.mem_singleton.mp
  simp only [listenerDied]
  split
  · exact ih
  · split
    · exact happend
    · exact happend

@[simp] theorem rebornMissionCache_listenDeviceMap (deviceId : String)
    (missionInfos : List DstbMissionInfo) :
    (m.rebornMissionCache env deviceId missionInfos).listenDeviceMap = m.listenDeviceMap := by
  simp only [rebornMissionCache]
  split <;> rfl

@[simp] theorem cleanMissionCache_listenDeviceMap (deviceId : String) :
    (m.cleanMissionCache env deviceId).listenDeviceMap = m.listenDeviceMap := by
  simp only [cleanMissionCache]
  split <;> rfl

@[simp] theorem stopSyncRemoteMissions_listenDeviceMap (dstDevId : String) (offline : Bool) :
    (m.stopSyncRemoteMissions env dstDevId offline).manager.listenDeviceMap =
      m.listenDeviceMap := by
  unfold stopSyncRemoteMissions
  simp only
  split
  · simp
  split
  · simp
  split <;> simp

@[simp] theorem stopSyncAll_listenDeviceMap (deviceSet : List String) :
    (stopSyncAll env m deviceSet).1.listenDeviceMap = m.listenDeviceMap := by
  induction deviceSet generalizing m with
  | nil => rfl
  | cons devId deviceSet ih =>
      rw [stopSyncAll, ih, stopSyncRemoteMissions_listenDeviceMap]

theorem setCalled_getElem? (devId d : String) :
    (m.setCalled devId).listenDeviceMap[d]? =
      if devId = d then m.listenDeviceMap[d]?.map fun info => { info with called := true }
      else m.listenDeviceMap[d]? := by
  unfold setCalled
  split
  · rename_i info hk
    by_cases hd : devId = d
    · subst hd
      rw [ExtTreeMap.getElem?_insert_self, if_pos rfl, hk]
      rfl
    · rw [ExtTreeMap.getElem?_insert_of_ne hd, if_neg hd]
  · rename_i hk
    split
    · rename_i hd
      rw [← hd, hk]
      rfl
    · rfl

@[simp] theorem setCalled_deviceMissionInfos (devId : String) :
    (m.setCalled devId).deviceMissionInfos = m.deviceMissionInfos := by
  unfold setCalled
  split <;> rfl

/-! ### The cached lists -/

variable {d u : String}

theorem rebornMissionCache_getElem? (missionInfos : List DstbMissionInfo) :
    (m.rebornMissionCache env d missionInfos).deviceMissionInfos[u]? =
      if env.getUuidByNetworkId d = u ∧ u ≠ "" then some missionInfos
      else m.deviceMissionInfos[u]? := by
  unfold rebornMissionCache
  by_cases he : env.getUuidByNetworkId d = ""
  · simp only [he, if_true]
    rw [if_neg fun h => h.2 h.1.symm]
  · simp only [he, if_false]
    by_cases hu : env.getUuidByNetworkId d = u
    · rw [← hu, ExtTreeMap.getElem?_insert_self, if_pos ⟨rfl, he⟩]
    · rw [ExtTreeMap.getElem?_insert_of_ne hu, if_neg fun h => hu h.1]

theorem cleanMissionCache_getElem? :
    (m.cleanMissionCache env d).deviceMissionInfos[u]? =
      if env.getUuidByNetworkId d = u ∧ u ≠ "" then none else m.deviceMissionInfos[u]? := by
  unfold cleanMissionCache
  by_cases he : env.getUuidByNetworkId d = ""
  · simp only [he, if_true]
    rw [if_neg fun h => h.2 h.1.symm]
  · simp only [he, if_false]
    by_cases hu : env.getUuidByNetworkId d = u
    · rw [← hu, ExtTreeMap.getElem?_erase_self, if_pos ⟨rfl, he⟩]
    · rw [ExtTreeMap.getElem?_erase_of_ne hu, if_neg fun h => hu h.1]

@[simp] theorem stopSyncRemoteMissions_deviceMissionInfos (offline : Bool) :
    (m.stopSyncRemoteMissions env d offline).manager.deviceMissionInfos =
      (m.cleanMissionCache env d).deviceMissionInfos := by
  unfold stopSyncRemoteMissions
  simp only
  split
  · rfl
  split
  · rfl
  split <;> rfl

/-- A list stays when none of the devices that are stopped has its uuid. -/
theorem stopSyncAll_getElem? (hu : u ≠ "") (deviceSet : List String) :
    (stopSyncAll env m deviceSet).1.deviceMissionInfos[u]? =
      if ∃ d ∈ deviceSet, env.getUuidByNetworkId d = u then none
      else m.deviceMissionInfos[u]? := by
  induction deviceSet generalizing m with
  | nil => simp [stopSyncAll]
  | cons d deviceSet ih =>
      rw [stopSyncAll, ih, stopSyncRemoteMissions_deviceMissionInfos, cleanMissionCache_getElem?]
      by_cases hd : env.getUuidByNetworkId d = u
      · simp [hd, hu]
      · simp [hd]

theorem stopSyncAll_unnamed (deviceSet : List String) :
    (stopSyncAll env m deviceSet).1.deviceMissionInfos[""]? = m.deviceMissionInfos[""]? := by
  induction deviceSet generalizing m with
  | nil => rfl
  | cons d deviceSet ih =>
      rw [stopSyncAll, ih, stopSyncRemoteMissions_deviceMissionInfos, cleanMissionCache_getElem?,
        if_neg fun h => h.2 rfl]

@[simp] theorem notifyMissionsChangedFromRemote_deviceMissionInfos (callerInfo : CallerInfo)
    (missionInfos : List DstbMissionInfo) :
    (m.notifyMissionsChangedFromRemote env callerInfo missionInfos).manager.deviceMissionInfos =
      (m.rebornMissionCache env callerInfo.sourceDeviceId missionInfos).deviceMissionInfos := by
  simp only [notifyMissionsChangedFromRemote]
  split <;> rfl

theorem registerMissionListener_deviceMissionInfos (env : MissionEnv)
    (m : DistributedSchedMissionManager) (devId : String) (listener : Option RemoteObject) :
    (m.registerMissionListener env devId listener).manager.deviceMissionInfos =
      m.deviceMissionInfos := by
  simp only [registerMissionListener]
  split
  · rfl
  split
  · rfl
  split <;> rfl

theorem unRegisterMissionListener_deviceMissionInfos (env : MissionEnv)
    (m : DistributedSchedMissionManager) (devId : String) (listener : Option RemoteObject) :
    (m.unRegisterMissionListener env devId listener).manager.deviceMissionInfos =
      m.deviceMissionInfos := by
  simp only [unRegisterMissionListener]
  split
  · rfl
  split
  · rfl
  split
  · rfl
  split <;> rfl

end functions

end DistributedSchedMissionManager

end DistributedSched

import DistributedSched.Library.Runs
import DistributedSched.Mission.Manager

/-!
# Mission — the life of the mission cache

`deviceMissionInfos_` is keyed by uuid and `listenDeviceMap_` by network id.  The operations run
one after another, for any devices; `uuid` gives each network id its uuid, and several network
ids may have the same one.

* `CacheListened`: a device has a cached list only while somebody listens to it.
* `CacheOp.Keeps`: what one operation is to leave.
* `CacheOp.Safe`: a list is stored only for a device that is listened to, and the last listener
  goes only from a device without a list, or in a way that drops the list.
* `cache_follows_listeners`: in runs of safe operations the cache follows the listeners, and an
  operation leaves what it should exactly when it is safe.
* `unregister_keeps_list`: an application listens, starts the sync and unregisters; the list
  stays.
-/

namespace DistributedSched

open Std (ExtTreeMap)
open DistributedSchedMissionManager

/-- The operations of the device that listens, in any order. -/
inductive CacheOp where
  | registerMissionListener (env : MissionEnv) (devId : String) (listener : Option RemoteObject)
  | unRegisterMissionListener (env : MissionEnv) (devId : String) (listener : Option RemoteObject)
  | startSyncRemoteMissions (env : MissionEnv) (dstDevId : String)
  | stopSyncRemoteMissions (env : MissionEnv) (dstDevId : String)
  | notifyMissionsChangedFromRemote (env : MissionEnv) (callerInfo : CallerInfo)
      (missionInfos : List DstbMissionInfo)
  | onMissionListenerDied (env : MissionEnv) (remote : RemoteObject)
  | deviceOfflineNotify (env : MissionEnv) (deviceId : String)

/-- A device has a cached list only while somebody listens to it. -/
def CacheListened (uuid : String → String) (m : DistributedSchedMissionManager) : Prop :=
  ∀ d, m.deviceMissionInfos[uuid d]? ≠ none → m.listenDeviceMap[d]? ≠ none

/-- Every network id with the uuid of `d` has a listener. -/
def AllListened (uuid : String → String) (m : DistributedSchedMissionManager) (d : String) : Prop :=
  ∀ d', uuid d' = uuid d → m.listenDeviceMap[d']? ≠ none

namespace CacheOp

def env : CacheOp → MissionEnv
  | registerMissionListener env .. => env
  | unRegisterMissionListener env .. => env
  | startSyncRemoteMissions env .. => env
  | stopSyncRemoteMissions env .. => env
  | notifyMissionsChangedFromRemote env .. => env
  | onMissionListenerDied env .. => env
  | deviceOfflineNotify env .. => env

/-- The manager after the operation. -/
def run (m : DistributedSchedMissionManager) : CacheOp → DistributedSchedMissionManager
  | registerMissionListener env devId listener =>
    (m.registerMissionListener env devId listener).manager
  | unRegisterMissionListener env devId listener =>
    (m.unRegisterMissionListener env devId listener).manager
  | startSyncRemoteMissions env dstDevId => (m.startSyncRemoteMissions env dstDevId).manager
  | stopSyncRemoteMissions env dstDevId =>
    (m.stopSyncRemoteMissions env dstDevId false).manager
  | notifyMissionsChangedFromRemote env callerInfo missionInfos =>
    (m.notifyMissionsChangedFromRemote env callerInfo missionInfos).manager
  | onMissionListenerDied env remote => (m.onMissionListenerDied env remote).1
  | deviceOfflineNotify env deviceId => (m.deviceOfflineNotify env deviceId).1

def apply (m : DistributedSchedMissionManager) (op : CacheOp) :
    Option DistributedSchedMissionManager :=
  some (op.run m)

/-- What an operation is to leave: the cache follows the listeners, a device that went offline
has no list, and a notification that is refused has not changed the cache. -/
structure Keeps (uuid : String → String) (m : DistributedSchedMissionManager) (op : CacheOp) :
    Prop where
  listened : CacheListened uuid (op.run m)
  offline : ∀ env deviceId, op = deviceOfflineNotify env deviceId →
    (m.deviceOfflineNotify env deviceId).1.deviceMissionInfos[uuid deviceId]? = none
  refused : ∀ env callerInfo missionInfos,
    op = notifyMissionsChangedFromRemote env callerInfo missionInfos →
    (m.notifyMissionsChangedFromRemote env callerInfo missionInfos).result ≠ errOk →
    (m.notifyMissionsChangedFromRemote env callerInfo missionInfos).manager.deviceMissionInfos =
      m.deviceMissionInfos

/-- The list that a start brings is stored. -/
def Starts (m : DistributedSchedMissionManager) (env : MissionEnv) (dstDevId : String) : Prop :=
  env.isRemote dstDevId = true ∧ env.getRemoteDms dstDevId = true ∧
    (∃ info, m.listenDeviceMap[dstDevId]? = some info ∧ info.called = false) ∧
    ∃ callerInfo, env.generateCallerInfo = some callerInfo ∧
      (env.startSyncMissionsFromRemote dstDevId callerInfo).1 = errOk

/-- The listener that goes is the only one of the device. -/
def OnlyListener (m : DistributedSchedMissionManager) (remote : RemoteObject) (d : String)
    (info : ListenerInfo) : Prop :=
  m.listenDeviceMap[d]? = some info ∧ withoutListener remote info = none

/-- The condition on an operation, by the state before it. -/
def Safe (uuid : String → String) (m : DistributedSchedMissionManager) : CacheOp → Prop
  | unRegisterMissionListener env devId listener =>
    ∀ remote info, listener = some remote → env.isRemote devId = true →
      OnlyListener m remote devId info → m.deviceMissionInfos[uuid devId]? = none
  | startSyncRemoteMissions env dstDevId =>
    Starts m env dstDevId → dstDevId ≠ "" → AllListened uuid m dstDevId
  | notifyMissionsChangedFromRemote _ callerInfo _ =>
    callerInfo.sourceDeviceId ≠ "" → AllListened uuid m callerInfo.sourceDeviceId
  | onMissionListenerDied _ remote =>
    -- a device whose sync was started is stopped, and with it those of the same uuid
    ∀ d info, OnlyListener m remote d info → m.deviceMissionInfos[uuid d]? = none ∨
      ∃ d' info', OnlyListener m remote d' info' ∧ info'.called = true ∧ uuid d' = uuid d
  | _ => True

end CacheOp

/-! ### What the operations do to the two maps -/

namespace DistributedSchedMissionManager

variable {env : MissionEnv} {m : DistributedSchedMissionManager} {d u : String}

/-- A registration takes nobody's entry. -/
theorem registerMissionListener_listens (env : MissionEnv) (m : DistributedSchedMissionManager)
    (devId d : String) (listener : Option RemoteObject) (h : m.listenDeviceMap[d]? ≠ none) :
    (m.registerMissionListener env devId listener).manager.listenDeviceMap[d]? ≠ none := by
  simp only [registerMissionListener]
  split
  · exact h
  split
  · exact h
  split
  · exact h
  · rw [ExtTreeMap.getElem?_insert]
    split
    · exact Option.some_ne_none _
    · exact h

/-- An unregistration takes the entry of its device with the only listener. -/
theorem unRegisterMissionListener_listens (env : MissionEnv) (m : DistributedSchedMissionManager)
    (devId d : String) (listener : Option RemoteObject) (h : m.listenDeviceMap[d]? ≠ none) :
    (m.unRegisterMissionListener env devId listener).manager.listenDeviceMap[d]? = none ↔
      devId = d ∧ ∃ remote info, listener = some remote ∧ env.isRemote devId = true ∧
        CacheOp.OnlyListener m remote devId info := by
  cases listener with
  | none => simp [unRegisterMissionListener, h]
  | some remote =>
      cases hr : env.isRemote devId with
      | false => simp [unRegisterMissionListener, hr, h]
      | true =>
          cases hk : m.listenDeviceMap[devId]? with
          | none => simp [unRegisterMissionListener, hr, hk, h, CacheOp.OnlyListener]
          | some info =>
              cases hf : info.find remote with
              | false => simp [unRegisterMissionListener, hr, hk, hf, h, CacheOp.OnlyListener,
                  withoutListener]
              | true =>
                  cases he : (info.erase remote).empty with
                  | false =>
                      have hleft : withoutListener remote info ≠ none := by
                        simp [withoutListener, hf, he]
                      simp only [unRegisterMissionListener, hr, hk, hf, he, Bool.not_true,
                        Bool.not_false, if_true, if_false, Bool.false_eq_true]
                      refine iff_of_false ?_ ?_
                      · rw [ExtTreeMap.getElem?_insert]
                        split
                        · exact Option.some_ne_none _
                        · exact h
                      · rintro ⟨-, remote', info', ⟨⟩, -, hk', hn⟩
                        cases hk.symm.trans hk'
                        exact hleft hn
                  | true =>
                      have hgone : withoutListener remote info = none := by
                        simp [withoutListener, hf, he]
                      simp only [unRegisterMissionListener, hr, hk, hf, he, Bool.not_true,
                        if_false, Bool.false_eq_true]
                      by_cases hd : devId = d
                      · subst hd
                        rw [ExtTreeMap.getElem?_erase_self]
                        exact iff_of_true rfl ⟨rfl, remote, info, rfl, trivial, hk, hgone⟩
                      · rw [ExtTreeMap.getElem?_erase_of_ne hd]
                        exact iff_of_false h fun hc => hd hc.1

theorem startSyncAt_cases (env : MissionEnv) (m : DistributedSchedMissionManager)
    (dstDevId : String) :
    ((m.startSyncAt env dstDevId).result = errOk ↔ ∃ callerInfo,
      env.generateCallerInfo = some callerInfo ∧
        (env.startSyncMissionsFromRemote dstDevId callerInfo).1 = errOk) ∧
    ((m.startSyncAt env dstDevId).result ≠ errOk → (m.startSyncAt env dstDevId).manager = m) ∧
    ((m.startSyncAt env dstDevId).result = errOk → ∃ missionInfos,
      (m.startSyncAt env dstDevId).manager = m.rebornMissionCache env dstDevId missionInfos) := by
  unfold startSyncAt
  cases hg : env.generateCallerInfo with
  | none =>
      have hfail : getLocalDeviceErr ≠ errOk := by decide
      simp [hfail]
  | some callerInfo =>
      by_cases hok : (env.startSyncMissionsFromRemote dstDevId callerInfo).1 = errOk
      · simp only [hok, Option.some.injEq, exists_eq_left', ne_eq, not_true_eq_false,
          false_implies, true_and, if_true, true_implies]
        exact ⟨_, rfl⟩
      · simp [hok]

/-- A start stores the list and sets the flag, or does nothing to the maps. -/
theorem startSyncRemoteMissions_cases (env : MissionEnv) (m : DistributedSchedMissionManager)
    (dstDevId : String) :
    ¬ CacheOp.Starts m env dstDevId ∧
      (m.startSyncRemoteMissions env dstDevId).manager = m ∨
    CacheOp.Starts m env dstDevId ∧ ∃ missionInfos,
      (m.startSyncRemoteMissions env dstDevId).manager =
        (m.rebornMissionCache env dstDevId missionInfos).setCalled dstDevId := by
  unfold startSyncRemoteMissions
  cases hr : env.isRemote dstDevId with
  | false => exact .inl ⟨fun h => absurd (hr.symm.trans h.1) Bool.false_ne_true, rfl⟩
  | true =>
  simp only [startSyncListened, Bool.not_true, Bool.false_eq_true, if_false]
  cases hk : m.listenDeviceMap[dstDevId]? with
  | none =>
      refine .inl ⟨fun h => ?_, rfl⟩
      obtain ⟨info, hk', -⟩ := h.2.2.1
      cases hk.symm.trans hk'
  | some info =>
  cases hc : info.called with
  | true =>
      refine .inl ⟨fun h => ?_, by simp [hc]⟩
      obtain ⟨info', hk', hc'⟩ := h.2.2.1
      cases hk.symm.trans hk'
      cases hc.symm.trans hc'
  | false =>
  cases hdms : env.getRemoteDms dstDevId with
  | false => exact .inl ⟨fun h => absurd (hdms.symm.trans h.2.1) Bool.false_ne_true, by simp [hc]⟩
  | true =>
  obtain ⟨hresult, hrefused, hstored⟩ := startSyncAt_cases env m dstDevId
  simp only [hc, Bool.not_true, Bool.false_eq_true, if_false]
  by_cases hok : (m.startSyncAt env dstDevId).result = errOk
  · obtain ⟨missionInfos, hmanager⟩ := hstored hok
    rw [if_pos hok]
    refine .inr ⟨⟨hr, hdms, ⟨info, hk, hc⟩, hresult.mp hok⟩, missionInfos, ?_⟩
    dsimp only
    rw [hmanager]
  · rw [if_neg hok]
    exact .inl ⟨fun h => hok (hresult.mpr h.2.2.2), hrefused hok⟩

/-- A device that goes offline loses its entry and its list, when it has an entry. -/
theorem deviceOfflineNotify_maps (env : MissionEnv) (m : DistributedSchedMissionManager)
    {deviceId : String} (hd : deviceId ≠ "") :
    m.listenDeviceMap[deviceId]? = none ∧
      (m.deviceOfflineNotify env deviceId).1.listenDeviceMap = m.listenDeviceMap ∧
      (m.deviceOfflineNotify env deviceId).1.deviceMissionInfos = m.deviceMissionInfos ∨
    m.listenDeviceMap[deviceId]? ≠ none ∧
      (m.deviceOfflineNotify env deviceId).1.listenDeviceMap = m.listenDeviceMap.erase deviceId ∧
      (m.deviceOfflineNotify env deviceId).1.deviceMissionInfos =
        (m.cleanMissionCache env deviceId).deviceMissionInfos := by
  simp only [deviceOfflineNotify, if_neg hd, stopSyncMissionsFromRemote, cleanMissionResources]
  cases hk : m.listenDeviceMap[deviceId]? with
  | none => exact .inl ⟨rfl, rfl, rfl⟩
  | some info =>
      refine .inr ⟨Option.some_ne_none _, ?_, ?_⟩
      · simp only [stopSyncRemoteMissions_listenDeviceMap]
      · simp only [stopSyncRemoteMissions_deviceMissionInfos, cleanMissionCache]
        split <;> rfl

end DistributedSchedMissionManager

/-! ### One operation -/

/-- The cache follows the listeners, and has no list without a uuid. -/
structure CacheInv (uuid : String → String) (m : DistributedSchedMissionManager) : Prop where
  listened : CacheListened uuid m
  unnamed : m.deviceMissionInfos[""]? = none

section Operations

variable {uuid : String → String} {m m' : DistributedSchedMissionManager} {op : CacheOp}

/-- A list that is stored for a device is listened to when all its network ids are. -/
theorem cacheListened_stored (hu : ∀ d, uuid d = "" ↔ d = "") (hi : CacheListened uuid m)
    {d : String} (missionInfos : List DstbMissionInfo)
    (hcache : ∀ u : String, m'.deviceMissionInfos[u]? =
      if uuid d = u ∧ u ≠ "" then some missionInfos else m.deviceMissionInfos[u]?)
    (hlisten : ∀ d' : String, m'.listenDeviceMap[d']? = none ↔ m.listenDeviceMap[d']? = none) :
    CacheListened uuid m' ↔ (d ≠ "" → AllListened uuid m d) := by
  constructor
  · intro h hd d' hd'
    have hstored := h d'
    rw [hcache, if_pos ⟨hd'.symm, hd' ▸ fun he => hd ((hu d).mp he)⟩] at hstored
    exact fun hn => hstored (Option.some_ne_none _) ((hlisten d').mpr hn)
  · intro h d' hd'
    rw [ne_eq, hlisten]
    rw [hcache] at hd'
    split at hd'
    · rename_i hstored
      exact h (fun he => hstored.2 (hstored.1 ▸ (hu d).mpr he)) d' hstored.1.symm
    · exact hi d' hd'

/-- The first part is all there is to say of most operations. -/
theorem keeps_iff_listened
    (hnotify : ∀ env callerInfo missionInfos,
      op ≠ .notifyMissionsChangedFromRemote env callerInfo missionInfos)
    (hoffline : ∀ env deviceId, op ≠ .deviceOfflineNotify env deviceId) :
    op.Keeps uuid m ↔ CacheListened uuid (op.run m) :=
  ⟨fun h => h.listened, fun h => ⟨h, fun env d he => absurd he (hoffline env d),
    fun env callerInfo missionInfos he => absurd he (hnotify env callerInfo missionInfos)⟩⟩

theorem register_keeps (hi : CacheInv uuid m) (env : MissionEnv) (devId : String)
    (listener : Option RemoteObject) :
    (CacheOp.registerMissionListener env devId listener).Keeps uuid m := by
  rw [keeps_iff_listened (by simp) (by simp)]
  intro d hd
  simp only [CacheOp.run, registerMissionListener_deviceMissionInfos] at hd
  exact registerMissionListener_listens env m devId d listener (hi.listened d hd)

theorem unRegister_keeps_iff (hi : CacheInv uuid m) (env : MissionEnv) (devId : String)
    (listener : Option RemoteObject) :
    (CacheOp.unRegisterMissionListener env devId listener).Keeps uuid m ↔
      (CacheOp.unRegisterMissionListener env devId listener).Safe uuid m := by
  rw [keeps_iff_listened (by simp) (by simp)]
  constructor
  · intro h remote info hl hr honly
    by_contra hcache
    have hlistens : m.listenDeviceMap[devId]? ≠ none := hi.listened devId hcache
    refine h devId ?_ ?_
    · simpa only [CacheOp.run, unRegisterMissionListener_deviceMissionInfos] using hcache
    · exact (unRegisterMissionListener_listens env m devId devId listener hlistens).mpr
        ⟨rfl, remote, info, hl, hr, honly⟩
  · intro h d hd hgone
    simp only [CacheOp.run, unRegisterMissionListener_deviceMissionInfos] at hd
    obtain ⟨rfl, remote, info, hl, hr, honly⟩ :=
      (unRegisterMissionListener_listens env m devId d listener (hi.listened d hd)).mp hgone
    exact hd (h remote info hl hr honly)

theorem start_keeps_iff (hu : ∀ d, uuid d = "" ↔ d = "") (hi : CacheInv uuid m)
    {env : MissionEnv} (henv : env.getUuidByNetworkId = uuid) (dstDevId : String) :
    (CacheOp.startSyncRemoteMissions env dstDevId).Keeps uuid m ↔
      (CacheOp.startSyncRemoteMissions env dstDevId).Safe uuid m := by
  rw [keeps_iff_listened (by simp) (by simp)]
  obtain ⟨hno, hsame⟩ | ⟨hstarts, missionInfos, hstored⟩ :=
    startSyncRemoteMissions_cases env m dstDevId
  · simp only [CacheOp.run, hsame]
    exact iff_of_true hi.listened fun h => absurd h hno
  · simp only [CacheOp.run, hstored, CacheOp.Safe, hstarts, true_implies]
    refine cacheListened_stored hu hi.listened missionInfos
      (fun u => ?_) fun d' => ?_
    · rw [setCalled_deviceMissionInfos, rebornMissionCache_getElem?, henv]
    · rw [setCalled_getElem?, rebornMissionCache_listenDeviceMap]
      split
      · rw [Option.map_eq_none_iff]
      · rfl

theorem stop_keeps (hi : CacheInv uuid m) (env : MissionEnv) (dstDevId : String) :
    (CacheOp.stopSyncRemoteMissions env dstDevId).Keeps uuid m := by
  rw [keeps_iff_listened (by simp) (by simp)]
  intro d hd
  simp only [CacheOp.run, stopSyncRemoteMissions_deviceMissionInfos, cleanMissionCache_getElem?,
    stopSyncRemoteMissions_listenDeviceMap] at hd ⊢
  split at hd
  · exact absurd rfl hd
  · exact hi.listened d hd

theorem notify_keeps_iff (hu : ∀ d, uuid d = "" ↔ d = "") (hi : CacheInv uuid m)
    {env : MissionEnv} (henv : env.getUuidByNetworkId = uuid) (callerInfo : CallerInfo)
    (missionInfos : List DstbMissionInfo) :
    (CacheOp.notifyMissionsChangedFromRemote env callerInfo missionInfos).Keeps uuid m ↔
      (CacheOp.notifyMissionsChangedFromRemote env callerInfo missionInfos).Safe uuid m := by
  have hlistened : CacheListened uuid
      ((CacheOp.notifyMissionsChangedFromRemote env callerInfo missionInfos).run m) ↔
      (CacheOp.notifyMissionsChangedFromRemote env callerInfo missionInfos).Safe uuid m := by
    refine cacheListened_stored hu hi.listened missionInfos
      (fun u => ?_) fun d' => ?_
    · simp only [CacheOp.run, notifyMissionsChangedFromRemote_deviceMissionInfos,
        rebornMissionCache_getElem?, henv]
    · simp only [CacheOp.run, notifyMissionsChangedFromRemote]
      split <;> rw [rebornMissionCache_listenDeviceMap]
  refine ⟨fun h => hlistened.mp h.listened, fun h => ⟨hlistened.mpr h, ?_, ?_⟩⟩
  · rintro env' deviceId ⟨⟩
  · rintro env' callerInfo' missionInfos' ⟨⟩ hrefused
    by_cases hs : callerInfo.sourceDeviceId = ""
    · simp only [notifyMissionsChangedFromRemote_deviceMissionInfos, rebornMissionCache, henv,
        (hu _).mpr hs, if_true]
    · -- a device that is listened to is not refused
      have hlistens := h hs callerInfo.sourceDeviceId rfl
      refine absurd ?_ hrefused
      simp only [notifyMissionsChangedFromRemote, rebornMissionCache_listenDeviceMap]
      split
      · rename_i hn
        exact absurd hn hlistens
      · rfl

theorem died_keeps_iff (hi : CacheInv uuid m) {env : MissionEnv}
    (henv : env.getUuidByNetworkId = uuid) (remote : RemoteObject) :
    (CacheOp.onMissionListenerDied env remote).Keeps uuid m ↔
      (CacheOp.onMissionListenerDied env remote).Safe uuid m := by
  rw [keeps_iff_listened (by simp) (by simp)]
  simp only [CacheOp.run, onMissionListenerDied]
  have hstopped := mem_walk_listenerDied (m := m) remote
  have hwalk := walk_listenerDied_getElem? (m := m) remote ([], [])
  generalize m.listenDeviceMap.walk (listenerDied remote) ([], []) = w at hstopped hwalk ⊢
  constructor
  · intro h d info honly
    by_contra hneither
    obtain ⟨hlist, hnone⟩ := not_or.mp hneither
    have hne : uuid d ≠ "" := fun he => hlist (he ▸ hi.unnamed)
    refine h d ?_ ?_
    · rw [stopSyncAll_getElem? hne, if_neg]
      · exact hlist
      · rintro ⟨d', hd', hsame⟩
        obtain ⟨info', hk, hn, hc⟩ := (hstopped d').mp hd'
        exact hnone ⟨d', info', ⟨hk, hn⟩, hc, henv ▸ hsame⟩
    · rw [stopSyncAll_listenDeviceMap, hwalk, honly.1]
      exact honly.2
  · intro h d hd
    rw [stopSyncAll_listenDeviceMap, hwalk]
    by_cases hne : uuid d = ""
    · rw [hne, stopSyncAll_unnamed] at hd
      exact absurd hi.unnamed hd
    · rw [stopSyncAll_getElem? hne] at hd
      split at hd
      · exact absurd rfl hd
      rename_i hnone
      cases hk : m.listenDeviceMap[d]? with
      | none => exact absurd hk (hi.listened d hd)
      | some info =>
          intro hgone
          obtain hlist | ⟨d', info', ⟨hk', hn⟩, hc, hsame⟩ := h d info ⟨hk, hgone⟩
          · exact hd hlist
          · exact hnone ⟨d', (hstopped d').mpr ⟨info', hk', hn, hc⟩, henv ▸ hsame⟩

/-- A device that goes offline takes its entry and its list; without an entry there is no list
to take. -/
theorem offline_keeps (hu : ∀ d, uuid d = "" ↔ d = "") (hi : CacheInv uuid m)
    {env : MissionEnv} (henv : env.getUuidByNetworkId = uuid) (deviceId : String) :
    (CacheOp.deviceOfflineNotify env deviceId).Keeps uuid m := by
  by_cases hd : deviceId = ""
  · have hsame : m.deviceOfflineNotify env deviceId = (m, []) := if_pos hd
    refine ⟨by simpa only [CacheOp.run, hsame] using hi.listened, ?_, fun _ _ _ he => by cases he⟩
    rintro env' deviceId' ⟨⟩
    rw [hsame, (hu _).mpr hd]
    exact hi.unnamed
  obtain ⟨hn, hlisten, hcache⟩ | ⟨-, hlisten, hcache⟩ := deviceOfflineNotify_maps env m hd
  · refine ⟨fun d hl => ?_, ?_, fun _ _ _ he => by cases he⟩
    · simp only [CacheOp.run, hlisten, hcache] at hl ⊢
      exact hi.listened d hl
    · rintro env' deviceId' ⟨⟩
      rw [hcache]
      by_contra hl
      exact hi.listened deviceId hl hn
  · refine ⟨fun d hl => ?_, ?_, fun _ _ _ he => by cases he⟩
    · simp only [CacheOp.run, hlisten, hcache, cleanMissionCache_getElem?, henv] at hl ⊢
      split at hl
      · exact absurd rfl hl
      · rename_i hother
        have hne : deviceId ≠ d := by
          rintro rfl
          exact hother ⟨rfl, fun he => hd ((hu _).mp he)⟩
        rw [ExtTreeMap.getElem?_erase_of_ne hne]
        exact hi.listened d hl
    · rintro env' deviceId' ⟨⟩
      rw [hcache, cleanMissionCache_getElem?, henv, if_pos ⟨rfl, fun he => hd ((hu _).mp he)⟩]

/-- An operation leaves what it should exactly when it is safe. -/
theorem keeps_iff_safe (hu : ∀ d, uuid d = "" ↔ d = "") (hi : CacheInv uuid m)
    (henv : op.env.getUuidByNetworkId = uuid) : op.Keeps uuid m ↔ op.Safe uuid m := by
  cases op with
  | registerMissionListener env devId listener =>
      exact iff_of_true (register_keeps hi env devId listener) trivial
  | unRegisterMissionListener env devId listener => exact unRegister_keeps_iff hi env devId listener
  | startSyncRemoteMissions env dstDevId => exact start_keeps_iff hu hi henv dstDevId
  | stopSyncRemoteMissions env dstDevId => exact iff_of_true (stop_keeps hi env dstDevId) trivial
  | notifyMissionsChangedFromRemote env callerInfo missionInfos =>
      exact notify_keeps_iff hu hi henv callerInfo missionInfos
  | onMissionListenerDied env remote => exact died_keeps_iff hi henv remote
  | deviceOfflineNotify env deviceId =>
      exact iff_of_true (offline_keeps hu hi henv deviceId) trivial

/-- No operation stores a list without a uuid. -/
theorem run_unnamed (h : m.deviceMissionInfos[""]? = none) :
    (op.run m).deviceMissionInfos[""]? = none := by
  cases op with
  | registerMissionListener env devId listener =>
      rw [CacheOp.run, registerMissionListener_deviceMissionInfos, h]
  | unRegisterMissionListener env devId listener =>
      rw [CacheOp.run, unRegisterMissionListener_deviceMissionInfos, h]
  | startSyncRemoteMissions env dstDevId =>
      obtain ⟨-, hsame⟩ | ⟨-, missionInfos, hstored⟩ := startSyncRemoteMissions_cases env m dstDevId
      · rw [CacheOp.run, hsame, h]
      · rw [CacheOp.run, hstored, setCalled_deviceMissionInfos, rebornMissionCache_getElem?,
          if_neg fun he => he.2 rfl, h]
  | stopSyncRemoteMissions env dstDevId =>
      rw [CacheOp.run, stopSyncRemoteMissions_deviceMissionInfos, cleanMissionCache_getElem?,
        if_neg fun he => he.2 rfl, h]
  | notifyMissionsChangedFromRemote env callerInfo missionInfos =>
      rw [CacheOp.run, notifyMissionsChangedFromRemote_deviceMissionInfos,
        rebornMissionCache_getElem?, if_neg fun he => he.2 rfl, h]
  | onMissionListenerDied env remote =>
      simp only [CacheOp.run, onMissionListenerDied, stopSyncAll_unnamed, h]
  | deviceOfflineNotify env deviceId =>
      by_cases hd : deviceId = ""
      · simp only [CacheOp.run, deviceOfflineNotify, if_pos hd, h]
      · obtain ⟨-, -, hcache⟩ | ⟨-, -, hcache⟩ := deviceOfflineNotify_maps env m hd
        · rw [CacheOp.run, hcache, h]
        · rw [CacheOp.run, hcache, cleanMissionCache_getElem?, if_neg fun he => he.2 rfl, h]

/-- A list that is answered is in the cache. -/
theorem getMissionInfos_cached {env : MissionEnv} {deviceId : String} {numMissions : Int}
    {missionInfos : List DstbMissionInfo}
    (h : m.getMissionInfos env deviceId numMissions = .ok missionInfos) :
    m.deviceMissionInfos[env.getUuidByNetworkId deviceId]? ≠ none := by
  unfold getMissionInfos fetchCachedRemoteMissions at h
  intro hn
  simp only [hn] at h
  split at h
  · cases h
  split at h
  · cases h
  split at h
  · cases h
  · cases h

end Operations

/-! ### Every run -/

/-- **The cache follows the listeners.**  In a run of safe operations a device has a cached list
only while somebody listens to it, so no list is answered for a device that nobody listens to;
and each operation leaves what it should exactly when it is safe. -/
theorem cache_follows_listeners {uuid : String → String} (hu : ∀ d, uuid d = "" ↔ d = "")
    {m : DistributedSchedMissionManager}
    (h : Runs.Reach CacheOp.apply
      (fun m op => op.env.getUuidByNetworkId = uuid ∧ op.Safe uuid m) {} m) :
    CacheListened uuid m ∧
    (∀ env deviceId numMissions missionInfos, env.getUuidByNetworkId = uuid →
      m.getMissionInfos env deviceId numMissions = .ok missionInfos →
      m.listenDeviceMap[deviceId]? ≠ none) ∧
    ∀ op : CacheOp, op.env.getUuidByNetworkId = uuid → (op.Keeps uuid m ↔ op.Safe uuid m) := by
  have hinv : CacheInv uuid m := by
    refine h.invariant (P := CacheInv uuid) ⟨fun d hd => ?_, rfl⟩ fun m op m' hi hok hs => ?_
    · exact absurd rfl hd
    · cases hs
      exact ⟨((keeps_iff_safe hu hi hok.1).mpr hok.2).listened, run_unnamed hi.unnamed⟩
  refine ⟨hinv.listened, fun env d n infos henv hget => ?_,
    fun op hop => keeps_iff_safe hu hinv hop⟩
  exact hinv.listened d (henv ▸ getMissionInfos_cached hget)

/-- The environment of device "A", which finds every device; the uuid of a device is its id. -/
def listeningEnv : MissionEnv :=
  { localDeviceId := some "A", getRemoteDms := fun _ => true, getUuidByNetworkId := id
    getDeviceInfoById := fun _ => true }

/-- A listener for device "B" and a start: its list is in the cache, and is answered. -/
theorem cache_follows_listeners_start : ∃ m : DistributedSchedMissionManager,
    (∃ missionInfos, m.getMissionInfos listeningEnv "B" 1 = .ok missionInfos) ∧
    m.listenDeviceMap["B"]? ≠ none := by
  refine ⟨_, ⟨[], rfl⟩, (@cache_follows_listeners id (fun _ => Iff.rfl) _ (.next (.next .init
    (l := .registerMissionListener listeningEnv "B" (some 1)) ⟨rfl, trivial⟩ rfl)
    (l := .startSyncRemoteMissions listeningEnv "B")
    ⟨rfl, fun _ _ d hd => by
      obtain rfl : d = "B" := hd
      exact Option.some_ne_none _⟩ rfl)).1 "B" (Option.some_ne_none _)⟩

/-- **A list that stays.**  The last listener of device "B" unregisters after a start: nobody
listens, and the list is answered.  A notification of a device that nobody listens to is refused
and stored. -/
theorem unregister_keeps_list :
    (∃ m : DistributedSchedMissionManager, Runs.exec CacheOp.apply {}
        [.registerMissionListener listeningEnv "B" (some 1),
          .startSyncRemoteMissions listeningEnv "B",
          .unRegisterMissionListener listeningEnv "B" (some 1)] = some m ∧
      m.listenDeviceMap["B"]? = none ∧ m.deviceMissionInfos["B"]? = some []) ∧
    ∃ o, DistributedSchedMissionManager.notifyMissionsChangedFromRemote listeningEnv {}
        { sourceDeviceId := "B" } [{}] = o ∧
      o.result ≠ errOk ∧ o.manager.deviceMissionInfos["B"]? = some [{}] := by
  exact ⟨⟨_, rfl, rfl, rfl⟩, _, rfl, by decide, rfl⟩

end DistributedSched

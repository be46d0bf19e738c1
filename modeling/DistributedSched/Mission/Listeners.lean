import DistributedSched.Mission.Cache

/-!
# Mission — the table of listeners

A listener may be registered for many devices, and a device may have many listeners.

* `Filled`: no entry of `listenDeviceMap_` is without a listener.
* `ListenerDied`: what the death of a listener leaves, and what is sent to which device.
* `listener_table`: in every run of the operations no entry is empty, and the death of any
  listener leaves what it should.
-/

namespace DistributedSched

open Std (ExtTreeMap)
open Runs (Reachable)
open DistributedSchedMissionManager

/-- An operation of the cache, or `CleanMissionResources` on its own. -/
inductive ListenerOp where
  | cache (op : CacheOp)
  | cleanMissionResources (env : MissionEnv) (dstDevId : String)

def ListenerOp.apply (m : DistributedSchedMissionManager) :
    ListenerOp → Option DistributedSchedMissionManager
  | cache op => some (op.run m)
  | cleanMissionResources env dstDevId => some (m.cleanMissionResources env dstDevId).1

namespace DistributedSchedMissionManager

variable (m : DistributedSchedMissionManager)

/-- Every entry has a listener. -/
def Filled : Prop := ∀ (d : String) (info : ListenerInfo), m.listenDeviceMap[d]? = some info →
  info.listenerSet ≠ ∅

def Listens (d : String) (l : RemoteObject) : Prop :=
  ∃ info, m.listenDeviceMap[d]? = some info ∧ l ∈ info.listenerSet

/-- The only listener of the device is `l`, and its sync was started. -/
def StopsWith (l : RemoteObject) (d : String) : Prop :=
  ∃ info, m.listenDeviceMap[d]? = some info ∧ (∀ l', l' ∈ info.listenerSet ↔ l' = l) ∧
    info.called = true

end DistributedSchedMissionManager

/-- The effect is about this device. -/
def MissionEffect.isFor (d : String) : MissionEffect → Bool
  | post (.retryStartSync dstDeviceId _) => dstDeviceId = d
  | post (.notifyMissionsChanged _ devId) => devId = d
  | postToDevice _ destDeviceId .. => destDeviceId = d
  | notifyMissionsChanged _ devId => devId = d
  | deleteDataStorage deviceId => deviceId = d
  | deleteCachedSnapshotInfo networkId => networkId = d
  | startSyncMissionsFromRemote deviceId _ => deviceId = d
  | stopSyncMissionsFromRemote deviceId _ => deviceId = d
  | _ => false

/-- All that one stop of a device sends: the device is told when its service is there and the
local id is known. -/
def stopEffects (env : MissionEnv) (d : String) : List MissionEffect :=
  [.deleteCachedSnapshotInfo d, .deleteDataStorage d] ++
    if env.getRemoteDms d then
      env.generateCallerInfo.toList.map (.stopSyncMissionsFromRemote d)
    else []

namespace DistributedSchedMissionManager

variable (m : DistributedSchedMissionManager)

/-- The listener is gone, and the other pairs and the flags are there as before.  Every device
that is to be stopped is stopped once and its list goes, no other device is told of anything, and
the lists of the other uuids stay. -/
structure ListenerDied (env : MissionEnv) (l : RemoteObject)
    (m' : DistributedSchedMissionManager) (effects : List MissionEffect) : Prop where
  gone : ∀ d, ¬ m'.Listens d l
  others : ∀ d l', l' ≠ l → (m'.Listens d l' ↔ m.Listens d l')
  called : ∀ (d : String) (info' : ListenerInfo), m'.listenDeviceMap[d]? = some info' →
    ∃ info, m.listenDeviceMap[d]? = some info ∧ info'.called = info.called
  stopped : ∃ devices : List String,
    devices.Nodup ∧ (∀ d, d ∈ devices ↔ m.StopsWith l d) ∧
    effects = List.replicate (m.listenDeviceMap.count fun _ info => info.find l)
      (.removeDeathRecipient l) ++ devices.flatMap (stopEffects env)
  told : ∀ d, m.StopsWith l d → effects.filter (·.isFor d) = stopEffects env d
  untold : ∀ d, ¬ m.StopsWith l d → effects.filter (·.isFor d) = []
  dropped : ∀ d, m.StopsWith l d → env.getUuidByNetworkId d ≠ "" →
    m'.deviceMissionInfos[env.getUuidByNetworkId d]? = none
  kept : ∀ u : String, (∀ d, m.StopsWith l d → env.getUuidByNetworkId d = u → u = "") →
    m'.deviceMissionInfos[u]? = m.deviceMissionInfos[u]?
  sharing : m'.remoteSyncDeviceSet = m.remoteSyncDeviceSet ∧
    m'.isRegMissionChange = m.isRegMissionChange

/-! ### One entry -/

variable {m} {l l' : RemoteObject} {info info' : ListenerInfo} {d : String}

theorem find_iff : info.find l = true ↔ l ∈ info.listenerSet := by
  rw [ListenerInfo.find, Std.ExtTreeSet.contains_iff_mem]

theorem mem_erase : l' ∈ (info.erase l).listenerSet ↔ l' ∈ info.listenerSet ∧ l' ≠ l := by
  rw [ListenerInfo.erase, Std.ExtTreeSet.mem_erase]
  constructor
  · rintro ⟨hne, hm⟩
    refine ⟨hm, ?_⟩
    rintro rfl
    exact hne Std.ReflCmp.compare_self
  · rintro ⟨hm, hne⟩
    exact ⟨fun hc => hne (Std.LawfulEqCmp.eq_of_compare hc).symm, hm⟩

theorem empty_iff : info.empty = true ↔ ∀ l, l ∉ info.listenerSet := by
  rw [ListenerInfo.empty, Std.ExtTreeSet.isEmpty_iff, Std.ExtTreeSet.eq_empty_iff_forall_not_mem]

/-- An entry that stays has the same flag, and the other listeners. -/
theorem withoutListener_eq_some (h : withoutListener l info = some info') :
    info'.called = info.called ∧ ∀ l', l' ∈ info'.listenerSet ↔ l' ∈ info.listenerSet ∧ l' ≠ l := by
  unfold withoutListener at h
  split at h
  · rename_i hf
    cases h
    have hl : l ∉ info.listenerSet := fun hm => absurd (find_iff.mpr hm) (by simpa using hf)
    refine ⟨rfl, fun l' => ⟨fun hm => ⟨hm, ?_⟩, And.left⟩⟩
    rintro rfl
    exact hl hm
  · split at h
    · cases h
    · cases h
      exact ⟨rfl, fun l' => mem_erase⟩

/-- An entry goes when the listener is its only one. -/
theorem withoutListener_eq_none_iff :
    withoutListener l info = none ↔ ∀ l', l' ∈ info.listenerSet ↔ l' = l := by
  unfold withoutListener
  split
  · rename_i hf
    have hl : l ∉ info.listenerSet := fun hm => absurd (find_iff.mpr hm) (by simpa using hf)
    exact iff_of_false (Option.some_ne_none _) fun h => hl ((h l).mpr rfl)
  · rename_i hf
    have hl : l ∈ info.listenerSet := find_iff.mp (by simpa using hf)
    split
    · rename_i he
      refine iff_of_true rfl fun l' => ⟨fun hm => ?_, fun heq => heq ▸ hl⟩
      by_contra hne
      exact empty_iff.mp he l' (mem_erase.mpr ⟨hm, hne⟩)
    · rename_i he
      refine iff_of_false (Option.some_ne_none _) fun h => he (empty_iff.mpr fun l' hm => ?_)
      obtain ⟨hm, hne⟩ := mem_erase.mp hm
      exact hne ((h l').mp hm)

theorem withoutListener_filled (hne : info.listenerSet ≠ ∅)
    (h : withoutListener l info = some info') : info'.listenerSet ≠ ∅ := by
  unfold withoutListener at h
  split at h
  · cases h
    exact hne
  · split at h
    · cases h
    · rename_i he
      cases h
      exact fun hempty => he (Std.ExtTreeSet.isEmpty_iff.mpr hempty)

/-! ### No entry is empty -/

theorem Filled.erase (h : m.Filled) (devId : String) :
    Filled { m with listenDeviceMap := m.listenDeviceMap.erase devId } := by
  intro d info hd
  rw [ExtTreeMap.getElem?_erase] at hd
  split at hd
  · cases hd
  · exact h d info hd

theorem Filled.insert (h : m.Filled) (devId : String) (hne : info.listenerSet ≠ ∅) :
    Filled { m with listenDeviceMap := m.listenDeviceMap.insert devId info } := by
  intro d info' hd
  rw [ExtTreeMap.getElem?_insert] at hd
  split at hd
  · cases hd
    exact hne
  · exact h d info' hd

theorem Filled.congr (h : m.Filled) {m' : DistributedSchedMissionManager}
    (hm : m'.listenDeviceMap = m.listenDeviceMap) : m'.Filled := by
  intro d info hd
  rw [hm] at hd
  exact h d info hd

theorem Filled.register (h : m.Filled) (env : MissionEnv) (devId : String)
    (listener : Option RemoteObject) :
    (m.registerMissionListener env devId listener).manager.Filled := by
  unfold registerMissionListener
  simp only
  split
  · exact h
  split
  · exact h
  split
  · exact h
  · exact h.insert devId Std.ExtTreeSet.insert_ne_empty

theorem Filled.unRegister (h : m.Filled) (env : MissionEnv) (devId : String)
    (listener : Option RemoteObject) :
    (m.unRegisterMissionListener env devId listener).manager.Filled := by
  unfold unRegisterMissionListener
  split
  · exact h
  split
  · exact h
  split
  · exact h
  split
  · exact h
  dsimp only
  split
  · rename_i he
    exact h.insert devId fun hempty => by simp [ListenerInfo.empty, hempty] at he
  · exact h.erase devId

theorem Filled.setCalled (h : m.Filled) (devId : String) : (m.setCalled devId).Filled := by
  intro d info hd
  rw [setCalled_getElem?] at hd
  split at hd
  · obtain ⟨old, hold, rfl⟩ := Option.map_eq_some_iff.mp hd
    exact h d old hold
  · exact h d info hd

theorem Filled.start (h : m.Filled) (env : MissionEnv) (dstDevId : String) :
    (m.startSyncRemoteMissions env dstDevId).manager.Filled := by
  obtain ⟨-, he⟩ | ⟨-, missionInfos, he⟩ := startSyncRemoteMissions_cases env m dstDevId
  · rw [he]
    exact h
  · rw [he]
    exact (h.congr (rebornMissionCache_listenDeviceMap ..)).setCalled dstDevId

theorem onMissionListenerDied_getElem? (env : MissionEnv) (m : DistributedSchedMissionManager)
    (l : RemoteObject) (d : String) :
    (m.onMissionListenerDied env l).1.listenDeviceMap[d]? =
      m.listenDeviceMap[d]?.bind (withoutListener l) := by
  rw [onMissionListenerDied, stopSyncAll_listenDeviceMap, walk_listenerDied_getElem?]

theorem Filled.died (h : m.Filled) (env : MissionEnv) (l : RemoteObject) :
    (m.onMissionListenerDied env l).1.Filled := by
  intro d info hd
  rw [onMissionListenerDied_getElem?] at hd
  obtain ⟨old, hold, hleft⟩ := Option.bind_eq_some_iff.mp hd
  exact withoutListener_filled (h d old hold) hleft

theorem Filled.clean (h : m.Filled) (env : MissionEnv) (dstDevId : String) :
    (m.cleanMissionResources env dstDevId).1.Filled := by
  unfold cleanMissionResources
  split
  · exact h
  · exact (h.erase dstDevId).congr (stopSyncRemoteMissions_listenDeviceMap ..)

theorem Filled.apply (h : m.Filled) {op : ListenerOp} {m' : DistributedSchedMissionManager}
    (hs : op.apply m = some m') : m'.Filled := by
  cases op with
  | cleanMissionResources env dstDevId =>
      cases hs
      exact h.clean env dstDevId
  | cache op =>
      cases hs
      cases op with
      | registerMissionListener env devId listener => exact h.register env devId listener
      | unRegisterMissionListener env devId listener => exact h.unRegister env devId listener
      | startSyncRemoteMissions env dstDevId => exact h.start env dstDevId
      | stopSyncRemoteMissions env dstDevId =>
          exact h.congr (stopSyncRemoteMissions_listenDeviceMap ..)
      | notifyMissionsChangedFromRemote env callerInfo missionInfos =>
          refine h.congr ?_
          simp only [CacheOp.run, notifyMissionsChangedFromRemote]
          split
          · exact rebornMissionCache_listenDeviceMap ..
          · exact rebornMissionCache_listenDeviceMap ..
      | onMissionListenerDied env remote => exact h.died env remote
      | deviceOfflineNotify env deviceId =>
          simp only [CacheOp.run, deviceOfflineNotify]
          split
          · exact h
          · exact Filled.clean (m := (m.stopSyncMissionsFromRemote env deviceId).1) (h.congr rfl)
              env deviceId

/-! ### The death of a listener -/

theorem listenerDied_nodup (m : DistributedSchedMissionManager) (l : RemoteObject) :
    (m.listenDeviceMap.walk (listenerDied l) ([], [])).1.2.Nodup := by
  rw [walk_listenerDied_devices]
  refine List.nodup_flatMap.mpr ⟨fun e _ => ?_, ?_⟩
  · split
    · exact List.nodup_singleton _
    · exact List.nodup_nil
  · refine ExtTreeMap.distinct_keys_toList.imp fun {e e'} hne d hd hd' => ?_
    have hkey : ∀ {e : String × ListenerInfo},
        d ∈ (if e.2.called ∧ withoutListener l e.2 = none then [e.1] else []) → d = e.1 := by
      intro e he
      split at he
      · exact List.mem_singleton.mp he
      · cases he
    rw [← hkey hd, ← hkey hd'] at hne
    exact hne Std.ReflCmp.compare_self

/-! ### The stops -/

theorem stopSyncRemoteMissions_effects (env : MissionEnv) (m : DistributedSchedMissionManager)
    (d : String) : (m.stopSyncRemoteMissions env d false).effects = stopEffects env d := by
  rw [stopSyncRemoteMissions, stopEffects]
  cases env.getRemoteDms d with
  | false => rfl
  | true => cases env.generateCallerInfo <;> rfl

theorem stopSyncRemoteMissions_sharing (env : MissionEnv) (m : DistributedSchedMissionManager)
    (d : String) (offline : Bool) :
    (m.stopSyncRemoteMissions env d offline).manager.remoteSyncDeviceSet =
        m.remoteSyncDeviceSet ∧
      (m.stopSyncRemoteMissions env d offline).manager.isRegMissionChange =
        m.isRegMissionChange := by
  have hclean : (m.cleanMissionCache env d).remoteSyncDeviceSet = m.remoteSyncDeviceSet ∧
      (m.cleanMissionCache env d).isRegMissionChange = m.isRegMissionChange := by
    simp only [cleanMissionCache]
    split
    · exact ⟨rfl, rfl⟩
    · exact ⟨rfl, rfl⟩
  simp only [stopSyncRemoteMissions]
  split
  · exact hclean
  split
  · exact hclean
  split
  · exact hclean
  · exact hclean

/-- The loop stops each of its devices, in their order. -/
theorem stopSyncAll_effects (env : MissionEnv) (m : DistributedSchedMissionManager)
    (deviceSet : List String) :
    (stopSyncAll env m deviceSet).2 = deviceSet.flatMap (stopEffects env) := by
  induction deviceSet generalizing m with
  | nil => rfl
  | cons d deviceSet ih =>
      rw [stopSyncAll, List.flatMap_cons, ← stopSyncRemoteMissions_effects env m d]
      exact congrArg _ (ih _)

theorem stopSyncAll_sharing (env : MissionEnv) (m : DistributedSchedMissionManager)
    (deviceSet : List String) :
    (stopSyncAll env m deviceSet).1.remoteSyncDeviceSet = m.remoteSyncDeviceSet ∧
      (stopSyncAll env m deviceSet).1.isRegMissionChange = m.isRegMissionChange := by
  induction deviceSet generalizing m with
  | nil => exact ⟨rfl, rfl⟩
  | cons d deviceSet ih =>
      obtain ⟨hset, hreg⟩ := stopSyncRemoteMissions_sharing env m d false
      obtain ⟨ihset, ihreg⟩ := ih (m.stopSyncRemoteMissions env d false).manager
      exact ⟨ihset.trans hset, ihreg.trans hreg⟩

theorem isFor_stopEffects {env : MissionEnv} {d d' : String} {e : MissionEffect}
    (he : e ∈ stopEffects env d) : e.isFor d' = decide (d = d') := by
  rcases List.mem_append.mp he with he | he
  · rcases List.mem_pair.mp he with rfl | rfl
    · rfl
    · rfl
  · split at he
    · obtain ⟨callerInfo, -, rfl⟩ := List.mem_map.mp he
      rfl
    · cases he

/-- Of the stops of distinct devices, those of one device are its own stop, or nothing. -/
theorem filter_isFor_stops (env : MissionEnv) (d : String) {devices : List String}
    (hnodup : devices.Nodup) :
    (devices.flatMap (stopEffects env)).filter (·.isFor d) =
      if d ∈ devices then stopEffects env d else [] := by
  induction devices with
  | nil => rfl
  | cons d' devices ih =>
      obtain ⟨hnotin, hnodup⟩ := List.nodup_cons.mp hnodup
      rw [List.flatMap_cons, List.filter_append, ih hnodup]
      by_cases hd : d' = d
      · subst hd
        have hown : (stopEffects env d').filter (·.isFor d') = stopEffects env d' :=
          List.filter_eq_self.mpr fun e he => by rw [isFor_stopEffects he, decide_eq_true rfl]
        rw [hown, if_neg hnotin, if_pos List.mem_cons_self, List.append_nil]
      · have hother : (stopEffects env d').filter (·.isFor d) = [] :=
          List.filter_eq_nil_iff.mpr fun e he => by
            rw [isFor_stopEffects he, decide_eq_false hd]
            exact Bool.false_ne_true
        simp [hother, Ne.symm hd]

/-- The recipient goes once for each entry that has the listener. -/
theorem walk_listenerDied_recipients (m : DistributedSchedMissionManager) (l : RemoteObject) :
    (m.listenDeviceMap.walk (listenerDied l) ([], [])).1.1 =
      List.replicate (m.listenDeviceMap.count fun _ info => info.find l)
        (.removeDeathRecipient l) := by
  refine List.eq_replicate_iff.mpr ⟨?_, walk_listenerDied_effects l⟩
  rw [ExtTreeMap.walk_append (l := Prod.fst) (g := fun _ info =>
    if info.find l then [MissionEffect.removeDeathRecipient l] else []), List.nil_append,
    ExtTreeMap.count]
  · induction m.listenDeviceMap.toList with
    | nil => rfl
    | cons e es ih =>
        rw [List.flatMap_cons, List.length_append, ih, List.countP_cons, Nat.add_comm]
        split
        · rfl
        · rfl
  · intro acc d info
    simp only [listenerDied]
    cases hf : info.find l with
    | false => simp
    | true => cases (info.erase l).empty <;> rfl

/-- The stops that the death brings, for distinct devices. -/
theorem onMissionListenerDied_stops (env : MissionEnv) (m : DistributedSchedMissionManager)
    (l : RemoteObject) : ∃ devices : List String,
    devices.Nodup ∧ (∀ d, d ∈ devices ↔ m.StopsWith l d) ∧
    (m.onMissionListenerDied env l).1 = (stopSyncAll env { m with listenDeviceMap :=
      (m.listenDeviceMap.walk (listenerDied l) ([], [])).2 } devices).1 ∧
    (m.onMissionListenerDied env l).2 =
      List.replicate (m.listenDeviceMap.count fun _ info => info.find l)
        (.removeDeathRecipient l) ++ devices.flatMap (stopEffects env) := by
  refine ⟨_, listenerDied_nodup m l, fun d => ?_, rfl, ?_⟩
  · rw [mem_walk_listenerDied]
    simp only [StopsWith, withoutListener_eq_none_iff]
  · rw [onMissionListenerDied, ← walk_listenerDied_recipients, ← stopSyncAll_effects]

/-- **The death of a listener**, in any state. -/
theorem listenerDied_onMissionListenerDied (env : MissionEnv) (m : DistributedSchedMissionManager)
    (l : RemoteObject) :
    m.ListenerDied env l (m.onMissionListenerDied env l).1 (m.onMissionListenerDied env l).2 := by
  have hentry := onMissionListenerDied_getElem? env m l
  obtain ⟨devices, hnodup, hdevices, hstate, heffects⟩ := onMissionListenerDied_stops env m l
  have hfilter : ∀ d, (m.onMissionListenerDied env l).2.filter (·.isFor d) =
      if d ∈ devices then stopEffects env d else [] := by
    intro d
    rw [heffects, List.filter_append, filter_isFor_stops env d hnodup, List.filter_replicate]
    rfl
  refine ⟨fun d hl => ?_, fun d l' hne => ?_, fun d info' hd => ?_,
    ⟨devices, hnodup, hdevices, heffects⟩, fun d hd => ?_, fun d hd => ?_, fun d hd hu => ?_,
    fun u hu => ?_, hstate ▸ stopSyncAll_sharing ..⟩
  · obtain ⟨info', hd, hm⟩ := hl
    rw [hentry] at hd
    obtain ⟨info, -, hleft⟩ := Option.bind_eq_some_iff.mp hd
    exact (((withoutListener_eq_some hleft).2 l).mp hm).2 rfl
  · unfold Listens
    rw [hentry]
    cases hk : m.listenDeviceMap[d]? with
    | none => simp
    | some info =>
        simp only [Option.bind_some, Option.some.injEq, exists_eq_left']
        constructor
        · rintro ⟨info', hleft, hm⟩
          exact (((withoutListener_eq_some hleft).2 l').mp hm).1
        · intro hm
          cases hleft : withoutListener l info with
          | none => exact absurd ((withoutListener_eq_none_iff.mp hleft l').mp hm) hne
          | some info' =>
              exact ⟨info', rfl, ((withoutListener_eq_some hleft).2 l').mpr ⟨hm, hne⟩⟩
  · rw [hentry] at hd
    obtain ⟨info, hk, hleft⟩ := Option.bind_eq_some_iff.mp hd
    exact ⟨info, hk, (withoutListener_eq_some hleft).1⟩
  · rw [hfilter, if_pos ((hdevices d).mpr hd)]
  · rw [hfilter, if_neg fun hm => hd ((hdevices d).mp hm)]
  · rw [hstate, stopSyncAll_getElem? hu, if_pos ⟨d, (hdevices d).mpr hd, rfl⟩]
  · rw [hstate]
    by_cases he : u = ""
    · rw [he, stopSyncAll_unnamed]
    · rw [stopSyncAll_getElem? he, if_neg]
      rintro ⟨d, hd, hud⟩
      exact he (hu d ((hdevices d).mp hd) hud)

end DistributedSchedMissionManager

/-- **The table of listeners.**  In every run no entry is without a listener, and when any
listener dies, it is gone everywhere, the other pairs and the flags stay, and exactly the devices
that it alone listened to and whose sync was started are stopped, each once: each of them is told
and its list goes, and nothing is sent to another device. -/
theorem listener_table {m : DistributedSchedMissionManager}
    (hr : Reachable ListenerOp.apply {} m) :
    m.Filled ∧ ∀ (env : MissionEnv) (l : RemoteObject),
      m.ListenerDied env l (m.onMissionListenerDied env l).1 (m.onMissionListenerDied env l).2 := by
  have hinit : Filled {} := fun d info hd => by simp at hd
  have hfilled := hr.invariant hinit fun _ _ _ ih _ hs => ih.apply hs
  exact ⟨hfilled, fun env l => listenerDied_onMissionListenerDied env m l⟩

/-- Listener 1 has device "B" for itself and device "C" with listener 2, who has device "D" for
itself; the syncs of "B" and "D" were started.  When listener 1 dies, "B" is told to stop and its
list goes, and nothing is sent to "C" or "D". -/
theorem listener_table_two : ∃ m : DistributedSchedMissionManager,
    m.StopsWith 1 "B" ∧ m.deviceMissionInfos["B"]? = some [] ∧ m.Listens "C" 1 ∧
      m.Listens "C" 2 ∧ m.StopsWith 2 "D" ∧
      ∃ o, m.onMissionListenerDied listeningEnv 1 = o ∧ o.1.Listens "C" 2 ∧
        ¬ o.1.Listens "C" 1 ∧
        o.2.filter (·.isFor "B") = [.deleteCachedSnapshotInfo "B", .deleteDataStorage "B",
          .stopSyncMissionsFromRemote "B"
            { uid := 0, pid := 0, callerType := callerTypeHarmony, sourceDeviceId := "A" }] ∧
        o.2.filter (·.isFor "C") = [] ∧ o.2.filter (·.isFor "D") = [] ∧
        o.1.deviceMissionInfos["B"]? = none ∧ o.1.deviceMissionInfos["D"]? = some [] := by
  have honly : ∀ l l', l' ∈ (∅ : OrdSet RemoteObject).insert l ↔ l' = l := by
    intro l l'
    simp only [Std.ExtTreeSet.mem_insert, Std.LawfulEqCmp.compare_eq_iff_eq,
      Std.ExtTreeSet.not_mem_empty, or_false]
    exact eq_comm
  obtain ⟨m, hr, hB, hlist, h₁, h₂, hD, hlistD⟩ : ∃ m : DistributedSchedMissionManager,
      Reachable ListenerOp.apply {} m ∧ m.StopsWith 1 "B" ∧ m.deviceMissionInfos["B"]? = some [] ∧
      m.Listens "C" 1 ∧ m.Listens "C" 2 ∧ m.StopsWith 2 "D" ∧
      m.deviceMissionInfos["D"]? = some [] := by
    refine ⟨_, Runs.Reach.of_exec (show Runs.exec ListenerOp.apply {} [
        .cache (.registerMissionListener listeningEnv "B" (some 1)),
        .cache (.startSyncRemoteMissions listeningEnv "B"),
        .cache (.registerMissionListener listeningEnv "C" (some 1)),
        .cache (.registerMissionListener listeningEnv "C" (some 2)),
        .cache (.registerMissionListener listeningEnv "D" (some 2)),
        .cache (.startSyncRemoteMissions listeningEnv "D")] = some _ from rfl),
      ⟨{ called := true, listenerSet := (∅ : OrdSet RemoteObject).insert 1 }, rfl,
        honly 1, rfl⟩, rfl, ⟨_, rfl, by decide⟩, ⟨_, rfl, by decide⟩,
      ⟨{ called := true, listenerSet := (∅ : OrdSet RemoteObject).insert 2 }, rfl,
        honly 2, rfl⟩, rfl⟩
  have hdied := (listener_table hr).2 listeningEnv 1
  have hstops : ∀ d l, m.Listens d l → l ≠ 1 → ¬ m.StopsWith 1 d := by
    rintro d l ⟨info, hk, hl⟩ hne ⟨info', hk', honly, -⟩
    cases hk.symm.trans hk'
    exact hne ((honly l).mp hl)
  have hDB : m.Listens "D" 2 := by
    obtain ⟨info, hk, honly, -⟩ := hD
    exact ⟨info, hk, (honly 2).mpr rfl⟩
  refine ⟨m, hB, hlist, h₁, h₂, hD, _, rfl, (hdied.others "C" 2 (by decide)).mpr h₂,
    hdied.gone "C", hdied.told "B" hB, hdied.untold "C" (hstops "C" 2 h₂ (by decide)),
    hdied.untold "D" (hstops "D" 2 hDB (by decide)), hdied.dropped "B" hB (by decide), ?_⟩
  rw [hdied.kept "D" fun d hd he => ?_, hlistD]
  obtain rfl : d = "D" := he
  exact absurd hd (hstops "D" 2 hDB (by decide))

end DistributedSched

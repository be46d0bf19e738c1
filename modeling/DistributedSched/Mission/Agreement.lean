import DistributedSched.Library.Runs
import DistributedSched.Mission.Manager

/-!
# Mission — subscriber and source agree

Device `idA`, where applications listen to the missions of `idB`.  Its operations run one after
another, and its requests are executed at `idB`.  `called` in `listenDeviceMap_` stands for the
subscription that `idB` keeps: `StartSyncRemoteMissions` sets it when the request succeeded and
does nothing when it is set, but `StopSyncRemoteMissions` ends the subscription and leaves it.

* `MissionOp.Safe`: no stop while the flag is set.
* `sync_agreement`: in a run of such operations the flag is set only while `idB` keeps the
  subscription, and a start that returns `ERR_NONE` for a listener leaves the subscription and
  the list.
* `stop_then_start`: a stop and another start, and the listener is not subscribed.
-/

namespace DistributedSched

open Std (ExtTreeMap ExtTreeSet)
open DistributedSchedMissionManager

structure MissionPair where
  a : DistributedSchedMissionManager := {}
  b : DistributedSchedMissionManager := {}

/-- The environment of the subscriber, where requests to `idB` have its answers. -/
def MissionPair.answering (p : MissionPair) (idB : String) (env envB : MissionEnv) : MissionEnv :=
  { env with
    startSyncMissionsFromRemote := fun deviceId callerInfo =>
      if deviceId = idB then
        let r := p.b.onStartSyncMissionsFromRemote envB callerInfo
        (r.1.result, r.2)
      else env.startSyncMissionsFromRemote deviceId callerInfo
    stopSyncMissionsFromRemote := fun deviceId callerInfo =>
      if deviceId = idB then errOk else env.stopSyncMissionsFromRemote deviceId callerInfo }

/-- The source executes a request that is made of it. -/
def deliverSync (idB : String) (envB : MissionEnv) (b : DistributedSchedMissionManager) :
    MissionEffect → DistributedSchedMissionManager
  | .startSyncMissionsFromRemote deviceId callerInfo =>
    if deviceId = idB then (b.onStartSyncMissionsFromRemote envB callerInfo).1.manager else b
  | .stopSyncMissionsFromRemote deviceId callerInfo =>
    if deviceId = idB then (b.stopSyncMissionsFromRemote envB callerInfo.sourceDeviceId).1 else b
  | _ => b

/-- The operations of the subscriber, each with the environments of both devices. -/
inductive MissionOp where
  | registerMissionListener (env : MissionEnv) (listener : Option RemoteObject)
  | unRegisterMissionListener (env : MissionEnv) (listener : Option RemoteObject)
  | startSyncRemoteMissions (env envB : MissionEnv)
  | stopSyncRemoteMissions (env envB : MissionEnv)
  | onMissionListenerDied (env envB : MissionEnv) (remote : RemoteObject)

namespace MissionOp

def apply (idB : String) (p : MissionPair) : MissionOp → Option MissionPair
  | registerMissionListener env listener =>
    some { p with a := (p.a.registerMissionListener env idB listener).manager }
  | unRegisterMissionListener env listener =>
    some { p with a := (p.a.unRegisterMissionListener env idB listener).manager }
  | startSyncRemoteMissions env envB =>
    let o := p.a.startSyncRemoteMissions (p.answering idB env envB) idB
    some ⟨o.manager, o.effects.foldl (deliverSync idB envB) p.b⟩
  | stopSyncRemoteMissions env envB =>
    let o := p.a.stopSyncRemoteMissions (p.answering idB env envB) idB false
    some ⟨o.manager, o.effects.foldl (deliverSync idB envB) p.b⟩
  | onMissionListenerDied env envB remote =>
    let r := p.a.onMissionListenerDied (p.answering idB env envB) remote
    some ⟨r.1, r.2.foldl (deliverSync idB envB) p.b⟩

/-- Both devices are online: each finds the other, and knows its uuid.  `missions` is the list
of the source. -/
def Online (idA idB uuidB : String) (missions : List DstbMissionInfo) : MissionOp → Prop
  | startSyncRemoteMissions env envB =>
    env.localDeviceId = some idA ∧ env.getRemoteDms idB = true ∧
      env.getUuidByNetworkId idB = uuidB ∧ envB.getLocalMissionInfos.2 = missions
  | _ => True

def Safe (idB : String) (p : MissionPair) : MissionOp → Prop
  | stopSyncRemoteMissions .. => p.a.hasSyncListener idB = false
  | _ => True

end MissionOp

namespace MissionPair

variable {idA idB uuidB : String} {missions : List DstbMissionInfo} {p : MissionPair}

/-- The subscription is there, with the list that came with it. -/
def Subscribed (idA uuidB : String) (missions : List DstbMissionInfo) (p : MissionPair) : Prop :=
  idA ∈ p.b.remoteSyncDeviceSet ∧ p.a.deviceMissionInfos[uuidB]? = some missions

structure Inv (idA idB uuidB : String) (missions : List DstbMissionInfo) (p : MissionPair) :
    Prop where
  keys : ∀ (devId : String) (info : ListenerInfo), p.a.listenDeviceMap[devId]? = some info →
    devId = idB
  called : p.a.hasSyncListener idB = true → p.Subscribed idA uuidB missions

theorem init_inv : Inv idA idB uuidB missions {} where
  keys devId info h := by simp at h
  called h := by simp [hasSyncListener] at h

theorem hasSyncListener_iff {m : DistributedSchedMissionManager} {devId : String} :
    m.hasSyncListener devId = true ↔
      ∃ info, m.listenDeviceMap[devId]? = some info ∧ info.called = true := by
  unfold hasSyncListener
  split
  · rename_i info hk
    rw [hk]
    simp
  · rename_i hk
    simp [hk]

theorem hasSyncListener_congr {m m' : DistributedSchedMissionManager} {devId : String}
    (h : m'.listenDeviceMap[devId]? = m.listenDeviceMap[devId]?) :
    m'.hasSyncListener devId = m.hasSyncListener devId := by
  simp only [hasSyncListener, h]

/-! ### Listeners -/

/-- A registration or its opposite: the flag that is set then was set before. -/
theorem Inv.listeners (h : p.Inv idA idB uuidB missions) {a : DistributedSchedMissionManager}
    (hkeys : ∀ devId info, a.listenDeviceMap[devId]? = some info →
      devId = idB ∨ p.a.listenDeviceMap[devId]? = some info)
    (hcalled : a.hasSyncListener idB = true → p.a.hasSyncListener idB = true)
    (hinfos : a.deviceMissionInfos = p.a.deviceMissionInfos) :
    Inv idA idB uuidB missions { p with a := a } where
  keys devId info hk := (hkeys devId info hk).elim id (h.keys devId info)
  called hc := by
    obtain ⟨hb, hl⟩ := h.called (hcalled hc)
    exact ⟨hb, by rw [hinfos]; exact hl⟩

theorem Inv.register_inv (h : p.Inv idA idB uuidB missions) (env : MissionEnv)
    (listener : Option RemoteObject) :
    Inv idA idB uuidB missions
      { p with a := (p.a.registerMissionListener env idB listener).manager } := by
  simp only [registerMissionListener]
  split
  · exact h
  split
  · exact h
  split
  · exact h
  refine h.listeners (fun devId info hk => ?_) (fun hc => ?_) rfl
  · rw [ExtTreeMap.getElem?_insert] at hk
    split at hk
    · rename_i hd
      exact .inl (Std.LawfulEqCmp.compare_eq_iff_eq.mp hd).symm
    · exact .inr hk
  · obtain ⟨info, hk, hc⟩ := hasSyncListener_iff.mp hc
    simp only [ExtTreeMap.getElem?_insert_self, Option.some.injEq] at hk
    subst hk
    cases hold : p.a.listenDeviceMap[idB]? with
    | none =>
        rw [hold] at hc
        cases hc
    | some info =>
        rw [hold] at hc
        exact hasSyncListener_iff.mpr ⟨info, hold, hc⟩

theorem Inv.unRegister_inv (h : p.Inv idA idB uuidB missions) (env : MissionEnv)
    (listener : Option RemoteObject) :
    Inv idA idB uuidB missions
      { p with a := (p.a.unRegisterMissionListener env idB listener).manager } := by
  simp only [unRegisterMissionListener]
  split
  · exact h
  split
  · exact h
  split
  · exact h
  rename_i info hold
  split
  · exact h
  split
  · refine h.listeners (fun devId info' hk => ?_) (fun hc => ?_) rfl
    · rw [ExtTreeMap.getElem?_insert] at hk
      split at hk
      · rename_i hd
        exact .inl (Std.LawfulEqCmp.compare_eq_iff_eq.mp hd).symm
      · exact .inr hk
    · obtain ⟨info', hk, hc⟩ := hasSyncListener_iff.mp hc
      simp only [ExtTreeMap.getElem?_insert_self, Option.some.injEq] at hk
      subst hk
      exact hasSyncListener_iff.mpr ⟨info, hold, hc⟩
  · refine h.listeners (fun devId info' hk => ?_) (fun hc => ?_) rfl
    · rw [ExtTreeMap.getElem?_erase] at hk
      split at hk
      · cases hk
      · exact .inr hk
    · obtain ⟨info', hk, -⟩ := hasSyncListener_iff.mp hc
      rw [ExtTreeMap.getElem?_erase_self] at hk
      cases hk

/-! ### A start -/

/-- A start makes no request, because there is no listener, or the flag is set, or the other
device is not found; or its request fails; or it succeeds. -/
theorem start_cases {env envB : MissionEnv} {p' : MissionPair}
    (hon : (MissionOp.startSyncRemoteMissions env envB).Online idA idB uuidB missions)
    (hs : (MissionOp.startSyncRemoteMissions env envB).apply idB p = some p') :
    (p' = p ∧ ((p.a.startSyncRemoteMissions (p.answering idB env envB) idB).result = errOk →
      p.a.listenDeviceMap[idB]? = none ∨ p.a.hasSyncListener idB = true)) ∨
    (p' = { p with b := p.b.addSyncDevice idA } ∧
      (p.a.startSyncRemoteMissions (p.answering idB env envB) idB).result ≠ errOk) ∨
    p' = ⟨(p.a.rebornMissionCache env idB missions).setCalled idB, p.b.addSyncDevice idA⟩ := by
  obtain ⟨hl, hr, -, hm⟩ := hon
  cases hs
  simp only [startSyncRemoteMissions]
  split
  · exact .inl ⟨rfl, fun h => absurd h (show invalidParametersErr ≠ errOk by decide)⟩
  simp only [startSyncListened]
  split
  · rename_i hn
    exact .inl ⟨rfl, fun _ => .inl hn⟩
  rename_i info hk
  split
  · rename_i hc
    exact .inl ⟨rfl, fun _ => .inr (hasSyncListener_iff.mpr ⟨info, hk, hc⟩)⟩
  -- the request is executed at the source
  have hcaller : (p.answering idB env envB).generateCallerInfo =
      some { uid := env.callingUid, pid := env.callingPid, callerType := callerTypeHarmony,
             sourceDeviceId := idA } := by
    simp [MissionEnv.generateCallerInfo, answering, hl]
  have hdms : (p.answering idB env envB).getRemoteDms idB = true := hr
  simp only [hdms, startSyncAt, hcaller, Bool.not_true, Bool.false_eq_true, if_false]
  by_cases hok : envB.getLocalMissionInfos.1 = errOk
  · refine .inr (.inr ?_)
    simp [answering, onStartSyncMissionsFromRemote, startSyncMissionsFromRemote, hok, hm,
      deliverSync]
    rfl
  · refine .inr (.inl ?_)
    have hf : envB.errFlattenObject.1 ≠ errOk := envB.errFlattenObject.2
    simp [answering, onStartSyncMissionsFromRemote, startSyncMissionsFromRemote, hok, hf,
      deliverSync]

/-- A start that succeeds leaves the subscription and the list. -/
theorem subscribed_start {env : MissionEnv} (hu : uuidB ≠ "")
    (henv : env.getUuidByNetworkId idB = uuidB) :
    Subscribed idA uuidB missions
      ⟨(p.a.rebornMissionCache env idB missions).setCalled idB, p.b.addSyncDevice idA⟩ := by
  refine ⟨ExtTreeSet.mem_insert_self, ?_⟩
  simp [rebornMissionCache, henv, hu]

theorem Inv.start_inv (hu : uuidB ≠ "") (h : p.Inv idA idB uuidB missions)
    {env envB : MissionEnv} {p' : MissionPair}
    (hon : (MissionOp.startSyncRemoteMissions env envB).Online idA idB uuidB missions)
    (hs : (MissionOp.startSyncRemoteMissions env envB).apply idB p = some p') :
    p'.Inv idA idB uuidB missions := by
  obtain ⟨rfl, -⟩ | ⟨rfl, -⟩ | rfl := start_cases hon hs
  · exact h
  · exact ⟨h.keys, fun hc => ⟨ExtTreeSet.mem_insert.mpr (.inr (h.called hc).1), (h.called hc).2⟩⟩
  · refine ⟨fun devId info hk => ?_, fun _ => subscribed_start hu hon.2.2.1⟩
    rw [setCalled_getElem?] at hk
    split at hk
    · rename_i hd
      exact hd.symm
    · exact h.keys devId info (by simpa using hk)

/-! ### A stop, and the death of a listener -/

theorem Inv.stop_inv (h : p.Inv idA idB uuidB missions) (env : MissionEnv)
    (b : DistributedSchedMissionManager) (hsafe : p.a.hasSyncListener idB = false) :
    Inv idA idB uuidB missions ⟨(p.a.stopSyncRemoteMissions env idB false).manager, b⟩ where
  keys devId info hk := h.keys devId info (by simpa using hk)
  called hc := by
    have hsame : (p.a.stopSyncRemoteMissions env idB false).manager.hasSyncListener idB =
        p.a.hasSyncListener idB :=
      hasSyncListener_congr (by rw [stopSyncRemoteMissions_listenDeviceMap])
    rw [hsame, hsafe] at hc
    cases hc

/-- A listener dies.  The devices that are stopped have lost their entries; when there is none,
nothing is asked of the source. -/
theorem Inv.died_inv (h : p.Inv idA idB uuidB missions) (env envB : MissionEnv)
    (remote : RemoteObject) :
    let r := p.a.onMissionListenerDied (p.answering idB env envB) remote
    Inv idA idB uuidB missions ⟨r.1, r.2.foldl (deliverSync idB envB) p.b⟩ := by
  simp only [onMissionListenerDied]
  generalize hw : p.a.listenDeviceMap.walk (listenerDied remote) ([], []) = w
  have hmap : ∀ devId, w.2[devId]? = p.a.listenDeviceMap[devId]?.bind (withoutListener remote) :=
    fun devId => hw ▸ walk_listenerDied_getElem? remote ([], []) devId
  have hdevices : ∀ devId, devId ∈ w.1.2 ↔ ∃ info, p.a.listenDeviceMap[devId]? = some info ∧
      withoutListener remote info = none ∧ info.called = true :=
    fun devId => hw ▸ mem_walk_listenerDied remote devId
  refine ⟨fun devId info hk => ?_, fun hc => ?_⟩
  · rw [stopSyncAll_listenDeviceMap, hmap] at hk
    obtain ⟨info', hk, -⟩ := Option.bind_eq_some_iff.mp hk
    exact h.keys devId info' hk
  · obtain ⟨info, hk, hc⟩ := hasSyncListener_iff.mp hc
    rw [stopSyncAll_listenDeviceMap, hmap] at hk
    obtain ⟨info', hk, hw'⟩ := Option.bind_eq_some_iff.mp hk
    -- the entry is still there, so no device is stopped
    have hnone : w.1.2 = [] := by
      refine List.eq_nil_iff_forall_not_mem.mpr fun devId hd => ?_
      obtain ⟨info'', hk', hn, -⟩ := (hdevices devId).mp hd
      obtain rfl := h.keys devId info'' hk'
      obtain rfl := Option.some.inj (hk.symm.trans hk')
      rw [hn] at hw'
      cases hw'
    have hold : info'.called = true := by
      unfold withoutListener at hw'
      split at hw'
      · cases hw'; exact hc
      · split at hw'
        · cases hw'
        · cases hw'; exact hc
    have hb : ∀ es : List MissionEffect, (∀ e ∈ es, e = .removeDeathRecipient remote) →
        es.foldl (deliverSync idB envB) p.b = p.b := by
      intro es he
      induction es with
      | nil => rfl
      | cons e es ih =>
          rw [List.foldl_cons, he e List.mem_cons_self]
          exact ih fun e hm => he e (List.mem_cons_of_mem _ hm)
    simp only [hnone, stopSyncAll, List.append_nil]
    rw [hb w.1.1 (hw ▸ walk_listenerDied_effects remote)]
    exact h.called (hasSyncListener_iff.mpr ⟨info', hk, hold⟩)

theorem Inv.apply_inv (hu : uuidB ≠ "") (h : p.Inv idA idB uuidB missions) {op : MissionOp}
    {p' : MissionPair} (hok : op.Online idA idB uuidB missions ∧ op.Safe idB p)
    (hs : op.apply idB p = some p') : p'.Inv idA idB uuidB missions := by
  obtain ⟨hon, hsafe⟩ := hok
  cases op with
  | registerMissionListener env listener =>
      cases hs
      exact h.register_inv env listener
  | unRegisterMissionListener env listener =>
      cases hs
      exact h.unRegister_inv env listener
  | startSyncRemoteMissions env envB =>
      exact h.start_inv hu hon hs
  | stopSyncRemoteMissions env envB =>
      cases hs
      exact h.stop_inv _ _ hsafe
  | onMissionListenerDied env envB remote =>
      cases hs
      exact h.died_inv env envB remote

end MissionPair

/-- **Subscriber and source agree.**  In a run of safe operations, the flag of `idB` is set only
while `idB` keeps `idA` as a subscriber; and a start that returns `ERR_NONE` while there is a
listener leaves `idA` a subscriber, and the list of `idB` in the cache. -/
theorem sync_agreement {idA idB uuidB : String} {missions : List DstbMissionInfo}
    (hu : uuidB ≠ "") {p : MissionPair}
    (h : Runs.Reach (MissionOp.apply idB)
      (fun p op => op.Online idA idB uuidB missions ∧ op.Safe idB p) {} p) :
    (p.a.hasSyncListener idB = true → idA ∈ p.b.remoteSyncDeviceSet) ∧
    ∀ env envB p', (MissionOp.startSyncRemoteMissions env envB).Online idA idB uuidB missions →
      (MissionOp.startSyncRemoteMissions env envB).apply idB p = some p' →
      (p.a.startSyncRemoteMissions (p.answering idB env envB) idB).result = errOk →
      p.a.listenDeviceMap[idB]? ≠ none →
        idA ∈ p'.b.remoteSyncDeviceSet ∧ p'.a.deviceMissionInfos[uuidB]? = some missions := by
  have hinv : p.Inv idA idB uuidB missions :=
    h.invariant MissionPair.init_inv fun p op p' hi hok hs => hi.apply_inv hu hok hs
  refine ⟨fun hc => (hinv.called hc).1, fun env envB p' hon hs hr hl => ?_⟩
  obtain ⟨rfl, hcalled⟩ | ⟨-, hn⟩ | rfl := MissionPair.start_cases hon hs
  · exact hinv.called ((hcalled hr).resolve_left hl)
  · exact absurd hr hn
  · exact MissionPair.subscribed_start hu hon.2.2.1

/-- The environment of device "A", which finds device "B". -/
def subscriberEnv : MissionEnv :=
  { localDeviceId := some "A", getRemoteDms := fun _ => true
    getUuidByNetworkId := fun deviceId => "uuid" ++ deviceId }

/-- A listener for device "B", and a start. -/
theorem sync_agreement_start : ∃ p : MissionPair, p.a.hasSyncListener "B" = true ∧
    "A" ∈ p.b.remoteSyncDeviceSet := by
  refine ⟨_, rfl, (@sync_agreement "A" "B" "uuidB" [] (by decide) _ (.next (.next .init
    (l := .registerMissionListener subscriberEnv (some 1)) ⟨trivial, trivial⟩ rfl)
    (l := .startSyncRemoteMissions subscriberEnv {}) ⟨⟨rfl, rfl, rfl, rfl⟩, trivial⟩ rfl)).1 rfl⟩

/-- **Start, stop, start.**  The second start returns `ERR_NONE` for the listener, the flag is
set, and device "A" is no subscriber of device "B". -/
theorem stop_then_start : ∃ p : MissionPair,
    Runs.exec (MissionOp.apply "B") {}
      [.registerMissionListener subscriberEnv (some 1),
        .startSyncRemoteMissions subscriberEnv {}, .stopSyncRemoteMissions subscriberEnv {}] =
      some p ∧
    (p.a.startSyncRemoteMissions (p.answering "B" subscriberEnv {}) "B").result = errOk ∧
    ∃ p', MissionOp.apply "B" p (.startSyncRemoteMissions subscriberEnv {}) = some p' ∧
      p'.a.hasSyncListener "B" = true ∧ p'.b.remoteSyncDeviceSet = ∅ ∧
      p'.a.deviceMissionInfos = ∅ := by
  refine ⟨_, rfl, by decide, _, rfl, by decide, ExtTreeSet.isEmpty_iff.mp rfl,
    ExtTreeMap.isEmpty_iff.mp rfl⟩

end DistributedSched

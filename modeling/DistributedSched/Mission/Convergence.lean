import DistributedSched.Mission.Agreement
import DistributedSched.Mission.Registration

/-!
# Mission — the list of the source reaches the subscriber

Device `idA` starts the sync with `idB`, whose missions change.  The first list comes as the
answer of `StartSyncMissionsFromRemote`, which asks for it before it posts the task that registers
the change listener; later lists go through a task of `missionChangeHandler_`, which reads the
list and posts it to the handler of the subscriber.  The two ways are not ordered.

* `MissionSync.OnTheWay`: a change is on its way to the subscriber.
* `SyncStep.Safe`: the list does not change unheard, and no old answer comes last.
* `missions_converge`: in a run of such steps, when everything has been processed, a subscriber
  has the list of the source.
* `change_before_registration`, `older_answer_last`: a run of each kind that is left out.
-/

namespace DistributedSched

open Std (ExtTreeMap ExtTreeSet)
open DistributedSchedMissionManager

/-- A call of `StartSyncRemoteMissions` that has found that it makes a request. -/
inductive SyncCall where
  | request (callerInfo : CallerInfo)
  | getLocalMissionInfos
  | postTask (result : Int) (missionInfos : List DstbMissionInfo)
  | reply (result : Int) (missionInfos : List DstbMissionInfo)
  | setCalled

structure MissionSync where
  a : DistributedSchedMissionManager := {}
  b : DistributedSchedMissionManager := {}
  /-- the list of the source's ability manager -/
  missions : List DstbMissionInfo := []
  calls : Map Nat SyncCall := ∅
  /-- the tasks of the source's `missionHandler_` -/
  tasks : List MissionTask := []
  /-- calls of the source's change listener -/
  listenerCalls : Nat := 0
  /-- the tasks of `NotifyLocalMissionsChanged` -/
  changeTasks : Nat := 0
  /-- the list that the running one has read -/
  changed : Option (List DstbMissionInfo) := none
  /-- the tasks of the source's handler for the subscriber -/
  deviceTasks : List (List DstbMissionInfo × CallerInfo) := []

/-- The caller info with which `StartSyncRemoteMissions` makes its request. -/
def DistributedSchedMissionManager.syncRequest (env : MissionEnv)
    (m : DistributedSchedMissionManager) (dstDevId : String) : Option CallerInfo :=
  if !env.isRemote dstDevId then none
  else match m.listenDeviceMap[dstDevId]? with
    | none => none
    | some listenerInfo =>
      if listenerInfo.called || !env.getRemoteDms dstDevId then none else env.generateCallerInfo

/-- What is posted to the handler of a subscriber. -/
def tasksTo (idA : String) : List MissionEffect → List (List DstbMissionInfo × CallerInfo) :=
  List.filterMap fun
    | .postToDevice _ destDeviceId missionInfos callerInfo =>
      if destDeviceId = idA then some (missionInfos, callerInfo) else none
    | _ => none

inductive SyncStep where
  | registerMissionListener (env : MissionEnv) (listener : Option RemoteObject)
  | unRegisterMissionListener (env : MissionEnv) (listener : Option RemoteObject)
  /-- call `i`, up to its request -/
  | startSyncRemoteMissions (i : Nat) (env : MissionEnv)
  /-- the source's block of call `i` -/
  | startSyncMissionsFromRemote (i : Nat)
  | getLocalMissionInfos (i : Nat) (result : Int)
  /-- the source posts the task of call `i`, and answers -/
  | postTask (i : Nat) (env : MissionEnv)
  /-- the answer arrives -/
  | rebornMissionCache (i : Nat) (env : MissionEnv)
  | setCalled (i : Nat)
  /-- the missions of the source change -/
  | missionChange (missions : List DstbMissionInfo)
  /-- the source's change listener is called -/
  | notifyLocalMissionsChanged (env : MissionEnv)
  /-- its task reads the list -/
  | readChanged (result : Int)
  | notifyMissionsChangedToRemote (env : MissionEnv)
  /-- the first task of the subscriber's handler runs -/
  | notifyMissionsChangedFromRemote (env envB : MissionEnv)
  /-- the first task of the source's `missionHandler_` runs -/
  | runTask (env : MissionEnv)

namespace SyncStep

def apply (idA idB : String) (s : MissionSync) : SyncStep → Option MissionSync
  | registerMissionListener env listener =>
    some { s with a := (s.a.registerMissionListener env idB listener).manager }
  | unRegisterMissionListener env listener =>
    some { s with a := (s.a.unRegisterMissionListener env idB listener).manager }
  | startSyncRemoteMissions i env =>
    match s.calls[i]?, s.a.syncRequest env idB with
    | none, some callerInfo => some { s with calls := s.calls.put i (some (.request callerInfo)) }
    | _, _ => none
  | startSyncMissionsFromRemote i =>
    match s.calls[i]? with
    | some (.request callerInfo) =>
      some { s with
        b := s.b.addSyncDevice callerInfo.sourceDeviceId
        calls := s.calls.put i (some .getLocalMissionInfos) }
    | _ => none
  | getLocalMissionInfos i result =>
    match s.calls[i]? with
    | some .getLocalMissionInfos =>
      some { s with calls := s.calls.put i (some (.postTask result s.missions)) }
    | _ => none
  | postTask i env =>
    match s.calls[i]? with
    | some (.postTask result missionInfos) =>
      some { s with
        tasks := s.tasks ++ postedTasks (postRegister env missionInfos)
        calls := s.calls.put i (some (if result = errOk then .reply result missionInfos
          else .reply env.errFlattenObject.1 [])) }
    | _ => none
  | rebornMissionCache i env =>
    match s.calls[i]? with
    | some (.reply result missionInfos) =>
      some (if result = errOk then
          { s with
            a := s.a.rebornMissionCache env idB missionInfos
            calls := s.calls.put i (some .setCalled) }
        else { s with calls := s.calls.put i none })
    | _ => none
  | setCalled i =>
    match s.calls[i]? with
    | some .setCalled => some { s with a := s.a.setCalled idB, calls := s.calls.put i none }
    | _ => none
  | missionChange missions =>
    some { s with
      missions := missions
      listenerCalls := if s.b.isRegMissionChange then s.listenerCalls + 1 else s.listenerCalls }
  | notifyLocalMissionsChanged env =>
    match s.listenerCalls with
    | 0 => none
    | n + 1 =>
      some { s with
        listenerCalls := n
        changeTasks := if env.postTask then s.changeTasks + 1 else s.changeTasks }
  | readChanged result =>
    match s.changed, s.changeTasks with
    | none, n + 1 =>
      some { s with
        changeTasks := n, changed := if result = errOk then some s.missions else none }
    | _, _ => none
  | notifyMissionsChangedToRemote env =>
    match s.changed with
    | some missionInfos =>
      some { s with
        changed := none
        deviceTasks := s.deviceTasks ++
          tasksTo idA (s.b.notifyMissionsChangedToRemote env missionInfos).2 }
    | none => none
  | notifyMissionsChangedFromRemote env envB =>
    match s.deviceTasks with
    | (missionInfos, callerInfo) :: deviceTasks =>
      some { s with
        a := if envB.getRemoteDms idA then
            (s.a.notifyMissionsChangedFromRemote env callerInfo missionInfos).manager
          else s.a
        deviceTasks := deviceTasks }
    | [] => none
  | runTask env =>
    match s.tasks with
    | [] => none
    | task :: tasks =>
      let r := s.b.runTask env task
      some { s with b := r.1, tasks := tasks ++ postedTasks r.2 }

/-- Both devices are online, and know each other; what is posted and sent arrives. -/
def Online (idA idB uuidB : String) : SyncStep → Prop
  | rebornMissionCache _ env => env.getUuidByNetworkId idB = uuidB
  | notifyLocalMissionsChanged env => env.postTask = true
  | notifyMissionsChangedToRemote env =>
    env.localDeviceId = some idB ∧ env.postTask = true ∧ fetchDeviceHandler env idA ≠ none
  | notifyMissionsChangedFromRemote env envB =>
    env.getUuidByNetworkId idB = uuidB ∧ envB.getRemoteDms idA = true
  | _ => True

end SyncStep

namespace MissionSync

/-- A change is on its way to the subscriber. -/
def OnTheWay (s : MissionSync) : Prop :=
  s.listenerCalls ≠ 0 ∨ s.changeTasks ≠ 0 ∨ s.changed ≠ none ∨ s.deviceTasks ≠ []

end MissionSync

/-- A call brings the list: it carries it, or has not read it yet. -/
def SyncCall.Brings (missions : List DstbMissionInfo) : SyncCall → Prop
  | request _ | getLocalMissionInfos => True
  | postTask result missionInfos | reply result missionInfos =>
    result = errOk ∧ missionInfos = missions
  | setCalled => False

/-- The subscriber has the list, or a call brings it. -/
def MissionSync.Covered (uuidB : String) (missions : List DstbMissionInfo) (s : MissionSync) :
    Prop :=
  s.a.deviceMissionInfos[uuidB]? = some missions ∨
    ∃ (i : Nat) (call : SyncCall), s.calls[i]? = some call ∧ call.Brings missions

def SyncStep.Safe (idA uuidB : String) (s : MissionSync) : SyncStep → Prop
  | getLocalMissionInfos _ result | readChanged result => result = errOk
  | missionChange missions =>
    s.b.isRegMissionChange = true ∨ idA ∉ s.b.remoteSyncDeviceSet ∨ s.Covered uuidB missions
  | rebornMissionCache i _ => ∀ missionInfos, s.calls[i]? = some (.reply errOk missionInfos) →
    missionInfos = s.missions ∨ s.OnTheWay ∨
      ∃ (j : Nat) (call : SyncCall), i ≠ j ∧ s.calls[j]? = some call ∧ call.Brings s.missions
  | _ => True

namespace MissionSync

variable {idA idB uuidB : String} {s : MissionSync}

/-! ### What is posted to the subscriber -/

theorem tasksTo_notifyDevices {env : MissionEnv} (hpost : env.postTask = true)
    (hfetch : fetchDeviceHandler env idA ≠ none) (missionInfos : List DstbMissionInfo)
    (callerInfo : CallerInfo) (devices : List String) :
    (∀ t ∈ tasksTo idA (notifyDevices env missionInfos callerInfo devices).2,
      t = (missionInfos, callerInfo)) ∧
    (tasksTo idA (notifyDevices env missionInfos callerInfo devices).2 ≠ [] ↔ idA ∈ devices) := by
  induction devices with
  | nil => exact ⟨fun t ht => absurd ht List.not_mem_nil, by simp [notifyDevices, tasksTo]⟩
  | cons destDeviceId devices ih =>
      obtain ⟨hall, hne⟩ := ih
      unfold notifyDevices
      split
      · rename_i hn
        have hd : idA ≠ destDeviceId := fun h => hfetch (h ▸ hn)
        exact ⟨hall, by rw [hne, List.mem_cons, or_iff_right hd]⟩
      · simp only [hpost, Bool.not_true, Bool.false_eq_true, if_false]
        by_cases hd : destDeviceId = idA
        · have hcons : tasksTo idA (.postToDevice ‹String› destDeviceId missionInfos callerInfo ::
              (notifyDevices env missionInfos callerInfo devices).2) =
              (missionInfos, callerInfo) ::
                tasksTo idA (notifyDevices env missionInfos callerInfo devices).2 := by
            simp [tasksTo, hd]
          rw [hcons]
          exact ⟨fun t ht => (List.mem_cons.mp ht).elim id (hall t), by simp [hd]⟩
        · have hcons : tasksTo idA (.postToDevice ‹String› destDeviceId missionInfos callerInfo ::
              (notifyDevices env missionInfos callerInfo devices).2) =
                tasksTo idA (notifyDevices env missionInfos callerInfo devices).2 := by
            simp [tasksTo, hd]
          rw [hcons]
          exact ⟨hall, by rw [hne, List.mem_cons, or_iff_right (Ne.symm hd)]⟩

/-- The task of a change posts the list to the subscriber, and only when it is one. -/
theorem tasksTo_notifyMissionsChangedToRemote {env : MissionEnv}
    {b : DistributedSchedMissionManager}
    (hon : (SyncStep.notifyMissionsChangedToRemote env).Online idA idB uuidB)
    (missionInfos : List DstbMissionInfo) :
    (∀ t ∈ tasksTo idA (b.notifyMissionsChangedToRemote env missionInfos).2,
      t.1 = missionInfos ∧ t.2.sourceDeviceId = idB) ∧
    (tasksTo idA (b.notifyMissionsChangedToRemote env missionInfos).2 ≠ [] ↔
      idA ∈ b.remoteSyncDeviceSet) := by
  obtain ⟨hl, hpost, hfetch⟩ := hon
  have hcaller : env.generateCallerInfo =
      some { uid := env.callingUid, pid := env.callingPid, callerType := callerTypeHarmony,
             sourceDeviceId := idB } := by
    simp [MissionEnv.generateCallerInfo, hl]
  simp only [notifyMissionsChangedToRemote, hcaller]
  obtain ⟨hall, hne⟩ := tasksTo_notifyDevices hpost hfetch missionInfos
    { uid := env.callingUid, pid := env.callingPid, callerType := callerTypeHarmony,
      sourceDeviceId := idB } b.remoteSyncDeviceSet.toList
  refine ⟨fun t ht => ?_, by rw [hne, ExtTreeSet.mem_toList]⟩
  rw [hall t ht]
  exact ⟨rfl, rfl⟩

/-! ### The invariant -/

/-- The newest list that is on its way is the list of the source, and a subscriber has it, or
will. -/
structure Inv (idA idB uuidB : String) (s : MissionSync) : Prop where
  covered : idA ∈ s.b.remoteSyncDeviceSet → s.OnTheWay ∨ s.Covered uuidB s.missions
  /-- when no task will read the list again, it is the last that was read -/
  fresh : s.listenerCalls = 0 → s.changeTasks = 0 →
    (∀ missionInfos, s.changed = some missionInfos → missionInfos = s.missions) ∧
    (s.changed = none → ∀ t, s.deviceTasks.getLast? = some t → t.1 = s.missions)
  unregistered : s.b.isRegMissionChange = false → ¬ s.OnTheWay
  subscribed : s.deviceTasks ≠ [] → idA ∈ s.b.remoteSyncDeviceSet
  callers : ∀ t ∈ s.deviceTasks, t.2.sourceDeviceId = idB
  registrations : ∀ task ∈ s.tasks, ∃ missionInfos, task = .registerMissionListener missionInfos

theorem init_inv (missions : List DstbMissionInfo) :
    Inv idA idB uuidB { missions := missions } where
  covered h := by simp at h
  fresh _ _ := ⟨fun _ h => absurd h (by simp), fun _ _ h => absurd h (by simp)⟩
  unregistered _ h := by simp [OnTheWay] at h
  subscribed h := absurd rfl h
  callers t h := absurd h List.not_mem_nil
  registrations task h := absurd h List.not_mem_nil

/-! ### Calls -/

/-- A call that goes on brings what it brought. -/
theorem Covered.put {missions : List DstbMissionInfo} (h : s.Covered uuidB missions) {i : Nat}
    {call : SyncCall} (hi : s.calls[i]? = some call) {call' : Option SyncCall}
    (hb : call.Brings missions → ∃ c, call' = some c ∧ c.Brings missions) :
    ({ s with calls := s.calls.put i call' } : MissionSync).Covered uuidB missions := by
  rcases h with hc | ⟨j, c, hj, hc⟩
  · exact .inl hc
  by_cases hij : i = j
  · subst hij
    obtain rfl := Option.some.inj (hi.symm.trans hj)
    obtain ⟨c', rfl, hc'⟩ := hb hc
    exact .inr ⟨i, c', ExtTreeMap.getElem?_put_self .., hc'⟩
  · exact .inr ⟨j, c, by rw [ExtTreeMap.getElem?_put_of_ne _ hij]; exact hj, hc⟩

/-- So it does beside a call that is new. -/
theorem Covered.new {missions : List DstbMissionInfo} (h : s.Covered uuidB missions) {i : Nat}
    (hi : s.calls[i]? = none) (call' : SyncCall) :
    ({ s with calls := s.calls.put i (some call') } : MissionSync).Covered uuidB missions := by
  rcases h with hc | ⟨j, c, hj, hc⟩
  · exact .inl hc
  have hij : i ≠ j := by
    rintro rfl
    rw [hi] at hj
    cases hj
  exact .inr ⟨j, c, by rw [ExtTreeMap.getElem?_put_of_ne _ hij]; exact hj, hc⟩

/-- A step that leaves what is on its way. -/
theorem Inv.frame (h : s.Inv idA idB uuidB) {a b : DistributedSchedMissionManager}
    {calls : Map Nat SyncCall} {tasks : List MissionTask}
    (hset : ∀ d ∈ s.b.remoteSyncDeviceSet, d ∈ b.remoteSyncDeviceSet)
    (hreg : b.isRegMissionChange = false → s.b.isRegMissionChange = false)
    (htasks : ∀ task ∈ tasks, ∃ missionInfos, task = .registerMissionListener missionInfos)
    (hcov : idA ∈ b.remoteSyncDeviceSet → s.OnTheWay ∨
      ({ s with a := a, calls := calls } : MissionSync).Covered uuidB s.missions) :
    Inv idA idB uuidB { s with a := a, b := b, calls := calls, tasks := tasks } where
  covered := hcov
  fresh := h.fresh
  unregistered hr := h.unregistered (hreg hr)
  subscribed hd := hset _ (h.subscribed hd)
  callers := h.callers
  registrations := htasks

/-- A step of the subscriber that leaves the lists. -/
theorem Inv.listeners (h : s.Inv idA idB uuidB) {a : DistributedSchedMissionManager}
    (ha : a.deviceMissionInfos = s.a.deviceMissionInfos) :
    Inv idA idB uuidB { s with a := a } :=
  h.frame (fun _ hd => hd) id h.registrations fun hd => (h.covered hd).imp_right fun hc =>
    hc.imp_left fun hl => by rw [ha]; exact hl

/-- A step of call `i` on the source. -/
theorem Inv.call_inv (h : s.Inv idA idB uuidB) {i : Nat} {call : SyncCall}
    (hi : s.calls[i]? = some call) (call' : SyncCall)
    (hb : call.Brings s.missions → call'.Brings s.missions) :
    Inv idA idB uuidB { s with calls := s.calls.put i (some call') } :=
  h.frame (fun _ hd => hd) id h.registrations fun hd => (h.covered hd).imp_right fun hc =>
    hc.put hi fun hb' => ⟨call', rfl, hb hb'⟩

/-- The source's block: the subscriber is there, and its list is still to be read. -/
theorem Inv.add_inv (h : s.Inv idA idB uuidB) (i : Nat) (deviceId : String) :
    Inv idA idB uuidB { s with
      b := s.b.addSyncDevice deviceId, calls := s.calls.put i (some .getLocalMissionInfos) } :=
  h.frame (fun _ hd => ExtTreeSet.mem_insert.mpr (.inr hd)) id h.registrations fun _ =>
    .inr (.inr ⟨i, _, ExtTreeMap.getElem?_put_self .., trivial⟩)

/-- The source posts the task that registers its change listener, and answers. -/
theorem Inv.post_inv (h : s.Inv idA idB uuidB) {i : Nat} {result : Int}
    {missionInfos : List DstbMissionInfo} (hi : s.calls[i]? = some (.postTask result missionInfos))
    (env : MissionEnv) :
    Inv idA idB uuidB { s with
      tasks := s.tasks ++ postedTasks (postRegister env missionInfos)
      calls := s.calls.put i (some (if result = errOk then .reply result missionInfos
        else .reply env.errFlattenObject.1 [])) } := by
  refine h.frame (fun _ hd => hd) id (fun task ht => ?_) fun hd =>
    (h.covered hd).imp_right fun hc =>
    hc.put hi fun hb => ⟨_, rfl, ?_⟩
  · rcases List.mem_append.mp ht with ht | ht
    · exact h.registrations task ht
    · refine ⟨missionInfos, ?_⟩
      unfold postRegister at ht
      split at ht
      · exact List.mem_singleton.mp ht
      · cases ht
  · rw [if_pos hb.1]
    exact hb

/-- An answer arrives.  What it leaves is covered by its own list, or by what is on its way. -/
theorem Inv.reborn_inv (hu : uuidB ≠ "") (h : s.Inv idA idB uuidB) {i : Nat} {env : MissionEnv}
    (henv : env.getUuidByNetworkId idB = uuidB)
    (hsafe : (SyncStep.rebornMissionCache i env).Safe idA uuidB s)
    {missionInfos : List DstbMissionInfo} (hi : s.calls[i]? = some (.reply errOk missionInfos)) :
    Inv idA idB uuidB { s with
      a := s.a.rebornMissionCache env idB missionInfos
      calls := s.calls.put i (some .setCalled) } := by
  refine h.frame (fun _ hd => hd) id h.registrations fun _ => ?_
  rcases hsafe missionInfos hi with rfl | hw | ⟨j, call, hij, hj, hb⟩
  · exact .inr (.inl (by rw [rebornMissionCache_getElem?, if_pos ⟨henv, hu⟩]))
  · exact .inl hw
  · exact .inr (.inr ⟨j, call, by rw [ExtTreeMap.getElem?_put_of_ne _ hij]; exact hj, hb⟩)

theorem Inv.end_inv (h : s.Inv idA idB uuidB) {i : Nat} {call : SyncCall}
    (hi : s.calls[i]? = some call) (hb : ¬ call.Brings s.missions)
    {a : DistributedSchedMissionManager} (ha : a.deviceMissionInfos = s.a.deviceMissionInfos) :
    Inv idA idB uuidB { s with a := a, calls := s.calls.put i none } := by
  have h' := h.listeners ha
  refine h'.frame (fun _ hd => hd) id h.registrations fun hd => (h'.covered hd).imp_right fun hc =>
    hc.put hi fun hb' => absurd hb' hb

/-- The source's task: a registration, and no other. -/
theorem Inv.runTask_inv (h : s.Inv idA idB uuidB) (env : MissionEnv) {task : MissionTask}
    {tasks : List MissionTask} (ht : s.tasks = task :: tasks) :
    Inv idA idB uuidB { s with
      b := (s.b.runTask env task).1, tasks := tasks ++ postedTasks (s.b.runTask env task).2 } := by
  have htail : ∀ t ∈ tasks, ∃ missionInfos, t = .registerMissionListener missionInfos :=
    fun t hm => h.registrations t (by rw [ht]; exact List.mem_cons_of_mem _ hm)
  obtain ⟨missionInfos, rfl⟩ := h.registrations task (by rw [ht]; exact List.mem_cons_self)
  simp only [runTask, runRegister]
  cases hr : s.b.isRegMissionChange with
  | true =>
      simp only [if_true, postedTasks_nil, List.append_nil]
      exact h.frame (fun _ hd => hd) id htail h.covered
  | false =>
      simp only [Bool.false_eq_true, if_false]
      rw [show postedTasks [.amsRegisterMissionListener, .initAllSnapshots missionInfos] = [] from
        rfl, List.append_nil]
      split
      · exact h.frame (fun _ hd => hd) (fun hf => absurd hf (by simp)) htail h.covered
      · exact h.frame (fun _ hd => hd) id htail h.covered

/-! ### Changes -/

theorem Inv.change_inv (h : s.Inv idA idB uuidB) {missions : List DstbMissionInfo}
    (hsafe : (SyncStep.missionChange missions).Safe idA uuidB s) :
    Inv idA idB uuidB { s with
      missions := missions
      listenerCalls :=
        if s.b.isRegMissionChange then s.listenerCalls + 1 else s.listenerCalls } := by
  cases hr : s.b.isRegMissionChange with
  | true =>
      simp only [if_true]
      exact ⟨fun _ => .inl (.inl (Nat.succ_ne_zero _)), fun hz => absurd hz (Nat.succ_ne_zero _),
        fun hf => absurd (hr.symm.trans hf) (by simp), h.subscribed, h.callers, h.registrations⟩
  | false =>
      simp only [Bool.false_eq_true, if_false]
      have hidle := h.unregistered hr
      simp only [OnTheWay, not_or, not_not] at hidle
      obtain ⟨-, -, hchanged, hdevice⟩ := hidle
      refine ⟨fun hd => .inr ?_, fun _ _ => ⟨fun missionInfos hm => ?_, fun _ t ht => ?_⟩,
        h.unregistered, h.subscribed, h.callers, h.registrations⟩
      · exact (hsafe.resolve_left (by rw [hr]; simp)).resolve_left (not_not_intro hd)
      · rw [hchanged] at hm
        cases hm
      · rw [hdevice] at ht
        cases ht

theorem Inv.notifyLocal_inv (h : s.Inv idA idB uuidB) {env : MissionEnv}
    (hpost : env.postTask = true) {n : Nat} (hn : s.listenerCalls = n + 1) :
    Inv idA idB uuidB { s with
      listenerCalls := n
      changeTasks := if env.postTask then s.changeTasks + 1 else s.changeTasks } := by
  rw [hpost, if_pos rfl]
  have hw : s.OnTheWay := .inl (by rw [hn]; exact Nat.succ_ne_zero _)
  exact ⟨fun _ => .inl (.inr (.inl (Nat.succ_ne_zero _))),
    fun _ hz => absurd hz (Nat.succ_ne_zero _), fun hr => absurd hw (h.unregistered hr),
    h.subscribed, h.callers, h.registrations⟩

theorem Inv.read_inv (h : s.Inv idA idB uuidB) {n : Nat} (hn : s.changeTasks = n + 1) :
    Inv idA idB uuidB { s with changeTasks := n, changed := some s.missions } := by
  have hw : s.OnTheWay := .inr (.inl (by rw [hn]; exact Nat.succ_ne_zero _))
  refine ⟨fun _ => .inl (.inr (.inr (.inl (by simp)))), fun _ _ => ⟨fun missionInfos hm => ?_,
    fun hc => by cases hc⟩, fun hr => absurd hw (h.unregistered hr), h.subscribed, h.callers,
    h.registrations⟩
  exact (Option.some.inj hm).symm

theorem Inv.notify_inv (h : s.Inv idA idB uuidB) {env : MissionEnv}
    (hon : (SyncStep.notifyMissionsChangedToRemote env).Online idA idB uuidB)
    {missionInfos : List DstbMissionInfo} (hc : s.changed = some missionInfos) :
    Inv idA idB uuidB { s with
      changed := none
      deviceTasks := s.deviceTasks ++
        tasksTo idA (s.b.notifyMissionsChangedToRemote env missionInfos).2 } := by
  obtain ⟨hall, hne⟩ := tasksTo_notifyMissionsChangedToRemote (b := s.b) hon missionInfos
  generalize tasksTo idA (s.b.notifyMissionsChangedToRemote env missionInfos).2 = new at hall hne
  have hw : s.OnTheWay := .inr (.inr (.inl (by rw [hc]; simp)))
  refine ⟨fun hd => .inl (.inr (.inr (.inr ?_))), fun hl ht => ⟨fun m hm => ?_, fun _ t hm => ?_⟩,
    fun hr => absurd hw (h.unregistered hr), fun hd => ?_, fun t hm => ?_, h.registrations⟩
  · exact List.append_ne_nil_of_right_ne_nil _ (hne.mpr hd)
  · cases hm
  · obtain rfl := (h.fresh hl ht).1 missionInfos hc
    -- the list is posted last, unless there is no subscriber
    rcases List.eq_nil_or_concat new with rfl | ⟨new', last, rfl⟩
    · have hold : s.deviceTasks = [] := by
        by_contra hd
        exact absurd (hne.mpr (h.subscribed hd)) (by simp)
      rw [hold] at hm
      cases hm
    · rw [List.concat_eq_append, ← List.append_assoc, List.getLast?_concat] at hm
      obtain rfl := Option.some.inj hm
      exact (hall _ (by simp)).1
  · by_cases hnew : new = []
    · refine h.subscribed fun hold => hd ?_
      rw [hold, hnew]
      rfl
    · exact hne.mp hnew
  · rcases List.mem_append.mp hm with hm | hm
    · exact h.callers t hm
    · exact (hall t hm).2

/-- A list that was posted arrives.  When nothing else is on its way, it is the newest. -/
theorem Inv.deliver_inv (hu : uuidB ≠ "") (h : s.Inv idA idB uuidB) {env envB : MissionEnv}
    (hon : (SyncStep.notifyMissionsChangedFromRemote env envB).Online idA idB uuidB)
    {missionInfos : List DstbMissionInfo} {callerInfo : CallerInfo}
    {deviceTasks : List (List DstbMissionInfo × CallerInfo)}
    (ht : s.deviceTasks = (missionInfos, callerInfo) :: deviceTasks) :
    Inv idA idB uuidB { s with
      a := if envB.getRemoteDms idA then
          (s.a.notifyMissionsChangedFromRemote env callerInfo missionInfos).manager
        else s.a
      deviceTasks := deviceTasks } := by
  obtain ⟨henv, hdms⟩ := hon
  rw [hdms, if_pos rfl]
  have hw : s.OnTheWay := .inr (.inr (.inr (by rw [ht]; simp)))
  have hsub : idA ∈ s.b.remoteSyncDeviceSet := h.subscribed (by rw [ht]; simp)
  have hcaller : callerInfo.sourceDeviceId = idB :=
    h.callers (missionInfos, callerInfo) (by rw [ht]; exact List.mem_cons_self)
  refine ⟨fun _ => ?_, fun hl hz => ⟨(h.fresh hl hz).1, fun hc t hm => ?_⟩,
    fun hr => absurd hw (h.unregistered hr), fun _ => hsub, fun t hm => ?_, h.registrations⟩
  · by_cases hrest : ({ s with deviceTasks := deviceTasks } : MissionSync).OnTheWay
    · exact .inl hrest
    · simp only [OnTheWay, not_or, not_not] at hrest
      obtain ⟨hl, hz, hc, rfl⟩ := hrest
      have hnewest : missionInfos = s.missions :=
        (h.fresh hl hz).2 hc (missionInfos, callerInfo) (by rw [ht]; rfl)
      refine .inr (.inl ?_)
      simp only [notifyMissionsChangedFromRemote_deviceMissionInfos, hcaller]
      rw [rebornMissionCache_getElem?, if_pos ⟨henv, hu⟩, hnewest]
  · refine (h.fresh hl hz).2 hc t ?_
    rw [ht, List.getLast?_cons, hm]
    rfl
  · exact h.callers t (by rw [ht]; exact List.mem_cons_of_mem _ hm)

theorem Inv.apply_inv (hu : uuidB ≠ "") (h : s.Inv idA idB uuidB) {step : SyncStep}
    {s' : MissionSync} (hok : step.Online idA idB uuidB ∧ step.Safe idA uuidB s)
    (hs : step.apply idA idB s = some s') : s'.Inv idA idB uuidB := by
  obtain ⟨hon, hsafe⟩ := hok
  cases step with
  | registerMissionListener env listener =>
      cases hs
      exact h.listeners (registerMissionListener_deviceMissionInfos ..)
  | unRegisterMissionListener env listener =>
      cases hs
      exact h.listeners (unRegisterMissionListener_deviceMissionInfos ..)
  | startSyncRemoteMissions i env =>
      simp only [SyncStep.apply] at hs
      split at hs
      · rename_i hi _
        cases hs
        exact h.frame (fun _ hd => hd) id h.registrations fun hd =>
          (h.covered hd).imp_right fun hc => hc.new hi _
      · cases hs
  | startSyncMissionsFromRemote i =>
      simp only [SyncStep.apply] at hs
      split at hs
      · cases hs
        exact h.add_inv i _
      · cases hs
  | getLocalMissionInfos i result =>
      simp only [SyncStep.apply] at hs
      split at hs
      · rename_i hi
        cases hs
        exact h.call_inv hi _ fun _ => ⟨hsafe, rfl⟩
      · cases hs
  | postTask i env =>
      simp only [SyncStep.apply] at hs
      split at hs
      · rename_i hi
        cases hs
        exact h.post_inv hi env
      · cases hs
  | rebornMissionCache i env =>
      simp only [SyncStep.apply] at hs
      split at hs
      · rename_i result missionInfos hi
        cases hs
        by_cases hok : result = errOk
        · subst hok
          rw [if_pos rfl]
          exact h.reborn_inv hu hon hsafe hi
        · rw [if_neg hok]
          exact h.end_inv hi (fun hb => hok hb.1) rfl
      · cases hs
  | setCalled i =>
      simp only [SyncStep.apply] at hs
      split at hs
      · rename_i hi
        cases hs
        exact h.end_inv hi id (setCalled_deviceMissionInfos idB)
      · cases hs
  | missionChange missions =>
      cases hs
      exact h.change_inv hsafe
  | notifyLocalMissionsChanged env =>
      simp only [SyncStep.apply] at hs
      split at hs
      · cases hs
      · rename_i hn
        cases hs
        exact h.notifyLocal_inv hon hn
  | readChanged result =>
      simp only [SyncStep.apply] at hs
      split at hs
      · rename_i hn
        cases hs
        rw [if_pos (show result = errOk from hsafe)]
        exact h.read_inv hn
      · cases hs
  | notifyMissionsChangedToRemote env =>
      simp only [SyncStep.apply] at hs
      split at hs
      · rename_i hc
        cases hs
        exact h.notify_inv hon hc
      · cases hs
  | notifyMissionsChangedFromRemote env envB =>
      simp only [SyncStep.apply] at hs
      split at hs
      · rename_i ht
        cases hs
        exact h.deliver_inv hu hon ht
      · cases hs
  | runTask env =>
      simp only [SyncStep.apply] at hs
      split at hs
      · cases hs
      · rename_i ht
        cases hs
        exact h.runTask_inv env ht

/-- Every call, task and message has been processed. -/
structure Processed (s : MissionSync) : Prop where
  calls : s.calls = ∅
  tasks : s.tasks = []
  listenerCalls : s.listenerCalls = 0
  changeTasks : s.changeTasks = 0
  changed : s.changed = none
  deviceTasks : s.deviceTasks = []

theorem Processed.not_onTheWay (h : s.Processed) : ¬ s.OnTheWay := by
  simp [OnTheWay, h.listenerCalls, h.changeTasks, h.changed, h.deviceTasks]

/-- The steps of a call that succeeds, with nothing in between, are the function. -/
theorem startSyncRemoteMissions_blocks {i : Nat} {env envB : MissionEnv} {callerInfo : CallerInfo}
    (hi : s.calls[i]? = none) (hreq : s.a.syncRequest env idB = some callerInfo)
    (hok : envB.getLocalMissionInfos = (errOk, s.missions)) :
    Runs.exec (SyncStep.apply idA idB) s [.startSyncRemoteMissions i env,
        .startSyncMissionsFromRemote i, .getLocalMissionInfos i errOk, .postTask i envB,
        .rebornMissionCache i env, .setCalled i] =
      some { s with
        a := (s.a.startSyncRemoteMissions
          (MissionPair.answering ⟨s.a, s.b⟩ idB env envB) idB).manager
        b := (s.b.onStartSyncMissionsFromRemote envB callerInfo).1.manager
        tasks := s.tasks ++
          postedTasks (s.b.onStartSyncMissionsFromRemote envB callerInfo).1.effects } := by
  have hcalls : (((((s.calls.put i (some (.request callerInfo))).put i
      (some .getLocalMissionInfos)).put i (some (.postTask errOk s.missions))).put i
      (some (.reply errOk s.missions))).put i (some .setCalled)).put i none = s.calls := by
    refine ExtTreeMap.ext_getElem? fun k => ?_
    by_cases hk : i = k
    · subst hk
      rw [ExtTreeMap.getElem?_put_self, hi]
    · simp only [ExtTreeMap.getElem?_put_of_ne _ hk]
  simp only [Runs.exec, SyncStep.apply, hi, hreq, Option.bind_some, ExtTreeMap.getElem?_put_self,
    if_true, hcalls]
  unfold syncRequest at hreq
  split at hreq
  · cases hreq
  rename_i hremote
  split at hreq
  · cases hreq
  rename_i info hk
  split at hreq
  · cases hreq
  rename_i hcond
  simp only [Bool.or_eq_true, not_or, Bool.not_eq_true, Bool.not_eq_false'] at hcond
  have hremote' : (MissionPair.answering ⟨s.a, s.b⟩ idB env envB).isRemote idB = true := by
    rw [Bool.not_eq_true, Bool.not_eq_false'] at hremote
    exact hremote
  have hdms : (MissionPair.answering ⟨s.a, s.b⟩ idB env envB).getRemoteDms idB = true := hcond.2
  have hcaller : (MissionPair.answering ⟨s.a, s.b⟩ idB env envB).generateCallerInfo =
      some callerInfo :=
    hreq
  simp only [startSyncRemoteMissions, hremote', startSyncListened, hk, hcond.1, hdms, startSyncAt,
    hcaller, Bool.not_true, Bool.false_eq_true, if_false]
  simp [MissionPair.answering, onStartSyncMissionsFromRemote, startSyncMissionsFromRemote, hok]
  rfl

end MissionSync

/-- **The lists converge.**  In a run whose steps are safe, when everything has been processed, a
subscriber has the list of the source. -/
theorem missions_converge {idA idB uuidB : String} (hu : uuidB ≠ "")
    {missions : List DstbMissionInfo} {s : MissionSync}
    (h : Runs.Reach (SyncStep.apply idA idB)
      (fun s step => step.Online idA idB uuidB ∧ step.Safe idA uuidB s)
      { missions := missions } s)
    (hdone : s.Processed) (hsub : idA ∈ s.b.remoteSyncDeviceSet) :
    s.a.deviceMissionInfos[uuidB]? = some s.missions := by
  have hinv : s.Inv idA idB uuidB :=
    h.invariant (MissionSync.init_inv missions) fun s step s' hi hok hs => hi.apply_inv hu hok hs
  rcases (hinv.covered hsub).resolve_left hdone.not_onTheWay with hc | ⟨i, call, hi, -⟩
  · exact hc
  · rw [hdone.calls] at hi
    simp at hi

/-- The environment of device "B", which knows every device. -/
def sourceEnv : MissionEnv :=
  { localDeviceId := some "B", getDeviceInfoById := fun _ => true
    getUuidByNetworkId := fun deviceId => "uuid" ++ deviceId }

/-- Device "A" starts, "B" registers its change listener, and the missions of "B" change. -/
theorem missions_converge_start : ∃ s : MissionSync, s.missions = [{ id := 2 }] ∧
    s.a.hasSyncListener "B" = true ∧ s.a.deviceMissionInfos["uuidB"]? = some s.missions := by
  refine ⟨_, ?_, ?_, @missions_converge "A" "B" "uuidB" (by decide) [{ id := 1 }] _ (.next (.next
    (.next (.next (.next (.next (.next (.next (.next (.next (.next (.next (.next .init
    (l := .registerMissionListener subscriberEnv (some 1)) ⟨trivial, trivial⟩ rfl)
    (l := .startSyncRemoteMissions 0 subscriberEnv) ⟨trivial, trivial⟩ rfl)
    (l := .startSyncMissionsFromRemote 0) ⟨trivial, trivial⟩ rfl)
    (l := .getLocalMissionInfos 0 0) ⟨trivial, rfl⟩ rfl)
    (l := .postTask 0 {}) ⟨trivial, trivial⟩ rfl)
    (l := .rebornMissionCache 0 subscriberEnv) ⟨rfl, fun _ h => ?_⟩ rfl)
    (l := .setCalled 0) ⟨trivial, trivial⟩ rfl)
    (l := .runTask {}) ⟨trivial, trivial⟩ rfl)
    (l := .missionChange [{ id := 2 }]) ⟨trivial, .inl rfl⟩ rfl)
    (l := .notifyLocalMissionsChanged {}) ⟨rfl, trivial⟩ rfl)
    (l := .readChanged 0) ⟨trivial, rfl⟩ rfl)
    (l := .notifyMissionsChangedToRemote sourceEnv) ⟨⟨rfl, rfl, by decide⟩, trivial⟩ rfl)
    (l := .notifyMissionsChangedFromRemote subscriberEnv subscriberEnv) ⟨⟨rfl, rfl⟩, trivial⟩ rfl)
    ?_ ?_⟩
  · rfl
  · rfl
  · cases h
    exact .inl rfl
  · exact ⟨ExtTreeMap.isEmpty_iff.mp rfl, rfl, rfl, rfl, rfl, rfl⟩
  · rfl

/-- **A change before the registration.**  The missions change after the list was read, and
before the change listener is registered: nothing is sent, and device "A" keeps the old list. -/
theorem change_before_registration : ∃ s : MissionSync,
    Runs.exec (SyncStep.apply "A" "B") {}
      [.registerMissionListener subscriberEnv (some 1), .startSyncRemoteMissions 0 subscriberEnv,
        .startSyncMissionsFromRemote 0, .getLocalMissionInfos 0 0, .missionChange [{}],
        .postTask 0 {}, .rebornMissionCache 0 subscriberEnv, .setCalled 0, .runTask {}] = some s ∧
    s.Processed ∧ s.a.hasSyncListener "B" = true ∧ "A" ∈ s.b.remoteSyncDeviceSet ∧
      s.a.deviceMissionInfos["uuidB"]? = some [] ∧ s.missions = [{}] :=
  ⟨_, rfl, ⟨ExtTreeMap.isEmpty_iff.mp rfl, rfl, rfl, rfl, rfl, rfl⟩, rfl, rfl, rfl, rfl⟩

/-- **An older answer comes last.**  The change listener is registered in time, and the list that
it sends arrives before the answer of the start. -/
theorem older_answer_last : ∃ s : MissionSync,
    Runs.exec (SyncStep.apply "A" "B") {}
      [.registerMissionListener subscriberEnv (some 1), .startSyncRemoteMissions 0 subscriberEnv,
        .startSyncMissionsFromRemote 0, .getLocalMissionInfos 0 0, .postTask 0 {}, .runTask {},
        .missionChange [{}], .notifyLocalMissionsChanged {}, .readChanged 0,
        .notifyMissionsChangedToRemote sourceEnv,
        .notifyMissionsChangedFromRemote subscriberEnv subscriberEnv,
        .rebornMissionCache 0 subscriberEnv, .setCalled 0] = some s ∧
    s.Processed ∧ s.a.hasSyncListener "B" = true ∧ "A" ∈ s.b.remoteSyncDeviceSet ∧
      s.a.deviceMissionInfos["uuidB"]? = some [] ∧ s.missions = [{}] :=
  ⟨_, rfl, ⟨ExtTreeMap.isEmpty_iff.mp rfl, rfl, rfl, rfl, rfl, rfl⟩, rfl, rfl, rfl, rfl⟩

end DistributedSched

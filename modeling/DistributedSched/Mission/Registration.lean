import DistributedSched.Library.Debts
import DistributedSched.Library.Runs
import DistributedSched.Mission.Manager

/-!
# Mission — the change listener and the subscribers

The device that shares its missions.  A call of `StartSyncMissionsFromRemote` adds the
subscriber under `remoteSyncDeviceLock_`, asks the ability manager for the list, and then posts
the task that registers the change listener; `StopSyncMissionsFromRemote` takes the subscriber
out and posts the opposite task in one block; `missionHandler_` runs the tasks in the order in
which they were posted.

* `HostStep.Safe`: no start is between its block and its post when a stop leaves no subscriber,
  and none, nor a registration that was posted, when the task of `OnDnetDied` clears the set.
* `SyncHost.Inv`: once the tasks that were posted have run, the listener is registered exactly
  when there are subscribers, but for starts that have not posted yet.
* `registration_follows_subscribers`: in a run of such steps, whenever nothing is in progress, the
  listener is registered exactly when there are subscribers, and a device whose last operation
  was a start is one.
* `stop_before_post`: a stop comes between a start's block and its post, and the listener stays
  registered for nobody.
-/

namespace DistributedSched

open Std (ExtTreeMap ExtTreeSet)
open DistributedSchedMissionManager

/-- A call of `StartSyncMissionsFromRemote` after its block. -/
inductive SyncStart where
  | getLocalMissionInfos
  | postTask (missionInfos : List DstbMissionInfo)

structure SyncHost where
  manager : DistributedSchedMissionManager := {}
  /-- the tasks of `missionHandler_`, in the order in which they were posted -/
  tasks : List MissionTask := []
  starts : Map Nat SyncStart := ∅
  /-- the number of starts so far -/
  started : Nat := 0
  /-- the devices whose last operation since the last `OnDnetDied` was a start -/
  recent : List String := []

/-- The tasks that an operation posts. -/
def postedTasks : List MissionEffect → List MissionTask :=
  List.filterMap fun
    | .post task => some task
    | _ => none

@[simp] theorem postedTasks_nil : postedTasks [] = [] := rfl

inductive HostStep where
  /-- a start, up to the end of its block -/
  | startSyncMissionsFromRemote (callerInfo : CallerInfo)
  /-- start `i` asks for the list -/
  | getLocalMissionInfos (i : Nat) (env : MissionEnv)
  /-- start `i` posts its task and returns -/
  | postTask (i : Nat) (env : MissionEnv)
  | stopSyncMissionsFromRemote (env : MissionEnv) (deviceId : String)
  | onDnetDied (env : MissionEnv)
  /-- the first task of `missionHandler_` runs -/
  | runTask (env : MissionEnv)

namespace HostStep

def apply (s : SyncHost) : HostStep → Option SyncHost
  | startSyncMissionsFromRemote callerInfo =>
    some { s with
      manager := s.manager.addSyncDevice callerInfo.sourceDeviceId
      starts := s.starts.put s.started (some .getLocalMissionInfos)
      started := s.started + 1
      recent := callerInfo.sourceDeviceId :: s.recent }
  | getLocalMissionInfos i env =>
    match s.starts[i]? with
    | some .getLocalMissionInfos =>
      some { s with starts := s.starts.put i (some (.postTask env.getLocalMissionInfos.2)) }
    | _ => none
  | postTask i env =>
    match s.starts[i]? with
    | some (.postTask missionInfos) =>
      some { s with
        tasks := s.tasks ++ postedTasks (postRegister env missionInfos)
        starts := s.starts.put i none }
    | _ => none
  | stopSyncMissionsFromRemote env deviceId =>
    let r := s.manager.stopSyncMissionsFromRemote env deviceId
    some { s with
      manager := r.1, tasks := s.tasks ++ postedTasks r.2
      recent := s.recent.filter fun d => d ≠ deviceId }
  | onDnetDied env =>
    some { s with
      tasks := s.tasks ++ postedTasks (DistributedSchedMissionManager.onDnetDied env)
      recent := [] }
  | runTask env =>
    match s.tasks with
    | [] => none
    | task :: tasks =>
      let r := s.manager.runTask env task
      some { s with manager := r.1, tasks := tasks ++ postedTasks r.2 }

/-- The ability manager takes listeners and gives them up, and tasks can be posted. -/
def Assumed : HostStep → Prop
  | postTask _ env | stopSyncMissionsFromRemote env _ | onDnetDied env => env.postTask = true
  | runTask env => env.amsRegisterMissionListener = errOk ∧ env.amsUnRegisterMissionListener = errOk
  | _ => True

def Safe (s : SyncHost) : HostStep → Prop
  | stopSyncMissionsFromRemote _ deviceId =>
    (s.manager.remoteSyncDeviceSet.erase deviceId).isEmpty = true → s.starts.isEmpty = true
  | runTask _ =>
    s.tasks.head? = some .dnetDied → s.manager.isRegMissionChange = true →
      s.starts.isEmpty = true ∧ ∀ missionInfos, .registerMissionListener missionInfos ∉ s.tasks
  | _ => True

end HostStep

namespace SyncHost

variable (s : SyncHost)

/-- The blocks of a start, with nothing in between, are the function. -/
theorem startSyncMissionsFromRemote_blocks (env : MissionEnv) (callerInfo : CallerInfo)
    (hn : s.starts[s.started]? = none) :
    Runs.exec HostStep.apply s [.startSyncMissionsFromRemote callerInfo,
        .getLocalMissionInfos s.started env, .postTask s.started env] =
      some { s with
        manager := (s.manager.startSyncMissionsFromRemote env callerInfo).1.manager
        tasks := s.tasks ++
          postedTasks (s.manager.startSyncMissionsFromRemote env callerInfo).1.effects
        started := s.started + 1
        recent := callerInfo.sourceDeviceId :: s.recent } := by
  have hstarts : ((s.starts.put s.started (some .getLocalMissionInfos)).put s.started
      (some (.postTask env.getLocalMissionInfos.2))).put s.started none = s.starts := by
    refine ExtTreeMap.ext_getElem? fun k => ?_
    by_cases hk : s.started = k
    · subst hk
      rw [ExtTreeMap.getElem?_put_self, hn]
    · rw [ExtTreeMap.getElem?_put_of_ne _ hk, ExtTreeMap.getElem?_put_of_ne _ hk,
        ExtTreeMap.getElem?_put_of_ne _ hk]
  simp only [Runs.exec, HostStep.apply, Option.bind_some, ExtTreeMap.getElem?_put_self, hstarts]
  rfl

/-- Whether the listener is registered once the tasks have run, when none of them clears the
subscribers. -/
def registeredAfter : List MissionTask → Bool → Bool
  | [], isReg => isReg
  | .registerMissionListener _ :: tasks, _ => registeredAfter tasks true
  | .unRegisterMissionListener :: tasks, _ => registeredAfter tasks false
  | _ :: tasks, isReg => registeredAfter tasks isReg

theorem registeredAfter_append (tasks tasks' : List MissionTask) (isReg : Bool) :
    registeredAfter (tasks ++ tasks') isReg =
      registeredAfter tasks' (registeredAfter tasks isReg) := by
  induction tasks generalizing isReg with
  | nil => rfl
  | cons task tasks ih => cases task <;> exact ih _

/-- Tasks that register nothing leave the listener unregistered. -/
theorem registeredAfter_false {tasks : List MissionTask}
    (h : ∀ missionInfos, .registerMissionListener missionInfos ∉ tasks) :
    registeredAfter tasks false = false := by
  induction tasks with
  | nil => rfl
  | cons task tasks ih =>
      have ih := ih fun missionInfos hm => h missionInfos (List.mem_cons_of_mem _ hm)
      cases task with
      | registerMissionListener missionInfos => exact absurd List.mem_cons_self (h missionInfos)
      | unRegisterMissionListener => exact ih
      | dnetDied => exact ih
      | missionListenerDied listener => exact ih
      | retryStartSync dstDeviceId retryTimes => exact ih
      | notifyMissionsChanged listenerSet devId => exact ih

/-- What the tasks that were posted will do about the listener fits the subscribers. -/
structure Inv (s : SyncHost) : Prop where
  registered : s.manager.remoteSyncDeviceSet.isEmpty = false →
    registeredAfter s.tasks s.manager.isRegMissionChange = true ∨ s.starts.isEmpty = false
  unregistered : s.manager.remoteSyncDeviceSet.isEmpty = true →
    registeredAfter s.tasks s.manager.isRegMissionChange = false ∧ s.starts.isEmpty = true
  recent : ∀ d ∈ s.recent, d ∈ s.manager.remoteSyncDeviceSet
  /-- a task that clears the set has the registration of a recent start behind it -/
  cleared : s.recent ≠ [] → s.starts.isEmpty = true → ∀ pre post,
    s.tasks = pre ++ .dnetDied :: post →
      ∃ missionInfos, .registerMissionListener missionInfos ∈ post
  kinds : ∀ task ∈ s.tasks, (∃ missionInfos, task = .registerMissionListener missionInfos) ∨
    task = .unRegisterMissionListener ∨ task = .dnetDied

variable {s}

theorem init_inv : Inv {} where
  registered h := by simp at h
  unregistered _ := ⟨rfl, by simp⟩
  recent d h := absurd h List.not_mem_nil
  cleared h := absurd rfl h
  kinds task h := absurd h List.not_mem_nil

theorem Inv.start_inv (h : s.Inv) (callerInfo : CallerInfo) :
    Inv { s with
      manager := s.manager.addSyncDevice callerInfo.sourceDeviceId
      starts := s.starts.put s.started (some .getLocalMissionInfos)
      started := s.started + 1
      recent := callerInfo.sourceDeviceId :: s.recent } := by
  have hstarts : (s.starts.put s.started (some .getLocalMissionInfos)).isEmpty = false := by
    simp [ExtTreeMap.put_some]
  refine ⟨fun _ => .inr hstarts, fun he => ?_, fun d hd => ?_, fun _ he => ?_, h.kinds⟩
  · simp [addSyncDevice] at he
  · simp only [addSyncDevice, ExtTreeSet.mem_insert, Std.LawfulEqCmp.compare_eq_iff_eq]
    exact (List.mem_cons.mp hd).imp Eq.symm (h.recent d)
  · rw [hstarts] at he
    cases he

theorem put_isEmpty_of_some {starts : Map Nat SyncStart} {i : Nat} {start : SyncStart} :
    (starts.put i (some start)).isEmpty = false := by
  simp [ExtTreeMap.put_some]

theorem isEmpty_of_getElem? {starts : Map Nat SyncStart} {i : Nat} {start : SyncStart}
    (h : starts[i]? = some start) : starts.isEmpty = false := by
  rw [ExtTreeMap.isEmpty_eq_false_iff]
  rintro rfl
  simp at h

theorem Inv.getLocalMissionInfos_inv (h : s.Inv) {i : Nat} {start : SyncStart}
    (hi : s.starts[i]? = some start) (start' : SyncStart) :
    Inv { s with starts := s.starts.put i (some start') } := by
  have hold := isEmpty_of_getElem? hi
  refine ⟨fun _ => .inr put_isEmpty_of_some, fun he => ?_, h.recent, fun _ he => ?_, h.kinds⟩
  · rw [(h.unregistered he).2] at hold
    cases hold
  · rw [put_isEmpty_of_some] at he
    cases he

theorem Inv.postTask_inv (h : s.Inv) {i : Nat} {start : SyncStart}
    (hi : s.starts[i]? = some start) (missionInfos : List DstbMissionInfo) :
    Inv { s with
      tasks := s.tasks ++ [.registerMissionListener missionInfos]
      starts := s.starts.put i none } := by
  have hold := isEmpty_of_getElem? hi
  refine ⟨fun _ => .inl ?_, fun he => ?_, h.recent, fun _ _ pre post hp => ?_, fun task ht => ?_⟩
  · rw [registeredAfter_append]
    rfl
  · rw [(h.unregistered he).2] at hold
    cases hold
  · rcases Debts.append_eq_append_cons hp with ⟨post', rfl, -⟩ | ⟨-, hne⟩
    · exact ⟨missionInfos, List.mem_append_right _ (List.mem_singleton_self _)⟩
    · cases hne
  · rcases List.mem_append.mp ht with ht | ht
    · exact h.kinds task ht
    · exact .inl ⟨missionInfos, List.mem_singleton.mp ht⟩

theorem Inv.stop_inv (h : s.Inv) {env : MissionEnv} (hpost : env.postTask = true)
    (deviceId : String)
    (hsafe : (s.manager.remoteSyncDeviceSet.erase deviceId).isEmpty = true →
      s.starts.isEmpty = true) :
    Inv { s with
      manager := (s.manager.stopSyncMissionsFromRemote env deviceId).1
      tasks := s.tasks ++ postedTasks (s.manager.stopSyncMissionsFromRemote env deviceId).2
      recent := s.recent.filter fun d => d ≠ deviceId } := by
  -- a recent device that is left is another one, which the set keeps
  have hrecent : ∀ d ∈ s.recent.filter (fun d => d ≠ deviceId),
      d ∈ s.manager.remoteSyncDeviceSet.erase deviceId := by
    intro d hd
    obtain ⟨hd, hne⟩ := List.mem_filter.mp hd
    refine ExtTreeSet.mem_erase.mpr ⟨fun hc => ?_, h.recent d hd⟩
    exact of_decide_eq_true hne (Std.LawfulEqCmp.compare_eq_iff_eq.mp hc).symm
  have hne : s.recent.filter (fun d => d ≠ deviceId) ≠ [] → s.recent ≠ [] := by
    rintro hf hn
    rw [hn] at hf
    exact hf rfl
  simp only [stopSyncMissionsFromRemote, hpost, Bool.and_true]
  cases he : (s.manager.remoteSyncDeviceSet.erase deviceId).isEmpty with
  | false =>
      have hold : s.manager.remoteSyncDeviceSet.isEmpty = false := by
        rw [ExtTreeSet.isEmpty_eq_false_iff] at he ⊢
        exact ExtTreeSet.ne_empty_of_erase_ne_empty he
      simp only [Bool.false_eq_true, if_false, postedTasks_nil, List.append_nil]
      refine ⟨fun _ => h.registered hold, fun he' => ?_, hrecent, fun hf => h.cleared (hne hf),
        h.kinds⟩
      rw [he] at he'
      cases he'
  | true =>
      simp only [if_true]
      rw [show postedTasks [.post .unRegisterMissionListener] = [.unRegisterMissionListener] from
        rfl]
      refine ⟨fun he' => ?_, fun _ => ⟨?_, hsafe he⟩, hrecent, fun hf hs pre post hp => ?_,
        fun task ht => ?_⟩
      · rw [he] at he'
        cases he'
      · rw [registeredAfter_append]
        rfl
      · rcases Debts.append_eq_append_cons hp with ⟨post', rfl, hpre⟩ | ⟨-, hc⟩
        · obtain ⟨missionInfos, hm⟩ := h.cleared (hne hf) hs pre post' hpre
          exact ⟨missionInfos, List.mem_append_left _ hm⟩
        · cases hc
      · rcases List.mem_append.mp ht with ht | ht
        · exact h.kinds task ht
        · exact .inr (.inl (List.mem_singleton.mp ht))

theorem Inv.dnetDied_inv (h : s.Inv) :
    Inv { s with tasks := s.tasks ++ [.dnetDied], recent := [] } := by
  have hafter : ∀ isReg, registeredAfter (s.tasks ++ [.dnetDied]) isReg =
      registeredAfter s.tasks isReg := fun isReg => registeredAfter_append ..
  refine ⟨fun he => ?_, fun he => ?_, fun d hd => absurd hd List.not_mem_nil,
    fun hn => absurd rfl hn, fun task ht => ?_⟩
  · rw [hafter]
    exact h.registered he
  · rw [hafter]
    exact h.unregistered he
  · rcases List.mem_append.mp ht with ht | ht
    · exact h.kinds task ht
    · exact .inr (.inr (List.mem_singleton.mp ht))

/-! ### A task runs -/

section tasks

variable {task : MissionTask} {tasks : List MissionTask}

/-- What is left of the conditions on the tasks when the first of them has run. -/
theorem Inv.cleared_tail (h : s.Inv) (ht : s.tasks = task :: tasks) (hr : s.recent ≠ [])
    (hs : s.starts.isEmpty = true) (pre post : List MissionTask)
    (hp : tasks = pre ++ .dnetDied :: post) :
    ∃ missionInfos, .registerMissionListener missionInfos ∈ post :=
  h.cleared hr hs (task :: pre) post (by rw [ht, hp]; rfl)

theorem Inv.kinds_tail (h : s.Inv) (ht : s.tasks = task :: tasks) :
    ∀ task ∈ tasks, (∃ missionInfos, task = .registerMissionListener missionInfos) ∨
      task = .unRegisterMissionListener ∨ task = .dnetDied :=
  fun t hm => h.kinds t (by rw [ht]; exact List.mem_cons_of_mem _ hm)

/-- A task that leaves the subscribers, and registers as it says. -/
theorem Inv.task_inv (h : s.Inv) (ht : s.tasks = task :: tasks)
    {m : DistributedSchedMissionManager}
    (hset : m.remoteSyncDeviceSet = s.manager.remoteSyncDeviceSet)
    (hreg : registeredAfter tasks m.isRegMissionChange =
      registeredAfter (task :: tasks) s.manager.isRegMissionChange) :
    Inv { s with manager := m, tasks := tasks } := by
  refine ⟨fun he => ?_, fun he => ?_, fun d hd => hset ▸ h.recent d hd, h.cleared_tail ht,
    h.kinds_tail ht⟩
  · simp only [hreg, ← ht]
    exact h.registered (hset ▸ he)
  · simp only [hreg, ← ht]
    exact h.unregistered (hset ▸ he)

/-- The task of `OnDnetDied` clears the set, with no registration to come. -/
theorem Inv.clear_inv (h : s.Inv) (ht : s.tasks = .dnetDied :: tasks)
    (hs : s.starts.isEmpty = true)
    (hnone : ∀ missionInfos, .registerMissionListener missionInfos ∉ tasks) :
    Inv { s with
      manager := { s.manager with remoteSyncDeviceSet := ∅, isRegMissionChange := false }
      tasks := tasks } := by
  have hrecent : s.recent = [] := by
    by_contra hr
    obtain ⟨missionInfos, hm⟩ := h.cleared hr hs [] tasks ht
    exact hnone missionInfos hm
  refine ⟨fun he => ?_, fun _ => ⟨registeredAfter_false hnone, hs⟩, fun d hd => ?_,
    h.cleared_tail ht, h.kinds_tail ht⟩
  · simp at he
  · rw [hrecent] at hd
    cases hd

end tasks

theorem Inv.runTask_inv (h : s.Inv) {env : MissionEnv}
    (ha : (HostStep.runTask env).Assumed) (hsafe : (HostStep.runTask env).Safe s)
    {task : MissionTask} {tasks : List MissionTask} (ht : s.tasks = task :: tasks) :
    Inv { s with
      manager := (s.manager.runTask env task).1
      tasks := tasks ++ postedTasks (s.manager.runTask env task).2 } := by
  obtain ⟨hreg, hunreg⟩ := ha
  rcases h.kinds task (by rw [ht]; exact List.mem_cons_self) with ⟨missionInfos, rfl⟩ | rfl | rfl
  · simp only [runTask, runRegister]
    cases hr : s.manager.isRegMissionChange with
    | true =>
        simp only [if_true, postedTasks_nil, List.append_nil]
        exact h.task_inv ht rfl (by rw [hr]; rfl)
    | false =>
        simp only [Bool.false_eq_true, if_false, hreg, if_true]
        rw [show postedTasks [.amsRegisterMissionListener, .initAllSnapshots missionInfos] = [] from
          rfl, List.append_nil]
        exact h.task_inv ht rfl rfl
  · simp only [runTask, runUnRegister, hunreg, if_true]
    rw [show postedTasks [.amsUnRegisterMissionListener] = [] from rfl, List.append_nil]
    exact h.task_inv ht rfl rfl
  · simp only [runTask, runDnetDied]
    cases hr : s.manager.isRegMissionChange with
    | false =>
        simp only [Bool.not_false, if_true, postedTasks_nil, List.append_nil]
        exact h.task_inv ht rfl (by rw [hr]; rfl)
    | true =>
        obtain ⟨hs, hnone⟩ := hsafe (by rw [ht]; rfl) hr
        simp only [Bool.not_true, Bool.false_eq_true, if_false]
        rw [show postedTasks [.amsUnRegisterMissionListener] = [] from rfl, List.append_nil]
        refine h.clear_inv ht hs fun missionInfos hm => hnone missionInfos ?_
        rw [ht]
        exact List.mem_cons_of_mem _ hm

theorem Inv.apply_inv (h : s.Inv) {step : HostStep} {s' : SyncHost}
    (hok : step.Assumed ∧ step.Safe s) (hs : step.apply s = some s') : s'.Inv := by
  obtain ⟨ha, hsafe⟩ := hok
  cases step with
  | startSyncMissionsFromRemote callerInfo =>
      cases hs
      exact h.start_inv callerInfo
  | getLocalMissionInfos i env =>
      simp only [HostStep.apply] at hs
      split at hs
      · rename_i hi
        cases hs
        exact h.getLocalMissionInfos_inv hi _
      · cases hs
  | postTask i env =>
      simp only [HostStep.apply] at hs
      split at hs
      · rename_i missionInfos hi
        cases hs
        rw [show postRegister env missionInfos = [.post (.registerMissionListener missionInfos)]
          from if_pos ha]
        exact h.postTask_inv hi missionInfos
      · cases hs
  | stopSyncMissionsFromRemote env deviceId =>
      cases hs
      exact h.stop_inv ha deviceId hsafe
  | onDnetDied env =>
      cases hs
      rw [show DistributedSchedMissionManager.onDnetDied env = [.post .dnetDied] from if_pos ha]
      exact h.dnetDied_inv
  | runTask env =>
      simp only [HostStep.apply] at hs
      split at hs
      · cases hs
      · rename_i ht
        cases hs
        exact h.runTask_inv ha hsafe ht

end SyncHost

/-- **The registration follows the subscribers.**  In a run whose steps are safe, whenever no
start is in progress and no task is left, the change listener is registered exactly when there
are subscribers, and every device whose last operation since the last `OnDnetDied` was a start
is one. -/
theorem registration_follows_subscribers {s : SyncHost}
    (h : Runs.Reach HostStep.apply (fun s step => step.Assumed ∧ step.Safe s) {} s)
    (hstarts : s.starts = ∅) (htasks : s.tasks = []) :
    (s.manager.isRegMissionChange = true ↔ s.manager.remoteSyncDeviceSet ≠ ∅) ∧
    ∀ d ∈ s.recent, d ∈ s.manager.remoteSyncDeviceSet := by
  have hinv : s.Inv :=
    h.invariant SyncHost.init_inv fun s step s' hi hok hs => hi.apply_inv hok hs
  have hidle : s.starts.isEmpty = true := ExtTreeMap.isEmpty_iff.mpr hstarts
  refine ⟨?_, hinv.recent⟩
  rw [ne_eq, ← ExtTreeSet.isEmpty_eq_false_iff]
  cases he : s.manager.remoteSyncDeviceSet.isEmpty with
  | false =>
      have hr := (hinv.registered he).resolve_right (by rw [hidle]; simp)
      rw [htasks] at hr
      exact iff_of_true hr rfl
  | true =>
      have hr := (hinv.unregistered he).1
      rw [htasks] at hr
      exact iff_of_false (fun ht => by rw [SyncHost.registeredAfter, ht] at hr; cases hr)
        (by simp)

/-- Devices "A" and "B" start, their tasks run, and "A" stops. -/
def startTwo : List HostStep :=
  [.startSyncMissionsFromRemote { sourceDeviceId := "A" },
    .startSyncMissionsFromRemote { sourceDeviceId := "B" }, .getLocalMissionInfos 1 {},
    .getLocalMissionInfos 0 {}, .postTask 0 {}, .postTask 1 {}, .runTask {}, .runTask {},
    .stopSyncMissionsFromRemote {} "A"]

/-- The listener is registered for "B", and after `OnDnetDied` for nobody. -/
theorem registration_follows_subscribers_one : ∃ s s' : SyncHost,
    Runs.exec HostStep.apply {} startTwo = some s ∧
    s.manager.remoteSyncDeviceSet.toList = ["B"] ∧ s.manager.isRegMissionChange = true ∧
    Runs.exec HostStep.apply s [.onDnetDied {}, .runTask {}] = some s' ∧
    s'.manager.remoteSyncDeviceSet = ∅ ∧ s'.manager.isRegMissionChange = false := by
  obtain ⟨s, s', hexec, h, hstarts, htasks, hset, hexec', h', hstarts', htasks', hset'⟩ :
      ∃ s s' : SyncHost, Runs.exec HostStep.apply {} startTwo = some s ∧
      Runs.Reach HostStep.apply (fun s step => step.Assumed ∧ step.Safe s) {} s ∧
      s.starts.isEmpty = true ∧ s.tasks = [] ∧
      s.manager.remoteSyncDeviceSet.toList = ["B"] ∧
      Runs.exec HostStep.apply s [.onDnetDied {}, .runTask {}] = some s' ∧
      Runs.Reach HostStep.apply (fun s step => step.Assumed ∧ step.Safe s) s s' ∧
      s'.starts.isEmpty = true ∧ s'.tasks = [] ∧
      s'.manager.remoteSyncDeviceSet.isEmpty = true := by
    refine ⟨_, _, rfl, .next (.next (.next (.next (.next (.next (.next (.next (.next .init
      (l := .startSyncMissionsFromRemote { sourceDeviceId := "A" }) ⟨trivial, trivial⟩ rfl)
      (l := .startSyncMissionsFromRemote { sourceDeviceId := "B" }) ⟨trivial, trivial⟩ rfl)
      (l := .getLocalMissionInfos 1 {}) ⟨trivial, trivial⟩ rfl)
      (l := .getLocalMissionInfos 0 {}) ⟨trivial, trivial⟩ rfl)
      (l := .postTask 0 {}) ⟨rfl, trivial⟩ rfl) (l := .postTask 1 {}) ⟨rfl, trivial⟩ rfl)
      (l := .runTask {}) ⟨⟨rfl, rfl⟩, fun h => by cases h⟩ rfl)
      (l := .runTask {}) ⟨⟨rfl, rfl⟩, fun h => by cases h⟩ rfl)
      (l := .stopSyncMissionsFromRemote {} "A") ⟨rfl, fun _ => rfl⟩ rfl, rfl, rfl, rfl, rfl,
      .next (.next .init (l := .onDnetDied {}) ⟨rfl, trivial⟩ rfl) (l := .runTask {})
        ⟨⟨rfl, rfl⟩, fun _ _ => ⟨rfl, fun missionInfos hm => ?_⟩⟩ rfl, rfl, rfl, rfl⟩
    cases List.mem_singleton.mp hm
  have hempty : s'.manager.remoteSyncDeviceSet = ∅ := ExtTreeSet.isEmpty_iff.mp hset'
  obtain ⟨hreg, -⟩ :=
    registration_follows_subscribers h (ExtTreeMap.isEmpty_iff.mp hstarts) htasks
  obtain ⟨hreg', -⟩ :=
    registration_follows_subscribers (h.trans h') (ExtTreeMap.isEmpty_iff.mp hstarts') htasks'
  refine ⟨s, s', hexec, hset, hreg.mpr fun hnone => ?_, hexec', hempty, ?_⟩
  · rw [hnone] at hset
    cases hset
  · exact Bool.eq_false_iff.mpr fun ht => hreg'.mp ht hempty

/-- **A stop before the post.**  Device "A" starts and stops, and the stop comes between the
start's block and its post: when both tasks have run, the listener is registered and there is no
subscriber. -/
theorem stop_before_post : ∃ s : SyncHost,
    Runs.exec HostStep.apply {} [.startSyncMissionsFromRemote { sourceDeviceId := "A" },
      .stopSyncMissionsFromRemote {} "A", .getLocalMissionInfos 0 {}, .postTask 0 {},
      .runTask {}, .runTask {}] = some s ∧
    s.starts = ∅ ∧ s.tasks = [] ∧ s.manager.isRegMissionChange = true ∧
      s.manager.remoteSyncDeviceSet = ∅ :=
  ⟨_, rfl, ExtTreeMap.isEmpty_iff.mp rfl, rfl, rfl, ExtTreeSet.isEmpty_iff.mp rfl⟩

end DistributedSched

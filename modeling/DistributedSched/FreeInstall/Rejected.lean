import DistributedSched.Service.Continuation

/-!
# FreeInstall — what a rejected free install leaves behind

`StartRemoteFreeInstall` stores the task, its timeout and, for a continuation, its mission before
it collects the caller's information and sends the request; each of these may still fail.

* `FreeInstallLeavesNoTrace`: when the call fails, the two tables and the pending timeouts are
  as before.
* `InstallRejectedCleanly`: what must be answered for that, once the task is stored.
* `rejected_free_install_leaves_no_trace`: the one holds exactly when the other does.
* `failed_account_leaves_task`: without the caller's account information the task stays.
-/

namespace DistributedSched

open Std (ExtTreeMap)
open DistributedSchedService

/-! ### Storing a task and popping it -/

namespace DmsCallbackTask

/-- The tables that a failed call is not to change. -/
def SameTables (t t' : DmsCallbackTask) : Prop :=
  t'.callbackMap = t.callbackMap ∧ t'.continuationMissionMap = t.continuationMissionMap ∧
    t'.dmsCallbackHandler.pending = t.dmsCallbackHandler.pending

/-- The table with a task that has been pushed, and the mission stored for it. -/
def stored (t : DmsCallbackTask) (taskId : Int) (item : CallbackTaskItem) : DmsCallbackTask :=
  let task := { t with
    dmsCallbackHandler := t.dmsCallbackHandler.sendEvent true taskId 0 callbackDelayTime
    callbackMap := t.callbackMap.insert taskId item }
  if item.launchType = .freeInstallContinue then
    task.setContinuationMissionMap taskId (item.want.getIntParam "sessionId" (-1))
  else task

section stored

variable {t : DmsCallbackTask} {taskId : Int} {item : CallbackTaskItem}

theorem stored_dmsCallbackHandler : (t.stored taskId item).dmsCallbackHandler =
    t.dmsCallbackHandler.sendEvent true taskId 0 callbackDelayTime := by
  unfold stored setContinuationMissionMap
  split
  · split <;> rfl
  · rfl

theorem stored_callbackMap :
    (t.stored taskId item).callbackMap = t.callbackMap.insert taskId item := by
  unfold stored setContinuationMissionMap
  split
  · split <;> rfl
  · rfl

theorem stored_continuationMissionMap (hpos : 0 < taskId) :
    (t.stored taskId item).continuationMissionMap = t.continuationMissionMap ↔
      (item.launchType = .freeInstallContinue → 0 < item.want.getIntParam "sessionId" (-1) →
        t.continuationMissionMap[taskId]? ≠ none) := by
  unfold stored setContinuationMissionMap
  by_cases hl : item.launchType = .freeInstallContinue
  · by_cases hm : item.want.getIntParam "sessionId" (-1) ≤ 0
    · simp only [hl, hm, if_true, or_true, Int.not_lt.mpr hm, false_implies, implies_true]
    · have hid : ¬ (taskId ≤ 0 ∨ item.want.getIntParam "sessionId" (-1) ≤ 0) := by omega
      simp only [hl, if_true, hid, if_false, Int.not_le.mp hm, true_implies]
      cases hold : t.continuationMissionMap[taskId]? with
      | none =>
          simp only [ExtTreeMap.insertIfNew_eq_insert hold, ne_eq, not_true_eq_false, iff_false]
          exact ExtTreeMap.insert_ne_self hold _
      | some missionId => simp [ExtTreeMap.insertIfNew_eq_self hold]
  · simp only [hl, if_false, false_implies]

/-- A stored task is never as before: its timeout is pending. -/
theorem not_sameTables_stored : ¬ t.SameTables (t.stored taskId item) := by
  intro h
  have hpending := h.2.2
  rw [stored_dmsCallbackHandler] at hpending
  exact EventHandler.sendEvent_ne _ _ _ _ (congrArg EventHandler.mk hpending)

/-- Popping it again takes back the task and every event of its id, but not its mission. -/
theorem sameTables_pop_stored (hpos : 0 < taskId) (hn : t.callbackMap[taskId]? = none) :
    t.SameTables ((t.stored taskId item).popCallback taskId).2 ↔
      ¬ t.dmsCallbackHandler.Armed taskId ∧
      (item.launchType = .freeInstallContinue → 0 < item.want.getIntParam "sessionId" (-1) →
        t.continuationMissionMap[taskId]? ≠ none) := by
  have hs : (t.stored taskId item).callbackMap[taskId]? = some item := by
    rw [stored_callbackMap, ExtTreeMap.getElem?_insert_self]
  have hpending : ((t.dmsCallbackHandler.removeEvent taskId).pending =
      t.dmsCallbackHandler.pending) ↔ ¬ t.dmsCallbackHandler.Armed taskId := by
    rw [← EventHandler.removeEvent_eq_self]
    exact ⟨congrArg EventHandler.mk, congrArg EventHandler.pending⟩
  simp only [SameTables, popCallback, hs]
  simp only [stored_callbackMap, ExtTreeMap.erase_insert, ExtTreeMap.erase_eq_self hn, true_and,
    stored_dmsCallbackHandler, EventHandler.removeEvent_sendEvent, hpending,
    stored_continuationMissionMap hpos]
  exact And.comm

end stored

end DmsCallbackTask

/-! ### The property and its condition -/

/-- When the call fails, the tables of `DmsCallbackTask` are as before. -/
def FreeInstallLeavesNoTrace (env : Env) (s : DistributedSchedService) (want : Want)
    (callerUid requestCode : Int) (accessToken : Nat) (callback : Option RemoteObject) : Prop :=
  let r := s.startRemoteFreeInstall env want callerUid requestCode accessToken callback
  r.result ≠ errOk → s.dmsCallbackTask.SameTables r.service.dmsCallbackTask

/-- The call gets as far as to store its task. -/
structure StoresTask (env : Env) (t : DmsCallbackTask) (want : Want)
    (callback : Option RemoteObject) (localDeviceId : String) : Prop where
  device : env.checkedLocalId want.element.deviceId = some localDeviceId
  remoteDms : env.getRemoteDms want.element.deviceId = true
  taskId : 0 < t.currTaskId
  callback : launchTypeOf want = .freeInstallStart → callback ≠ none
  newTask : t.callbackMap[t.currTaskId]? = none
  sendEvent : env.sendEvent = true

/-- What is stored is to stay, or there is nothing but it to take back. -/
def InstallRejectedCleanly (env : Env) (t : DmsCallbackTask) (want : Want)
    (callerUid requestCode : Int) (accessToken : Nat) (callback : Option RemoteObject) : Prop :=
  ∀ localDeviceId, StoresTask env t want callback localDeviceId →
    ∃ callerInfo accountInfo,
      localCallerInfo env callerUid callerTypeHarmony localDeviceId accessToken = some callerInfo ∧
      DistributedSchedPermission.getAccountInfo env want.element.deviceId callerInfo =
        .ok accountInfo ∧
      (env.remoteResult (.startFreeInstallFromRemote
        { want := want.setParam dmsSrcNetworkId (.string localDeviceId)
          requestCode := requestCode, callerInfo := callerInfo
          accountInfo := accountInfo } t.currTaskId) = errOk ∨
      ¬ t.dmsCallbackHandler.Armed t.currTaskId ∧
      (launchTypeOf want = .freeInstallContinue → 0 < want.getIntParam "sessionId" (-1) →
        t.continuationMissionMap[t.currTaskId]? ≠ none))

/-! ### The call by the point where it stops -/

section Rejected

variable {env : Env} {s : DistributedSchedService} {want : Want} {callerUid requestCode : Int}
  {accessToken : Nat} {callback : Option RemoteObject} {localDeviceId : String}

/-- The service after a task has been stored. -/
def DistributedSchedService.storeTask (s : DistributedSchedService) (want : Want)
    (callback : Option RemoteObject) : DistributedSchedService :=
  let item : CallbackTaskItem :=
    { callback := callback, taskId := s.dmsCallbackTask.currTaskId
      launchType := launchTypeOf want, deviceId := want.element.deviceId, want := want }
  { s with
    dmsCallbackTask := s.dmsCallbackTask.generateTaskId.2.stored s.dmsCallbackTask.currTaskId item }

/-- What the call does once its task is stored. -/
theorem startRemoteFreeInstall_stored (h : StoresTask env s.dmsCallbackTask want callback
    localDeviceId) :
    s.startRemoteFreeInstall env want callerUid requestCode accessToken callback =
      match localCallerInfo env callerUid callerTypeHarmony localDeviceId accessToken with
      | none => ⟨invalidParametersErr, s.storeTask want callback, []⟩
      | some callerInfo =>
        match DistributedSchedPermission.getAccountInfo env want.element.deviceId callerInfo with
        | .error _ => ⟨invalidParametersErr, s.storeTask want callback, []⟩
        | .ok accountInfo =>
          let call := RemoteCall.startFreeInstallFromRemote
            { want := want.setParam dmsSrcNetworkId (.string localDeviceId)
              requestCode := requestCode, callerInfo := callerInfo
              accountInfo := accountInfo } s.dmsCallbackTask.currTaskId
          if env.remoteResult call ≠ errOk then
            let r := (s.storeTask want callback).failFreeInstall env s.dmsCallbackTask.currTaskId
              (env.remoteResult call)
            ⟨env.remoteResult call, r.1, .rpc want.element.deviceId call :: r.2⟩
          else ⟨env.remoteResult call, s.storeTask want callback,
            [.rpc want.element.deviceId call]⟩ := by
  have hpushed := DmsCallbackTask.pushCallback_stored (t := s.dmsCallbackTask.generateTaskId.2)
    want.element.deviceId want h.taskId h.callback h.newTask
  have hid : s.dmsCallbackTask.generateTaskId.1 = s.dmsCallbackTask.currTaskId := rfl
  unfold startRemoteFreeInstall
  simp only [h.device, h.remoteDms, h.sendEvent, Bool.not_true, Bool.false_eq_true, if_false, hid,
    hpushed, ne_eq, not_true_eq_false]
  rfl

/-- A call that stores no task leaves the tables as they are. -/
theorem sameTables_of_not_stores (h : ∀ localDeviceId,
    ¬ StoresTask env s.dmsCallbackTask want callback localDeviceId) :
    s.dmsCallbackTask.SameTables (s.startRemoteFreeInstall env want callerUid requestCode
      accessToken callback).service.dmsCallbackTask := by
  have hinvalid : invalidParametersErr ≠ errOk := by decide
  have hid : s.dmsCallbackTask.generateTaskId.1 = s.dmsCallbackTask.currTaskId := rfl
  unfold startRemoteFreeInstall
  cases hd : env.checkedLocalId want.element.deviceId with
  | none =>
      simp only [hd]
      exact ⟨rfl, rfl, rfl⟩
  | some localDeviceId =>
      by_cases hr : env.getRemoteDms want.element.deviceId = true
      · simp only [hd, hr, Bool.not_true, Bool.false_eq_true, if_false, hid]
        obtain hrefused | ⟨hpos, hcallback, hn, hpushed⟩ :=
          s.dmsCallbackTask.generateTaskId.2.pushCallback_cases env.sendEvent
            s.dmsCallbackTask.currTaskId callback want.element.deviceId (launchTypeOf want) want
        · rw [hrefused, if_pos hinvalid]
          exact ⟨rfl, rfl, rfl⟩
        · refine absurd ⟨hd, hr, hpos, hcallback, hn, ?_⟩ (h localDeviceId)
          -- without its event the push would have been refused
          cases hsent : env.sendEvent with
          | true => rfl
          | false =>
              rw [hsent, DmsCallbackTask.pushCallback_unsent] at hpushed
              exact absurd (congrArg Prod.fst hpushed) hinvalid
      · simp only [hd, hr, Bool.not_false, if_true]
        exact ⟨rfl, rfl, rfl⟩

end Rejected

/-- **A rejected free install.**  A call that fails leaves no trace exactly when it stores
nothing, or when the caller's information is found and the request succeeds or there is nothing
but the task to take back. -/
theorem rejected_free_install_leaves_no_trace (env : Env) (s : DistributedSchedService)
    (want : Want) (callerUid requestCode : Int) (accessToken : Nat)
    (callback : Option RemoteObject) :
    FreeInstallLeavesNoTrace env s want callerUid requestCode accessToken callback ↔
      InstallRejectedCleanly env s.dmsCallbackTask want callerUid requestCode accessToken
        callback := by
  have hinvalid : invalidParametersErr ≠ errOk := by decide
  unfold FreeInstallLeavesNoTrace InstallRejectedCleanly
  by_cases hstores : ∃ localDeviceId, StoresTask env s.dmsCallbackTask want callback localDeviceId
  · obtain ⟨localDeviceId, h⟩ := hstores
    -- the id that is generated changes none of the tables
    have hleft : ¬ s.dmsCallbackTask.SameTables (s.storeTask want callback).dmsCallbackTask :=
      fun hs => DmsCallbackTask.not_sameTables_stored (t := s.dmsCallbackTask.generateTaskId.2) hs
    have hpopped : s.dmsCallbackTask.SameTables
        ((s.storeTask want callback).dmsCallbackTask.popCallback
          s.dmsCallbackTask.currTaskId).2 ↔ _ :=
      DmsCallbackTask.sameTables_pop_stored (t := s.dmsCallbackTask.generateTaskId.2) h.taskId
        h.newTask
    have honly : ∀ l, StoresTask env s.dmsCallbackTask want callback l → l = localDeviceId :=
      fun l hl => Option.some.inj (hl.device.symm.trans h.device)
    rw [startRemoteFreeInstall_stored h]
    cases hc : localCallerInfo env callerUid callerTypeHarmony localDeviceId accessToken with
    | none =>
        refine iff_of_false (fun hs => hleft (hs hinvalid)) fun hs => ?_
        obtain ⟨callerInfo, -, hcaller, -⟩ := hs localDeviceId h
        cases hc.symm.trans hcaller
    | some callerInfo =>
        cases ha : DistributedSchedPermission.getAccountInfo env want.element.deviceId
          callerInfo with
        | error ret =>
            refine iff_of_false (fun hs => hleft ?_) fun hs => ?_
            · simp only [ha] at hs
              exact hs hinvalid
            · obtain ⟨callerInfo', accountInfo, hcaller, haccount, -⟩ := hs localDeviceId h
              cases hc.symm.trans hcaller
              cases ha.symm.trans haccount
        | ok accountInfo =>
            simp only [ha]
            constructor
            · intro hs l hl
              cases honly l hl
              refine ⟨callerInfo, accountInfo, hc, ha, or_iff_not_imp_left.mpr fun hfail => ?_⟩
              simp only [ne_eq, hfail, not_false_eq_true, if_true, true_implies] at hs
              exact hpopped.mp hs
            · intro hs
              obtain ⟨callerInfo', accountInfo', hcaller, haccount, hlast⟩ := hs localDeviceId h
              cases hc.symm.trans hcaller
              cases ha.symm.trans haccount
              obtain hok | hclean := hlast
              · simp only [hok, ne_eq, not_true_eq_false, if_false, false_implies]
              · split
                · exact fun _ => hpopped.mpr hclean
                · rename_i hok
                  exact fun hfail => absurd hfail hok
  · rw [not_exists] at hstores
    exact iff_of_true (fun _ => sameTables_of_not_stores hstores)
      fun l hl => absurd hl (hstores l)

/-- **A task that stays.**  The caller's account information is not found after the task has been
stored: the task is left, with its timeout. -/
theorem failed_account_leaves_task :
    ¬ FreeInstallLeavesNoTrace
      { localDeviceId := some "a", checkSystemAbility := fun _ => true, bundleManager := true
        activeOsAccountIds := some [100], getBundlesForUid := fun _ => some ["x"] }
      {} { element := { deviceId := "b" } } 20010001 1 5 (some 7) := by
  intro h
  have hmap := (h (by decide)).1
  have hin := congrArg (fun m : Map Int CallbackTaskItem => m[(1 : Int)]?) hmap
  cases hin

end DistributedSched

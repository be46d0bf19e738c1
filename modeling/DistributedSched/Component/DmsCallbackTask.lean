import DistributedSched.Base.Env
import DistributedSched.Base.EventHandler
import DistributedSched.Library.TreeWalk

/-!
# Component — DmsCallbackTask

The table of free-install tasks on the source device.  Each function is one `callbackMapMutex_`
block (`generateTaskId`: one `taskMutex_` block).
-/

namespace DistributedSched

inductive LaunchType where
  | freeInstallStart
  | freeInstallContinue
deriving DecidableEq

structure CallbackTaskItem where
  callback : Option RemoteObject := none
  taskId : Int := -1
  launchType : LaunchType := .freeInstallStart
  deviceId : String := ""
  want : Want := {}
deriving DecidableEq

/-- The state after `Init`: `dmsCallbackHandler_` is there. -/
structure DmsCallbackTask where
  dmsCallbackHandler : EventHandler Int := {}
  currTaskId : Int := 1
  callbackMap : Map Int CallbackTaskItem := ∅
  continuationMissionMap : Map Int Int := ∅

/-- `++` of an atomic `int64_t`. -/
def incInt64 (i : Int) : Int := Int.bmod (i + 1) (2 ^ 64)

/-- `DistributedSchedService::NotifyFreeInstallResult`: the result goes to the item's callback.
An item that was not found has none. -/
def notifyFreeInstallResult (env : Env) (item : CallbackTaskItem) (resultCode : Int) :
    Int × List Effect :=
  match item.callback with
  | none => (invalidRemoteParametersErr, [])
  | some callback =>
    if !env.parcelWrites then (invalidRemoteParametersErr, [])
    else (env.sendRequest, [.freeInstallDone callback resultCode item.want])

/-- When the parcel is written, the result is sent to the callback that is there. -/
theorem notifyFreeInstallResult_effects {env : Env} (hw : env.parcelWrites = true)
    (item : CallbackTaskItem) (resultCode : Int) :
    (notifyFreeInstallResult env item resultCode).2 =
      (item.callback.map fun callback =>
        Effect.freeInstallDone callback resultCode item.want).toList := by
  unfold notifyFreeInstallResult
  cases item.callback with
  | none => rfl
  | some callback => simp [hw]

namespace DmsCallbackTask

def callbackDelayTime : Int := 30000

def generateTaskId (t : DmsCallbackTask) : Int × DmsCallbackTask :=
  let next := incInt64 t.currTaskId
  (t.currTaskId, { t with currTaskId := if next ≤ 0 then 1 else next })

def pushCallback (t : DmsCallbackTask) (sent : Bool) (taskId : Int)
    (callback : Option RemoteObject) (deviceId : String) (launchType : LaunchType) (want : Want) :
    Int × DmsCallbackTask :=
  if taskId ≤ 0 then (invalidParametersErr, t)
  else if launchType = .freeInstallStart ∧ callback = none then (invalidParametersErr, t)
  else if t.callbackMap.contains taskId then (invalidParametersErr, t)
  else if !sent then (invalidParametersErr, t)
  else
    (errOk, { t with
      dmsCallbackHandler := t.dmsCallbackHandler.sendEvent sent taskId 0 callbackDelayTime
      callbackMap := t.callbackMap.insertIfNew taskId
        { callback := callback, taskId := taskId, launchType := launchType,
          deviceId := deviceId, want := want } })

/-- The item, or a default one that has no callback. -/
def popCallback (t : DmsCallbackTask) (taskId : Int) : CallbackTaskItem × DmsCallbackTask :=
  match t.callbackMap[taskId]? with
  | none => ({}, t)
  | some item =>
    (item, { t with
      callbackMap := t.callbackMap.erase taskId
      dmsCallbackHandler := t.dmsCallbackHandler.removeEvent taskId })

def popContinuationMissionMap (t : DmsCallbackTask) (taskId : Int) : DmsCallbackTask :=
  { t with continuationMissionMap := t.continuationMissionMap.erase taskId }

/-- An unknown task is answered by an error code. -/
def getContinuaionMissionId (t : DmsCallbackTask) (taskId : Int) : Int :=
  if taskId ≤ 0 then invalidParametersErr
  else t.continuationMissionMap[taskId]?.getD invalidParametersErr

def setContinuationMissionMap (t : DmsCallbackTask) (taskId missionId : Int) : DmsCallbackTask :=
  if taskId ≤ 0 ∨ missionId ≤ 0 then t
  else { t with
    continuationMissionMap := t.continuationMissionMap.insertIfNew taskId missionId }

/-- An unknown task reads as `FREEINSTALL_START`. -/
def getLaunchType (t : DmsCallbackTask) (taskId : Int) : LaunchType :=
  if taskId ≤ 0 then .freeInstallStart
  else match t.callbackMap[taskId]? with
    | none => .freeInstallStart
    | some item => item.launchType

/-- `NotifyDeviceOffline`: every task of the device loses its timeout event, is answered
`DEVICE_OFFLINE_ERR` and is erased. -/
def notifyDeviceOffline (env : Env) (t : DmsCallbackTask) (deviceId : String) :
    DmsCallbackTask × List Effect :=
  let r := t.callbackMap.walk (fun (acc : EventHandler Int × List Effect) _ item =>
    if item.deviceId = deviceId then
      ((acc.1.removeEvent item.taskId,
        acc.2 ++ (notifyFreeInstallResult env item deviceOfflineErr).2), none)
    else (acc, some item)) (t.dmsCallbackHandler, [])
  ({ t with dmsCallbackHandler := r.1.1, callbackMap := r.2 }, r.1.2)

theorem mem_notifyDeviceOffline {env : Env} {t : DmsCallbackTask} {deviceId : String} :
    ∀ e ∈ (notifyDeviceOffline env t deviceId).2,
      ∃ callback want, e = .freeInstallDone callback deviceOfflineErr want := by
  refine Std.ExtTreeMap.walk_acc (Q := fun acc : EventHandler Int × List Effect => ∀ e ∈ acc.2,
      ∃ callback want, e = .freeInstallDone callback deviceOfflineErr want)
    (fun e he => nomatch he) fun acc taskId item _ ih e he => ?_
  split at he
  · rcases List.mem_append.mp he with he | he
    · exact ih e he
    · unfold notifyFreeInstallResult at he
      split at he
      · cases he
      · split at he
        · cases he
        · obtain rfl := List.mem_singleton.mp he
          exact ⟨_, _, rfl⟩
  · exact ih e he

/-! ### What each function does -/

section functions

variable {t : DmsCallbackTask} {taskId : Int}

theorem generateTaskId_eq (h₀ : 0 < t.currTaskId) (h : t.currTaskId < 2 ^ 63 - 1) :
    t.generateTaskId = (t.currTaskId, { t with currTaskId := t.currTaskId + 1 }) := by
  have hinc : incInt64 t.currTaskId = t.currTaskId + 1 :=
    Int.bmod_eq_of_le (by omega) (by omega)
  rw [generateTaskId]
  simp only [hinc]
  rw [if_neg (by omega)]

/-- A push fails and changes nothing, or it had a valid id with no entry. -/
theorem pushCallback_cases (t : DmsCallbackTask) (sent : Bool) (taskId : Int)
    (callback : Option RemoteObject) (deviceId : String) (launchType : LaunchType) (want : Want) :
    t.pushCallback sent taskId callback deviceId launchType want = (invalidParametersErr, t) ∨
      0 < taskId ∧ (launchType = .freeInstallStart → callback ≠ none) ∧
        t.callbackMap[taskId]? = none ∧
        t.pushCallback sent taskId callback deviceId launchType want = (errOk, { t with
          dmsCallbackHandler := t.dmsCallbackHandler.sendEvent true taskId 0 callbackDelayTime
          callbackMap := t.callbackMap.insert taskId
            { callback := callback, taskId := taskId, launchType := launchType,
              deviceId := deviceId, want := want } }) := by
  unfold pushCallback
  split
  · exact .inl rfl
  rename_i hpos
  split
  · exact .inl rfl
  rename_i hcallback
  split
  · exact .inl rfl
  rename_i hnew
  have hnew := Std.ExtTreeMap.not_contains_iff.mp hnew
  cases sent with
  | false => exact .inl rfl
  | true =>
      refine .inr ⟨Int.not_le.mp hpos, fun hl hc => hcallback ⟨hl, hc⟩, hnew, ?_⟩
      rw [Std.ExtTreeMap.insertIfNew_eq_insert hnew]
      rfl

theorem popCallback_fst (t : DmsCallbackTask) (taskId : Int) :
    (t.popCallback taskId).1 = t.callbackMap[taskId]?.getD {} := by
  unfold popCallback
  split <;> simp [*]

theorem popCallback_getElem? (t : DmsCallbackTask) (taskId k : Int) :
    (t.popCallback taskId).2.callbackMap[k]? =
      if taskId = k then none else t.callbackMap[k]? := by
  unfold popCallback
  split
  · rename_i hn
    split
    · rename_i hk; exact hk ▸ hn
    · rfl
  · simp [Std.ExtTreeMap.getElem?_erase]

@[simp] theorem popCallback_continuationMissionMap (t : DmsCallbackTask) (taskId : Int) :
    (t.popCallback taskId).2.continuationMissionMap = t.continuationMissionMap := by
  unfold popCallback
  split <;> rfl

@[simp] theorem popCallback_currTaskId (t : DmsCallbackTask) (taskId : Int) :
    (t.popCallback taskId).2.currTaskId = t.currTaskId := by
  unfold popCallback
  split <;> rfl

/-- A task that is popped loses its timeout event. -/
theorem armed_popCallback {k : Int} (h : (t.popCallback taskId).2.dmsCallbackHandler.Armed k) :
    t.dmsCallbackHandler.Armed k ∧
      (t.callbackMap[taskId]? ≠ none → toUint32 taskId ≠ toUint32 k) := by
  unfold popCallback at h
  split at h
  · rename_i hn
    exact ⟨h, fun hs => absurd hn hs⟩
  · obtain ⟨ha, hne⟩ := (EventHandler.armed_removeEvent ..).mp h
    exact ⟨ha, fun _ => hne⟩

theorem getLaunchType_continue (h : t.getLaunchType taskId = .freeInstallContinue) :
    ∃ item, t.callbackMap[taskId]? = some item ∧ item.launchType = .freeInstallContinue := by
  unfold getLaunchType at h
  split at h
  · cases h
  split at h
  · cases h
  · exact ⟨_, ‹_›, h⟩

theorem notifyDeviceOffline_getElem? (env : Env) (t : DmsCallbackTask) (deviceId : String)
    (taskId : Int) :
    (notifyDeviceOffline env t deviceId).1.callbackMap[taskId]? =
      t.callbackMap[taskId]?.filter fun item => item.deviceId ≠ deviceId := by
  refine (Std.ExtTreeMap.walk_getElem? (g := fun _ item =>
    if item.deviceId = deviceId then none else some item) (fun s k v => ?_) _ _ _).trans ?_
  · split <;> rfl
  · cases t.callbackMap[taskId]? with
    | none => rfl
    | some item => simp only [Option.bind_some, Option.filter]; split <;> simp [*]

/-- A push whose event is not sent is refused. -/
theorem pushCallback_unsent (t : DmsCallbackTask) (taskId : Int) (callback : Option RemoteObject)
    (deviceId : String) (launchType : LaunchType) (want : Want) :
    t.pushCallback false taskId callback deviceId launchType want = (invalidParametersErr, t) := by
  unfold pushCallback
  simp only [Bool.not_false, if_true, ite_self]

/-- A push under a new id is accepted when its event is sent. -/
theorem pushCallback_stored {callback : Option RemoteObject} {launchType : LaunchType}
    (deviceId : String) (want : Want) (hpos : 0 < taskId)
    (hcallback : launchType = .freeInstallStart → callback ≠ none)
    (hn : t.callbackMap[taskId]? = none) :
    t.pushCallback true taskId callback deviceId launchType want = (errOk, { t with
      dmsCallbackHandler := t.dmsCallbackHandler.sendEvent true taskId 0 callbackDelayTime
      callbackMap := t.callbackMap.insert taskId
        { callback := callback, taskId := taskId, launchType := launchType
          deviceId := deviceId, want := want } }) := by
  have hcontains : t.callbackMap.contains taskId = false :=
    Std.ExtTreeMap.contains_eq_false_iff.mpr hn
  unfold pushCallback
  rw [if_neg (Int.not_le.mpr hpos), if_neg fun h => hcallback h.1 h.2, hcontains,
    Std.ExtTreeMap.insertIfNew_eq_insert hn]
  rfl

/-- A task that keeps its timeout event is not one of the device. -/
theorem armed_notifyDeviceOffline {env : Env} {deviceId : String} {k : Int}
    (hid : ∀ (taskId : Int) (item : CallbackTaskItem), t.callbackMap[taskId]? = some item →
      item.taskId = taskId)
    (h : (notifyDeviceOffline env t deviceId).1.dmsCallbackHandler.Armed k) :
    t.dmsCallbackHandler.Armed k ∧
      (notifyDeviceOffline env t deviceId).1.callbackMap[k]? = t.callbackMap[k]? := by
  revert h
  refine Std.ExtTreeMap.walk_induction
    (P := fun (acc : EventHandler Int × List Effect) (m : Map Int CallbackTaskItem) =>
      acc.1.Armed k → t.dmsCallbackHandler.Armed k ∧ m[k]? = t.callbackMap[k]?)
    (fun ha => ⟨ha, rfl⟩) fun acc m taskId item hk hk' ih ha => ?_
  split at ha
  · rename_i hd
    obtain ⟨ha, hne⟩ := (EventHandler.armed_removeEvent ..).mp ha
    rw [hid taskId item hk] at hne
    refine ⟨(ih ha).1, ?_⟩
    rw [Std.ExtTreeMap.getElem?_put_of_ne _ fun he => hne (congrArg _ he), (ih ha).2]
  · rename_i hd
    refine ⟨(ih ha).1, ?_⟩
    by_cases he : taskId = k
    · subst he
      rw [if_neg hd, Std.ExtTreeMap.getElem?_put_self, hk]
    · rw [Std.ExtTreeMap.getElem?_put_of_ne _ he, (ih ha).2]

end functions

/-- `DmsCallbackHandler::ProcessEvent`: the task the timeout callback is called with. -/
def processEvent (eventId : Nat) : Option Int :=
  if (eventId : Int) ≤ 0 then none else some eventId

end DmsCallbackTask

end DistributedSched

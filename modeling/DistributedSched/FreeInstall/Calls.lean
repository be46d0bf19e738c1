import DistributedSched.Library.Runs
import DistributedSched.Service.Continuation
import DistributedSched.Service.Offline

/-!
# FreeInstall — calls in progress

Free-install tasks are started by `StartRemoteFreeInstall` and answered by a result of the
remote device, by their timeout, by a request that fails and by their device going offline.
These calls run side by side, and each is a sequence of blocks that hold `taskMutex_` or
`callbackMapMutex_`, or no lock (`FreeInstallCall`).

* `FreeInstallCall.block`: the block that a call executes next.
* `startRemoteFreeInstall_blocks`, `notifyCompleteFreeInstallFromRemote_blocks`: the blocks of
  one call, with nothing in between, are the service's function.
* `FreeInstallStep`: a step of the system is a new call, a block of one that is in progress, a
  timeout event that is taken out of the queue, or a device that goes offline.
* `FreeInstallStep.apply_start` and the lemmas after it: what is known of a step that was made.
-/

namespace DistributedSched

open DistributedSchedService

/-- The arguments of `StartRemoteFreeInstall`, with the local id it has found. -/
structure FreeInstallRequest where
  want : Want
  callerUid : Int
  requestCode : Int
  accessToken : Nat
  callback : Option RemoteObject
  localDeviceId : String

/-- A call in progress, by the block it executes next. -/
inductive FreeInstallCall where
  /-- `StartRemoteFreeInstall` has its task id -/
  | push (taskId : Int) (request : FreeInstallRequest)
  | setMission (taskId : Int) (request : FreeInstallRequest)
  | send (taskId : Int) (request : FreeInstallRequest)
  /-- the request to the remote device has failed -/
  | fail (taskId result : Int)
  /-- `NotifyCompleteFreeInstallFromRemote` is called -/
  | getLaunchType (taskId resultCode : Int)
  | pop (taskId resultCode : Int) (launchType : LaunchType)
  /-- `NotifyFreeInstallResult` is called -/
  | deliver (item : CallbackTaskItem) (resultCode : Int)
  | getMission (taskId : Int)
  | notifyContinuation (taskId missionId : Int)
  | popMission (taskId : Int)

/-- What a block leaves behind: the service, the call at its next block, the item that was
pushed, the effects, and the results among them with the task they are sent for. -/
structure FreeInstallBlock where
  service : DistributedSchedService
  next : Option FreeInstallCall := none
  pushed : Option CallbackTaskItem := none
  effects : List Effect := []
  answers : List (Int × Effect) := []

namespace FreeInstallCall

/-- The request to the remote device, with its answer when it is made. -/
def sendRequest (env : Env) (taskId : Int) (request : FreeInstallRequest) :
    Option (Int × Effect) :=
  let deviceId := request.want.element.deviceId
  match localCallerInfo env request.callerUid callerTypeHarmony request.localDeviceId
      request.accessToken with
  | none => none
  | some callerInfo =>
    match DistributedSchedPermission.getAccountInfo env deviceId callerInfo with
    | .error _ => none
    | .ok accountInfo =>
      let call := RemoteCall.startFreeInstallFromRemote
        { want := request.want.setParam dmsSrcNetworkId (.string request.localDeviceId)
          requestCode := request.requestCode, callerInfo := callerInfo
          accountInfo := accountInfo } taskId
      some (env.remoteResult call, .rpc deviceId call)

/-- The next block of a call. -/
def block (env : Env) (s : DistributedSchedService) : FreeInstallCall → FreeInstallBlock
  | push taskId request =>
    let launchType := launchTypeOf request.want
    let r := s.dmsCallbackTask.pushCallback env.sendEvent taskId request.callback
      request.want.element.deviceId launchType request.want
    if r.1 ≠ errOk then { service := { s with dmsCallbackTask := r.2 } }
    else
      { service := { s with dmsCallbackTask := r.2 }
        next := some (if launchType = .freeInstallContinue then setMission taskId request
          else send taskId request)
        pushed := r.2.callbackMap[taskId]? }
  | setMission taskId request =>
    let task := s.dmsCallbackTask.setContinuationMissionMap taskId
      (request.want.getIntParam "sessionId" (-1))
    { service := { s with dmsCallbackTask := task }, next := some (send taskId request) }
  | send taskId request =>
    match sendRequest env taskId request with
    | none => { service := s }
    | some (result, e) =>
      { service := s, effects := [e]
        next := if result ≠ errOk then some (fail taskId result) else none }
  | fail taskId result =>
    let p := s.dmsCallbackTask.popCallback taskId
    { service := { s with dmsCallbackTask := p.2 }, next := some (deliver p.1 result) }
  | getLaunchType taskId resultCode =>
    { service := s, next := some (pop taskId resultCode (s.dmsCallbackTask.getLaunchType taskId)) }
  | pop taskId resultCode launchType =>
    let p := s.dmsCallbackTask.popCallback taskId
    { service := { s with dmsCallbackTask := p.2 }
      next := some (match launchType with
        | .freeInstallStart => deliver p.1 resultCode
        | .freeInstallContinue =>
          if resultCode = errOk then popMission taskId else getMission taskId) }
  | deliver item resultCode =>
    let effects := (notifyFreeInstallResult env item resultCode).2
    { service := s, effects := effects, answers := effects.map fun e => (item.taskId, e) }
  | getMission taskId =>
    { service := s
      next := some (notifyContinuation taskId
        (s.dmsCallbackTask.getContinuaionMissionId taskId)) }
  | notifyContinuation taskId missionId =>
    let r := s.notifyContinuationCallbackResult env missionId continueFreeInstallFailed
    { service := r.1, effects := r.2, next := some (popMission taskId) }
  | popMission taskId =>
    let task := s.dmsCallbackTask.popContinuationMissionMap taskId
    { service := { s with dmsCallbackTask := task } }

/-- A call runs by itself to its end, in at most `n` blocks. -/
def alone (env : Env) :
    Nat → DistributedSchedService → FreeInstallCall → Option (DistributedSchedService × List Effect)
  | 0, _, _ => none
  | n + 1, s, call =>
    let b := call.block env s
    match b.next with
    | none => some (b.service, b.effects)
    | some call' => (alone env n b.service call').map fun r => (r.1, b.effects ++ r.2)

end FreeInstallCall

/-- `StartRemoteFreeInstall` up to its task id. -/
def freeInstallStart (env : Env) (s : DistributedSchedService) (want : Want)
    (callerUid requestCode : Int) (accessToken : Nat) (callback : Option RemoteObject) :
    Option (FreeInstallCall × DistributedSchedService) :=
  let deviceId := want.element.deviceId
  match env.checkedLocalId deviceId with
  | none => none
  | some localDeviceId =>
    if !env.getRemoteDms deviceId then none
    else
      let g := s.dmsCallbackTask.generateTaskId
      some (.push g.1 ⟨want, callerUid, requestCode, accessToken, callback, localDeviceId⟩,
        { s with dmsCallbackTask := g.2 })

/-! ### One call by itself -/

section alone

variable (env : Env) (s : DistributedSchedService)

theorem failFreeInstall_blocks (taskId result : Int) :
    FreeInstallCall.alone env 2 s (.fail taskId result) =
      some (s.failFreeInstall env taskId result) := rfl

/-- The blocks of `NotifyCompleteFreeInstallFromRemote`. -/
theorem notifyCompleteFreeInstallFromRemote_blocks (taskId resultCode : Int) :
    FreeInstallCall.alone env 5 s (.getLaunchType taskId resultCode) =
      some ((s.notifyCompleteFreeInstallFromRemote env taskId resultCode).service,
        (s.notifyCompleteFreeInstallFromRemote env taskId resultCode).effects) := by
  rw [FreeInstallCall.alone, FreeInstallCall.block, notifyCompleteFreeInstallFromRemote]
  simp only
  generalize s.dmsCallbackTask.getLaunchType taskId = launchType
  cases launchType with
  | freeInstallStart => rfl
  | freeInstallContinue =>
      rw [FreeInstallCall.alone]
      by_cases hr : resultCode = errOk
      · simp only [FreeInstallCall.block, hr, if_true]
        rfl
      · simp only [FreeInstallCall.block, hr, if_false, FreeInstallCall.alone, Option.map_some,
          List.nil_append, List.append_nil]
        rfl

/-- The blocks of `StartRemoteFreeInstall` after its task is pushed. -/
def afterPush (launchType : LaunchType) (taskId : Int) (request : FreeInstallRequest) :
    DistributedSchedService × List Effect :=
  let s := { s with dmsCallbackTask := if launchType = .freeInstallContinue then
      s.dmsCallbackTask.setContinuationMissionMap taskId (request.want.getIntParam "sessionId" (-1))
    else s.dmsCallbackTask }
  match FreeInstallCall.sendRequest env taskId request with
  | none => (s, [])
  | some (result, e) =>
    if result ≠ errOk then
      ((s.failFreeInstall env taskId result).1, e :: (s.failFreeInstall env taskId result).2)
    else (s, [e])

theorem send_blocks (taskId : Int) (request : FreeInstallRequest) (n : Nat) :
    FreeInstallCall.alone env (n + 3) s (.send taskId request) =
      some (afterPush env s .freeInstallStart taskId request) := by
  rw [FreeInstallCall.alone]
  simp only [FreeInstallCall.block, afterPush, reduceCtorEq, if_false]
  cases FreeInstallCall.sendRequest env taskId request with
  | none => rfl
  | some r =>
      obtain ⟨result, e⟩ := r
      by_cases hr : result = errOk
      · simp only [hr, ne_eq, not_true_eq_false, if_false]
      · simp only [hr, ne_eq, not_false_eq_true, if_true]
        rfl

theorem afterPush_blocks (launchType : LaunchType) (taskId : Int) (request : FreeInstallRequest) :
    FreeInstallCall.alone env 4 s (if launchType = .freeInstallContinue then
        .setMission taskId request else .send taskId request) =
      some (afterPush env s launchType taskId request) := by
  cases launchType with
  | freeInstallStart => exact send_blocks env s taskId request 1
  | freeInstallContinue =>
      rw [if_pos rfl, FreeInstallCall.alone]
      simp only [FreeInstallCall.block, send_blocks, Option.map_some, List.nil_append]
      rfl

variable {env s} {want : Want} {callerUid requestCode : Int} {accessToken : Nat}
  {callback : Option RemoteObject}

/-- The blocks of `StartRemoteFreeInstall`. -/
theorem startRemoteFreeInstall_blocks {call : FreeInstallCall} {s' : DistributedSchedService}
    (h : freeInstallStart env s want callerUid requestCode accessToken callback =
      some (call, s')) :
    let o := s.startRemoteFreeInstall env want callerUid requestCode accessToken callback
    FreeInstallCall.alone env 5 s' call = some (o.service, o.effects) := by
  simp only [freeInstallStart] at h
  split at h
  · cases h
  rename_i localDeviceId hl
  split at h
  · cases h
  rename_i hr
  cases h
  simp only [startRemoteFreeInstall, hl, hr, Bool.false_eq_true, if_false]
  generalize s.dmsCallbackTask.generateTaskId = g
  obtain ⟨taskId, task⟩ := g
  rw [FreeInstallCall.alone]
  simp only [FreeInstallCall.block]
  generalize task.pushCallback env.sendEvent taskId callback want.element.deviceId
    (launchTypeOf want) want = r
  obtain ⟨pushed, task⟩ := r
  by_cases hp : pushed = errOk
  · simp only [hp, ne_eq, not_true_eq_false, if_false, afterPush_blocks, Option.map_some,
      List.nil_append, afterPush, FreeInstallCall.sendRequest]
    generalize ({ s with dmsCallbackTask := if launchTypeOf want = .freeInstallContinue then
        task.setContinuationMissionMap taskId (want.getIntParam "sessionId" (-1))
      else task } : DistributedSchedService) = s'
    cases localCallerInfo env callerUid callerTypeHarmony localDeviceId accessToken with
    | none => rfl
    | some callerInfo =>
        simp only
        cases DistributedSchedPermission.getAccountInfo env want.element.deviceId callerInfo with
        | error ret => rfl
        | ok accountInfo =>
            simp only
            split <;> rfl
  · simp only [ne_eq, hp, not_false_eq_true, if_true]

/-- Without a task id `StartRemoteFreeInstall` does nothing. -/
theorem startRemoteFreeInstall_refused
    (h : freeInstallStart env s want callerUid requestCode accessToken callback = none) :
    let o := s.startRemoteFreeInstall env want callerUid requestCode accessToken callback
    o.service = s ∧ o.effects = [] := by
  simp only [freeInstallStart] at h
  unfold startRemoteFreeInstall
  split at h
  · rename_i hl
    simp only [hl, and_self]
  · rename_i hl
    split at h
    · rename_i hr
      simp only [hl, hr, if_true, and_self]
    · cases h

end alone

/-! ### Calls side by side -/

structure FreeInstalls where
  service : DistributedSchedService := {}
  calls : Map Nat FreeInstallCall := ∅
  /-- the number of task ids that were generated -/
  generated : Nat := 0
  /-- the items whose push succeeded -/
  pushed : List CallbackTaskItem := []
  /-- the results that were sent, each with the task it was sent for -/
  answers : List (Int × Effect) := []

inductive FreeInstallStep where
  | startRemoteFreeInstall (i : Nat) (env : Env) (want : Want) (callerUid requestCode : Int)
      (accessToken : Nat) (callback : Option RemoteObject)
  | notifyCompleteFreeInstallFromRemote (i : Nat) (taskId resultCode : Int)
  /-- the pending event at `k` is handed to the handler; its result code is
  `FREE_INSTALL_TIMEOUT` -/
  | timeout (i k : Nat) (resultCode : Int)
  | deviceOffline (env : Env) (deviceId : String)
  /-- the next block of a call -/
  | block (i : Nat) (env : Env)
  /-- anything else that the service does -/
  | other (service : DistributedSchedService)

/-- The results that a device going offline sends, each with its task. -/
def offlineAnswers (env : Env) (t : DmsCallbackTask) (deviceId : String) : List (Int × Effect) :=
  t.callbackMap.toList.flatMap fun e =>
    if e.2.deviceId = deviceId then
      (notifyFreeInstallResult env e.2 deviceOfflineErr).2.map fun effect => (e.2.taskId, effect)
    else []

/-- They are what `NotifyDeviceOffline` does. -/
theorem offlineAnswers_effects (env : Env) (t : DmsCallbackTask) (deviceId : String) :
    (offlineAnswers env t deviceId).map Prod.snd =
      (DmsCallbackTask.notifyDeviceOffline env t deviceId).2 := by
  unfold offlineAnswers DmsCallbackTask.notifyDeviceOffline
  rw [List.map_flatMap]
  refine Eq.trans ?_ (Std.ExtTreeMap.walk_append (l := Prod.snd) (g := fun _ item =>
    if item.deviceId = deviceId then (notifyFreeInstallResult env item deviceOfflineErr).2 else [])
    (fun acc taskId item => ?_) (t.dmsCallbackHandler, []) t.callbackMap).symm
  · rw [List.nil_append]
    refine List.flatMap_congr fun e _ => ?_
    split
    · exact List.map_map.trans (List.map_id _)
    · rfl
  · split <;> simp

namespace FreeInstallStep

def apply (s : FreeInstalls) : FreeInstallStep → Option FreeInstalls
  | startRemoteFreeInstall i env want callerUid requestCode accessToken callback =>
    if s.calls.contains i then none
    else match freeInstallStart env s.service want callerUid requestCode accessToken callback with
      | none => some s
      | some (call, service) =>
        some { s with
          service := service, calls := s.calls.put i (some call), generated := s.generated + 1 }
  | notifyCompleteFreeInstallFromRemote i taskId resultCode =>
    if s.calls.contains i then none
    else some { s with calls := s.calls.put i (some (.getLaunchType taskId resultCode)) }
  | timeout i k resultCode =>
    let task := s.service.dmsCallbackTask
    if s.calls.contains i then none
    else match task.dmsCallbackHandler.pending[k]? with
      | none => none
      | some event =>
        let task := { task with dmsCallbackHandler := task.dmsCallbackHandler.take k }
        let call := (DmsCallbackTask.processEvent event.innerEventId).map fun taskId =>
          FreeInstallCall.getLaunchType taskId resultCode
        some { s with
          service := { s.service with dmsCallbackTask := task }, calls := s.calls.put i call }
  | deviceOffline env deviceId =>
    some { s with
      service := (s.service.processFreeInstallOffline env deviceId).1
      answers := s.answers ++ offlineAnswers env s.service.dmsCallbackTask deviceId }
  | block i env =>
    match s.calls[i]? with
    | none => none
    | some call =>
      let b := call.block env s.service
      some { s with
        service := b.service, calls := s.calls.put i b.next
        pushed := s.pushed ++ b.pushed.toList, answers := s.answers ++ b.answers }
  | other service =>
    some { s with service := { service with dmsCallbackTask := s.service.dmsCallbackTask } }

variable {s s' : FreeInstalls} {i : Nat}

/-- What a call of `StartRemoteFreeInstall` does: nothing when it is refused, or it generates a
task id. -/
theorem apply_start {env : Env} {want : Want} {callerUid requestCode : Int} {accessToken : Nat}
    {callback : Option RemoteObject}
    (h : apply s (startRemoteFreeInstall i env want callerUid requestCode accessToken callback) =
      some s') :
    s' = s ∨ s.calls[i]? = none ∧ ∃ request : FreeInstallRequest, s' =
      { s with
        service :=
          { s.service with dmsCallbackTask := s.service.dmsCallbackTask.generateTaskId.2 }
        calls := s.calls.put i (some (.push s.service.dmsCallbackTask.generateTaskId.1 request))
        generated := s.generated + 1 } := by
  simp only [apply] at h
  split at h
  · cases h
  rename_i hn
  split at h
  · exact .inl (Option.some.inj h).symm
  rename_i call service hstart
  simp only [freeInstallStart] at hstart
  split at hstart
  · cases hstart
  split at hstart
  · cases hstart
  cases hstart
  exact .inr ⟨Std.ExtTreeMap.not_contains_iff.mp hn, _, (Option.some.inj h).symm⟩

theorem apply_notify {taskId resultCode : Int}
    (h : apply s (notifyCompleteFreeInstallFromRemote i taskId resultCode) = some s') :
    s.calls[i]? = none ∧
      s' = { s with calls := s.calls.put i (some (.getLaunchType taskId resultCode)) } := by
  simp only [apply] at h
  split at h
  · cases h
  rename_i hn
  exact ⟨Std.ExtTreeMap.not_contains_iff.mp hn, (Option.some.inj h).symm⟩

/-- An event that is handed to its handler begins a call, or none. -/
theorem apply_timeout {k : Nat} {resultCode : Int}
    (h : apply s (timeout i k resultCode) = some s') :
    s.calls[i]? = none ∧ ∃ taskId : Option Int, s' =
      { s with
        service := { s.service with dmsCallbackTask := { s.service.dmsCallbackTask with
          dmsCallbackHandler := s.service.dmsCallbackTask.dmsCallbackHandler.take k } }
        calls := s.calls.put i (taskId.map fun taskId => .getLaunchType taskId resultCode) } := by
  simp only [apply] at h
  split at h
  · cases h
  rename_i hn
  split at h
  · cases h
  exact ⟨Std.ExtTreeMap.not_contains_iff.mp hn, _, (Option.some.inj h).symm⟩

theorem apply_block {env : Env} (h : apply s (block i env) = some s') :
    ∃ call : FreeInstallCall, s.calls[i]? = some call ∧ s' =
      { s with
        service := (call.block env s.service).service
        calls := s.calls.put i (call.block env s.service).next
        pushed := s.pushed ++ (call.block env s.service).pushed.toList
        answers := s.answers ++ (call.block env s.service).answers } := by
  simp only [apply] at h
  split at h
  · cases h
  rename_i call hi
  exact ⟨call, hi, (Option.some.inj h).symm⟩

/-- Fewer than 2^32 task ids are generated, and the parcel of a result is written. -/
def Assumed (s : FreeInstalls) : FreeInstallStep → Prop
  | startRemoteFreeInstall .. => s.generated + 1 < 2 ^ 32
  | deviceOffline env _ => env.parcelWrites = true
  | block i env => ∀ item resultCode, s.calls[i]? = some (.deliver item resultCode) →
    env.parcelWrites = true
  | _ => True

end FreeInstallStep

end DistributedSched

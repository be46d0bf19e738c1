import DistributedSched.Library.Runs
import DistributedSched.Service.FromRemote

/-!
# Access — what a remote caller may have started

Five requests of another device make the ability manager start, connect or call an ability, or
hand it a result.  `Granted` is the policy for these calls: the caller's device and its
permission have been checked for the want that the call is made with.  A free install is
granted in two parts, the device when it is requested and the permission when it is finished.

* `RemoteStep`: requests of other devices, free installs that finish, and anything else the
  service does, in any order.
* `remote_starts_granted`: in every run every such call is granted; and a request, or a finished
  free install, that fails a check is answered with the code of that check, makes no call of the
  ability manager and leaves the service as it was.

That the ability manager finishes a free install with the want and the request code it was
given is its documented behaviour, and a hypothesis here (`HandsBack`).
-/

namespace DistributedSched

open DistributedSchedService DistributedSchedPermission

/-! ### The policy -/

/-- The calls that the policy is about. -/
def AmsCall.startsAbility : AmsCall → Bool
  | .startAbility .. | .connectAbility .. | .startAbilityByCall .. | .sendResultToAbility .. => true
  | _ => false

/-- The local id is there, the request is for it, and it comes from another device. -/
def DeviceChecked (env : Env) (destinationDeviceId sourceDeviceId : String) : Prop :=
  ∃ localDeviceId, env.localDeviceId = some localDeviceId ∧ localDeviceId ≠ "" ∧
    destinationDeviceId = localDeviceId ∧ sourceDeviceId ≠ "" ∧ sourceDeviceId ≠ localDeviceId

/-- A free install that the ability manager was asked for, with the environment of the
request. -/
structure Install where
  env : Env
  callback : DmsFreeInstallCallback

structure RemoteCallers where
  service : DistributedSchedService := {}
  installs : List Install := []

inductive RemoteStep where
  | request (env : Env) (call : RemoteCall)
  | installFinished (env : Env) (i : Nat) (want : Want) (requestCode resultCode : Int)
  /-- what the service does for others -/
  | other (service : DistributedSchedService)

/-- The calls a step may make, and what has been checked for them.  The caller info is the one
that the stub rebuilds. -/
inductive Granted (installs : List Install) : RemoteStep → AmsCall → Prop where
  | start {env : Env} {want : Want} {requestCode userId : Int} {forResult : Bool}
      {callerInfo : CallerInfo} {accountInfo : AccountInfo}
      (device : DeviceChecked env want.element.deviceId callerInfo.sourceDeviceId)
      (permission : checkDPermission env want callerInfo.ofStart accountInfo
        want.element.deviceId = errOk) :
      Granted installs
        (.request env (.startAbilityFromRemote want requestCode callerInfo accountInfo))
        (.startAbility want requestCode userId forResult)
  | sendResult {env : Env} {want : Want} {requestCode resultCode : Int}
      {callerInfo : CallerInfo} {accountInfo : AccountInfo}
      (device : DeviceChecked env (want.getStringParam dmsSrcNetworkId) callerInfo.sourceDeviceId)
      (permission : checkDPermission env (want.removeParam dmsSrcNetworkId)
        callerInfo.ofSendResult accountInfo (want.getStringParam dmsSrcNetworkId) = errOk) :
      Granted installs
        (.request env (.sendResultFromRemote want requestCode callerInfo accountInfo resultCode))
        (.sendResultToAbility requestCode resultCode (want.removeParam dmsSrcNetworkId))
  | connect {env : Env} {want : Want} {connect w : RemoteObject} {userId : Int}
      {callerInfo : CallerInfo} {accountInfo : AccountInfo}
      (device : DeviceChecked env want.element.deviceId callerInfo.sourceDeviceId)
      (permission : checkDPermission env want callerInfo.ofConnect accountInfo
        want.element.deviceId true = errOk) :
      Granted installs
        (.request env (.connectAbilityFromRemote want (some connect) callerInfo accountInfo))
        (.connectAbility want w userId)
  | startByCall {env : Env} {want : Want} {connect w : RemoteObject}
      {callerInfo : CallerInfo} {accountInfo : AccountInfo}
      (device : DeviceChecked env want.element.deviceId callerInfo.sourceDeviceId)
      (permission : checkGetCallerPermission env want callerInfo.ofStartByCall accountInfo
        want.element.deviceId = errOk) :
      Granted installs
        (.request env (.startAbilityByCallFromRemote want (some connect) callerInfo accountInfo))
        (.startAbilityByCall want w)
  | installed {env : Env} {i : Nat} {install : Install} {requestCode resultCode userId : Int}
      {forResult : Bool} {localDeviceId : String}
      (pending : installs[i]? = some install)
      (device : DeviceChecked install.env install.callback.info.want.element.deviceId
        install.callback.info.callerInfo.sourceDeviceId)
      (hl : env.localDeviceId = some localDeviceId)
      (permission : checkDPermission env install.callback.info.want
        install.callback.info.callerInfo install.callback.info.accountInfo localDeviceId = errOk) :
      Granted installs
        (.installFinished env i install.callback.info.want requestCode resultCode)
        (.startAbility (install.callback.info.want.removeFlags Want.flagInstallOnDemand)
          requestCode userId forResult)

/-! ### Steps -/

namespace RemoteStep

def apply (s : RemoteCallers) : RemoteStep → Option (RemoteCallers × List Effect)
  | request env call =>
    let r := s.service.onRemoteRequest env call
    some (⟨r.1.service, s.installs ++ (r.2.map fun callback => ⟨env, callback⟩).toList⟩,
      r.1.effects)
  | installFinished env i want requestCode resultCode =>
    match s.installs[i]? with
    | none => none
    | some install =>
      let o := s.service.onInstallFinished env install.callback want requestCode resultCode
      some ({ s with service := o.service }, o.effects)
  | other service => some ({ s with service := service }, [])

/-- The ability manager finishes a free install with the want and the request code that it was
given. -/
def HandsBack (s : RemoteCallers) : RemoteStep → Prop
  | installFinished _ i want requestCode _ => ∀ install, s.installs[i]? = some install →
    want = install.callback.info.want ∧ requestCode = install.callback.info.requestCode
  | _ => True

def run (s : RemoteCallers) (step : RemoteStep) : Option RemoteCallers :=
  (step.apply s).map Prod.fst

end RemoteStep

/-! ### Checks that fail -/

/-- The code of the first check that fails: of the device, or of the permission on it. -/
def firstRefusal (localDeviceId : Option String) (permission : String → Int) : Option Int :=
  match localDeviceId with
  | none => some invalidRemoteParametersErr
  | some localDeviceId =>
    if permission localDeviceId ≠ errOk then some (permission localDeviceId) else none

/-- The code of the first check of a request that fails: the stub's check of the calling uid,
a missing object, the device, the permission. -/
def RemoteCall.refusal (env : Env) (call : RemoteCall) : Option Int :=
  if hidHap ≤ env.callingUid then some dmsPermissionDenied
  else match call with
    | .startAbilityFromRemote want _ callerInfo accountInfo =>
      firstRefusal
        (env.checkedLocalIdFromRemote want.element.deviceId callerInfo.sourceDeviceId)
        (checkDPermission env want callerInfo.ofStart accountInfo)
    | .sendResultFromRemote want _ callerInfo accountInfo _ =>
      firstRefusal
        (env.checkedLocalIdFromRemote (want.getStringParam dmsSrcNetworkId)
          callerInfo.sourceDeviceId)
        (checkDPermission env (want.removeParam dmsSrcNetworkId) callerInfo.ofSendResult
          accountInfo)
    | .connectAbilityFromRemote want connect callerInfo accountInfo =>
      if connect.isNone then some invalidRemoteParametersErr
      else firstRefusal
        (env.checkedLocalIdFromRemote want.element.deviceId callerInfo.sourceDeviceId)
        (checkDPermission env want callerInfo.ofConnect accountInfo · true)
    | .startAbilityByCallFromRemote want connect callerInfo accountInfo =>
      if connect.isNone then some invalidRemoteParametersErr
      else firstRefusal
        (env.checkedLocalIdFromRemote want.element.deviceId callerInfo.sourceDeviceId)
        (checkGetCallerPermission env want callerInfo.ofStartByCall accountInfo)
    | .startFreeInstallFromRemote info _ =>
      firstRefusal
        (env.checkedLocalIdFromRemote info.want.element.deviceId info.callerInfo.sourceDeviceId)
        fun _ => errOk
    | _ => none

theorem firstRefusal_eq_some {localDeviceId : Option String} {permission : String → Int}
    {code : Int}
    (h : firstRefusal localDeviceId permission = some code) :
    localDeviceId = none ∧ code = invalidRemoteParametersErr ∨
      ∃ l, localDeviceId = some l ∧ permission l ≠ errOk ∧ code = permission l := by
  cases localDeviceId with
  | none => exact .inl ⟨rfl, (Option.some.inj h).symm⟩
  | some l =>
      rw [firstRefusal] at h
      split at h
      · rename_i hp
        exact .inr ⟨l, rfl, hp, (Option.some.inj h).symm⟩
      · cases h

section refused

variable {env : Env} {s : DistributedSchedService} {want : Want} {callerInfo : CallerInfo}
  {accountInfo : AccountInfo} {code : Int}

theorem startAbilityFromRemote_refused (requestCode : Int)
    (h : firstRefusal
      (env.checkedLocalIdFromRemote want.element.deviceId callerInfo.sourceDeviceId)
      (checkDPermission env want callerInfo accountInfo) = some code) :
    s.startAbilityFromRemote env want requestCode callerInfo accountInfo = ⟨code, s, []⟩ := by
  simp only [startAbilityFromRemote]
  rcases firstRefusal_eq_some h with ⟨hd, rfl⟩ | ⟨l, hd, hp, rfl⟩
  · rw [hd]
  · rw [hd, (Env.checkedLocalIdFromRemote_eq_some.mp hd).2.2.1]
    exact if_pos hp

theorem sendResultFromRemote_refused (requestCode resultCode : Int)
    (h : firstRefusal
      (env.checkedLocalIdFromRemote (want.getStringParam dmsSrcNetworkId)
        callerInfo.sourceDeviceId)
      (checkDPermission env (want.removeParam dmsSrcNetworkId) callerInfo accountInfo) =
        some code) :
    s.sendResultFromRemote env want requestCode callerInfo accountInfo resultCode =
      ⟨code, s, []⟩ := by
  simp only [sendResultFromRemote]
  rcases firstRefusal_eq_some h with ⟨hd, rfl⟩ | ⟨l, hd, hp, rfl⟩
  · rw [hd]
  · rw [hd, (Env.checkedLocalIdFromRemote_eq_some.mp hd).2.2.1]
    exact if_pos hp

theorem connectAbilityFromRemote_refused (connect : RemoteObject)
    (h : firstRefusal
      (env.checkedLocalIdFromRemote want.element.deviceId callerInfo.sourceDeviceId)
      (checkDPermission env want callerInfo accountInfo · true) = some code) :
    s.connectAbilityFromRemote env want (some connect) callerInfo accountInfo =
      ⟨code, s, []⟩ := by
  simp only [connectAbilityFromRemote]
  rcases firstRefusal_eq_some h with ⟨hd, rfl⟩ | ⟨l, hd, hp, rfl⟩
  · rw [hd]
  · rw [hd]
    exact if_pos hp

theorem startAbilityByCallFromRemote_refused (connect : RemoteObject)
    (h : firstRefusal
      (env.checkedLocalIdFromRemote want.element.deviceId callerInfo.sourceDeviceId)
      (checkGetCallerPermission env want callerInfo accountInfo) = some code) :
    s.startAbilityByCallFromRemote env want (some connect) callerInfo accountInfo =
      ⟨code, s, []⟩ := by
  simp only [startAbilityByCallFromRemote]
  rcases firstRefusal_eq_some h with ⟨hd, rfl⟩ | ⟨l, hd, hp, rfl⟩
  · rw [hd]
  · rw [hd]
    exact if_pos hp

theorem startFreeInstallFromRemote_refused {info : FreeInstallInfo} (taskId : Int)
    (h : firstRefusal
      (env.checkedLocalIdFromRemote info.want.element.deviceId info.callerInfo.sourceDeviceId)
      (fun _ => errOk) = some code) :
    s.startFreeInstallFromRemote env info taskId = (⟨code, s, []⟩, none) := by
  simp only [startFreeInstallFromRemote]
  rcases firstRefusal_eq_some h with ⟨hd, rfl⟩ | ⟨l, hd, hp, rfl⟩
  · rw [hd]
  · exact absurd rfl hp

/-- A request that fails a check is answered with its code, and does nothing. -/
theorem onRemoteRequest_refused {call : RemoteCall} (h : call.refusal env = some code) :
    s.onRemoteRequest env call = (⟨code, s, []⟩, none) := by
  unfold RemoteCall.refusal at h
  unfold onRemoteRequest
  by_cases hu : hidHap ≤ env.callingUid
  · rw [if_pos hu] at h ⊢
    rw [Option.some.inj h]
  rw [if_neg hu] at h ⊢
  cases call with
  | startAbilityFromRemote want requestCode callerInfo accountInfo =>
      exact congrArg (·, none)
        (startAbilityFromRemote_refused requestCode h)
  | sendResultFromRemote want requestCode callerInfo accountInfo resultCode =>
      exact congrArg (·, none) (sendResultFromRemote_refused requestCode resultCode h)
  | connectAbilityFromRemote want connect callerInfo accountInfo =>
      cases connect with
      | none => rw [← Option.some.inj h]; rfl
      | some c =>
          exact congrArg (·, none)
            (connectAbilityFromRemote_refused c h)
  | startAbilityByCallFromRemote want connect callerInfo accountInfo =>
      cases connect with
      | none => rw [← Option.some.inj h]; rfl
      | some c =>
          exact congrArg (·, none)
            (startAbilityByCallFromRemote_refused c h)
  | startFreeInstallFromRemote info taskId =>
      exact startFreeInstallFromRemote_refused taskId h
  | _ => cases h

end refused

/-! ### Requests that start nothing -/

/-- None of the calls of the policy is made. -/
def NoStart (es : List Effect) : Prop := ∀ call, Effect.ams call ∈ es → call.startsAbility = false

@[simp] theorem noStart_nil : NoStart [] := fun _ h => nomatch h

@[simp] theorem noStart_append {es es' : List Effect} :
    NoStart (es ++ es') ↔ NoStart es ∧ NoStart es' := by
  simp only [NoStart, List.mem_append, or_imp, forall_and]

theorem noStart_singleton {e : Effect} (h : ∀ call, e = .ams call → call.startsAbility = false) :
    NoStart [e] := fun call hc => h call (List.mem_singleton.mp hc).symm

section noStart

variable {env : Env} {s : DistributedSchedService}

@[simp] theorem noStart_report (connectInfo : ConnectInfo) (listener : Option RemoteObject)
    (connect : RemoteObject) (changeType : ChangeType) (componentType : ComponentType)
    (deviceType : DeviceType) :
    NoStart (connectInfo.reportDistributedComponentChange env listener connect changeType
      componentType deviceType) := by
  simp [NoStart]

@[simp] theorem noStart_disconnectAbility (connect : RemoteObject) :
    NoStart (DistributedSchedAdapter.disconnectAbility env connect).2 := by
  unfold DistributedSchedAdapter.disconnectAbility
  split
  · exact noStart_nil
  · exact noStart_singleton fun call h => by cases h; rfl

@[simp] theorem noStart_releaseAbility (connect : RemoteObject) (element : ElementName) :
    NoStart (DistributedSchedAdapter.releaseAbility env connect element).2 := by
  unfold DistributedSchedAdapter.releaseAbility
  split
  · exact noStart_nil
  · exact noStart_singleton fun call h => by cases h; rfl

theorem noStart_notifyFreeInstallResult (item : CallbackTaskItem) (resultCode : Int) :
    NoStart (notifyFreeInstallResult env item resultCode).2 := by
  unfold notifyFreeInstallResult
  split
  · exact noStart_nil
  · split
    · exact noStart_nil
    · exact noStart_singleton nofun

theorem noStart_handleRemoteNotify (info : FreeInstallInfo) (taskId resultCode : Int) :
    NoStart (handleRemoteNotify env info taskId resultCode).2 := by
  simp only [handleRemoteNotify]
  split
  · exact noStart_nil
  split
  · exact noStart_nil
  · exact noStart_singleton nofun

theorem noStart_notifyContinuationCallbackResult (missionId isSuccess : Int) :
    NoStart (s.notifyContinuationCallbackResult env missionId isSuccess).2 := by
  simp only [notifyContinuationCallbackResult, noStart_append]
  refine ⟨?_, ?_⟩
  · unfold DSchedContinuation.notifyContinuationCallbackResult
    split
    · simp only
      split
      · exact noStart_singleton fun call h => by cases h; rfl
      · exact noStart_nil
    · exact noStart_singleton fun call h => by cases h; rfl
  · intro call h
    obtain ⟨callback, -, h⟩ := Option.map_eq_some_iff.mp (Option.mem_toList.mp h)
    cases h

theorem noStart_continueMission (srcDeviceId dstDeviceId : String) (missionId : Int)
    (callback : Option RemoteObject) (wantParams : Map String WantParam) :
    NoStart
      (s.continueMission env srcDeviceId dstDeviceId missionId callback wantParams).effects := by
  have hlocal : NoStart
      (s.continueLocalMission env dstDeviceId missionId callback wantParams).effects := by
    simp only [continueLocalMission, DSchedContinuation.continueLocalMission]
    split
    · exact noStart_nil
    split
    · exact noStart_nil
    · exact noStart_singleton fun call h => by cases h; rfl
    · split <;> exact noStart_nil
  simp only [continueMission]
  split
  · exact noStart_nil
  split
  · exact noStart_nil
  split
  · exact hlocal
  split
  · unfold continueRemoteMission
    split
    · exact noStart_nil
    · exact noStart_singleton nofun
  · exact noStart_nil

theorem noStart_notifyCompleteFreeInstallFromRemote (taskId resultCode : Int) :
    NoStart (s.notifyCompleteFreeInstallFromRemote env taskId resultCode).effects := by
  simp only [notifyCompleteFreeInstallFromRemote]
  split
  · exact noStart_notifyFreeInstallResult _ _
  · split
    · exact noStart_nil
    · exact noStart_notifyContinuationCallbackResult _ _

theorem noStart_disconnectAbilityFromRemote (connect : Option RemoteObject) (uid : Int)
    (sourceDeviceId : String) :
    NoStart (s.disconnectAbilityFromRemote env connect uid sourceDeviceId).effects := by
  cases connect with
  | none => exact noStart_nil
  | some c =>
      simp only [disconnectAbilityFromRemote, eraseConnect]
      cases env.checkedLocalIdForRelease sourceDeviceId with
      | none => exact noStart_nil
      | some localDeviceId =>
          cases s.connectAbilityMap[c]? with
          | some connectInfo => simp
          | none => cases env.isLocalCalling <;> simp

theorem noStart_disconnectEntries (gone : ConnectInfo → Bool) :
    NoStart (s.disconnectEntries env gone).effects := by
  intro call h
  rcases mem_disconnectEntries env s gone _ h with ⟨_, he⟩ | ⟨_, _, he, -⟩
  · cases he; rfl
  · cases he

theorem noStart_releaseAbilityFromRemote (connect : Option RemoteObject) (element : ElementName)
    (callerInfo : CallerInfo) :
    NoStart (s.releaseAbilityFromRemote env connect element callerInfo).effects := by
  cases connect with
  | none => exact noStart_nil
  | some c =>
      simp only [releaseAbilityFromRemote]
      cases env.checkedLocalIdForRelease callerInfo.sourceDeviceId with
      | none => exact noStart_nil
      | some localDeviceId =>
          cases s.calleeMap[c]? with
          | none => exact noStart_nil
          | some connectInfo =>
              simp only [noStart_append, noStart_report, noStart_releaseAbility, and_true,
                true_and]
              exact noStart_singleton nofun

theorem noStart_startFreeInstallFromRemote (info : FreeInstallInfo) (taskId : Int) :
    NoStart (s.startFreeInstallFromRemote env info taskId).1.effects := by
  unfold startFreeInstallFromRemote
  split
  · exact noStart_nil
  split
  · exact noStart_nil
  split
  · exact noStart_nil
  · exact noStart_singleton fun call h => by cases h; rfl

end noStart

/-! ### Requests that start something -/

section granted

variable {env : Env} {s : DistributedSchedService} {installs : List Install}

theorem DeviceChecked.of_checkedLocalId {destinationDeviceId sourceDeviceId localDeviceId : String}
    (h : env.checkedLocalIdFromRemote destinationDeviceId sourceDeviceId = some localDeviceId) :
    DeviceChecked env destinationDeviceId sourceDeviceId :=
  ⟨localDeviceId, Env.checkedLocalIdFromRemote_eq_some.mp h⟩

theorem mem_startAbility {want : Want} {requestCode : Int} {call : AmsCall}
    (h : Effect.ams call ∈ (startAbility env want requestCode).2) :
    ∃ userId forResult, call = .startAbility want requestCode userId forResult := by
  unfold startAbility at h
  split at h
  · cases h
  split at h
  · cases h
  · cases List.mem_singleton.mp h
    exact ⟨_, _, rfl⟩

theorem startAbilityFromRemote_granted {want : Want} {requestCode : Int} {callerInfo : CallerInfo}
    {accountInfo : AccountInfo} {call : AmsCall}
    (h : Effect.ams call ∈ (s.startAbilityFromRemote env want requestCode callerInfo.ofStart
      accountInfo).effects) :
    Granted installs
      (.request env (.startAbilityFromRemote want requestCode callerInfo accountInfo)) call := by
  simp only [startAbilityFromRemote] at h
  split at h
  · cases h
  rename_i localDeviceId hd
  split at h
  · cases h
  rename_i hp
  obtain ⟨userId, forResult, rfl⟩ := mem_startAbility h
  exact .start (.of_checkedLocalId hd) (Decidable.not_not.mp hp)

theorem sendResultFromRemote_granted {want : Want} {requestCode resultCode : Int}
    {callerInfo : CallerInfo} {accountInfo : AccountInfo} {call : AmsCall}
    (h : Effect.ams call ∈ (s.sendResultFromRemote env want requestCode callerInfo.ofSendResult
      accountInfo resultCode).effects) :
    Granted installs
      (.request env (.sendResultFromRemote want requestCode callerInfo accountInfo resultCode))
      call := by
  simp only [sendResultFromRemote] at h
  split at h
  · cases h
  rename_i localDeviceId hd
  split at h
  · cases h
  rename_i hp
  split at h
  · cases h
  · cases List.mem_singleton.mp h
    exact .sendResult (.of_checkedLocalId hd) (Decidable.not_not.mp hp)

theorem connectAbilityFromRemote_granted {want : Want} {connect : Option RemoteObject}
    {callerInfo : CallerInfo} {accountInfo : AccountInfo} {call : AmsCall}
    (h : Effect.ams call ∈ (s.connectAbilityFromRemote env want connect callerInfo.ofConnect
      accountInfo).effects) :
    Granted installs
      (.request env (.connectAbilityFromRemote want connect callerInfo accountInfo)) call := by
  rcases s.connectAbilityFromRemote_cases env want connect callerInfo.ofConnect accountInfo with
    ⟨code, -, he⟩ | ⟨c, localDeviceId, rfl, hd, hp, he⟩
  · rw [he] at h
    cases h
  rw [he] at h
  have hd' := (Env.checkedLocalIdFromRemote_eq_some.mp hd).2.2.1
  have hw : ∃ w, Effect.ams call ∈ (DistributedSchedAdapter.connectAbility env want w).2 := by
    simp only [connectChecked, CallerInfo.ofConnect, if_true] at h
    split at h
    · exact ⟨_, h⟩
    · rcases List.mem_append.mp h with h | h
      · exact ⟨_, h⟩
      · unfold recordConnect at h
        split at h
        · cases h
        · simp at h
  obtain ⟨w, h⟩ := hw
  unfold DistributedSchedAdapter.connectAbility at h
  split at h
  · cases h
  split at h
  · cases h
  · cases List.mem_singleton.mp h
    exact .connect (.of_checkedLocalId hd) (hd' ▸ hp)

theorem startAbilityByCallFromRemote_granted {want : Want} {connect : Option RemoteObject}
    {callerInfo : CallerInfo} {accountInfo : AccountInfo} {call : AmsCall}
    (h : Effect.ams call ∈ (s.startAbilityByCallFromRemote env want connect
      callerInfo.ofStartByCall accountInfo).effects) :
    Granted installs
      (.request env (.startAbilityByCallFromRemote want connect callerInfo accountInfo)) call := by
  rcases s.startAbilityByCallFromRemote_cases env want connect callerInfo.ofStartByCall
    accountInfo with ⟨code, -, he⟩ | ⟨c, localDeviceId, rfl, hd, hp, he⟩
  · rw [he] at h
    cases h
  rw [he] at h
  have hd' := (Env.checkedLocalIdFromRemote_eq_some.mp hd).2.2.1
  have hw : ∃ w, Effect.ams call ∈ (DistributedSchedAdapter.startAbilityByCall env want w).2 := by
    simp only [startByCallChecked] at h
    split at h
    · exact ⟨_, h⟩
    · simp only [recordCallee, List.mem_append, ConnectInfo.mem_reportDistributedComponentChange,
        reduceCtorEq, and_false, or_false, List.mem_singleton] at h
      exact ⟨_, h⟩
  obtain ⟨w, h⟩ := hw
  unfold DistributedSchedAdapter.startAbilityByCall at h
  split at h
  · cases h
  · cases List.mem_singleton.mp h
    exact .startByCall (.of_checkedLocalId hd) (hd' ▸ hp)

/-- Every call of the policy that a request makes is granted. -/
theorem onRemoteRequest_granted {request : RemoteCall} {call : AmsCall}
    (h : Effect.ams call ∈ (s.onRemoteRequest env request).1.effects)
    (hs : call.startsAbility = true) : Granted installs (.request env request) call := by
  have hnone : ∀ es, NoStart es → Effect.ams call ∉ es := fun es hes hc => by
    rw [hes call hc] at hs
    cases hs
  unfold onRemoteRequest at h
  split at h
  · cases h
  cases request with
  | startAbilityFromRemote => exact startAbilityFromRemote_granted h
  | sendResultFromRemote => exact sendResultFromRemote_granted h
  | connectAbilityFromRemote => exact connectAbilityFromRemote_granted h
  | startAbilityByCallFromRemote => exact startAbilityByCallFromRemote_granted h
  | notifyContinuationResultFromRemote sessionId isSuccess =>
      refine absurd h (hnone _ ?_)
      simp only [notifyContinuationResultFromRemote]
      split
      · exact noStart_nil
      · exact noStart_notifyContinuationCallbackResult _ _
  | disconnectAbilityFromRemote =>
      exact absurd h (hnone _ (noStart_disconnectAbilityFromRemote _ 0 _))
  | notifyProcessDiedFromRemote => exact absurd h (hnone _ (noStart_disconnectEntries _))
  | continueMission =>
      refine absurd h (hnone _ ?_)
      simp only
      split
      · exact noStart_nil
      · exact noStart_continueMission _ _ _ _ _
  | releaseAbilityFromRemote =>
      exact absurd h (hnone _ (noStart_releaseAbilityFromRemote _ _ _))
  | startFreeInstallFromRemote =>
      exact absurd h (hnone _ (noStart_startFreeInstallFromRemote _ _))
  | notifyCompleteFreeInstallFromRemote =>
      exact absurd h (hnone _ (noStart_notifyCompleteFreeInstallFromRemote _ _))

/-- A free install is pending only after the check of its device. -/
theorem onRemoteRequest_pending {request : RemoteCall} {callback : DmsFreeInstallCallback}
    (h : (s.onRemoteRequest env request).2 = some callback) :
    DeviceChecked env callback.info.want.element.deviceId
      callback.info.callerInfo.sourceDeviceId := by
  unfold onRemoteRequest at h
  split at h
  · cases h
  cases request with
  | startFreeInstallFromRemote info taskId =>
      simp only [startFreeInstallFromRemote] at h
      split at h
      · cases h
      rename_i localDeviceId hd
      split at h
      · cases h
      split at h
      · cases h
      · cases h
        exact .of_checkedLocalId hd
  | continueMission =>
      simp only at h
      split at h <;> cases h
  | _ => cases h

/-- Every call of the policy that a finished free install makes is granted. -/
theorem onInstallFinished_granted {i : Nat} {install : Install} {resultCode : Int} {call : AmsCall}
    (hi : installs[i]? = some install)
    (device : DeviceChecked install.env install.callback.info.want.element.deviceId
      install.callback.info.callerInfo.sourceDeviceId)
    (h : Effect.ams call ∈ (s.onInstallFinished env install.callback install.callback.info.want
      install.callback.info.requestCode resultCode).effects)
    (hs : call.startsAbility = true) :
    Granted installs (.installFinished env i install.callback.info.want
      install.callback.info.requestCode resultCode) call := by
  have hnotify : ∀ code, Effect.ams call ∉
      (handleRemoteNotify env install.callback.info install.callback.taskId code).2 := by
    intro code hc
    rw [noStart_handleRemoteNotify _ _ _ call hc] at hs
    cases hs
  simp only [onInstallFinished, notifyCompleteFreeInstall] at h
  split at h
  · cases h
  split at h
  · exact absurd h (hnotify _)
  · have hstart := (List.mem_append.mp h).resolve_right (hnotify _)
    unfold startLocalAbility at hstart
    split at hstart
    · cases hstart
    rename_i localDeviceId hl
    simp only at hstart
    split at hstart
    · cases hstart
    rename_i hp
    obtain ⟨userId, forResult, rfl⟩ := mem_startAbility hstart
    exact .installed hi device hl (Decidable.not_not.mp hp)

/-- The code of the first check of a finished free install that fails: the local id, the
permission. -/
def Install.refusal (env : Env) (install : Install) : Option Int :=
  firstRefusal env.localDeviceId (checkDPermission env install.callback.info.want
    install.callback.info.callerInfo install.callback.info.accountInfo)

theorem startLocalAbility_refused {install : Install} {code : Int}
    (h : install.refusal env = some code) :
    startLocalAbility env install.callback.info = (code, []) := by
  unfold startLocalAbility
  rcases firstRefusal_eq_some h with ⟨hl, rfl⟩ | ⟨l, hl, hp, rfl⟩
  · rw [hl]
  · rw [hl]
    exact if_pos hp

/-- A finished free install that fails a check starts nothing, and tells the caller's device the
code. -/
theorem onInstallFinished_refused {install : Install} {code : Int}
    (h : install.refusal env = some code) (resultCode : Int) :
    let o := s.onInstallFinished env install.callback install.callback.info.want
      install.callback.info.requestCode resultCode
    o.service = s ∧ (∀ call, Effect.ams call ∉ o.effects) ∧
      (0 < install.callback.taskId → resultCode = errOk → o.effects =
        (handleRemoteNotify env install.callback.info install.callback.taskId code).2) := by
  have hnotify : ∀ code call, Effect.ams call ∉
      (handleRemoteNotify env install.callback.info install.callback.taskId code).2 := by
    intro code call hc
    simp only [handleRemoteNotify] at hc
    split at hc
    · cases hc
    split at hc
    · cases hc
    · cases List.mem_singleton.mp hc
  simp only [onInstallFinished, notifyCompleteFreeInstall, startLocalAbility_refused h,
    List.nil_append]
  split
  · rename_i ht
    exact ⟨rfl, nofun, fun hpos => absurd hpos (Int.not_lt.mpr ht)⟩
  split
  · rename_i hr
    exact ⟨rfl, hnotify _, fun _ he => absurd he hr⟩
  · exact ⟨rfl, hnotify _, fun _ _ => rfl⟩

end granted

/-! ### Runs -/

/-- The device of every pending free install was checked. -/
def RemoteCallers.DevicesChecked (s : RemoteCallers) : Prop :=
  ∀ install ∈ s.installs, DeviceChecked install.env install.callback.info.want.element.deviceId
    install.callback.info.callerInfo.sourceDeviceId

theorem RemoteCallers.DevicesChecked.run {s s' : RemoteCallers} {step : RemoteStep}
    (h : s.DevicesChecked) (hs : step.run s = some s') : s'.DevicesChecked := by
  obtain ⟨⟨s₁, es⟩, happly, rfl⟩ := Option.map_eq_some_iff.mp hs
  cases step with
  | request env request =>
      cases happly
      intro install hi
      rcases List.mem_append.mp hi with hi | hi
      · exact h install hi
      · obtain ⟨callback, hc, rfl⟩ := Option.map_eq_some_iff.mp (Option.mem_toList.mp hi)
        exact onRemoteRequest_pending hc
  | installFinished env i want requestCode resultCode =>
      simp only [RemoteStep.apply] at happly
      split at happly
      · cases happly
      · cases happly; exact h
  | other service =>
      cases happly
      exact h

/-- **No remote caller bypasses the checks.**  In every run, every call of the ability manager
that starts, connects or calls an ability, or hands it a result, for a remote caller is granted;
a request that fails a check is answered with its code and does nothing; and a finished free
install that fails a check starts nothing. -/
theorem remote_starts_granted {service : DistributedSchedService} {s : RemoteCallers}
    (h : Runs.Reach RemoteStep.run RemoteStep.HandsBack { service := service } s) :
    (∀ step s' es, step.HandsBack s → step.apply s = some (s', es) →
      ∀ call, Effect.ams call ∈ es → call.startsAbility = true →
        Granted s.installs step call) ∧
    (∀ env (request : RemoteCall) code, request.refusal env = some code →
      s.service.onRemoteRequest env request = (⟨code, s.service, []⟩, none)) ∧
    ∀ env (i : Nat) (install : Install) resultCode code, s.installs[i]? = some install →
      install.refusal env = some code →
        startLocalAbility env install.callback.info = (code, []) ∧
        let o := s.service.onInstallFinished env install.callback install.callback.info.want
          install.callback.info.requestCode resultCode
        o.service = s.service ∧ (∀ call, Effect.ams call ∉ o.effects) ∧
          (0 < install.callback.taskId → resultCode = errOk → o.effects =
            (handleRemoteNotify env install.callback.info install.callback.taskId code).2) := by
  have hchecked : s.DevicesChecked := by
    refine h.invariant (fun install hi => ?_) (fun _ _ _ hi _ hs => hi.run hs)
    cases hi
  refine ⟨?_, ?_, ?_⟩
  · intro step s' es hback happly call hc hs
    cases step with
    | request env request =>
        cases happly
        exact onRemoteRequest_granted hc hs
    | installFinished env i want requestCode resultCode =>
        simp only [RemoteStep.apply] at happly
        split at happly
        · cases happly
        rename_i install hi
        obtain ⟨rfl, rfl⟩ := hback install hi
        cases happly
        exact onInstallFinished_granted hi (hchecked install (List.mem_of_getElem? hi)) hc hs
    | other service =>
        cases happly
        cases hc
  · intro env request code hr
    exact onRemoteRequest_refused hr
  · intro env i install resultCode code _ hr
    exact ⟨startLocalAbility_refused hr, onInstallFinished_refused hr resultCode⟩

/-- A free install that the remote caller of uid 20010 asks for. -/
def askInstall : RemoteStep :=
  .request calleeEnv (.startFreeInstallFromRemote
    { want := { element := { deviceId := "B", bundleName := "app" } }, requestCode := 4
      callerInfo := { uid := 20010, sourceDeviceId := "A" }
      accountInfo := { accountType := sameAccountType } } 1)

/-- The call that starts the ability when the free install is finished is granted. -/
theorem remote_starts_granted_install : ∃ s install, RemoteStep.run {} askInstall = some s ∧
    s.installs = [install] ∧
    Granted s.installs (.installFinished calleeEnv 0 install.callback.info.want 4 errOk)
      (.startAbility (install.callback.info.want.removeFlags Want.flagInstallOnDemand) 4 100
        false) := by
  refine ⟨_, _, rfl, rfl, ?_⟩
  have h := @remote_starts_granted {} _ (.next .init (l := askInstall) trivial rfl)
  refine h.1 (.installFinished calleeEnv 0 _ 4 errOk) _ _ ?_ rfl _
    (List.mem_append_left _ (.head _)) rfl
  intro install hi
  cases hi
  exact ⟨rfl, rfl⟩

end DistributedSched

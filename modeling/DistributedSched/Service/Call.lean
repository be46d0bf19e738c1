import DistributedSched.Library.TreeWalk
import DistributedSched.Service.Permission
import DistributedSched.Service.State

/-!
# Service — starting an ability by call

The caller's side (`callerMap_`, guarded by `callerLock_`) and the callee's side (`calleeMap_`,
guarded by `calleeLock_`) of abilities started by call.
-/

namespace DistributedSched

namespace DistributedSchedAdapter

variable (env : Env)

def startAbilityByCall (want : Want) (connect : RemoteObject) : Int × List Effect :=
  if env.amsConnect ≠ errOk then (env.amsConnect, [])
  else (env.amsStartAbilityByCall want, [.ams (.startAbilityByCall want connect)])

def releaseAbility (connect : RemoteObject) (element : ElementName) : Int × List Effect :=
  if env.amsConnect ≠ errOk then (env.amsConnect, [])
  else
    let elementWithoutDeviceId : ElementName :=
      { bundleName := element.bundleName, abilityName := element.abilityName }
    (env.amsReleaseAbility connect, [.ams (.releaseAbility connect elementWithoutDeviceId)])

end DistributedSchedAdapter

namespace DistributedSchedService

variable (env : Env) (s : DistributedSchedService)

/-! ### The caller's side -/

def saveCallerComponent (want : Want) (connect : RemoteObject) (callerInfo : CallerInfo) :
    DistributedSchedService × List Effect :=
  let add := ConnectAbilitySession.addToSessions callerInfo.sourceDeviceId want.element.deviceId
    want.element callerInfo .harmonyComponent
  match s.callerMap[connect]? with
  | none =>
    ({ s with callerMap := s.callerMap.insert connect (add []) },
      .addDeathRecipient connect .callerForLocalDevice ::
        callerInfo.reportDistributedComponentChange s.distributedComponentListener connect
          .add .call .caller)
  | some sessionsList =>
    ({ s with callerMap := s.callerMap.insert connect (add sessionsList) }, [])

def tryStartRemoteAbilityByCall (want : Want) (connect : RemoteObject) (callerInfo : CallerInfo) :
    Outcome :=
  let remoteDeviceId := want.element.deviceId
  if !env.getRemoteDms remoteDeviceId then ⟨invalidParametersErr, s, []⟩
  else match DistributedSchedPermission.getAccountInfo env remoteDeviceId callerInfo with
    | .error ret => ⟨ret, s, []⟩
    | .ok accountInfo =>
      let call := RemoteCall.startAbilityByCallFromRemote want (some connect) callerInfo
        accountInfo
      let result := env.remoteResult call
      if result = errOk then
        let r := s.saveCallerComponent want connect callerInfo
        ⟨result, r.1, .rpc remoteDeviceId call :: r.2⟩
      else ⟨result, s, [.rpc remoteDeviceId call]⟩

def startRemoteAbilityByCall (want : Want) (connect : Option RemoteObject)
    (callerUid callerPid : Int) (accessToken : Nat) : Outcome :=
  match connect, env.checkedLocalId want.element.deviceId with
  | some connect, some localDeviceId =>
    match env.getCallerAppIdFromBms callerUid, env.getBundleNameListFromBms callerUid with
    | some callerAppId, some bundleNames =>
      s.tryStartRemoteAbilityByCall env want connect
        { uid := callerUid, pid := callerPid, sourceDeviceId := localDeviceId,
          accessToken := accessToken, callerAppId := callerAppId, bundleNames := bundleNames }
    | _, _ => ⟨invalidParametersErr, s, []⟩
  | _, _ => ⟨invalidParametersErr, s, []⟩

/-- The report for a list of sessions that is taken out of `callerMap_`. -/
def reportCallerRemoved (listener : Option RemoteObject) (connect : RemoteObject) :
    List ConnectAbilitySession → List Effect
  | [] => []
  | session :: _ =>
    session.callerInfo.reportDistributedComponentChange listener connect .remove .call .caller

def removeCallerComponent (connect : RemoteObject) : DistributedSchedService × List Effect :=
  match s.callerMap[connect]? with
  | none => (s, [])
  | some sessionsList =>
    ({ s with callerMap := s.callerMap.erase connect },
      .removeDeathRecipient connect .callerForLocalDevice ::
        reportCallerRemoved s.distributedComponentListener connect sessionsList)

def releaseRemoteAbility (connect : Option RemoteObject) (element : ElementName) : Outcome :=
  match connect with
  | none => ⟨invalidParametersErr, s, []⟩
  | some connect =>
    if element.deviceId = "" then ⟨invalidParametersErr, s, []⟩
    else if !env.getRemoteDms element.deviceId then ⟨invalidParametersErr, s, []⟩
    else match env.localDeviceId with
      | none => ⟨invalidParametersErr, s, []⟩
      | some sourceDeviceId =>
        let call := RemoteCall.releaseAbilityFromRemote (some connect) element
          { sourceDeviceId := sourceDeviceId }
        let result := env.remoteResult call
        if result = errOk then
          let r := s.removeCallerComponent connect
          ⟨result, r.1, .rpc element.deviceId call :: r.2⟩
        else ⟨result, s, [.rpc element.deviceId call]⟩

def handleLocalCallerDied (connect : RemoteObject) : DistributedSchedService × List Effect :=
  match s.callerMap[connect]? with
  | none => (s, [])
  | some sessionsList =>
    ({ s with callerMap := s.callerMap.erase connect },
      reportCallerRemoved s.distributedComponentListener connect sessionsList)

/-- One round of the loop of `ProcessCalleeOffline`. -/
def offlineCaller (listener : Option RemoteObject) (deviceId : String) (acc : List Effect)
    (connect : RemoteObject) (sessionsList : List ConnectAbilitySession) :
    List Effect × Option (List ConnectAbilitySession) :=
  let callerInfo := match sessionsList.find? fun session =>
      session.destinationDeviceId = deviceId with
    | some session => session.callerInfo
    | none => {}
  let sessionsList := sessionsList.eraseP fun session => session.destinationDeviceId = deviceId
  if sessionsList.isEmpty then
    (acc ++ .removeDeathRecipient connect .callerForLocalDevice ::
      callerInfo.reportDistributedComponentChange listener connect .remove .call .caller, none)
  else (acc, some sessionsList)

def processCalleeOffline (deviceId : String) : DistributedSchedService × List Effect :=
  let r := s.callerMap.walk (offlineCaller s.distributedComponentListener deviceId) []
  ({ s with callerMap := r.2 }, r.1)

theorem mem_processCalleeOffline (deviceId : String) :
    ∀ e ∈ (s.processCalleeOffline deviceId).2,
      (∃ connect, e = .removeDeathRecipient connect .callerForLocalDevice) ∨
        ∃ connect info, e = .report connect info ∧ info.componentType = .call ∧
          info.deviceType = .caller ∧ info.changeType = .remove := by
  refine Std.ExtTreeMap.walk_acc (Q := fun acc : List Effect => ∀ e ∈ acc,
      (∃ connect, e = .removeDeathRecipient connect .callerForLocalDevice) ∨
        ∃ connect info, e = .report connect info ∧ info.componentType = .call ∧
          info.deviceType = .caller ∧ info.changeType = .remove)
    (fun e he => nomatch he) fun acc connect sessionsList _ ih e he => ?_
  simp only [offlineCaller] at he
  split at he
  · simp only [List.mem_append, List.mem_cons,
      CallerInfo.mem_reportDistributedComponentChange] at he
    rcases he with he | rfl | ⟨-, rfl⟩
    · exact ih e he
    · exact .inl ⟨_, rfl⟩
    · exact .inr ⟨_, _, rfl, rfl, rfl, rfl⟩
  · exact ih e he

/-! ### The callee's side -/

/-- The first `calleeLock_` block of `StartAbilityByCallFromRemote`. -/
def lookupCallee (connect : RemoteObject) : RemoteObject × DistributedSchedService :=
  match s.calleeMap[connect]? with
  | some connectInfo => (connectInfo.callbackWrapper, s)
  | none => (s.newObject, { s with newObject := s.newObject + 1 })

/-- The second block: the report is made whether or not `emplace` takes effect. -/
def recordCallee (connect : RemoteObject) (connectInfo : ConnectInfo) :
    DistributedSchedService × List Effect :=
  ({ s with calleeMap := s.calleeMap.insertIfNew connect connectInfo },
    connectInfo.reportDistributedComponentChange env s.distributedComponentListener connect
      .add .call .callee)

/-- `StartAbilityByCallFromRemote` after its checks. -/
def startByCallChecked (want : Want) (connect : RemoteObject) (callerInfo : CallerInfo) :
    Outcome :=
  let (callbackWrapper, s) := s.lookupCallee connect
  let a := DistributedSchedAdapter.startAbilityByCall env want callbackWrapper
  if a.1 ≠ errOk then ⟨a.1, s, a.2⟩
  else
    let r := s.recordCallee env connect ⟨callerInfo, callbackWrapper, want.element⟩
    ⟨a.1, r.1, a.2 ++ r.2 ++ [.addDeathRecipient connect .caller]⟩

def startAbilityByCallFromRemote (want : Want) (connect : Option RemoteObject)
    (callerInfo : CallerInfo) (accountInfo : AccountInfo) : Outcome :=
  match connect with
  | none => ⟨invalidRemoteParametersErr, s, []⟩
  | some connect =>
    match env.checkedLocalIdFromRemote want.element.deviceId callerInfo.sourceDeviceId with
    | none => ⟨invalidRemoteParametersErr, s, []⟩
    | some localDeviceId =>
      let result := DistributedSchedPermission.checkGetCallerPermission env want callerInfo
        accountInfo localDeviceId
      if result ≠ errOk then ⟨result, s, []⟩ else s.startByCallChecked env want connect callerInfo

def releaseAbilityFromRemote (connect : Option RemoteObject) (element : ElementName)
    (callerInfo : CallerInfo) : Outcome :=
  match connect with
  | none => ⟨invalidRemoteParametersErr, s, []⟩
  | some connect =>
    match env.checkedLocalIdForRelease callerInfo.sourceDeviceId with
    | none => ⟨invalidRemoteParametersErr, s, []⟩
    | some _ =>
      match s.calleeMap[connect]? with
      | none => ⟨invalidRemoteParametersErr, s, []⟩
      | some connectInfo =>
        let a := DistributedSchedAdapter.releaseAbility env connectInfo.callbackWrapper element
        ⟨a.1, { s with calleeMap := s.calleeMap.erase connect },
          connectInfo.reportDistributedComponentChange env s.distributedComponentListener connect
            .remove .call .callee ++ [.removeDeathRecipient connect .caller] ++ a.2⟩

/-- The `calleeLock_` block of `ProcessCallerDied` and `ProcessCalleeDied`. -/
def eraseCallee (connect : RemoteObject) : DistributedSchedService × List Effect :=
  match s.calleeMap[connect]? with
  | none => (s, [])
  | some connectInfo =>
    ({ s with calleeMap := s.calleeMap.erase connect },
      connectInfo.reportDistributedComponentChange env s.distributedComponentListener connect
        .remove .call .callee)

def processCallerDied (connect : Option RemoteObject) (deviceType : DeviceType) :
    DistributedSchedService × List Effect :=
  match connect with
  | none => (s, [])
  | some connect =>
    match deviceType with
    | .caller => s.handleLocalCallerDied connect
    | .callee =>
      let (callbackWrapper, element) := match s.calleeMap[connect]? with
        | some connectInfo => (connectInfo.callbackWrapper, connectInfo.element)
        | none => (connect, {})
      let r := s.eraseCallee env connect
      (r.1, r.2 ++ (DistributedSchedAdapter.releaseAbility env callbackWrapper element).2)

/-- A start by call is rejected, or all checks have passed. -/
theorem startAbilityByCallFromRemote_cases (want : Want) (connect : Option RemoteObject)
    (callerInfo : CallerInfo) (accountInfo : AccountInfo) :
    (∃ code, code ≠ errOk ∧
      s.startAbilityByCallFromRemote env want connect callerInfo accountInfo = ⟨code, s, []⟩) ∨
    ∃ c localDeviceId, connect = some c ∧
      env.checkedLocalIdFromRemote want.element.deviceId callerInfo.sourceDeviceId =
        some localDeviceId ∧
      DistributedSchedPermission.checkGetCallerPermission env want callerInfo accountInfo
        localDeviceId = errOk ∧
      s.startAbilityByCallFromRemote env want connect callerInfo accountInfo =
        s.startByCallChecked env want c callerInfo := by
  cases connect with
  | none => exact .inl ⟨_, by decide, rfl⟩
  | some c =>
      unfold startAbilityByCallFromRemote
      cases hl : env.checkedLocalIdFromRemote want.element.deviceId callerInfo.sourceDeviceId with
      | none => exact .inl ⟨_, by decide, rfl⟩
      | some localDeviceId =>
          by_cases hp : DistributedSchedPermission.checkGetCallerPermission env want callerInfo
              accountInfo localDeviceId = errOk
          · exact .inr ⟨c, localDeviceId, rfl, rfl, hp, if_neg (not_not_intro hp)⟩
          · exact .inl ⟨_, hp, if_pos hp⟩

def processCalleeDied (connect : Option RemoteObject) : DistributedSchedService × List Effect :=
  match connect with
  | none => (s, [])
  | some connect => s.eraseCallee env connect

end DistributedSchedService

end DistributedSched

import DistributedSched.Service.Permission
import DistributedSched.Service.State

/-!
# Service — continuations and free installs on the source device

A continuation is accepted by `continueLocalMission` and finished by
`notifyContinuationCallbackResult`; a free install is started by `startRemoteFreeInstall` and
finished by `notifyCompleteFreeInstallFromRemote`.  The two meet where a continuation needs the
application installed first.

The functions of a continuation that use `dschedContinuation_` and nothing else of the service
are functions of `DSchedContinuation`, over any type of callbacks and of timeout parameters.
-/

namespace DistributedSched

/-! ### Continuations -/

/-- Where `ContinueLocalMission` goes on after its checks. -/
inductive ContinuationRoute where
  /-- the bundle is installed on the remote device -/
  | installed (versionCode : Nat)
  /-- the bundle has to be installed there; `want` is what to install -/
  | freeInstall (want : Want)

/-- The checks of `ContinueLocalMission` after the one for a continuation in progress. -/
def continuationRoute (env : Env) (dstDeviceId : String) (missionId : Int)
    (wantParams : Map String WantParam) : Except Int ContinuationRoute :=
  match env.amsGetMissionInfo missionId with
  | none => .error invalidParametersErr
  | some missionWant =>
    let want := { missionWant with params := wantParams }
    match env.checkRemoteBundleInfoForContinuation dstDeviceId missionWant.element.bundleName with
    | .ok versionCode => .ok (.installed versionCode)
    | .error result =>
      if result = continueRemoteUninstalledUnsupportFreeinstall then .error result
      else if !want.getBoolParam "isFreeInstall" false then
        .error continueRemoteUninstalledSupportFreeinstall
      else .ok (.freeInstall { want with element.deviceId := dstDeviceId })

namespace DSchedContinuation

variable {κ π : Type} (env : Env) (c : DSchedContinuation κ π)

/-- `ContinueLocalMission`. -/
def continueLocalMission (param : π) (dstDeviceId : String) (missionId : Int)
    (callback : Option κ) (wantParams : Map String WantParam) :
    Int × DSchedContinuation κ π × List Effect :=
  if c.isInContinuationProgress missionId then (invalidParametersErr, c, [])
  else match continuationRoute env dstDeviceId missionId wantParams with
    | .error result => (result, c, [])
    | .ok (.installed versionCode) =>
      -- what `PushCallback` answers is dropped, here and below
      let c := (c.pushCallback missionId callback dstDeviceId false).2
      (env.amsContinueAbility, c.setTimeOut env.sendEvent missionId param continuationTimeout,
        [.ams (.continueAbility dstDeviceId missionId versionCode)])
    | .ok (.freeInstall want) =>
      let c := (c.pushCallback missionId callback dstDeviceId true).2
      let c := c.setTimeOut env.sendEvent missionId param checkRemoteInstallAbility
      if !env.checkIfRemoteCanInstall want missionId then
        (invalidParametersErr, ((c.removeTimeOut missionId).popCallback missionId).2, [])
      else (errOk, c, [])

/-- `NotifyContinuationCallbackResult`, with the callback that is answered. -/
def notifyContinuationCallbackResult (missionId isSuccess : Int) :
    Option κ × DSchedContinuation κ π × List Effect :=
  if c.isInContinuationProgress missionId then
    let r := c.notifyMissionCenterResult env.parcelWrites missionId
    (r.1, r.2, if isSuccess = 0 then [.ams (.cleanMission missionId)] else [])
  else
    (none, c.removeTimeOut missionId, [.ams (.notifyContinuationResult missionId isSuccess)])

/-- `DmsBundleManagerCallbackStub::OnQueryInstallationFinished`: what it answers, the callback that
is answered, and the rest. -/
def onQueryInstallationFinished (param : π) (resultCode missionId : Int) (versionCode : Nat) :
    Int × Option κ × DSchedContinuation κ π × List Effect :=
  if resultCode ≠ errOk then
    let result := continueRemoteUninstalledCannotFreeinstall
    (result, c.notifyContinuationCallbackResult env missionId result)
  else
    let c := c.removeTimeOut missionId
    let deviceId := c.getTargetDevice missionId
    (env.amsContinueAbility, none,
      c.setTimeOut env.sendEvent missionId param continuationFreeInstallTimeout,
      [.ams (.continueAbility deviceId missionId versionCode)])

end DSchedContinuation

namespace DistributedSchedService

variable (env : Env) (s : DistributedSchedService)

def continueLocalMission (dstDeviceId : String) (missionId : Int)
    (callback : Option RemoteObject) (wantParams : Map String WantParam) : Outcome :=
  let r := s.dschedContinuation.continueLocalMission env 0 dstDeviceId missionId callback wantParams
  ⟨r.1, { s with dschedContinuation := r.2.1 }, r.2.2⟩

def continueRemoteMission (srcDeviceId dstDeviceId : String) (missionId : Int)
    (callback : Option RemoteObject) (wantParams : Map String WantParam) : Outcome :=
  if !env.getRemoteDms srcDeviceId then ⟨invalidRemoteParametersErr, s, []⟩
  else
    let call := RemoteCall.continueMission srcDeviceId dstDeviceId missionId callback wantParams
    ⟨env.remoteResult call, s, [.rpc srcDeviceId call]⟩

def continueMission (srcDeviceId dstDeviceId : String) (missionId : Int)
    (callback : Option RemoteObject) (wantParams : Map String WantParam) : Outcome :=
  if srcDeviceId = "" || dstDeviceId = "" || callback.isNone then ⟨invalidParametersErr, s, []⟩
  else match env.localDeviceId with
    | none => ⟨invalidParametersErr, s, []⟩
    | some localDevId =>
      if srcDeviceId = localDevId then
        s.continueLocalMission env dstDeviceId missionId callback wantParams
      else if dstDeviceId = localDevId then
        s.continueRemoteMission env srcDeviceId dstDeviceId missionId callback wantParams
      else ⟨invalidParametersErr, s, []⟩

def notifyContinuationCallbackResult (missionId isSuccess : Int) :
    DistributedSchedService × List Effect :=
  let r := s.dschedContinuation.notifyContinuationCallbackResult env missionId isSuccess
  ({ s with dschedContinuation := r.2.1 },
    r.2.2 ++ (r.1.map fun callback => Effect.missionCenterResult callback isSuccess).toList)

def notifyContinuationResultFromRemote (sessionId : Int) (isSuccess : Bool) : Outcome :=
  if sessionId ≤ 0 then ⟨invalidRemoteParametersErr, s, []⟩
  else
    let r := s.notifyContinuationCallbackResult env sessionId
      (if isSuccess then 0 else notifyCompleteContinuationFailed)
    ⟨errOk, r.1, r.2⟩

def notifyCompleteContinuation (deviceId : String) (sessionId : Int) (isSuccess : Bool) :
    List Effect :=
  if sessionId ≤ 0 then []
  else if !env.getRemoteDms deviceId then []
  else [.rpc deviceId (.notifyContinuationResultFromRemote sessionId isSuccess)]

/-! ### Requests of the source device -/

/-- The `CallerInfo` of a local caller, as far as the bundle manager knows it. -/
def localCallerInfo (callerUid : Int) (callerType : Int) (localDeviceId : String)
    (accessToken : Nat) : Option CallerInfo :=
  match env.getCallerAppIdFromBms callerUid, env.getBundleNameListFromBms callerUid with
  | some callerAppId, some bundleNames =>
    some { uid := callerUid, callerType := callerType, sourceDeviceId := localDeviceId,
           accessToken := accessToken, callerAppId := callerAppId, bundleNames := bundleNames }
  | _, _ => none

def startRemoteAbility (want : Want) (callerUid requestCode : Int) (accessToken : Nat) :
    Outcome :=
  let deviceId := want.element.deviceId
  match env.checkedLocalId deviceId with
  | none => ⟨invalidParametersErr, s, []⟩
  | some localDeviceId =>
    if !env.getRemoteDms deviceId then ⟨invalidParametersErr, s, []⟩
    else match localCallerInfo env callerUid callerTypeNone localDeviceId accessToken with
      | none => ⟨invalidParametersErr, s, []⟩
      | some callerInfo =>
        match DistributedSchedPermission.getAccountInfo env deviceId callerInfo with
        | .error ret => ⟨ret, s, []⟩
        | .ok accountInfo =>
          let call := RemoteCall.startAbilityFromRemote
            (want.setParam dmsSrcNetworkId (.string localDeviceId)) requestCode callerInfo
            accountInfo
          ⟨env.remoteResult call, s, [.rpc deviceId call]⟩

/-- The launch type of a free install. -/
def launchTypeOf (want : Want) : LaunchType :=
  if want.hasFlag Want.flagAbilityContinuation then .freeInstallContinue else .freeInstallStart

/-- A free install whose request to the remote device fails: its task is popped and
answered. -/
def failFreeInstall (taskId result : Int) : DistributedSchedService × List Effect :=
  let p := s.dmsCallbackTask.popCallback taskId
  ({ s with dmsCallbackTask := p.2 }, (notifyFreeInstallResult env p.1 result).2)

def startRemoteFreeInstall (want : Want) (callerUid requestCode : Int) (accessToken : Nat)
    (callback : Option RemoteObject) : Outcome :=
  let deviceId := want.element.deviceId
  match env.checkedLocalId deviceId with
  | none => ⟨invalidParametersErr, s, []⟩
  | some localDeviceId =>
    if !env.getRemoteDms deviceId then ⟨invalidParametersErr, s, []⟩
    else
      let (taskId, task) := s.dmsCallbackTask.generateTaskId
      let launchType := launchTypeOf want
      let (pushed, task) := task.pushCallback env.sendEvent taskId callback deviceId launchType want
      if pushed ≠ errOk then ⟨invalidRemoteParametersErr, { s with dmsCallbackTask := task }, []⟩
      else
        let task := if launchType = .freeInstallContinue then
            task.setContinuationMissionMap taskId (want.getIntParam "sessionId" (-1))
          else task
        let s := { s with dmsCallbackTask := task }
        match localCallerInfo env callerUid callerTypeHarmony localDeviceId accessToken with
        | none => ⟨invalidParametersErr, s, []⟩
        | some callerInfo =>
          match DistributedSchedPermission.getAccountInfo env deviceId callerInfo with
          | .error _ => ⟨invalidParametersErr, s, []⟩
          | .ok accountInfo =>
            let call := RemoteCall.startFreeInstallFromRemote
              { want := want.setParam dmsSrcNetworkId (.string localDeviceId)
                requestCode := requestCode, callerInfo := callerInfo
                accountInfo := accountInfo } taskId
            let result := env.remoteResult call
            if result ≠ errOk then
              let r := s.failFreeInstall env taskId result
              ⟨result, r.1, .rpc deviceId call :: r.2⟩
            else ⟨result, s, [.rpc deviceId call]⟩

def notifyCompleteFreeInstallFromRemote (taskId resultCode : Int) : Outcome :=
  let launchType := s.dmsCallbackTask.getLaunchType taskId
  let (item, task) := s.dmsCallbackTask.popCallback taskId
  match launchType with
  | .freeInstallStart =>
    let r := notifyFreeInstallResult env item resultCode
    ⟨r.1, { s with dmsCallbackTask := task }, r.2⟩
  | .freeInstallContinue =>
    if resultCode = errOk then
      ⟨errOk, { s with dmsCallbackTask := task.popContinuationMissionMap taskId }, []⟩
    else
      let missionId := task.getContinuaionMissionId taskId
      let r := s.notifyContinuationCallbackResult env missionId continueFreeInstallFailed
      ⟨errOk, { r.1 with dmsCallbackTask := task.popContinuationMissionMap taskId }, r.2⟩

/-! ### Starting the continuation of a mission -/

/-- `SetWantForContinuation`. -/
def setWantForContinuation (newWant : Want) (missionId : Int) : Except Int Want :=
  match env.localDeviceId with
  | none => .error invalidRemoteParametersErr
  | some devId =>
    match env.getLocalBundleInfo newWant.element.bundleName with
    | none => .error invalidParametersErr
    | some localBundleInfo =>
      .ok (((newWant.setParam "sessionId" (.int missionId)).setParam "deviceId"
        (.string devId)).setParam "version" (.int (uint32ToInt32 localBundleInfo.versionCode)))

def startContinuation (want : Want) (missionId callerUid status : Int) (accessToken : Nat) :
    Outcome :=
  if status ≠ errOk then
    let r := s.notifyContinuationCallbackResult env missionId status
    ⟨invalidRemoteParametersErr, r.1, r.2⟩
  else if !want.hasFlag Want.flagAbilityContinuation then ⟨invalidRemoteParametersErr, s, []⟩
  else
    let c := s.dschedContinuation
    let s := if !c.isInContinuationProgress missionId then
        { s with dschedContinuation := c.setTimeOut env.sendEvent missionId 0 continuationTimeout }
      else s
    match setWantForContinuation env want missionId with
    | .error result => ⟨result, s, []⟩
    | .ok newWant =>
      if s.dschedContinuation.isFreeInstall missionId then
        s.startRemoteFreeInstall env newWant callerUid defaultRequestCode accessToken none
      else s.startRemoteAbility env newWant callerUid defaultRequestCode accessToken

end DistributedSchedService

end DistributedSched

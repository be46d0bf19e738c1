import DistributedSched.Service.Continuation
import DistributedSched.Service.Offline

/-!
# Service — requests from remote devices

The functions that start an ability for a remote caller, and the stub that takes the requests
of other devices (`onRemoteRequest`).  A stub function rebuilds the caller info from what the
request carries, so the fields that a request leaves out have their defaults.  The requests of
the mission manager go to another component and are left out.

A free install runs in two calls: `startFreeInstallFromRemote` hands a callback with the
request to the ability manager, and `onInstallFinished` is that callback's.
-/

namespace DistributedSched

/-- `DmsFreeInstallCallback`: what a pending free install keeps of its request. -/
structure DmsFreeInstallCallback where
  taskId : Int
  info : FreeInstallInfo
deriving DecidableEq

/-- `HID_HAP`: the uid of the first application. -/
def hidHap : Int := 10000

/-! ### The caller info that a stub rebuilds -/

namespace CallerInfo

/-- Of a start or a free install. -/
def ofStart (c : CallerInfo) : CallerInfo :=
  { uid := c.uid, sourceDeviceId := c.sourceDeviceId, callerType := callerTypeHarmony,
    callerAppId := c.callerAppId, accessToken := c.accessToken }

/-- Of a result, which carries no access token. -/
def ofSendResult (c : CallerInfo) : CallerInfo :=
  { uid := c.uid, sourceDeviceId := c.sourceDeviceId, callerType := callerTypeHarmony,
    callerAppId := c.callerAppId }

/-- Of a connect. -/
def ofConnect (c : CallerInfo) : CallerInfo :=
  { uid := c.uid, pid := c.pid, sourceDeviceId := c.sourceDeviceId,
    callerType := callerTypeHarmony, callerAppId := c.callerAppId, accessToken := c.accessToken }

theorem ofConnect_callerType (c : CallerInfo) : c.ofConnect.callerType = callerTypeHarmony := rfl

/-- Of the death of a process. -/
def ofProcessDied (c : CallerInfo) : CallerInfo :=
  { uid := c.uid, pid := c.pid, sourceDeviceId := c.sourceDeviceId,
    callerType := callerTypeHarmony }

/-- Of a start by call. -/
def ofStartByCall (c : CallerInfo) : CallerInfo :=
  { uid := c.uid, pid := c.pid, sourceDeviceId := c.sourceDeviceId,
    callerAppId := c.callerAppId, accessToken := c.accessToken }

/-- Of a release. -/
def ofRelease (c : CallerInfo) : CallerInfo := { sourceDeviceId := c.sourceDeviceId }

end CallerInfo

namespace DistributedSchedService

variable (env : Env) (s : DistributedSchedService)

/-! ### Starting an ability -/

/-- `StartAbility`, with the calls it makes. -/
def startAbility (want : Want) (requestCode : Int) : Int × List Effect :=
  if env.amsConnect ≠ errOk then (env.amsConnect, [])
  else match env.activeUser with
    | none => (invalidParametersErr, [])
    | some userId =>
      (env.amsStartAbility want,
        [.ams (.startAbility want requestCode userId (want.getBoolParam Want.paramResvForResult
          false))])

def startAbilityFromRemote (want : Want) (requestCode : Int) (callerInfo : CallerInfo)
    (accountInfo : AccountInfo) : Outcome :=
  let deviceId := want.element.deviceId
  match env.checkedLocalIdFromRemote deviceId callerInfo.sourceDeviceId with
  | none => ⟨invalidRemoteParametersErr, s, []⟩
  | some _ =>
    let err := DistributedSchedPermission.checkDPermission env want callerInfo accountInfo deviceId
    if err ≠ errOk then ⟨err, s, []⟩
    else
      let r := startAbility env want requestCode
      ⟨r.1, s, r.2⟩

def sendResultFromRemote (want : Want) (requestCode : Int) (callerInfo : CallerInfo)
    (accountInfo : AccountInfo) (resultCode : Int) : Outcome :=
  let deviceId := want.getStringParam dmsSrcNetworkId
  let want := want.removeParam dmsSrcNetworkId
  match env.checkedLocalIdFromRemote deviceId callerInfo.sourceDeviceId with
  | none => ⟨invalidRemoteParametersErr, s, []⟩
  | some _ =>
    let err := DistributedSchedPermission.checkDPermission env want callerInfo accountInfo deviceId
    if err ≠ errOk then ⟨err, s, []⟩
    else if env.amsConnect ≠ errOk then ⟨env.amsConnect, s, []⟩
    else
      ⟨env.amsSendResultToAbility want, s,
        [.ams (.sendResultToAbility requestCode resultCode want)]⟩

/-! ### Free installs for a remote caller -/

/-- `StartFreeInstallFromRemote`, with the callback that is handed to the ability manager. -/
def startFreeInstallFromRemote (info : FreeInstallInfo) (taskId : Int) :
    Outcome × Option DmsFreeInstallCallback :=
  match env.checkedLocalIdFromRemote info.want.element.deviceId info.callerInfo.sourceDeviceId with
  | none => (⟨invalidRemoteParametersErr, s, []⟩, none)
  | some _ =>
    if env.amsConnect ≠ errOk then (⟨env.amsConnect, s, []⟩, none)
    else match env.activeUser with
      | none => (⟨invalidParametersErr, s, []⟩, none)
      | some userId =>
        (⟨env.amsFreeInstallAbilityFromRemote info.want, s,
            [.ams (.freeInstallAbilityFromRemote info.want userId info.requestCode)]⟩,
          some ⟨taskId, info⟩)

/-- `StartLocalAbility`. -/
def startLocalAbility (info : FreeInstallInfo) : Int × List Effect :=
  match env.localDeviceId with
  | none => (invalidRemoteParametersErr, [])
  | some localDeviceId =>
    let err := DistributedSchedPermission.checkDPermission env info.want info.callerInfo
      info.accountInfo localDeviceId
    if err ≠ errOk then (err, [])
    else startAbility env (info.want.removeFlags Want.flagInstallOnDemand) info.requestCode

/-- `HandleRemoteNotify`. -/
def handleRemoteNotify (info : FreeInstallInfo) (taskId resultCode : Int) : Int × List Effect :=
  let deviceId := info.callerInfo.sourceDeviceId
  if !env.getRemoteDms deviceId then (invalidParametersErr, [])
  else if taskId ≤ 0 then (invalidParametersErr, [])
  else
    let call := RemoteCall.notifyCompleteFreeInstallFromRemote taskId resultCode
    (env.remoteResult call, [.rpc deviceId call])

def notifyCompleteFreeInstall (info : FreeInstallInfo) (taskId resultCode : Int) : Outcome :=
  if taskId ≤ 0 then ⟨invalidParametersErr, s, []⟩
  else if resultCode ≠ errOk then
    let r := handleRemoteNotify env info taskId resultCode
    ⟨r.1, s, r.2⟩
  else
    let a := startLocalAbility env info
    let r := handleRemoteNotify env info taskId a.1
    ⟨r.1, s, a.2 ++ r.2⟩

/-- `DmsFreeInstallCallback::OnInstallFinished`: the want and the request code are what the
ability manager hands back. -/
def onInstallFinished (callback : DmsFreeInstallCallback) (want : Want)
    (requestCode resultCode : Int) : Outcome :=
  s.notifyCompleteFreeInstall env
    { callback.info with want := want, requestCode := requestCode } callback.taskId resultCode

/-! ### The stub -/

/-- `FREE_INSTLL_CALLING_APP_ID` and `FREE_INSTLL_CALLING_BUNDLENAMES` of the caller are put
into the want that is installed. -/
def freeInstallWant (info : FreeInstallInfo) : Want :=
  (info.want.setParam "freeInstallCallingAppId" (.string info.callerInfo.callerAppId)).setParam
    "freeInstallCallingBundleNames" (.stringArray info.callerInfo.bundleNames)

/-- A request of another device, with the free-install callback it leaves pending. -/
def onRemoteRequest (call : RemoteCall) : Outcome × Option DmsFreeInstallCallback :=
  -- never allow non-system uid for distributed request
  if hidHap ≤ env.callingUid then (⟨dmsPermissionDenied, s, []⟩, none)
  else match call with
    | .startAbilityFromRemote want requestCode callerInfo accountInfo =>
      (s.startAbilityFromRemote env want requestCode callerInfo.ofStart accountInfo, none)
    | .sendResultFromRemote want requestCode callerInfo accountInfo resultCode =>
      (s.sendResultFromRemote env want requestCode callerInfo.ofSendResult accountInfo resultCode,
        none)
    | .notifyContinuationResultFromRemote sessionId isSuccess =>
      (s.notifyContinuationResultFromRemote env sessionId isSuccess, none)
    | .connectAbilityFromRemote want connect callerInfo accountInfo =>
      (s.connectAbilityFromRemote env want connect callerInfo.ofConnect accountInfo, none)
    | .disconnectAbilityFromRemote connect uid sourceDeviceId =>
      (s.disconnectAbilityFromRemote env connect uid sourceDeviceId, none)
    | .notifyProcessDiedFromRemote callerInfo =>
      (s.notifyProcessDiedFromRemote env callerInfo.ofProcessDied, none)
    | .continueMission srcDeviceId dstDeviceId missionId callback wantParams =>
      if callback.isNone then (⟨env.errNullObject.1, s, []⟩, none)
      else (s.continueMission env srcDeviceId dstDeviceId missionId callback wantParams, none)
    | .startAbilityByCallFromRemote want connect callerInfo accountInfo =>
      (s.startAbilityByCallFromRemote env want connect callerInfo.ofStartByCall accountInfo, none)
    | .releaseAbilityFromRemote connect element callerInfo =>
      (s.releaseAbilityFromRemote env connect element callerInfo.ofRelease, none)
    | .startFreeInstallFromRemote info taskId =>
      s.startFreeInstallFromRemote env
        { want := freeInstallWant info, requestCode := info.requestCode,
          callerInfo := info.callerInfo.ofStart, accountInfo := info.accountInfo } taskId
    | .notifyCompleteFreeInstallFromRemote taskId resultCode =>
      (s.notifyCompleteFreeInstallFromRemote env taskId resultCode, none)

end DistributedSchedService

end DistributedSched

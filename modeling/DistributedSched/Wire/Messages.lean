import DistributedSched.Wire.Parcel

/-!
# Wire — proxy and stub

The five requests that carry an identity to another device, as `DistributedSchedProxy` writes
them (`SchedCall.write`) and as `DistributedSchedStub` reads them (`onRemoteRequest`).  A stub
function ends with the call that it makes of the service, or with an exit.  The reply is left
out: it carries the result back.
-/

namespace DistributedSched

open Reading

/-- A call of `IDistributedSched`.  Of a result, `extraInfoJson` is a field of the caller info,
`none` when it is discarded. -/
inductive SchedCall where
  | startAbilityFromRemote (want : Want) (abilityInfo : CompatibleAbilityInfo) (requestCode : Int)
      (callerInfo : CallerInfo) (accountInfo : AccountInfo)
  | sendResultFromRemote (want : Want) (requestCode : Int) (callerInfo : CallerInfo)
      (extraInfoJson : Option Json) (accountInfo : AccountInfo) (resultCode : Int)
  | connectAbilityFromRemote (want : Want) (abilityInfo : CompatibleAbilityInfo)
      (connect : Option RemoteObject) (callerInfo : CallerInfo) (accountInfo : AccountInfo)
  | startAbilityByCallFromRemote (want : Want) (connect : Option RemoteObject)
      (callerInfo : CallerInfo) (accountInfo : AccountInfo)
  | startFreeInstallFromRemote (info : FreeInstallInfo) (taskId : Int)

/-- The codes of the requests. -/
inductive SchedCode where
  | startAbilityFromRemote
  | sendResultFromRemote
  | connectAbilityFromRemote
  | startAbilityByCallFromRemote
  | startFreeInstallFromRemote
deriving DecidableEq

/-! ### The proxy -/

namespace DistributedSchedProxy

variable (lib : NlohmannJson)

/-- The extra info of a caller. -/
def tokenDocument (callerInfo : CallerInfo) : Json :=
  .object [(extroInfoJsonKeyAccessToken, .numberInteger callerInfo.accessToken)]

/-- The extra info of a free install. -/
def freeInstallDocument (info : FreeInstallInfo) : Json :=
  .object [(extroInfoJsonKeyAccessToken, .numberInteger info.callerInfo.accessToken),
    (extroInfoJsonKeyRequestCode, .numberInteger info.requestCode)]

def startAbilityFromRemote (want : Want) (abilityInfo : CompatibleAbilityInfo) (requestCode : Int)
    (callerInfo : CallerInfo) (accountInfo : AccountInfo) : List ParcelItem :=
  [.want want, .compatibleAbilityInfo abilityInfo, .int32 requestCode, .int32 callerInfo.uid,
    .string callerInfo.sourceDeviceId, .int32 accountInfo.accountType,
    .stringVector accountInfo.groupIdList, .string callerInfo.callerAppId,
    .string (lib.dump (tokenDocument callerInfo))]

/-- A discarded value is written as a text that is no document. -/
def sendResultFromRemote (want : Want) (requestCode : Int) (callerInfo : CallerInfo)
    (extraInfoJson : Option Json) (accountInfo : AccountInfo) (resultCode : Int) :
    List ParcelItem :=
  [.want want, .int32 requestCode, .int32 callerInfo.uid, .string callerInfo.sourceDeviceId,
    .int32 accountInfo.accountType, .stringVector accountInfo.groupIdList,
    .string callerInfo.callerAppId, .int32 resultCode,
    .string (extraInfoJson.elim "<discarded>" lib.dump)]

def connectAbilityFromRemote (want : Want) (abilityInfo : CompatibleAbilityInfo)
    (connect : RemoteObject) (callerInfo : CallerInfo) (accountInfo : AccountInfo) :
    List ParcelItem :=
  [.want want, .compatibleAbilityInfo abilityInfo, .remoteObject connect, .int32 callerInfo.uid,
    .int32 callerInfo.pid, .string callerInfo.sourceDeviceId, .int32 accountInfo.accountType,
    .stringVector accountInfo.groupIdList, .string callerInfo.callerAppId,
    .string (lib.dump (tokenDocument callerInfo))]

def startAbilityByCallFromRemote (want : Want) (connect : RemoteObject) (callerInfo : CallerInfo)
    (accountInfo : AccountInfo) : List ParcelItem :=
  [.remoteObject connect, .int32 callerInfo.uid, .int32 callerInfo.pid,
    .string callerInfo.sourceDeviceId, .int32 accountInfo.accountType,
    .stringVector accountInfo.groupIdList, .string callerInfo.callerAppId,
    .string (lib.dump (tokenDocument callerInfo)), .want want]

def startFreeInstallFromRemote (info : FreeInstallInfo) (taskId : Int) : List ParcelItem :=
  [.want info.want, .int32 info.callerInfo.uid, .string info.callerInfo.sourceDeviceId,
    .int32 info.accountInfo.accountType, .stringVector info.accountInfo.groupIdList,
    .string info.callerInfo.callerAppId, .int64 taskId,
    .want (({} : Want).setParam freeInstllCallingBundlenames
      (.stringArray info.callerInfo.bundleNames)),
    .string (lib.dump (freeInstallDocument info))]

end DistributedSchedProxy

namespace SchedCall

open DistributedSchedProxy in
/-- The message of a call; the proxy sends none when a connect object is missing. -/
def write (lib : NlohmannJson) : SchedCall → Option (SchedCode × List ParcelItem)
  | startAbilityFromRemote want abilityInfo requestCode callerInfo accountInfo =>
    some (.startAbilityFromRemote, .interfaceToken dmsInterfaceToken ::
      DistributedSchedProxy.startAbilityFromRemote lib want abilityInfo requestCode callerInfo
        accountInfo)
  | sendResultFromRemote want requestCode callerInfo extraInfoJson accountInfo resultCode =>
    some (.sendResultFromRemote, .interfaceToken dmsInterfaceToken ::
      DistributedSchedProxy.sendResultFromRemote lib want requestCode callerInfo extraInfoJson
        accountInfo resultCode)
  | connectAbilityFromRemote want abilityInfo connect callerInfo accountInfo =>
    connect.map fun connect => (.connectAbilityFromRemote, .interfaceToken dmsInterfaceToken ::
      DistributedSchedProxy.connectAbilityFromRemote lib want abilityInfo connect callerInfo
        accountInfo)
  | startAbilityByCallFromRemote want connect callerInfo accountInfo =>
    connect.map fun connect => (.startAbilityByCallFromRemote, .interfaceToken dmsInterfaceToken ::
      DistributedSchedProxy.startAbilityByCallFromRemote lib want connect callerInfo accountInfo)
  | startFreeInstallFromRemote info taskId =>
    some (.startFreeInstallFromRemote, .interfaceToken dmsInterfaceToken ::
      DistributedSchedProxy.startFreeInstallFromRemote lib info taskId)

end SchedCall

/-! ### The stub -/

namespace DistributedSchedStub

open StubM

variable (lib : NlohmannJson) (env : StubEnv)

def startAbilityFromRemoteInner : StubM SchedCall := do
  checkCallingUid env
  let want ← readParcelable env ParcelItem.readWant
  let abilityInfo ← readParcelable env ParcelItem.readCompatibleAbilityInfo
  let requestCode ← readHelper env ParcelItem.readInt32
  let uid ← readHelper env ParcelItem.readInt32
  let sourceDeviceId ← readHelper env ParcelItem.readString
  let accountInfo ← readAccountInfo env
  let callerAppId ← readD ParcelItem.readString ""
  let extraInfo ← readD ParcelItem.readString ""
  let accessToken ← parseAccessToken lib extraInfo
  return .startAbilityFromRemote want abilityInfo requestCode
    { uid, sourceDeviceId, callerType := callerTypeHarmony, callerAppId, accessToken } accountInfo

def sendResultFromRemoteInner : StubM SchedCall := do
  checkCallingUid env
  let want ← readParcelable env ParcelItem.readWant
  let requestCode ← readHelper env ParcelItem.readInt32
  let uid ← readHelper env ParcelItem.readInt32
  let sourceDeviceId ← readHelper env ParcelItem.readString
  let accountInfo ← readAccountInfo env
  let callerAppId ← readD ParcelItem.readString ""
  let resultCode ← readHelper env ParcelItem.readInt32
  let extraInfo ← readD ParcelItem.readString ""
  return .sendResultFromRemote want requestCode
    { uid, sourceDeviceId, callerType := callerTypeHarmony, callerAppId } (lib.parse extraInfo)
    accountInfo resultCode

def connectAbilityFromRemoteInner : StubM SchedCall := do
  checkCallingUid env
  let want ← readParcelable env ParcelItem.readWant
  let abilityInfo ← readParcelable env ParcelItem.readCompatibleAbilityInfo
  let connect ← readRemoteObject
  let uid ← readHelper env ParcelItem.readInt32
  let pid ← readHelper env ParcelItem.readInt32
  let sourceDeviceId ← readHelper env ParcelItem.readString
  let accountInfo ← readAccountInfo env
  let callerAppId ← readD ParcelItem.readString ""
  let extraInfo ← readD ParcelItem.readString ""
  let accessToken ← parseAccessToken lib extraInfo
  return .connectAbilityFromRemote want abilityInfo connect
    { uid, pid, sourceDeviceId, callerType := callerTypeHarmony, callerAppId, accessToken }
    accountInfo

def startAbilityByCallFromRemoteInner : StubM SchedCall := do
  checkCallingUid env
  let connect ← readRemoteObject
  let uid ← readHelper env ParcelItem.readInt32
  let pid ← readHelper env ParcelItem.readInt32
  let sourceDeviceId ← readHelper env ParcelItem.readString
  let accountInfo ← readAccountInfo env
  let callerAppId ← readD ParcelItem.readString ""
  let extraInfo ← readD ParcelItem.readString ""
  if extraInfo = "" then throw (.returned env.errNullObject.1)
  else
    let accessToken ← parseAccessToken lib extraInfo
    let want ← readParcelable env ParcelItem.readWant
    return .startAbilityByCallFromRemote want connect
      { uid, pid, sourceDeviceId, callerAppId, accessToken } accountInfo

/-- The access token and the request code in the extra info of a free install. -/
def parseFreeInstall (extraInfo : String) : StubM (Nat × Int) :=
  match lib.parse extraInfo with
  | none => pure (0, defaultRequestCode)
  | some extraInfoJson => do
    let accessToken ← extraInfoJson.subscript extroInfoJsonKeyAccessToken
    let accessToken ← accessToken.toUint32
    if extraInfoJson.contains extroInfoJsonKeyRequestCode then
      let requestCode ← extraInfoJson.subscript extroInfoJsonKeyRequestCode
      let requestCode ← requestCode.toInt32
      return (accessToken, requestCode)
    else return (accessToken, defaultRequestCode)

def startFreeInstallFromRemoteInner : StubM SchedCall := do
  checkCallingUid env
  let want ← readParcelable env ParcelItem.readWant
  let uid ← readHelper env ParcelItem.readInt32
  let sourceDeviceId ← readHelper env ParcelItem.readString
  let accountInfo ← readAccountInfo env
  let callerAppId ← readD ParcelItem.readString ""
  let taskId ← readHelper env ParcelItem.readInt64
  let cmpWant ← readWant
  let extraInfo ← readD ParcelItem.readString ""
  let r ← parseFreeInstall lib extraInfo
  -- nobody has looked whether the second want is there
  let cmpWant ← deref cmpWant
  let installed := (want.setParam freeInstllCallingAppId (.string callerAppId)).setParam
    freeInstllCallingBundlenames
    (.stringArray (cmpWant.getStringArrayParam freeInstllCallingBundlenames))
  return .startFreeInstallFromRemote
    { want := installed, requestCode := r.2, accountInfo,
      callerInfo :=
        { uid, sourceDeviceId, callerType := callerTypeHarmony, callerAppId, accessToken := r.1 } }
    taskId

/-- `remoteFuncsMap_`. -/
def remoteFuncs : SchedCode → StubM SchedCall
  | .startAbilityFromRemote => startAbilityFromRemoteInner lib env
  | .sendResultFromRemote => sendResultFromRemoteInner lib env
  | .connectAbilityFromRemote => connectAbilityFromRemoteInner lib env
  | .startAbilityByCallFromRemote => startAbilityByCallFromRemoteInner lib env
  | .startFreeInstallFromRemote => startFreeInstallFromRemoteInner lib env

def onRemoteRequest (code : SchedCode) : StubM SchedCall := do
  enforceInterfaceToken
  remoteFuncs lib env code

end DistributedSchedStub

/-! ### The death of a process -/

/-- `NotifyProcessDiedFromRemote` of the proxy: the message. -/
def DistributedSchedProxy.notifyProcessDiedFromRemote (callerInfo : CallerInfo) :
    List ParcelItem :=
  [.interfaceToken dmsInterfaceToken, .int32 callerInfo.uid, .int32 callerInfo.pid,
    .string callerInfo.sourceDeviceId]

namespace DistributedSchedStub

open StubM

/-- The caller info that `NotifyProcessDiedFromRemote` is called with. -/
def notifyProcessDiedFromRemoteInner (env : StubEnv) : StubM CallerInfo := do
  enforceInterfaceToken
  checkCallingUid env
  let uid ← readHelper env ParcelItem.readInt32
  let pid ← readHelper env ParcelItem.readInt32
  let sourceDeviceId ← readHelper env ParcelItem.readString
  return { uid, pid, sourceDeviceId, callerType := callerTypeHarmony }

theorem notifyProcessDiedFromRemoteInner_reads {env : StubEnv} (h : env.callingUid < hidHap)
    (callerInfo : CallerInfo) :
    notifyProcessDiedFromRemoteInner env
        (DistributedSchedProxy.notifyProcessDiedFromRemote callerInfo) =
      .ok (callerInfo.ofProcessDied, []) := by
  have hu : checkCallingUid env = pure () := if_pos h
  unfold notifyProcessDiedFromRemoteInner
  rw [hu]
  rfl

end DistributedSchedStub

end DistributedSched

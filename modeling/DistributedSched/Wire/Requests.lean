import DistributedSched.Wire.Lists
import DistributedSched.Wire.Messages

/-!
# Wire — requests and replies

`IDistributedSched` by the bytes of its parcels.  `DistributedSchedProxy` writes a request and
reads the reply; `DistributedSchedStub` reads the request, calls the service with it, and writes
the reply.  The five requests with extra info are those of `SchedCode`; these are the others.

* `Bytes` of the proxy and of the stub: the two sides of each request.
* `onRemoteRequest`: what a stub makes of any bytes that come with a code.
* `rpc`: a call through both, to a service that is a parameter.
-/

namespace DistributedSched

open Reading Coding

/-- What parcels of requests carry besides. -/
structure SchedPrimitives extends ParcelPrimitives where
  uint32 : Codec UInt8 Nat
  string : Codec UInt8 String
  stringVector : Codec UInt8 (List String)
  interfaceToken : Codec UInt8 String
  /-- a read that fails gives `nullptr` -/
  remoteObject : Codec UInt8 RemoteObject

/-- They are read as they are written, and nothing is read where nothing was written. -/
structure SchedPrimitives.Lawful (p : SchedPrimitives) : Prop extends
    p.toParcelPrimitives.Lawful where
  int32_nil : (p.int32.read []).1 = none
  uint32 : ∀ a, p.uint32.RoundTrips a
  string : ∀ a, p.string.RoundTrips a
  stringVector : ∀ a, p.stringVector.RoundTrips a
  interfaceToken : ∀ a, p.interfaceToken.RoundTrips a
  remoteObject : ∀ a, p.remoteObject.RoundTrips a

/-- The classes of the parcelables; `σ` is `AAFwk::MissionSnapshot`. -/
structure SchedLibrary (σ : Type) extends ListLibrary where
  wantParams : Parcelable (Map String WantParam)
  missionSnapshot : Parcelable σ

structure SchedLibrary.Lawful {σ : Type} (lib : SchedLibrary σ) : Prop extends
    lib.toListLibrary.Lawful where
  wantParams : ∀ a, lib.wantParams.RoundTrips a
  missionSnapshot : ∀ a, lib.missionSnapshot.RoundTrips a

/-- A caller with the other fields that cross. -/
structure VersionedCaller extends CallerInfo where
  duid : Int := -1
  dmsVersion : Int := -1
deriving DecidableEq

/-- `VERSION`. -/
def dmsVersionBase : Int := 200

inductive SchedRequest where
  | startRemoteAbility (want : Want) (callerUid requestCode : Int) (accessToken : Nat)
  | continueMission (srcDeviceId dstDeviceId : String) (missionId : Int)
      (callback : Option RemoteObject) (wantParams : Map String WantParam)
  | startContinuation (want : Want) (missionId callerUid status : Int) (accessToken : Nat)
  | notifyCompleteContinuation (devId : List UInt16) (sessionId : Int) (isSuccess : Bool)
  | connectRemoteAbility (want : Want) (connect : Option RemoteObject) (callerUid callerPid : Int)
      (accessToken : Nat)
  | disconnectRemoteAbility (connect : Option RemoteObject) (callerUid : Int) (accessToken : Nat)
  | getRemoteMissionSnapshotInfo (networkId : String) (missionId : Int)
  | registerMissionListener (devId : List UInt16) (obj : Option RemoteObject)
  | unRegisterMissionListener (devId : List UInt16) (obj : Option RemoteObject)
  | getMissionInfos (deviceId : String) (numMissions : Int)
  | startSyncRemoteMissions (devId : String) (fixConflict : Bool) (tag : Int)
  | stopSyncRemoteMissions (devId : String)
  | startRemoteAbilityByCall (want : Want) (connect : Option RemoteObject)
      (callerUid callerPid : Int) (accessToken : Nat)
  | releaseRemoteAbility (connect : Option RemoteObject) (element : ElementName)
  | registerDistributedComponentListener (callback : Option RemoteObject)
  | getDistributedComponentList
  | startRemoteFreeInstall (want : Want) (callerUid requestCode : Int) (accessToken : Nat)
      (callback : Option RemoteObject)
  | notifyContinuationResultFromRemote (sessionId : Int) (isSuccess : Bool)
  | disconnectAbilityFromRemote (connect : Option RemoteObject) (uid : Int)
      (sourceDeviceId : String)
  | notifyProcessDiedFromRemote (callerInfo : CallerInfo)
  | startSyncMissionsFromRemote (callerInfo : VersionedCaller)
  | stopSyncMissionsFromRemote (callerInfo : VersionedCaller)
  | notifyMissionsChangedFromRemote (missionInfos : List DstbMissionInfo)
      (callerInfo : VersionedCaller)
  | releaseAbilityFromRemote (connect : Option RemoteObject) (element : ElementName)
      (callerInfo : CallerInfo)
  | notifyCompleteFreeInstallFromRemote (taskId resultCode : Int)

/-- The codes of the requests. -/
inductive RequestCode where
  | startRemoteAbility | continueMission | startContinuation | notifyCompleteContinuation
  | connectRemoteAbility | disconnectRemoteAbility | getRemoteMissionSnapshotInfo
  | registerMissionListener | unRegisterMissionListener | getMissionInfos | startSyncMissions
  | stopSyncMissions | startRemoteAbilityByCall | releaseRemoteAbility
  | registerDistributedComponentListener | getDistributedComponentList | startRemoteFreeInstall
  | notifyContinuationResultFromRemote | disconnectAbilityFromRemote | notifyProcessDiedFromRemote
  | startSyncMissionsFromRemote | stopSyncMissionsFromRemote | notifyMissionsChangedFromRemote
  | releaseAbilityFromRemote | notifyCompleteFreeInstallFromRemote
deriving DecidableEq

def SchedRequest.code : SchedRequest → RequestCode
  | startRemoteAbility .. => .startRemoteAbility
  | continueMission .. => .continueMission
  | startContinuation .. => .startContinuation
  | notifyCompleteContinuation .. => .notifyCompleteContinuation
  | connectRemoteAbility .. => .connectRemoteAbility
  | disconnectRemoteAbility .. => .disconnectRemoteAbility
  | getRemoteMissionSnapshotInfo .. => .getRemoteMissionSnapshotInfo
  | registerMissionListener .. => .registerMissionListener
  | unRegisterMissionListener .. => .unRegisterMissionListener
  | getMissionInfos .. => .getMissionInfos
  | startSyncRemoteMissions .. => .startSyncMissions
  | stopSyncRemoteMissions .. => .stopSyncMissions
  | startRemoteAbilityByCall .. => .startRemoteAbilityByCall
  | releaseRemoteAbility .. => .releaseRemoteAbility
  | registerDistributedComponentListener .. => .registerDistributedComponentListener
  | getDistributedComponentList => .getDistributedComponentList
  | startRemoteFreeInstall .. => .startRemoteFreeInstall
  | notifyContinuationResultFromRemote .. => .notifyContinuationResultFromRemote
  | disconnectAbilityFromRemote .. => .disconnectAbilityFromRemote
  | notifyProcessDiedFromRemote .. => .notifyProcessDiedFromRemote
  | startSyncMissionsFromRemote .. => .startSyncMissionsFromRemote
  | stopSyncMissionsFromRemote .. => .stopSyncMissionsFromRemote
  | notifyMissionsChangedFromRemote .. => .notifyMissionsChangedFromRemote
  | releaseAbilityFromRemote .. => .releaseAbilityFromRemote
  | notifyCompleteFreeInstallFromRemote .. => .notifyCompleteFreeInstallFromRemote

/-- What a request is answered: the result, and what it gives back besides. -/
structure SchedAnswer (σ : Type) where
  result : Int := errOk
  missionInfos : List MissionInfo := []
  dstbMissionInfos : List DstbMissionInfo := []
  missionSnapshot : Option σ := none
  distributedComponents : List String := []

/-- What the two sides see besides the parcels. -/
structure RequestEnv extends StubEnv where
  /-- `Remote() != nullptr` in the proxy -/
  remote : Bool := true
  /-- `IPCSkeleton::IsLocalCalling` in the stub -/
  isLocalCalling : Bool := true
  /-- `IsFoundationCall` -/
  isFoundationCall : Bool := true
  /-- `CheckPermission(accessToken, PERMISSION_DISTRIBUTED_DATASYNC)` -/
  checkPermission : Nat → Int := fun _ => errOk
  getUuidByNetworkId : String → String := fun _ => ""
  errInvalidValue : Failure := ⟨3, by decide⟩
  /-- what `IPCObjectStub::OnRemoteRequest` returns for a code that it does not know -/
  errUnknownTransaction : Failure := ⟨4, by decide⟩
  /-- what `SendRequest` returns when the other process has died -/
  errDeadObject : Failure := ⟨5, by decide⟩

/-! ### The proxy -/

/-- A write, and the code that a proxy function returns when it fails. -/
abbrev Write := Failure × Option (List UInt8)

/-- One after another, unless one fails. -/
def writeAll : List Write → Except Int (List UInt8)
  | [] => .ok []
  | (code, none) :: _ => .error code.1
  | (_, some bytes) :: ws =>
    match writeAll ws with
    | .error code => .error code
    | .ok rest => .ok (bytes ++ rest)

section functions

variable (p : SchedPrimitives) {σ : Type} (lib : SchedLibrary σ) (env : RequestEnv)

namespace DistributedSchedProxy.Bytes

/-- `PARCEL_WRITE_HELPER`. -/
def helper {α : Type} (c : Codec UInt8 α) (a : α) : Write := (env.errFlattenObject, c.write a)

def helperParcelable {α : Type} (c : Parcelable α) (a : α) : Write :=
  (env.errFlattenObject, (p.parcelable c).write (some a))

/-- The writes of a request with an object that must not be null. -/
def withObject (object : Option RemoteObject) (ws : RemoteObject → List Write) :
    Except Int (List Write) :=
  match object with
  | none => .error env.errNullObject.1
  | some object => .ok (ws object)

def startRemoteAbility (want : Want) (callerUid requestCode : Int) (accessToken : Nat) :
    Except Int (List Write) :=
  .ok [helperParcelable p env lib.want want, helper env p.int32 callerUid,
    helper env p.int32 requestCode, helper env p.uint32 accessToken]

def continueMission (srcDeviceId dstDeviceId : String) (missionId : Int)
    (callback : Option RemoteObject) (wantParams : Map String WantParam) :
    Except Int (List Write) :=
  withObject env callback fun callback =>
    [helper env p.string srcDeviceId, helper env p.string dstDeviceId,
      helper env p.int32 missionId, helper env p.remoteObject callback,
      helperParcelable p env lib.wantParams wantParams]

def startContinuation (want : Want) (missionId callerUid status : Int) (accessToken : Nat) :
    Except Int (List Write) :=
  .ok [helperParcelable p env lib.want want, helper env p.int32 missionId,
    helper env p.int32 callerUid, helper env p.int32 status, helper env p.uint32 accessToken]

def notifyCompleteContinuation (devId : List UInt16) (sessionId : Int) (isSuccess : Bool) :
    Except Int (List Write) :=
  .ok [helper env p.string16 devId, helper env p.int32 sessionId, helper env p.bool isSuccess]

def connectRemoteAbility (want : Want) (connect : Option RemoteObject) (callerUid callerPid : Int)
    (accessToken : Nat) : Except Int (List Write) :=
  withObject env connect fun connect =>
    [helperParcelable p env lib.want want, helper env p.remoteObject connect,
      helper env p.int32 callerUid, helper env p.int32 callerPid, helper env p.uint32 accessToken]

def disconnectRemoteAbility (connect : Option RemoteObject) (callerUid : Int)
    (accessToken : Nat) : Except Int (List Write) :=
  withObject env connect fun connect =>
    [helper env p.remoteObject connect, helper env p.int32 callerUid,
      helper env p.uint32 accessToken]

def getRemoteMissionSnapshotInfo (networkId : String) (missionId : Int) :
    Except Int (List Write) :=
  if networkId = "" then .error env.errNullObject.1
  else if missionId < 0 then .error invalidParametersErr
  else .ok [helper env p.string networkId, helper env p.int32 missionId]

/-- Nobody looks whether the listener is null, but then the write fails. -/
def registerMissionListener (devId : List UInt16) (obj : Option RemoteObject) :
    Except Int (List Write) :=
  .ok [helper env p.string16 devId, (env.errFlattenObject, obj.bind p.remoteObject.write)]

def unRegisterMissionListener (devId : List UInt16) (obj : Option RemoteObject) :
    Except Int (List Write) :=
  .ok [helper env p.string16 devId, (env.errFlattenObject, obj.bind p.remoteObject.write)]

def getMissionInfos (deviceId : String) (numMissions : Int) : Except Int (List Write) :=
  .ok [helper env p.string16 (lib.str8ToStr16 deviceId), helper env p.int32 numMissions]

def startSyncRemoteMissions (devId : String) (fixConflict : Bool) (tag : Int) :
    Except Int (List Write) :=
  .ok [helper env p.string16 (lib.str8ToStr16 devId), helper env p.bool fixConflict,
    helper env p.int64 tag]

def stopSyncRemoteMissions (devId : String) : Except Int (List Write) :=
  .ok [helper env p.string16 (lib.str8ToStr16 devId)]

def startRemoteAbilityByCall (want : Want) (connect : Option RemoteObject)
    (callerUid callerPid : Int) (accessToken : Nat) : Except Int (List Write) :=
  withObject env connect fun connect =>
    [helperParcelable p env lib.want want, helper env p.remoteObject connect,
      helper env p.int32 callerUid, helper env p.int32 callerPid, helper env p.uint32 accessToken]

def releaseRemoteAbility (connect : Option RemoteObject) (element : ElementName) :
    Except Int (List Write) :=
  withObject env connect fun connect =>
    [helper env p.remoteObject connect,
      (env.errInvalidValue, (p.parcelable lib.elementName).write (some element))]

def registerDistributedComponentListener (callback : Option RemoteObject) :
    Except Int (List Write) :=
  withObject env callback fun callback => [helper env p.remoteObject callback]

def getDistributedComponentList : Except Int (List Write) := .ok []

def startRemoteFreeInstall (want : Want) (callerUid requestCode : Int) (accessToken : Nat)
    (callback : Option RemoteObject) : Except Int (List Write) :=
  withObject env callback fun callback =>
    [helperParcelable p env lib.want want, helper env p.int32 callerUid,
      helper env p.int32 requestCode, helper env p.uint32 accessToken,
      helper env p.remoteObject callback]

def notifyContinuationResultFromRemote (sessionId : Int) (isSuccess : Bool) :
    Except Int (List Write) :=
  .ok [helper env p.int32 sessionId, helper env p.bool isSuccess]

def disconnectAbilityFromRemote (connect : Option RemoteObject) (uid : Int)
    (sourceDeviceId : String) : Except Int (List Write) :=
  withObject env connect fun connect =>
    [helper env p.remoteObject connect, helper env p.int32 uid,
      helper env p.string sourceDeviceId]

def notifyProcessDiedFromRemote (callerInfo : CallerInfo) : Except Int (List Write) :=
  .ok [helper env p.int32 callerInfo.uid, helper env p.int32 callerInfo.pid,
    helper env p.string callerInfo.sourceDeviceId]

def callerInfoMarshalling (callerInfo : VersionedCaller) : List Write :=
  [helper env p.int32 callerInfo.uid, helper env p.int32 callerInfo.pid,
    helper env p.int32 callerInfo.callerType, helper env p.string callerInfo.sourceDeviceId,
    helper env p.int32 callerInfo.duid, helper env p.string callerInfo.callerAppId,
    helper env p.int32 callerInfo.dmsVersion]

def startSyncMissionsFromRemote (callerInfo : VersionedCaller) : Except Int (List Write) :=
  .ok (callerInfoMarshalling p env callerInfo)

def stopSyncMissionsFromRemote (callerInfo : VersionedCaller) : Except Int (List Write) :=
  .ok (callerInfoMarshalling p env callerInfo)

def notifyMissionsChangedFromRemote (missionInfos : List DstbMissionInfo)
    (callerInfo : VersionedCaller) : Except Int (List Write) :=
  .ok [helper env p.int32 callerInfo.dmsVersion,
    (env.errFlattenObject, writeDstbMissionInfosToParcel p.toParcelPrimitives lib.toListLibrary
      missionInfos),
    helper env p.string callerInfo.sourceDeviceId, helper env p.int32 callerInfo.uid,
    helper env p.int32 callerInfo.pid, helper env p.int32 callerInfo.dmsVersion]

def releaseAbilityFromRemote (connect : Option RemoteObject) (element : ElementName)
    (callerInfo : CallerInfo) : Except Int (List Write) :=
  withObject env connect fun connect =>
    [helper env p.remoteObject connect,
      (env.errInvalidValue, (p.parcelable lib.elementName).write (some element)),
      helper env p.string callerInfo.sourceDeviceId, helper env p.string ""]

def notifyCompleteFreeInstallFromRemote (taskId resultCode : Int) : Except Int (List Write) :=
  .ok [helper env p.int64 taskId, helper env p.int32 resultCode]

end DistributedSchedProxy.Bytes

open DistributedSchedProxy in
/-- What follows the interface token, unless the proxy gives up before it writes. -/
def SchedRequest.writes : SchedRequest → Except Int (List Write)
  | startRemoteAbility want callerUid requestCode accessToken =>
    Bytes.startRemoteAbility p lib env want callerUid requestCode accessToken
  | continueMission srcDeviceId dstDeviceId missionId callback wantParams =>
    Bytes.continueMission p lib env srcDeviceId dstDeviceId missionId callback wantParams
  | startContinuation want missionId callerUid status accessToken =>
    Bytes.startContinuation p lib env want missionId callerUid status accessToken
  | notifyCompleteContinuation devId sessionId isSuccess =>
    Bytes.notifyCompleteContinuation p env devId sessionId isSuccess
  | connectRemoteAbility want connect callerUid callerPid accessToken =>
    Bytes.connectRemoteAbility p lib env want connect callerUid callerPid accessToken
  | disconnectRemoteAbility connect callerUid accessToken =>
    Bytes.disconnectRemoteAbility p env connect callerUid accessToken
  | getRemoteMissionSnapshotInfo networkId missionId =>
    Bytes.getRemoteMissionSnapshotInfo p env networkId missionId
  | registerMissionListener devId obj => Bytes.registerMissionListener p env devId obj
  | unRegisterMissionListener devId obj => Bytes.unRegisterMissionListener p env devId obj
  | getMissionInfos deviceId numMissions => Bytes.getMissionInfos p lib env deviceId numMissions
  | startSyncRemoteMissions devId fixConflict tag =>
    Bytes.startSyncRemoteMissions p lib env devId fixConflict tag
  | stopSyncRemoteMissions devId => Bytes.stopSyncRemoteMissions p lib env devId
  | startRemoteAbilityByCall want connect callerUid callerPid accessToken =>
    Bytes.startRemoteAbilityByCall p lib env want connect callerUid callerPid accessToken
  | releaseRemoteAbility connect element => Bytes.releaseRemoteAbility p lib env connect element
  | registerDistributedComponentListener callback =>
    Bytes.registerDistributedComponentListener p env callback
  | getDistributedComponentList => Bytes.getDistributedComponentList
  | startRemoteFreeInstall want callerUid requestCode accessToken callback =>
    Bytes.startRemoteFreeInstall p lib env want callerUid requestCode accessToken callback
  | notifyContinuationResultFromRemote sessionId isSuccess =>
    Bytes.notifyContinuationResultFromRemote p env sessionId isSuccess
  | disconnectAbilityFromRemote connect uid sourceDeviceId =>
    Bytes.disconnectAbilityFromRemote p env connect uid sourceDeviceId
  | notifyProcessDiedFromRemote callerInfo => Bytes.notifyProcessDiedFromRemote p env callerInfo
  | startSyncMissionsFromRemote callerInfo => Bytes.startSyncMissionsFromRemote p env callerInfo
  | stopSyncMissionsFromRemote callerInfo => Bytes.stopSyncMissionsFromRemote p env callerInfo
  | notifyMissionsChangedFromRemote missionInfos callerInfo =>
    Bytes.notifyMissionsChangedFromRemote p lib env missionInfos callerInfo
  | releaseAbilityFromRemote connect element callerInfo =>
    Bytes.releaseAbilityFromRemote p lib env connect element callerInfo
  | notifyCompleteFreeInstallFromRemote taskId resultCode =>
    Bytes.notifyCompleteFreeInstallFromRemote p env taskId resultCode

/-- The parcel of a request, or the code that the proxy returns. -/
def SchedRequest.write (request : SchedRequest) : Except Int (List UInt8) :=
  match request.writes p lib env with
  | .error code => .error code
  | .ok ws =>
    if !env.remote then .error env.errNullObject.1
    else writeAll (DistributedSchedProxy.Bytes.helper env p.interfaceToken dmsInterfaceToken :: ws)

/-! ### The stub -/

/-- A function of the stub, as far as the call of the service. -/
abbrev RequestM (α : Type) := Reader UInt8 StubExit α

namespace DistributedSchedStub.Bytes

/-- `IsFoundationCall`. -/
def isFoundationCall : RequestM Unit :=
  if env.isFoundationCall then pure () else throw (.returned dmsPermissionDenied)

def checkCallingUid : RequestM Unit :=
  if env.callingUid < hidHap then pure () else throw (.returned dmsPermissionDenied)

def checkPermission (accessToken : Nat) : RequestM Unit :=
  if env.checkPermission accessToken ≠ errOk then throw (.returned dmsPermissionDenied)
  else pure ()

/-- The check of `ContinueMissionInner`. -/
def checkContinueMission : RequestM Unit :=
  if (env.isLocalCalling && !env.isFoundationCall) ||
      (!env.isLocalCalling && !decide (env.callingUid < hidHap)) then
    throw (.returned dmsPermissionDenied)
  else pure ()

/-- `PARCEL_READ_HELPER`. -/
def readHelper {α : Type} (c : Codec UInt8 α) : RequestM α :=
  c.readOr (.returned env.errFlattenObject.1)

/-- `ReadParcelable`, and `code` when it gives `nullptr`. -/
def readParcelable {α : Type} (code : Int) (c : Parcelable α) : RequestM α := do
  let object ← (p.parcelable c).readD none
  match object with
  | none => throw (.returned code)
  | some a => return a

def readWant : RequestM Want := readParcelable p env.errNullObject.1 lib.want

/-- `ReadRemoteObject`. -/
def readRemoteObject : RequestM (Option RemoteObject) := fun s => .ok (p.remoteObject.read s)

/-- `ReadRemoteObject`, and `code` when it gives `nullptr`. -/
def readObject (code : Int) : RequestM RemoteObject := do
  let object ← readRemoteObject p
  match object with
  | none => throw (.returned code)
  | some object => return object

/-- A text that must not be empty. -/
def readDevId (code : Int) : RequestM (List UInt16) := do
  let devId ← p.string16.readD []
  if devId = [] then throw (.returned code) else return devId

def startRemoteAbilityInner : RequestM SchedRequest := do
  isFoundationCall env
  let want ← readWant p lib env
  let callerUid ← readHelper env p.int32
  let requestCode ← readHelper env p.int32
  let accessToken ← readHelper env p.uint32
  checkPermission env accessToken
  return .startRemoteAbility want callerUid requestCode accessToken

def continueMissionInner : RequestM SchedRequest := do
  checkContinueMission env
  let srcDevId ← readHelper env p.string
  let dstDevId ← readHelper env p.string
  let missionId ← readHelper env p.int32
  let callback ← readObject p env.errNullObject.1
  let wantParams ← readParcelable p env.errNullObject.1 lib.wantParams
  return .continueMission srcDevId dstDevId missionId (some callback) wantParams

/-- Three numbers are not checked. -/
def startContinuationInner : RequestM SchedRequest := do
  isFoundationCall env
  let want ← readWant p lib env
  let missionId ← p.int32.readD 0
  let callerUid ← p.int32.readD 0
  let status ← p.int32.readD 0
  let accessToken ← readHelper env p.uint32
  checkPermission env accessToken
  return .startContinuation want missionId callerUid status accessToken

def notifyCompleteContinuationInner : RequestM SchedRequest := do
  isFoundationCall env
  let devId ← readDevId p invalidParametersErr
  let sessionId ← readHelper env p.int32
  let continuationResult ← readHelper env p.bool
  return .notifyCompleteContinuation devId sessionId continuationResult

def notifyContinuationResultFromRemoteInner : RequestM SchedRequest := do
  checkCallingUid env
  let sessionId ← readHelper env p.int32
  let continuationResult ← readHelper env p.bool
  return .notifyContinuationResultFromRemote sessionId continuationResult

def connectRemoteAbilityInner : RequestM SchedRequest := do
  isFoundationCall env
  let want ← readWant p lib env
  let connect ← readRemoteObject p
  let callerUid ← readHelper env p.int32
  let callerPid ← readHelper env p.int32
  let accessToken ← readHelper env p.uint32
  checkPermission env accessToken
  return .connectRemoteAbility want connect callerUid callerPid accessToken

def disconnectRemoteAbilityInner : RequestM SchedRequest := do
  isFoundationCall env
  let connect ← readRemoteObject p
  let callerUid ← readHelper env p.int32
  let accessToken ← readHelper env p.uint32
  checkPermission env accessToken
  return .disconnectRemoteAbility connect callerUid accessToken

def disconnectAbilityFromRemoteInner : RequestM SchedRequest := do
  checkCallingUid env
  let connect ← readRemoteObject p
  let uid ← readHelper env p.int32
  let sourceDeviceId ← readHelper env p.string
  return .disconnectAbilityFromRemote connect uid sourceDeviceId

def notifyProcessDiedFromRemoteInner : RequestM SchedRequest := do
  checkCallingUid env
  let uid ← readHelper env p.int32
  let pid ← readHelper env p.int32
  let sourceDeviceId ← readHelper env p.string
  return .notifyProcessDiedFromRemote
    { uid, pid, sourceDeviceId, callerType := callerTypeHarmony }

def getMissionInfosInner : RequestM SchedRequest := do
  isFoundationCall env
  let deviceId ← p.string16.readD []
  let numMissions ← readHelper env p.int32
  return .getMissionInfos (lib.str16ToStr8 deviceId) numMissions

def getRemoteMissionSnapshotInfoInner : RequestM SchedRequest := do
  isFoundationCall env
  let networkId ← p.string.readD ""
  if networkId = "" then throw (.returned env.errFlattenObject.1)
  else
    let missionId ← readHelper env p.int32
    if missionId < 0 then throw (.returned invalidParametersErr)
    else return .getRemoteMissionSnapshotInfo networkId missionId

def registerMissionListenerInner : RequestM SchedRequest := do
  isFoundationCall env
  let devId ← readDevId p env.errFlattenObject.1
  let missionChangedListener ← readObject p env.errFlattenObject.1
  return .registerMissionListener devId (some missionChangedListener)

def unRegisterMissionListenerInner : RequestM SchedRequest := do
  isFoundationCall env
  let devId ← readDevId p env.errFlattenObject.1
  let missionChangedListener ← readObject p env.errFlattenObject.1
  return .unRegisterMissionListener devId (some missionChangedListener)

def callerInfoUnmarshalling : RequestM VersionedCaller := do
  let uid ← readHelper env p.int32
  let pid ← readHelper env p.int32
  let callerType ← readHelper env p.int32
  let sourceDeviceId ← readHelper env p.string
  let duid ← readHelper env p.int32
  let callerAppId ← readHelper env p.string
  let dmsVersion ← readHelper env p.int32
  return { uid, pid, callerType, sourceDeviceId, duid, callerAppId, dmsVersion }

def startSyncMissionsFromRemoteInner : RequestM SchedRequest := do
  checkCallingUid env
  let callerInfo ← callerInfoUnmarshalling p env
  return .startSyncMissionsFromRemote callerInfo

def stopSyncRemoteMissionsInner : RequestM SchedRequest := do
  isFoundationCall env
  let devId ← readDevId p env.errFlattenObject.1
  return .stopSyncRemoteMissions (lib.str16ToStr8 devId)

def stopSyncMissionsFromRemoteInner : RequestM SchedRequest := do
  checkCallingUid env
  let callerInfo ← callerInfoUnmarshalling p env
  return .stopSyncMissionsFromRemote callerInfo

/-- `ReadDstbMissionInfosFromParcel` into a vector that is new. -/
def readMissionInfos : RequestM (List DstbMissionInfo) := fun s =>
  match readDstbMissionInfosFromParcel p.toParcelPrimitives lib.toListLibrary [] s with
  | (true, missionInfos, s) => .ok (missionInfos, s)
  | (false, _, _) => .error (.returned env.errFlattenObject.1)

/-- The version is only logged, and nothing behind the list is checked. -/
def notifyMissionsChangedFromRemoteInner : RequestM SchedRequest := do
  checkCallingUid env
  let _ ← p.int32.readD 0
  let missionInfos ← readMissionInfos p lib env
  let sourceDeviceId ← p.string.readD ""
  let uid ← p.int32.readD 0
  let pid ← p.int32.readD 0
  let dmsVersion ← p.int32.readD 0
  return .notifyMissionsChangedFromRemote missionInfos { sourceDeviceId, uid, pid, dmsVersion }

def startSyncRemoteMissionsInner : RequestM SchedRequest := do
  isFoundationCall env
  let devId ← readDevId p env.errFlattenObject.1
  let fixConflict ← p.bool.readD false
  let tag ← p.int64.readD 0
  return .startSyncRemoteMissions (lib.str16ToStr8 devId) fixConflict tag

def startRemoteAbilityByCallInner : RequestM SchedRequest := do
  isFoundationCall env
  let want ← readWant p lib env
  let connect ← readRemoteObject p
  let callerUid ← readHelper env p.int32
  let callerPid ← readHelper env p.int32
  let accessToken ← readHelper env p.uint32
  checkPermission env accessToken
  return .startRemoteAbilityByCall want connect callerUid callerPid accessToken

def releaseRemoteAbilityInner : RequestM SchedRequest := do
  isFoundationCall env
  let connect ← readRemoteObject p
  let element ← readParcelable p env.errInvalidValue.1 lib.elementName
  return .releaseRemoteAbility connect element

def releaseAbilityFromRemoteInner : RequestM SchedRequest := do
  checkCallingUid env
  let connect ← readRemoteObject p
  let element ← readParcelable p env.errInvalidValue.1 lib.elementName
  let sourceDeviceId ← readHelper env p.string
  let _ ← readHelper env p.string
  return .releaseAbilityFromRemote connect element { sourceDeviceId }

/-- It checks the uid, although only local calls get here. -/
def registerDistributedComponentListenerInner : RequestM SchedRequest := do
  checkCallingUid env
  let callback ← readRemoteObject p
  return .registerDistributedComponentListener callback

def getDistributedComponentListInner : RequestM SchedRequest := do
  checkCallingUid env
  return .getDistributedComponentList

def startRemoteFreeInstallInner : RequestM SchedRequest := do
  isFoundationCall env
  let want ← readWant p lib env
  let callerUid ← readHelper env p.int32
  let requestCode ← readHelper env p.int32
  let accessToken ← readHelper env p.uint32
  let callback ← readObject p env.errNullObject.1
  checkPermission env accessToken
  return .startRemoteFreeInstall want callerUid requestCode accessToken (some callback)

def notifyCompleteFreeInstallFromRemoteInner : RequestM SchedRequest := do
  checkCallingUid env
  let taskId ← readHelper env p.int64
  let resultCode ← readHelper env p.int32
  return .notifyCompleteFreeInstallFromRemote taskId resultCode

/-- `localFuncsMap_`. -/
def localFuncsMap : RequestCode → Option (RequestM SchedRequest)
  | .startRemoteAbility => some (startRemoteAbilityInner p lib env)
  | .continueMission => some (continueMissionInner p lib env)
  | .startContinuation => some (startContinuationInner p lib env)
  | .notifyCompleteContinuation => some (notifyCompleteContinuationInner p env)
  | .connectRemoteAbility => some (connectRemoteAbilityInner p lib env)
  | .disconnectRemoteAbility => some (disconnectRemoteAbilityInner p env)
  | .getRemoteMissionSnapshotInfo => some (getRemoteMissionSnapshotInfoInner p env)
  | .registerMissionListener => some (registerMissionListenerInner p env)
  | .unRegisterMissionListener => some (unRegisterMissionListenerInner p env)
  | .getMissionInfos => some (getMissionInfosInner p lib env)
  | .startSyncMissions => some (startSyncRemoteMissionsInner p lib env)
  | .stopSyncMissions => some (stopSyncRemoteMissionsInner p lib env)
  | .startRemoteAbilityByCall => some (startRemoteAbilityByCallInner p lib env)
  | .releaseRemoteAbility => some (releaseRemoteAbilityInner p lib env)
  | .registerDistributedComponentListener =>
    some (registerDistributedComponentListenerInner p env)
  | .getDistributedComponentList => some (getDistributedComponentListInner env)
  | .startRemoteFreeInstall => some (startRemoteFreeInstallInner p lib env)
  | _ => none

/-- `remoteFuncsMap_`. -/
def remoteFuncsMap : RequestCode → Option (RequestM SchedRequest)
  | .notifyContinuationResultFromRemote => some (notifyContinuationResultFromRemoteInner p env)
  | .disconnectAbilityFromRemote => some (disconnectAbilityFromRemoteInner p env)
  | .notifyProcessDiedFromRemote => some (notifyProcessDiedFromRemoteInner p env)
  | .startSyncMissionsFromRemote => some (startSyncMissionsFromRemoteInner p env)
  | .stopSyncMissionsFromRemote => some (stopSyncMissionsFromRemoteInner p env)
  | .notifyMissionsChangedFromRemote => some (notifyMissionsChangedFromRemoteInner p lib env)
  | .continueMission => some (continueMissionInner p lib env)
  | .releaseAbilityFromRemote => some (releaseAbilityFromRemoteInner p lib env)
  | .notifyCompleteFreeInstallFromRemote => some (notifyCompleteFreeInstallFromRemoteInner p env)
  | _ => none

/-- `EnforceInterfaceToken`: a token that cannot be read is empty. -/
def enforceInterfaceToken : RequestM Unit := do
  let interfaceToken ← p.interfaceToken.readD ""
  if interfaceToken = dmsInterfaceToken then pure ()
  else throw (.returned dmsPermissionDenied)

def onRemoteRequest (code : RequestCode) : RequestM SchedRequest :=
  match if env.isLocalCalling then localFuncsMap p lib env code
    else remoteFuncsMap p lib env code with
  | none => throw (.returned env.errUnknownTransaction.1)
  | some func => do
    enforceInterfaceToken p
    func

end DistributedSchedStub.Bytes

/-! ### Replies -/

/-- What a function of the stub returns after the service has answered, and its reply. -/
def SchedRequest.reply (answer : SchedAnswer σ) : SchedRequest → Int × List UInt8
  | notifyCompleteContinuation .. => (errOk, [])
  | notifyContinuationResultFromRemote .. => (answer.result, [])
  | getMissionInfos .. =>
    if answer.result = errOk then
      match writeMissionInfosToParcel p.toParcelPrimitives lib.toListLibrary
        answer.missionInfos with
      | none => (env.errFlattenObject.1, [])
      | some bytes => (errOk, bytes)
    else (answer.result, [])
  | getRemoteMissionSnapshotInfo networkId _ =>
    if answer.result ≠ errOk then (env.errNullObject.1, [])
    else match (p.parcelable lib.missionSnapshot).write answer.missionSnapshot with
      | none => (env.errFlattenObject.1, [])
      | some bytes =>
        if env.getUuidByNetworkId networkId = "" then (env.errNullObject.1, bytes)
        -- `*missionSnapshotPtr`
        else if answer.missionSnapshot.isNone then (env.errDeadObject.1, [])
        else (errOk, bytes)
  | startSyncMissionsFromRemote _ =>
    if answer.result ≠ errOk then (env.errFlattenObject.1, [])
    else match concat [p.int32.write dmsVersionBase, writeDstbMissionInfosToParcel
        p.toParcelPrimitives lib.toListLibrary answer.dstbMissionInfos] with
      | none => (env.errFlattenObject.1, [])
      | some bytes => (errOk, bytes)
  | getDistributedComponentList =>
    match concat [p.int32.write answer.result,
        p.stringVector.write answer.distributedComponents] with
    | none => (env.errFlattenObject.1, [])
    | some bytes => (errOk, bytes)
  -- `PARCEL_WRITE_REPLY_NOERROR`
  | _ => (errOk, (p.int32.write answer.result).getD [])

/-- What the proxy makes of `SendRequest` and the reply; the vectors that it is given are empty. -/
def SchedRequest.readReply (error : Int) (reply : List UInt8) : SchedRequest → SchedAnswer σ
  | notifyCompleteContinuation .. => {}
  | getMissionInfos .. =>
    if error ≠ errOk then { result := error }
    else match readMissionInfosFromParcel p.toParcelPrimitives lib.toListLibrary [] reply with
      | (true, missionInfos, _) => { missionInfos }
      | (false, missionInfos, _) => { result := env.errFlattenObject.1, missionInfos }
  | getRemoteMissionSnapshotInfo .. =>
    if error ≠ errOk then { result := error }
    else { missionSnapshot := ((p.parcelable lib.missionSnapshot).read reply).1.getD none }
  | startSyncMissionsFromRemote _ =>
    if error ≠ errOk then { result := error }
    else match readDstbMissionInfosFromParcel p.toParcelPrimitives lib.toListLibrary []
        (p.int32.read reply).2 with
      | (true, dstbMissionInfos, _) => { dstbMissionInfos }
      | (false, dstbMissionInfos, _) => { result := env.errFlattenObject.1, dstbMissionInfos }
  | getDistributedComponentList =>
    if error ≠ errOk then { result := error }
    else
      let result := (p.int32.read reply).1.getD 0
      if result ≠ errOk then { result }
      else match (p.stringVector.read (p.int32.read reply).2).1 with
        | none => { result := env.errFlattenObject.1 }
        | some distributedComponents => { distributedComponents }
  | _ =>
    if error ≠ errOk then { result := error } else { result := (p.int32.read reply).1.getD 0 }

/-! ### A call -/

open DistributedSchedStub.Bytes in
/-- `SendRequest`: what the stub returns, and its reply. -/
def sendRequest (service : SchedRequest → SchedAnswer σ) (code : RequestCode)
    (data : List UInt8) : Int × List UInt8 :=
  match onRemoteRequest p lib env code data with
  | .error (.returned code) => (code, [])
  | .error _ => (env.errDeadObject.1, [])
  | .ok (request, _) => request.reply p lib env (service request)

/-- A call of the service through the proxy and the stub; `NotifyCompleteContinuation` returns
nothing. -/
def rpc (service : SchedRequest → SchedAnswer σ) (request : SchedRequest) : SchedAnswer σ :=
  match request.write p lib env with
  | .error code => request.readReply p lib env code []
  | .ok data =>
    let r := sendRequest p lib env service request.code data
    request.readReply p lib env r.1 r.2

end functions

end DistributedSched

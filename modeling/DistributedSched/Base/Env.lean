import DistributedSched.Base.Types

/-!
# Base — the environment of the service

`Env` is what the services around it answer while an operation runs: the device manager, the
system ability manager, the bundle manager, the ability manager (AMS), the group and token
services, and the IPC layer.  `Effect` is what an operation does to them.  An operation answers
its effects in the order in which the code makes the calls.
-/

namespace DistributedSched

/-! ### Answers -/

/-- `AppExecFwk::AbilityType`, as far as it is distinguished. -/
inductive AbilityType where
  | page
  | service
  | extension
  | other
deriving DecidableEq

structure AbilityInfo where
  bundleName : String := ""
  name : String := ""
  permissions : List String := []
  visible : Bool := false
  type : AbilityType := .other
deriving DecidableEq, Inhabited

structure ExtensionAbilityInfo where
  bundleName : String := ""
  name : String := ""
  permissions : List String := []
  visible : Bool := false
deriving DecidableEq, Inhabited

/-- `GroupType`, as far as it is distinguished. -/
inductive GroupType where
  | identicalAccountGroup
  | peerToPeerGroup
  | other
deriving DecidableEq

/-- The two fields of a device group that the service reads. -/
structure GroupInfo where
  groupId : String := ""
  groupType : GroupType := .other
deriving DecidableEq

/-- A request to the service of another device, with the arguments its sender gives. -/
inductive RemoteCall where
  | startAbilityFromRemote (want : Want) (requestCode : Int) (callerInfo : CallerInfo)
      (accountInfo : AccountInfo)
  | sendResultFromRemote (want : Want) (requestCode : Int) (callerInfo : CallerInfo)
      (accountInfo : AccountInfo) (resultCode : Int)
  | notifyContinuationResultFromRemote (sessionId : Int) (isSuccess : Bool)
  | connectAbilityFromRemote (want : Want) (connect : Option RemoteObject)
      (callerInfo : CallerInfo) (accountInfo : AccountInfo)
  | disconnectAbilityFromRemote (connect : Option RemoteObject) (uid : Int)
      (sourceDeviceId : String)
  | notifyProcessDiedFromRemote (callerInfo : CallerInfo)
  | continueMission (srcDeviceId dstDeviceId : String) (missionId : Int)
      (callback : Option RemoteObject) (wantParams : Map String WantParam)
  | startAbilityByCallFromRemote (want : Want) (connect : Option RemoteObject)
      (callerInfo : CallerInfo) (accountInfo : AccountInfo)
  | releaseAbilityFromRemote (connect : Option RemoteObject) (element : ElementName)
      (callerInfo : CallerInfo)
  | startFreeInstallFromRemote (info : FreeInstallInfo) (taskId : Int)
  | notifyCompleteFreeInstallFromRemote (taskId : Int) (resultCode : Int)
deriving DecidableEq

/-- The fields of a `BundleInfo` that the service reads. -/
structure BundleInfo where
  versionCode : Nat := 0
  entryInstallationFree : Bool := false
deriving DecidableEq

structure Env where
  /-- `GetLocalDeviceId` -/
  localDeviceId : Option String := none
  /-- `CheckSystemAbility(DISTRIBUTED_SCHED_SA_ID, deviceId)` finds an object -/
  checkSystemAbility : String → Bool := fun _ => false
  /-- `IPCSkeleton::GetCallingUid` -/
  callingUid : Int := 0
  /-- `IPCSkeleton::IsLocalCalling` -/
  isLocalCalling : Bool := false
  /-- whether writing a parcel succeeds -/
  parcelWrites : Bool := true
  /-- the result of `SendRequest` on an application's object -/
  sendRequest : Int := 0
  /-- whether `EventHandler::SendEvent` succeeds -/
  sendEvent : Bool := true
  /-- `OsAccountManager::QueryActiveOsAccountIds`: an error, or the ids -/
  activeOsAccountIds : Option (List Int) := none
  /-- `AbilityManagerClient::Connect` -/
  amsConnect : Int := 0
  amsConnectAbility : Want → Int := fun _ => 0
  amsDisconnectAbility : RemoteObject → Int := fun _ => 0
  amsStartAbility : Want → Int := fun _ => 0
  amsStartAbilityByCall : Want → Int := fun _ => 0
  amsReleaseAbility : RemoteObject → Int := fun _ => 0
  amsSendResultToAbility : Want → Int := fun _ => 0
  amsFreeInstallAbilityFromRemote : Want → Int := fun _ => 0
  amsContinueAbility : Int := 0
  /-- `GetMissionInfo`: the mission's want -/
  amsGetMissionInfo : Int → Option Want := fun _ => none
  /-- `GetBundleManager() != nullptr` -/
  bundleManager : Bool := false
  getBundlesForUid : Int → Option (List String) := fun _ => none
  getAppIdByBundleName : String → String := fun _ => ""
  getUidByBundleName : String → Int := fun _ => -1
  bmsQueryAbilityInfo : Want → Option AbilityInfo := fun _ => none
  bmsQueryExtensionAbilityInfos : Want → List ExtensionAbilityInfo := fun _ => []
  /-- `GetDistributedBundleInfo`: the version on the other device -/
  getDistributedBundleInfo : String → String → Option Nat := fun _ _ => none
  getBundleInfo : String → Option BundleInfo := fun _ => none
  checkAbilityEnableInstall : Want → Int → Bool := fun _ _ => false
  /-- `DnetworkAdapter::GetUdidByNetworkId`; empty when it fails -/
  getUdidByNetworkId : String → String := fun _ => ""
  /-- hichain `getRelatedGroups` for a udid and a bundle, parsed; `none` when one of the two
  steps fails or the list is empty -/
  getRelatedGroups : String → String → Option (List GroupInfo) := fun _ _ => none
  /-- hichain `checkAccessToGroup(groupId, targetBundleName)` answers `ERR_OK` -/
  checkAccessToGroup : String → String → Bool := fun _ _ => false
  allocLocalTokenID : String → Nat → Nat := fun _ _ => 0
  /-- `VerifyAccessToken` answers `PERMISSION_DENIED` -/
  permissionDenied : Nat → String → Bool := fun _ _ => true
  /-- whether a map iterator that was never set compares equal to `end()` -/
  unsetIteratorIsEnd : Bool := false
  /-- IPC's `ERR_NULL_OBJECT` -/
  errNullObject : Failure := ⟨1, one_ne_errOk⟩
  /-- the answer of a request to another device that is made once -/
  remoteResult : RemoteCall → Int := fun _ => 0

/-! ### Effects -/

/-- `IDistributedSched::CONNECT` and `CALL`. -/
inductive ComponentType where
  | connect
  | call
deriving DecidableEq

/-- `IDistributedSched::CALLER` and `CALLEE`. -/
inductive DeviceType where
  | caller
  | callee
deriving DecidableEq

/-- `DISTRIBUTED_COMPONENT_ADD` and `DISTRIBUTED_COMPONENT_REMOVE`. -/
inductive ChangeType where
  | add
  | remove
deriving DecidableEq

/-- The JSON object of a component report; the callee side has no `pid`. -/
structure ComponentInfo where
  pid : Option Int
  uid : Int
  bundleName : String
  componentType : ComponentType
  deviceType : DeviceType
  changeType : ChangeType
deriving DecidableEq

/-- A call of the ability manager. -/
inductive AmsCall where
  | connectAbility (want : Want) (connect : RemoteObject) (userId : Int)
  | disconnectAbility (connect : RemoteObject)
  | startAbility (want : Want) (requestCode : Int) (userId : Int) (forResult : Bool)
  | startAbilityByCall (want : Want) (connect : RemoteObject)
  | releaseAbility (connect : RemoteObject) (element : ElementName)
  | sendResultToAbility (requestCode resultCode : Int) (want : Want)
  | freeInstallAbilityFromRemote (want : Want) (userId : Int) (requestCode : Int)
  | cleanMission (missionId : Int)
  | notifyContinuationResult (missionId isSuccess : Int)
  | continueAbility (deviceId : String) (missionId : Int) (versionCode : Nat)
deriving DecidableEq

/-- What an operation does to its environment. -/
inductive Effect where
  | addDeathRecipient (object : RemoteObject) (recipient : DeathRecipient)
  | removeDeathRecipient (object : RemoteObject) (recipient : DeathRecipient)
  /-- a component report, with the connect object it is made for -/
  | report (connect : RemoteObject) (info : ComponentInfo)
  /-- `ON_ABILITY_DISCONNECT_DONE` to the application that owns `connect` -/
  | notifyApp (connect : RemoteObject) (element : ElementName) (errCode : Int)
  | rpc (deviceId : String) (call : RemoteCall)
  | ams (call : AmsCall)
  /-- `ON_REMOTE_FREE_INSTALL_DONE` to the callback of a free install -/
  | freeInstallDone (callback : RemoteObject) (resultCode : Int) (want : Want)
  /-- `NOTIFY_MISSION_CENTER_RESULT` to the callback of a continuation -/
  | missionCenterResult (callback : RemoteObject) (isSuccess : Int)
  /-- a call of `DecreaseConnectLocked`, with whether the uid has an entry then; it leaves no
  trace outside the service -/
  | decreaseConnect (uid : Int) (tracked : Bool)
deriving DecidableEq

/-! ### Functions of the environment alone -/

/-- `GetRemoteDms(deviceId) != nullptr`. -/
def Env.getRemoteDms (env : Env) (deviceId : String) : Bool :=
  deviceId ≠ "" && env.checkSystemAbility deviceId

/-- `QueryActiveOsAccountIds` and its first id. -/
def Env.activeUser (env : Env) : Option Int := env.activeOsAccountIds.bind List.head?

/-- `BundleManagerInternal::GetUidFromBms`. -/
def Env.getUidFromBms (env : Env) (bundleName : String) : Int :=
  if !env.bundleManager || env.activeUser.isNone then -1 else env.getUidByBundleName bundleName

/-- `BundleManagerInternal::GetBundleNameListFromBms`. -/
def Env.getBundleNameListFromBms (env : Env) (callingUid : Int) : Option (List String) :=
  if env.bundleManager then env.getBundlesForUid callingUid else none

/-- `BundleManagerInternal::GetCallerAppIdFromBms` of a bundle. -/
def Env.getAppIdFromBms (env : Env) (bundleName : String) : Option String :=
  if !env.bundleManager || env.activeUser.isNone then none
  else some (env.getAppIdByBundleName bundleName)

/-- `BundleManagerInternal::GetCallerAppIdFromBms` of a uid: the first of its bundles. -/
def Env.getCallerAppIdFromBms (env : Env) (callingUid : Int) : Option String :=
  match env.getBundleNameListFromBms callingUid with
  | some (bundleName :: _) => env.getAppIdFromBms bundleName
  | _ => none

/-- `BundleManagerInternal::QueryAbilityInfo`. -/
def Env.queryAbilityInfo (env : Env) (want : Want) : Option AbilityInfo :=
  if env.activeUser.isNone || !env.bundleManager then none else env.bmsQueryAbilityInfo want

/-- `BundleManagerInternal::QueryExtensionAbilityInfo`. -/
def Env.queryExtensionAbilityInfo (env : Env) (want : Want) : Option ExtensionAbilityInfo :=
  if env.activeUser.isNone || !env.bundleManager then none
  else match env.bmsQueryExtensionAbilityInfos want with
    | [] => none
    | extensionInfo :: _ =>
      if extensionInfo.bundleName = "" || extensionInfo.name = "" then none
      else some extensionInfo

/-- `BundleManagerInternal::IsSameAppId`. -/
def Env.isSameAppId (env : Env) (callerAppId targetBundleName : String) : Bool :=
  if targetBundleName = "" || callerAppId = "" then false
  else env.getAppIdFromBms targetBundleName = some callerAppId

/-- `BundleManagerInternal::GetLocalBundleInfo`. -/
def Env.getLocalBundleInfo (env : Env) (bundleName : String) : Option BundleInfo :=
  if !env.bundleManager || env.activeUser.isNone then none else env.getBundleInfo bundleName

/-- `BundleManagerInternal::CheckRemoteBundleInfoForContinuation`: an error, or the version of
the bundle that is installed on the device. -/
def Env.checkRemoteBundleInfoForContinuation (env : Env) (dstDeviceId bundleName : String) :
    Except Int Nat :=
  if bundleName = "" || !env.bundleManager then .error invalidParametersErr
  else match env.getDistributedBundleInfo dstDeviceId bundleName with
    | some versionCode => .ok versionCode
    | none =>
      match env.getLocalBundleInfo bundleName with
      | none => .error invalidParametersErr
      | some localBundleInfo =>
        if localBundleInfo.entryInstallationFree then
          .error continueRemoteUninstalledSupportFreeinstall
        else .error continueRemoteUninstalledUnsupportFreeinstall

/-- `BundleManagerInternal::CheckIfRemoteCanInstall`. -/
def Env.checkIfRemoteCanInstall (env : Env) (want : Want) (missionId : Int) : Bool :=
  let element := want.element
  if element.bundleName = "" || element.moduleName = "" || element.abilityName = "" ||
      element.deviceId = "" then false
  else if !env.bundleManager || env.activeUser.isNone then false
  else env.checkAbilityEnableInstall { element := element } missionId

/-- `GetLocalDeviceId` and `CheckDeviceId`: the local id, when both answer true. -/
def Env.checkedLocalId (env : Env) (remoteDeviceId : String) : Option String :=
  env.localDeviceId.filter fun localDeviceId => checkDeviceId localDeviceId remoteDeviceId

/-- `GetLocalDeviceId` and `CheckDeviceIdFromRemote`: the local id, when both answer true. -/
def Env.checkedLocalIdFromRemote (env : Env) (destinationDeviceId sourceDeviceId : String) :
    Option String :=
  env.localDeviceId.filter fun localDeviceId =>
    checkDeviceIdFromRemote localDeviceId destinationDeviceId sourceDeviceId

/-- `GetLocalDeviceId` and the check of a request that only ends what the remote device
started: the ids are there and differ. -/
def Env.checkedLocalIdForRelease (env : Env) (sourceDeviceId : String) : Option String :=
  env.localDeviceId.filter fun localDeviceId =>
    !(localDeviceId = "" || sourceDeviceId = "" || localDeviceId = sourceDeviceId)

theorem Env.checkedLocalId_eq_some {env : Env} {d l : String} :
    env.checkedLocalId d = some l ↔ env.localDeviceId = some l ∧ l ≠ "" ∧ d ≠ "" ∧ l ≠ d := by
  simp only [checkedLocalId, Option.filter_eq_some_iff, checkDeviceId_iff]

theorem Env.checkedLocalIdFromRemote_eq_some {env : Env} {d s l : String} :
    env.checkedLocalIdFromRemote d s = some l ↔
      env.localDeviceId = some l ∧ l ≠ "" ∧ d = l ∧ s ≠ "" ∧ s ≠ l := by
  simp only [checkedLocalIdFromRemote, Option.filter_eq_some_iff, checkDeviceIdFromRemote_iff]

end DistributedSched

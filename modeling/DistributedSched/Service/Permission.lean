import DistributedSched.Base.Env

/-!
# Service — the permission checks

`DistributedSchedPermission`: the three checks that a request from a remote caller goes through
(`checkDPermission`), the stricter one for a start by call (`checkGetCallerPermission`), and
the account information that a caller attaches to its own requests (`getAccountInfo`).
-/

namespace DistributedSched

/-- `DMS_MISSION_ID`. -/
def dmsMissionId : String := "dmsMissionId"

/-- `DEFAULT_DMS_MISSION_ID`. -/
def defaultDmsMissionId : Int := -1

namespace DistributedSchedPermission

variable (env : Env)

/-! ### The caller's account information -/

/-- The groups of one bundle, added to what was found before. -/
def addGroups (accountInfo : AccountInfo) (groupInfos : List GroupInfo) : AccountInfo :=
  groupInfos.foldl (fun accountInfo groupInfo =>
    match groupInfo.groupType with
    | .other => accountInfo
    | .peerToPeerGroup =>
      { accountInfo with groupIdList := accountInfo.groupIdList ++ [groupInfo.groupId] }
    | .identicalAccountGroup =>
      { accountType := sameAccountType
        groupIdList := accountInfo.groupIdList ++ [groupInfo.groupId] }) accountInfo

def getRelatedGroups (udid : String) (bundleNames : List String) : Option AccountInfo :=
  let accountInfo := bundleNames.foldl (fun accountInfo bundleName =>
    match env.getRelatedGroups udid bundleName with
    | none => accountInfo
    | some groupInfos => addGroups accountInfo groupInfos) {}
  if accountInfo.groupIdList.isEmpty then none else some accountInfo

def getAccountInfo (remoteNetworkId : String) (callerInfo : CallerInfo) :
    Except Int AccountInfo :=
  if remoteNetworkId = "" then .error env.errNullObject.1
  else
    let udid := env.getUdidByNetworkId remoteNetworkId
    if udid = "" then .error env.errNullObject.1
    else match getRelatedGroups env udid callerInfo.bundleNames with
      | none => .error invalidParametersErr
      | some accountInfo => .ok accountInfo

/-! ### The checks of a remote caller -/

/-- `InitAbilityInfoFromExtension`. -/
def initAbilityInfoFromExtension (extensionAbility : ExtensionAbilityInfo) : AbilityInfo where
  bundleName := extensionAbility.bundleName
  name := extensionAbility.name
  permissions := extensionAbility.permissions
  visible := extensionAbility.visible

def getTargetAbility (want : Want) (needQueryExtension : Bool) : Option AbilityInfo :=
  match env.queryAbilityInfo want with
  | some targetAbility =>
    if want.getIntParam dmsMissionId defaultDmsMissionId ≠ defaultDmsMissionId ∧
        (targetAbility.type = .service ∨ targetAbility.type = .extension) then none
    else some targetAbility
  | none =>
    if needQueryExtension then
      (env.queryExtensionAbilityInfo want).map initAbilityInfoFromExtension
    else none

def checkAccountAccessPermission (accountInfo : AccountInfo) (targetBundleName : String) :
    Bool :=
  if accountInfo.accountType = sameAccountType then true
  else if targetBundleName = "" || accountInfo.groupIdList.isEmpty then false
  else accountInfo.groupIdList.any fun groupId => env.checkAccessToGroup groupId targetBundleName

def checkComponentAccessPermission (targetAbility : AbilityInfo) (callerInfo : CallerInfo)
    (want : Want) : Bool :=
  if !targetAbility.visible then false
  -- in the migration scenario the appId must be the same
  else if want.hasFlag Want.flagAbilityContinuation
      && !env.isSameAppId callerInfo.callerAppId targetAbility.bundleName then false
  else true

def checkCustomPermission (targetAbility : AbilityInfo) (callerInfo : CallerInfo) : Bool :=
  if targetAbility.permissions.isEmpty then true
  else if callerInfo.accessToken = 0 then false
  else
    let dAccessToken := env.allocLocalTokenID callerInfo.sourceDeviceId callerInfo.accessToken
    if dAccessToken = 0 then false
    else targetAbility.permissions.all fun permission =>
      permission = "" || !env.permissionDenied dAccessToken permission

def checkDPermission (want : Want) (callerInfo : CallerInfo) (accountInfo : AccountInfo)
    (localDeviceId : String) (needQueryExtension : Bool := false) : Int :=
  if localDeviceId = "" then invalidParametersErr
  else match getTargetAbility env want needQueryExtension with
    | none => invalidParametersErr
    | some targetAbility =>
      if !checkAccountAccessPermission env accountInfo targetAbility.bundleName then
        dmsAccountAccessPermissionDenied
      else if !checkComponentAccessPermission env targetAbility callerInfo want then
        dmsComponentAccessPermissionDenied
      else if !checkCustomPermission env targetAbility callerInfo then
        dmsComponentAccessPermissionDenied
      else errOk

def checkGetCallerPermission (want : Want) (callerInfo : CallerInfo) (accountInfo : AccountInfo)
    (localDeviceId : String) : Int :=
  let result := checkDPermission env want callerInfo accountInfo localDeviceId
  if result ≠ errOk then result
  else match env.getAppIdFromBms want.element.bundleName with
    | none => callPermissionDenied
    | some appId => if appId ≠ callerInfo.callerAppId then callPermissionDenied else errOk

/-- What a caller that passes the check is: its target exists and is visible, its groups may
reach the target's bundle, and it holds the permissions the target asks for. -/
theorem checkDPermission_eq_ok {want : Want} {callerInfo : CallerInfo}
    {accountInfo : AccountInfo} {localDeviceId : String} {needQueryExtension : Bool} :
    checkDPermission env want callerInfo accountInfo localDeviceId needQueryExtension = errOk ↔
      localDeviceId ≠ "" ∧ ∃ targetAbility,
        getTargetAbility env want needQueryExtension = some targetAbility ∧
        checkAccountAccessPermission env accountInfo targetAbility.bundleName = true ∧
        checkComponentAccessPermission env targetAbility callerInfo want = true ∧
        checkCustomPermission env targetAbility callerInfo = true := by
  unfold checkDPermission
  by_cases hl : localDeviceId = ""
  · simp only [hl, if_true, ne_eq, not_true_eq_false, false_and, iff_false]
    decide
  rw [if_neg hl]
  cases getTargetAbility env want needQueryExtension with
  | none =>
      simp only [reduceCtorEq, false_and, exists_false, and_false, iff_false]
      decide
  | some targetAbility =>
      simp only [Option.some.injEq, exists_eq_left', ne_eq, hl, not_false_eq_true, true_and]
      cases checkAccountAccessPermission env accountInfo targetAbility.bundleName <;>
        cases checkComponentAccessPermission env targetAbility callerInfo want <;>
        cases checkCustomPermission env targetAbility callerInfo <;>
        decide

end DistributedSchedPermission

end DistributedSched

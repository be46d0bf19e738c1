import Std.Data.ExtTreeMap

/-!
# Base — the data the service handles

`CallerInfo`, `AccountInfo`, `Want` and the error codes, as the headers of the service declare
them.  An `sptr<IRemoteObject>` is an `Option RemoteObject`, where `none` is `nullptr` and
`RemoteObject` is the object's address, by which the service's maps are ordered.  Bounded
integers that the code only copies and compares are `Int` (signed) and `Nat` (unsigned).
-/

namespace DistributedSched

/-- The address of an `IRemoteObject`. -/
abbrev RemoteObject := Nat

/-- `std::map`. -/
abbrev Map (α β : Type) [Ord α] := Std.ExtTreeMap α β compare

/-! ### Error codes (dtbschedmgr_log.h) -/

def errOk : Int := 0
def invalidParametersErr : Int := 29360128
def noConnectCallbackErr : Int := 29360130
def invalidRemoteParametersErr : Int := 29360131
def remoteDeviceBindAbilityErr : Int := 29360132
def deviceOfflineErr : Int := 29360142
def notifyCompleteContinuationFailed : Int := 29360152
def continueAbilityTimeoutErr : Int := 29360153
def dmsPermissionDenied : Int := 29360157
def bindAbilityUidInvalidErr : Int := 29360159
def bindAbilityLeakErr : Int := 29360160
def dmsAccountAccessPermissionDenied : Int := 29360175
def dmsComponentAccessPermissionDenied : Int := 29360176
def callPermissionDenied : Int := 29360201
def continueRemoteUninstalledSupportFreeinstall : Int := 29360202
def continueRemoteUninstalledUnsupportFreeinstall : Int := 29360203
def continueFreeInstallFailed : Int := 29360205
def continueRemoteUninstalledCannotFreeinstall : Int := 29360206

/-- A code that is not `ERR_OK`. -/
abbrev Failure := { code : Int // code ≠ errOk }

theorem one_ne_errOk : (1 : Int) ≠ errOk := by decide

theorem two_ne_errOk : (2 : Int) ≠ errOk := by decide

/-! ### Constants of the service -/

def maxDistributedConnectNum : Nat := 600
def invalidCallerUid : Int := -1
def bindConnectRetryTimes : Nat := 3
def bindConnectTimeout : Int := 500

def continuationTimeout : Int := 20000
def checkRemoteInstallAbility : Int := 40000
def continuationFreeInstallTimeout : Int := 50000
def defaultRequestCode : Int := -1

/-- `DMS_SRC_NETWORK_ID`. -/
def dmsSrcNetworkId : String := "dmsSrcNetworkId"

def callerTypeNone : Int := 0
def callerTypeHarmony : Int := 1

/-! ### Records -/

structure CallerInfo where
  uid : Int := -1
  pid : Int := -1
  callerType : Int := callerTypeNone
  sourceDeviceId : String := ""
  callerAppId : String := ""
  bundleNames : List String := []
  accessToken : Nat := 0
deriving DecidableEq, Inhabited

/-- `IDistributedSched::SAME_ACCOUNT_TYPE`. -/
def sameAccountType : Int := 0

/-- `IDistributedSched::DIFF_ACCOUNT_TYPE`. -/
def diffAccountType : Int := 1

structure AccountInfo where
  accountType : Int := diffAccountType
  groupIdList : List String := []
deriving DecidableEq, Inhabited

structure ElementName where
  deviceId : String := ""
  bundleName : String := ""
  abilityName : String := ""
  moduleName : String := ""
deriving DecidableEq, Inhabited

/-- A value of `WantParams`. -/
inductive WantParam where
  | int (value : Int)
  | bool (value : Bool)
  | string (value : String)
  | stringArray (value : List String)
deriving DecidableEq

structure Want where
  element : ElementName := {}
  flags : Nat := 0
  params : Map String WantParam := ∅
deriving DecidableEq

namespace Want

def flagAbilityContinuation : Nat := 0x00000008
def flagInstallOnDemand : Nat := 0x00000800

/-- `Want::PARAM_RESV_FOR_RESULT`. -/
def paramResvForResult : String := "ohos.extra.param.key.forResult"

/-- `(GetFlags() & flag) != 0`. -/
def hasFlag (want : Want) (flag : Nat) : Bool := want.flags &&& flag != 0

/-- `RemoveFlags`: `flags & ~flag`, on the bits of a 32-bit word. -/
def removeFlags (want : Want) (flag : Nat) : Want :=
  { want with flags := want.flags &&& (flag ^^^ 0xFFFFFFFF) }

def setParam (want : Want) (key : String) (value : WantParam) : Want :=
  { want with params := want.params.insert key value }

def removeParam (want : Want) (key : String) : Want :=
  { want with params := want.params.erase key }

/-- A parameter of another type, or none, answers the default. -/
def getStringParam (want : Want) (key : String) : String :=
  match want.params[key]? with
  | some (.string value) => value
  | _ => ""

def getIntParam (want : Want) (key : String) (default : Int) : Int :=
  match want.params[key]? with
  | some (.int value) => value
  | _ => default

def getBoolParam (want : Want) (key : String) (default : Bool) : Bool :=
  match want.params[key]? with
  | some (.bool value) => value
  | _ => default

def getStringArrayParam (want : Want) (key : String) : List String :=
  match want.params[key]? with
  | some (.stringArray value) => value
  | _ => []

end Want

/-- `IDistributedSched::FreeInstallInfo`. -/
structure FreeInstallInfo where
  want : Want := {}
  requestCode : Int := -1
  callerInfo : CallerInfo := {}
  accountInfo : AccountInfo := {}
deriving DecidableEq

/-- `enum class TargetComponent`. -/
inductive TargetComponent where
  | harmonyComponent
deriving DecidableEq

/-- The death recipients the service registers on connect objects. -/
inductive DeathRecipient where
  /-- `connectDeathRecipient_` -/
  | connect
  /-- `callerDeathRecipient_` -/
  | caller
  /-- `callerDeathRecipientForLocalDevice_` -/
  | callerForLocalDevice
deriving DecidableEq

/-! ### The device's identity -/

/-- `CheckDeviceId`. -/
def checkDeviceId (localDeviceId remoteDeviceId : String) : Bool :=
  !(localDeviceId = "" || remoteDeviceId = "" || localDeviceId = remoteDeviceId)

/-- `CheckDeviceIdFromRemote`. -/
def checkDeviceIdFromRemote (localDeviceId destinationDeviceId sourceDeviceId : String) : Bool :=
  if localDeviceId = "" || destinationDeviceId = "" || sourceDeviceId = "" then false
  -- destinationDeviceId set by remote must be same with localDeviceId
  else if localDeviceId ≠ destinationDeviceId then false
  else if sourceDeviceId = destinationDeviceId || sourceDeviceId = localDeviceId then false
  else true

theorem checkDeviceId_iff {l r : String} :
    checkDeviceId l r = true ↔ l ≠ "" ∧ r ≠ "" ∧ l ≠ r := by
  simp [checkDeviceId, and_assoc]

/-- What a device id that comes from a remote caller must satisfy. -/
theorem checkDeviceIdFromRemote_iff {l d s : String} :
    checkDeviceIdFromRemote l d s = true ↔ l ≠ "" ∧ d = l ∧ s ≠ "" ∧ s ≠ l := by
  constructor
  · intro h
    unfold checkDeviceIdFromRemote at h
    split at h
    · cases h
    rename_i hne
    split at h
    · cases h
    rename_i hd
    split at h
    · cases h
    rename_i hs
    simp only [Bool.or_eq_true, decide_eq_true_eq, not_or] at hne hs
    exact ⟨hne.1.1, (Decidable.not_not.mp hd).symm, hne.2, hs.2⟩
  · rintro ⟨hl, rfl, hs, hsl⟩
    simp [checkDeviceIdFromRemote, hl, hs, hsl]

end DistributedSched

import DistributedSched.Base.EventHandler
import DistributedSched.Library.Reader
import DistributedSched.Service.FromRemote

/-!
# Wire — parcels and extra info

`MessageParcel` as the proxy writes it and the stub reads it: a list of items, of which every
read takes one.  A read whose item has another shape, or is missing, fails; `PARCEL_READ_HELPER`
returns an error code then, and a read whose result nobody checks gives a default.  The end of a
message is a text that is a JSON document; `nlohmann::json` is a parameter (`NlohmannJson`), and
what the code does with a value is `subscript`, `toUint32` and `toInt32`, which throw.
-/

namespace DistributedSched

open Reading

/-- `DMS_PROXY_INTERFACE_TOKEN` and `DMS_STUB_INTERFACE_TOKEN`. -/
def dmsInterfaceToken : String := "ohos.distributedschedule.accessToken"

def extroInfoJsonKeyAccessToken : String := "accessTokenID"
def extroInfoJsonKeyRequestCode : String := "requestCode"
def freeInstllCallingAppId : String := "freeInstallCallingAppId"
def freeInstllCallingBundlenames : String := "freeInstallCallingBundleNames"

/-- The fields of an `AbilityInfo` that cross devices and are read there. -/
structure CompatibleAbilityInfo where
  deviceId : String := ""
  bundleName : String := ""
deriving DecidableEq

inductive ParcelItem where
  | interfaceToken (token : String)
  | int32 (value : Int)
  | int64 (value : Int)
  | string (value : String)
  | stringVector (value : List String)
  | remoteObject (value : RemoteObject)
  | want (value : Want)
  | compatibleAbilityInfo (value : CompatibleAbilityInfo)

namespace ParcelItem

def readInterfaceToken : ParcelItem → Option String
  | interfaceToken token => some token
  | _ => none

def readInt32 : ParcelItem → Option Int
  | int32 value => some value
  | _ => none

def readInt64 : ParcelItem → Option Int
  | int64 value => some value
  | _ => none

def readString : ParcelItem → Option String
  | string value => some value
  | _ => none

def readStringVector : ParcelItem → Option (List String)
  | stringVector value => some value
  | _ => none

def readRemoteObject : ParcelItem → Option RemoteObject
  | remoteObject value => some value
  | _ => none

def readWant : ParcelItem → Option Want
  | want value => some value
  | _ => none

def readCompatibleAbilityInfo : ParcelItem → Option CompatibleAbilityInfo
  | compatibleAbilityInfo value => some value
  | _ => none

end ParcelItem

/-! ### JSON documents -/

inductive Json where
  | null
  | boolean (value : Bool)
  /-- `number_integer` and `number_unsigned` -/
  | numberInteger (value : Int)
  | numberFloat (value : Rat)
  | string (value : String)
  | array (values : List Json)
  | object (fields : List (String × Json))

structure NlohmannJson where
  /-- `parse(text, nullptr, false)`; `none` is a discarded value -/
  parse : String → Option Json
  dump : Json → String

/-- How a stub function ends before it calls the service. -/
inductive StubExit where
  | returned (code : Int)
  /-- a null pointer is dereferenced -/
  | nullPointer
  /-- an exception leaves the function -/
  | exception
deriving DecidableEq

/-- The process does not survive it. -/
def StubExit.Fatal : StubExit → Prop
  | returned _ => False
  | nullPointer | exception => True

abbrev StubM (α : Type) := Reader ParcelItem StubExit α

namespace Json

/-- `operator[]` with a key that it may insert; it throws for a value that cannot have keys. -/
def subscript (key : String) : Json → StubM Json
  | object fields => pure ((fields.lookup key).getD null)
  | null => pure null
  | _ => throw .exception

/-- `contains`. -/
def contains (key : String) : Json → Bool
  | object fields => (fields.lookup key).isSome
  | _ => false

/-- The conversion to `uint32_t`, which makes a number of a boolean. -/
def toUint32 : Json → StubM Nat
  | boolean value => pure value.toNat
  | numberInteger value => pure (DistributedSched.toUint32 value)
  | numberFloat value => pure (DistributedSched.toUint32 (value.num.tdiv value.den))
  | _ => throw .exception

/-- The conversion to `int32_t`. -/
def toInt32 (j : Json) : StubM Int := do
  let value ← j.toUint32
  return uint32ToInt32 value

/-- The value converts to a number. -/
def IsArithmetic : Json → Prop
  | boolean _ | numberInteger _ | numberFloat _ => True
  | _ => False

end Json

/-! ### Reads of the stub -/

/-- What the stub sees besides the parcel. -/
structure StubEnv where
  /-- `IPCSkeleton::GetCallingUid` -/
  callingUid : Int := 0
  /-- IPC's `ERR_NULL_OBJECT` and `ERR_FLATTEN_OBJECT` -/
  errNullObject : Failure := ⟨1, one_ne_errOk⟩
  errFlattenObject : Failure := ⟨2, two_ne_errOk⟩

namespace StubM

variable (env : StubEnv)

/-- `PARCEL_READ_HELPER`. -/
def readHelper {α : Type} (f : ParcelItem → Option α) : StubM α :=
  read f (.returned env.errFlattenObject.1)

/-- `ReadParcelable`, and `ERR_NULL_OBJECT` when it gives `nullptr`. -/
def readParcelable {α : Type} (f : ParcelItem → Option α) : StubM α :=
  read f (.returned env.errNullObject.1)

/-- `ReadRemoteObject`, which may give `nullptr`. -/
def readRemoteObject : StubM (Option RemoteObject) :=
  readD (fun item => item.readRemoteObject.map some) none

/-- `ReadParcelable<Want>` without a look whether it gives `nullptr`. -/
def readWant : StubM (Option Want) := readD (fun item => item.readWant.map some) none

/-- `*p`. -/
def deref {α : Type} : Option α → StubM α
  | some a => pure a
  | none => throw .nullPointer

/-- `CheckCallingUid`. -/
def checkCallingUid : StubM Unit :=
  if env.callingUid < hidHap then pure () else throw (.returned dmsPermissionDenied)

/-- `EnforceInterfaceToken`: a token that cannot be read is empty. -/
def enforceInterfaceToken : StubM Unit := do
  let token ← readD ParcelItem.readInterfaceToken ""
  if token = dmsInterfaceToken then pure () else throw (.returned dmsPermissionDenied)

/-- The account of the caller; nobody looks whether its type was read. -/
def readAccountInfo : StubM AccountInfo := do
  let accountType ← readD ParcelItem.readInt32 0
  let groupIdList ← readHelper env ParcelItem.readStringVector
  return { accountType, groupIdList }

/-- The access token in the extra info. -/
def parseAccessToken (lib : NlohmannJson) (extraInfo : String) : StubM Nat :=
  match lib.parse extraInfo with
  | none => pure 0
  | some extraInfoJson => do
    let accessToken ← extraInfoJson.subscript extroInfoJsonKeyAccessToken
    accessToken.toUint32

end StubM

end DistributedSched

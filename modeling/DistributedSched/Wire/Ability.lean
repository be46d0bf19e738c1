import DistributedSched.Ability.Panel
import DistributedSched.Wire.Rpc

/-!
# Wire — the continuation manager

`IDistributedAbilityManager` by the bytes of its parcels: `DistributedAbilityManagerProxy` in the
process of an application, `DistributedAbilityManagerStub` in the service.  The service tells an
application by `IDeviceSelectionNotifier`, and the panel tells the service by `IAppDeviceCallback`.

* `ContinuationExtraParams.roundTrips`: what the writes that nobody looks at leave of it.
* `onRemoteRequest_cases`: what the service is never called with, whatever the bytes.
* `ability_rpc_transparent`: a call through the proxy and the stub.
* `onRemoteRequest_notify`: what a notifier is told.
-/

namespace DistributedSched

open Reading Coding

/-- Parcels carry vectors of texts besides. -/
structure AbilityPrimitives extends SchedPrimitives where
  string16Vector : Codec UInt8 (List (List UInt16))

structure AbilityPrimitives.Lawful (p : AbilityPrimitives) : Prop extends
    toSched : p.toSchedPrimitives.Lawful where
  string16Vector : ∀ a, p.string16Vector.RoundTrips a

/-- `ERR_INVALID_STATE` is the answer of one stub only. -/
structure AbilityEnv extends RequestEnv where
  errInvalidState : Failure := ⟨6, by decide⟩

/-- The descriptors of the two interfaces. -/
def notifierInterfaceToken : String := "OHOS.DistributedSchedule.IDeviceSelectionNotifier"
def appCallbackInterfaceToken : String := "OHOS.DistributedSchedule.IAppDeviceCallback"

inductive ClientRequest where
  | register (continuationExtraParams : Option ContinuationExtraParams)
  | unregister (token : Int)
  | registerDeviceSelectionCallback (token : Int) (cbType : String)
      (notifier : Option RemoteObject)
  | unregisterDeviceSelectionCallback (token : Int) (cbType : String)
  | updateConnectStatus (token : Int) (deviceId : String) (deviceConnectStatus : Int)
  | startDeviceManager (token : Int) (continuationExtraParams : Option ContinuationExtraParams)

/-- The codes of the requests; any other goes to the other service of the process. -/
inductive ClientCode where
  | register | unregister | registerDeviceSelectionCallback | unregisterDeviceSelectionCallback
  | updateConnectStatus | startDeviceManager
deriving DecidableEq

def ClientRequest.code : ClientRequest → ClientCode
  | register _ => .register
  | unregister _ => .unregister
  | registerDeviceSelectionCallback .. => .registerDeviceSelectionCallback
  | unregisterDeviceSelectionCallback .. => .unregisterDeviceSelectionCallback
  | updateConnectStatus .. => .updateConnectStatus
  | startDeviceManager .. => .startDeviceManager

/-- What a request is answered, with the token that `Register` gives out. -/
structure ClientAnswer where
  result : Int := errOk
  token : Option Int := none
deriving DecidableEq

/-- What the panel or a notifier is told of the devices that were selected. -/
inductive Selected where
  | connected (continuationResults : List ContinuationResult)
  | disconnected (deviceIds : List String)
deriving DecidableEq

/-- The event type, under which a notifier is registered. -/
def Selected.eventType : Selected → String
  | connected _ => eventConnect
  | disconnected _ => eventDisconnect

/-- What the panel says. -/
inductive PanelAnswer where
  | onDeviceConnect (token : Int) (continuationResults : List ContinuationResult)
  | onDeviceDisconnect (token : Int) (deviceIds : List String)
  | onDeviceCancel

/-- The codes of the events. -/
inductive EventCode where
  | deviceConnect | deviceDisconnect | deviceCancel
deriving DecidableEq

section functions

variable (p : AbilityPrimitives) (lib : ListLibrary) (env : AbilityEnv)

namespace ContinuationExtraParams

/-- A write, when nobody looks whether it fails. -/
def unchecked (w : Option (List UInt8)) : Option (List UInt8) := some (w.getD [])

def marshalling (params : ContinuationExtraParams) : Option (List UInt8) :=
  let writeString16 (s : String) := unchecked (p.string16.write (lib.str8ToStr16 s))
  concat [unchecked (p.string16Vector.write (params.deviceTypeVec.map lib.str8ToStr16)),
    writeString16 params.targetBundle, writeString16 params.description,
    writeString16 params.filter, unchecked (p.int32.write params.continuationMode),
    writeString16 params.authInfo]

def readFromParcel : Reader UInt8 Unit ContinuationExtraParams := do
  let deviceTypeVec ← p.string16Vector.readOr ()
  let targetBundle ← p.string16.readD []
  let description ← p.string16.readD []
  let filter ← p.string16.readD []
  let continuationMode ← p.int32.readD 0
  let authInfo ← p.string16.readD []
  return { deviceTypeVec := deviceTypeVec.map lib.str16ToStr8
           targetBundle := lib.str16ToStr8 targetBundle
           description := lib.str16ToStr8 description, filter := lib.str16ToStr8 filter
           continuationMode, authInfo := lib.str16ToStr8 authInfo }

def parcelable : Parcelable ContinuationExtraParams := ⟨marshalling p lib, readFromParcel p lib⟩

end ContinuationExtraParams

/-! ### Requests of an application -/

namespace DistributedAbilityManagerProxy

open DistributedSchedProxy.Bytes (helper)

/-- The parameters, behind a marker. -/
def extraParams : Option ContinuationExtraParams → List Write
  | none => [helper env.toRequestEnv p.int32 valueNull]
  | some params => [helper env.toRequestEnv p.int32 valueObject,
      (env.errFlattenObject,
        (p.parcelable (ContinuationExtraParams.parcelable p lib)).write (some params))]

/-- What follows the interface token, unless the proxy gives up before it writes. -/
def writes : ClientRequest → Except Int (List Write)
  | .register continuationExtraParams => .ok (extraParams p lib env continuationExtraParams)
  | .unregister token => .ok [helper env.toRequestEnv p.int32 token]
  | .registerDeviceSelectionCallback token cbType notifier =>
    if cbType = "" then .error env.errNullObject.1
    else DistributedSchedProxy.Bytes.withObject env.toRequestEnv notifier fun notifier =>
      [helper env.toRequestEnv p.int32 token, helper env.toRequestEnv p.string cbType,
        helper env.toRequestEnv p.remoteObject notifier]
  | .unregisterDeviceSelectionCallback token cbType =>
    if cbType = "" then .error env.errNullObject.1
    else .ok [helper env.toRequestEnv p.int32 token, helper env.toRequestEnv p.string cbType]
  | .updateConnectStatus token deviceId deviceConnectStatus =>
    .ok [helper env.toRequestEnv p.int32 token, helper env.toRequestEnv p.string deviceId,
      helper env.toRequestEnv p.int32 deviceConnectStatus]
  | .startDeviceManager token continuationExtraParams =>
    .ok (helper env.toRequestEnv p.int32 token :: extraParams p lib env continuationExtraParams)

def write (request : ClientRequest) : Except Int (List UInt8) :=
  match writes p lib env request with
  | .error code => .error code
  | .ok ws =>
    if !env.remote then .error env.errNullObject.1
    else writeAll (helper env.toRequestEnv p.interfaceToken dmsInterfaceToken :: ws)

/-- What is made of `SendRequest` and the reply. -/
def readReply (error : Int) (reply : List UInt8) : ClientRequest → ClientAnswer
  | .register _ =>
    if error ≠ errOk then { result := error }
    else
      let result := (p.int32.read reply).1.getD 0
      if result ≠ errOk then { result }
      else match (p.int32.read (p.int32.read reply).2).1 with
        | none => { result := env.errFlattenObject.1 }
        | some token => { token }
  | _ =>
    if error ≠ errOk then { result := error } else { result := (p.int32.read reply).1.getD 0 }

end DistributedAbilityManagerProxy

/-- The descriptor that a message begins with. -/
def checkDescriptor (descriptor : String) (code : Int) : RequestM Unit := do
  let remoteDescriptor ← p.interfaceToken.readD ""
  if remoteDescriptor = descriptor then pure () else throw (.returned code)

namespace DistributedAbilityManagerStub

open DistributedSchedStub.Bytes (readHelper readObject readParcelable)

def enforceInterfaceToken : RequestM Unit := checkDescriptor p dmsInterfaceToken dmsPermissionDenied

/-- The parameters, when the marker says that there are any. -/
def readExtraParams : RequestM (Option ContinuationExtraParams) := do
  let flag ← readHelper env.toRequestEnv p.int32
  if flag = valueObject then
    let params ← readParcelable p.toSchedPrimitives env.errNullObject.1
      (ContinuationExtraParams.parcelable p lib)
    return some params
  else return none

/-- An event type that is not empty. -/
def readCbType : RequestM String := do
  let cbType ← readHelper env.toRequestEnv p.string
  if cbType = "" then throw (.returned env.errNullObject.1) else return cbType

def registerInner : RequestM ClientRequest := do
  let continuationExtraParams ← readExtraParams p lib env
  return .register continuationExtraParams

def unregisterInner : RequestM ClientRequest := do
  let token ← readHelper env.toRequestEnv p.int32
  return .unregister token

def registerDeviceSelectionCallbackInner : RequestM ClientRequest := do
  let token ← readHelper env.toRequestEnv p.int32
  let cbType ← readCbType p env
  let notifier ← readObject p.toSchedPrimitives env.errNullObject.1
  return .registerDeviceSelectionCallback token cbType (some notifier)

def unregisterDeviceSelectionCallbackInner : RequestM ClientRequest := do
  let token ← readHelper env.toRequestEnv p.int32
  let cbType ← readCbType p env
  return .unregisterDeviceSelectionCallback token cbType

/-- The status is not checked here. -/
def updateConnectStatusInner : RequestM ClientRequest := do
  let token ← readHelper env.toRequestEnv p.int32
  let deviceId ← readHelper env.toRequestEnv p.string
  let deviceConnectStatus ← p.int32.readD 0
  return .updateConnectStatus token deviceId deviceConnectStatus

def startDeviceManagerInner : RequestM ClientRequest := do
  let token ← readHelper env.toRequestEnv p.int32
  let continuationExtraParams ← readExtraParams p lib env
  return .startDeviceManager token continuationExtraParams

/-- `funcsMap_`. -/
def funcsMap : ClientCode → RequestM ClientRequest
  | .register => registerInner p lib env
  | .unregister => unregisterInner p env
  | .registerDeviceSelectionCallback => registerDeviceSelectionCallbackInner p env
  | .unregisterDeviceSelectionCallback => unregisterDeviceSelectionCallbackInner p env
  | .updateConnectStatus => updateConnectStatusInner p env
  | .startDeviceManager => startDeviceManagerInner p lib env

/-- `OnRemoteRequest`, for a code of the map. -/
def onRemoteRequest (code : ClientCode) : RequestM ClientRequest := do
  enforceInterfaceToken p
  funcsMap p lib env code

/-- The end of a function of the map: `Register` puts the token behind the result. -/
def reply (answer : ClientAnswer) : ClientRequest → Int × List UInt8
  | .register _ =>
    match concat [p.int32.write answer.result, p.int32.write (answer.token.getD (-1))] with
    | none => (env.errFlattenObject.1, [])
    | some bytes => (errOk, bytes)
  | _ =>
    match p.int32.write answer.result with
    | none => (env.errFlattenObject.1, [])
    | some bytes => (errOk, bytes)

end DistributedAbilityManagerStub

open DistributedAbilityManagerProxy DistributedAbilityManagerStub in
/-- A call of `DistributedAbilityManagerClient`, through the proxy and the stub. -/
def clientRpc (service : ClientRequest → ClientAnswer) (request : ClientRequest) : ClientAnswer :=
  match write p lib env request with
  | .error code => readReply p env code [] request
  | .ok data =>
    let r := match onRemoteRequest p lib env request.code data with
      | .error (.returned code) => (code, [])
      | .error _ => (env.errDeadObject.1, [])
      | .ok (request, _) => reply p env (service request) request
    readReply p env r.1 r.2 request

/-! ### What the panel selects -/

namespace DeviceSelectionNotifierProxy

/-- The code and the message; nothing is sent when it cannot be written. -/
def write : Selected → Option (EventCode × List UInt8)
  | .connected continuationResults =>
    (concat [p.interfaceToken.write notifierInterfaceToken,
      writeContinuationResultsToParcel p.toParcelPrimitives lib continuationResults]).map
      fun bytes => (.deviceConnect, bytes)
  | .disconnected deviceIds =>
    (concat [p.interfaceToken.write notifierInterfaceToken, p.stringVector.write deviceIds]).map
      fun bytes => (.deviceDisconnect, bytes)

end DeviceSelectionNotifierProxy

/-- `ReadContinuationResultsFromParcel` into a vector that is new. -/
def readContinuationResults : RequestM (List ContinuationResult) := fun s =>
  match readContinuationResultsFromParcel p.toParcelPrimitives lib [] s with
  | (true, continuationResults, s) => .ok (continuationResults, s)
  | (false, _, _) => .error (.returned env.errFlattenObject.1)

open DistributedSchedStub.Bytes (readHelper)

/-- What the notifier of an application is told. -/
def DeviceSelectionNotifierStub.onRemoteRequest (code : EventCode) : RequestM Selected := do
  checkDescriptor p notifierInterfaceToken env.errInvalidValue.1
  match code with
  | .deviceConnect =>
    let continuationResults ← readContinuationResults p lib env
    return .connected continuationResults
  | .deviceDisconnect =>
    let deviceIds ← readHelper env.toRequestEnv p.stringVector
    return .disconnected deviceIds
  | .deviceCancel => throw (.returned env.errUnknownTransaction.1)

/-- What the service is told by the panel, whose texts are wide. -/
def AppDeviceCallbackStub.onRemoteRequest (code : EventCode) : RequestM PanelAnswer := do
  checkDescriptor p appCallbackInterfaceToken env.errInvalidState.1
  match code with
  | .deviceConnect =>
    let token ← readHelper env.toRequestEnv p.int32
    let continuationResults ← readContinuationResults p lib env
    return .onDeviceConnect token continuationResults
  | .deviceDisconnect =>
    let token ← readHelper env.toRequestEnv p.int32
    let deviceIds ← readHelper env.toRequestEnv p.string16Vector
    return .onDeviceDisconnect token (deviceIds.map lib.str16ToStr8)
  | .deviceCancel => return .onDeviceCancel

end functions

variable {p : AbilityPrimitives} {lib : ListLibrary} {env : AbilityEnv}

/-! ### The parameters -/

theorem mirrors_unchecked {ε α : Type} {w : Option (List UInt8)} {r : Reader UInt8 ε α} {a : α}
    (h : Mirrors w r a) (hw : w ≠ none) : Mirrors (ContinuationExtraParams.unchecked w) r a := by
  obtain ⟨bytes, rfl⟩ := Option.ne_none_iff_exists'.mp hw
  exact h

/-- Texts that come back from their conversion come back from a vector. -/
theorem map_inverse {l : List String} (h : ∀ s ∈ l, lib.Inverse s) :
    (l.map lib.str8ToStr16).map lib.str16ToStr8 = l := by
  rw [List.map_map]
  exact (List.map_congr_left h).trans (List.map_id l)

namespace ContinuationExtraParams

variable (p lib) in
/-- The parcel takes each field, and the texts come back from their conversion. -/
structure Carried (params : ContinuationExtraParams) : Prop where
  written : p.string16Vector.write (params.deviceTypeVec.map lib.str8ToStr16) ≠ none
  inverse : ∀ s ∈ params.deviceTypeVec, lib.Inverse s
  targetBundle : Carries p.toParcelPrimitives lib params.targetBundle
  description : Carries p.toParcelPrimitives lib params.description
  filter : Carries p.toParcelPrimitives lib params.filter
  continuationMode : p.int32.write params.continuationMode ≠ none
  authInfo : Carries p.toParcelPrimitives lib params.authInfo

/-- **The parameters come back**, when every write goes well, although nobody looks. -/
theorem roundTrips (hp : p.Lawful) {params : ContinuationExtraParams} (h : params.Carried p lib) :
    (parcelable p lib).RoundTrips params := by
  show Mirrors (marshalling p lib params) (readFromParcel p lib) params
  unfold marshalling readFromParcel
  refine .cons (mirrors_unchecked ((hp.string16Vector _).readOr ()) h.written) ?_
  refine .cons (h.targetBundle.mirrors hp.toLawful) ?_
  refine .cons (h.description.mirrors hp.toLawful) ?_
  refine .cons (h.filter.mirrors hp.toLawful) ?_
  refine .cons (mirrors_unchecked ((hp.int32.roundTrips _).readD 0) h.continuationMode) ?_
  refine .cons (h.authInfo.mirrors hp.toLawful) ?_
  rw [map_inverse h.inverse, h.targetBundle.inverse, h.description.inverse, h.filter.inverse,
    h.authInfo.inverse]
  exact .nil params

end ContinuationExtraParams

/-! ### Any message -/

/-- What the service is never called with. -/
def ClientRequest.Proper : ClientRequest → Prop
  | registerDeviceSelectionCallback _ cbType notifier => cbType ≠ "" ∧ notifier ≠ none
  | unregisterDeviceSelectionCallback _ cbType => cbType ≠ ""
  | _ => True

namespace DistributedAbilityManagerStub

open DistributedSchedStub.Bytes

theorem ends_readExtraParams : Ends StubExit.Fatal (fun _ => True) (readExtraParams p lib env) := by
  refine .bind (ends_readHelper _) fun flag _ => ?_
  split
  · exact .bind (ends_readParcelable _ _) fun _ _ => .pure trivial
  · exact .pure trivial

theorem ends_readCbType : Ends StubExit.Fatal (fun cbType => cbType ≠ "") (readCbType p env) := by
  refine .bind (ends_readHelper _) fun cbType _ => ?_
  split
  · exact .throw id
  · rename_i h
    exact .pure h

theorem funcsMap_guard (code : ClientCode) :
    Ends StubExit.Fatal (fun request => request.code = code ∧ request.Proper)
      (funcsMap p lib env code) := by
  cases code with
  | register => exact .bind ends_readExtraParams fun _ _ => .pure ⟨rfl, trivial⟩
  | unregister => exact .bind (ends_readHelper _) fun _ _ => .pure ⟨rfl, trivial⟩
  | registerDeviceSelectionCallback =>
      exact .bind (ends_readHelper _) fun _ _ => .bind ends_readCbType fun _ hc =>
        .bind (ends_readObject _) fun _ _ => .pure ⟨rfl, hc, Option.some_ne_none _⟩
  | unregisterDeviceSelectionCallback =>
      exact .bind (ends_readHelper _) fun _ _ => .bind ends_readCbType fun _ hc => .pure ⟨rfl, hc⟩
  | updateConnectStatus =>
      exact .bind (ends_readHelper _) fun _ _ => .bind (ends_readHelper _) fun _ _ =>
        .bind (ends_readD _ _) fun _ _ => .pure ⟨rfl, trivial⟩
  | startDeviceManager =>
      exact .bind (ends_readHelper _) fun _ _ => .bind ends_readExtraParams fun _ _ =>
        .pure ⟨rfl, trivial⟩

end DistributedAbilityManagerStub

theorem ends_checkDescriptor (descriptor : String) (code : Int) :
    Ends StubExit.Fatal (fun _ => True) (checkDescriptor p descriptor code) := by
  refine .bind (ends_readD _ _) fun _ _ => ?_
  split
  · exact .pure trivial
  · exact .throw id

/-- Nothing is read behind another descriptor. -/
theorem descriptor_of_ok {descriptor : String} {code : Int} {α : Type} {func : RequestM α}
    {s s' : List UInt8} {a : α}
    (h : (checkDescriptor p descriptor code >>= fun _ => func) s = .ok (a, s')) :
    (p.interfaceToken.read s).1 = some descriptor ∨ descriptor = "" := by
  by_cases hd : (p.interfaceToken.read s).1.getD "" = descriptor
  · cases ht : (p.interfaceToken.read s).1 with
    | none =>
        rw [ht] at hd
        exact .inr hd.symm
    | some token =>
        rw [ht] at hd
        exact .inl (congrArg some hd)
  · have hread : checkDescriptor p descriptor code s = .error (.returned code) := by
      rw [checkDescriptor, run_bind_of_ok rfl, if_neg hd]
      rfl
    rw [run_bind_of_error hread] at h
    cases h

open DistributedAbilityManagerStub in
/-- **The continuation manager is guarded**, for every code of its map and any bytes: the stub
returns a code, or it reads a request of that code behind the interface token, with an event type
that is not empty and a notifier that is not null. -/
theorem onRemoteRequest_cases (p : AbilityPrimitives) (lib : ListLibrary) (env : AbilityEnv)
    (code : ClientCode) (data : List UInt8) :
    (∃ errCode, onRemoteRequest p lib env code data = .error (.returned errCode)) ∨
    ∃ request rest, onRemoteRequest p lib env code data = .ok (request, rest) ∧
      request.code = code ∧ request.Proper ∧
      (p.interfaceToken.read data).1 = some dmsInterfaceToken := by
  have hends : Ends StubExit.Fatal (fun request => request.code = code ∧ request.Proper)
      (onRemoteRequest p lib env code) :=
    .bind (ends_checkDescriptor _ _) fun _ _ => funcsMap_guard code
  cases hr : onRemoteRequest p lib env code data with
  | error e =>
      have hfatal := (hends data).1 e hr
      cases e with
      | returned errCode => exact .inl ⟨errCode, rfl⟩
      | nullPointer => exact absurd trivial hfatal
      | exception => exact absurd trivial hfatal
  | ok r =>
      obtain ⟨hcode, hproper⟩ := (hends data).2 r.1 r.2 hr
      refine .inr ⟨r.1, r.2, rfl, hcode, hproper, ?_⟩
      exact (descriptor_of_ok hr).resolve_right (by decide)

theorem mirrors_checkDescriptor (hp : p.Lawful) (descriptor : String) (code : Int) :
    Mirrors (p.interfaceToken.write descriptor) (checkDescriptor p descriptor code) () := by
  intro s hs rest
  have hread := ((hp.interfaceToken descriptor).readD (ε := StubExit) "") s hs rest
  rw [checkDescriptor, run_bind_of_ok hread, if_pos rfl]
  rfl

/-! ### A call -/

namespace ClientRequest

variable (p lib) in
/-- The parcel takes the parameters. -/
def Carried : ClientRequest → Prop
  | register continuationExtraParams =>
    ∀ params, continuationExtraParams = some params → params.Carried p lib
  | startDeviceManager _ continuationExtraParams =>
    ∀ params, continuationExtraParams = some params → params.Carried p lib
  | _ => True

variable (p) in
/-- The reply takes the answer. -/
def Replies (answer : ClientAnswer) : ClientRequest → Prop
  | register _ => p.int32.write answer.result ≠ none ∧
      p.int32.write (answer.token.getD (-1)) ≠ none
  | _ => p.int32.write answer.result ≠ none

/-- The answer on the side of the application: a token with a success of `Register` only. -/
def answered (answer : ClientAnswer) : ClientRequest → ClientAnswer
  | register _ =>
    if answer.result = errOk then { token := some (answer.token.getD (-1)) }
    else { result := answer.result }
  | _ => { result := answer.result }

end ClientRequest

namespace DistributedAbilityManagerStub

open DistributedSchedStub.Bytes

theorem mirrors_readExtraParams (hp : p.Lawful) {params : Option ContinuationExtraParams}
    (h : ∀ q, params = some q → q.Carried p lib) :
    Mirrors (concat ((DistributedAbilityManagerProxy.extraParams p lib env params).map Prod.snd))
      (readExtraParams p lib env) params := by
  have hflag := mirrors_readHelper env.toRequestEnv hp.int32.roundTrips
  cases params with
  | none =>
      refine .cons (hflag valueNull) ?_
      rw [if_neg (by decide)]
      exact .nil none
  | some params =>
      refine .cons (hflag valueObject) ?_
      rw [if_pos rfl]
      exact .cons (mirrors_readParcelable hp.toSched
        (ContinuationExtraParams.roundTrips hp (h params rfl)) _) <| .nil (some params)

theorem mirrors_readCbType (hp : p.Lawful) {cbType : String} (h : cbType ≠ "") :
    Mirrors (p.string.write cbType) (readCbType p env) cbType := by
  intro s hs rest
  rw [readCbType, run_bind_of_ok (mirrors_readHelper env.toRequestEnv hp.string cbType s hs rest),
    if_neg h]
  rfl

/-- Each request is read by its function. -/
theorem funcsMap_mirrors (hp : p.Lawful) {request : ClientRequest} {ws : List Write}
    (hws : DistributedAbilityManagerProxy.writes p lib env request = .ok ws)
    (hcarried : request.Carried p lib) :
    Mirrors (concat (ws.map Prod.snd)) (funcsMap p lib env request.code) request := by
  have hint32 := mirrors_readHelper env.toRequestEnv hp.int32.roundTrips
  have hstring := mirrors_readHelper env.toRequestEnv hp.string
  cases request with
  | register params =>
      cases hws
      intro s hs rest
      exact run_bind_of_ok (mirrors_readExtraParams hp hcarried s hs rest)
  | unregister token =>
      cases hws
      exact .cons (hint32 _) <| .nil _
  | registerDeviceSelectionCallback token cbType notifier =>
      obtain ⟨hc, hws⟩ : cbType ≠ "" ∧ _ := by
        by_cases hc : cbType = ""
        · rw [DistributedAbilityManagerProxy.writes, if_pos hc] at hws
          cases hws
        · rw [DistributedAbilityManagerProxy.writes, if_neg hc] at hws
          exact ⟨hc, hws⟩
      obtain ⟨notifier, rfl, rfl⟩ := withObject_eq_ok hws
      exact .cons (hint32 _) <| .cons (mirrors_readCbType hp hc) <|
        .cons (mirrors_readObject hp.toSched _ _) <| .nil _
  | unregisterDeviceSelectionCallback token cbType =>
      by_cases hc : cbType = ""
      · rw [DistributedAbilityManagerProxy.writes, if_pos hc] at hws
        cases hws
      · rw [DistributedAbilityManagerProxy.writes, if_neg hc] at hws
        cases hws
        exact .cons (hint32 _) <| .cons (mirrors_readCbType hp hc) <| .nil _
  | updateConnectStatus token deviceId deviceConnectStatus =>
      cases hws
      exact .cons (hint32 _) <| .cons (hstring _) <| .cons ((hp.int32.roundTrips _).readD 0) <|
        .nil _
  | startDeviceManager token params =>
      cases hws
      refine .cons (hint32 _) fun s hs rest => ?_
      exact run_bind_of_ok (mirrors_readExtraParams hp hcarried s hs rest)

/-- The stub reads the request that the proxy wrote, to its end. -/
theorem reads_request (hp : p.Lawful) {request : ClientRequest} {data : List UInt8}
    (hdata : DistributedAbilityManagerProxy.write p lib env request = .ok data)
    (hcarried : request.Carried p lib) :
    onRemoteRequest p lib env request.code data = .ok (request, []) := by
  unfold DistributedAbilityManagerProxy.write at hdata
  cases hws : DistributedAbilityManagerProxy.writes p lib env request with
  | error code =>
      rw [hws] at hdata
      cases hdata
  | ok ws =>
      rw [hws] at hdata
      have hwritten : writeAll (DistributedSchedProxy.Bytes.helper env.toRequestEnv
          p.interfaceToken dmsInterfaceToken :: ws) = .ok data := by
        cases hremote : env.remote with
        | true => simpa [hremote] using hdata
        | false => simp [hremote] at hdata
      have hrun := Mirrors.cons (mirrors_checkDescriptor hp dmsInterfaceToken dmsPermissionDenied)
        (k := fun _ => funcsMap p lib env request.code) (funcsMap_mirrors hp hws hcarried)
        data (concat_of_writeAll hwritten) []
      rw [List.append_nil] at hrun
      exact hrun

/-- The proxy reads the reply. -/
theorem reads_reply (hp : p.Lawful) {request : ClientRequest} {answer : ClientAnswer}
    (h : request.Replies p answer) :
    DistributedAbilityManagerProxy.readReply p env (reply p env answer request).1
      (reply p env answer request).2 request = request.answered answer := by
  have hplain : ∀ {result : Int}, p.int32.write result ≠ none → ∃ bytes,
      p.int32.write result = some bytes ∧ p.int32.read bytes = (some result, []) := by
    intro result hw
    obtain ⟨bytes, hw⟩ := Option.ne_none_iff_exists'.mp hw
    have hread := hp.int32.roundTrips result bytes hw []
    rw [List.append_nil] at hread
    exact ⟨bytes, hw, hread⟩
  cases request with
  | register params =>
      obtain ⟨hresult, htoken⟩ := h
      obtain ⟨result, hresult⟩ := Option.ne_none_iff_exists'.mp hresult
      obtain ⟨token, htoken, hread⟩ := hplain htoken
      have hcode := hp.int32.roundTrips answer.result result hresult token
      simp only [reply, DistributedAbilityManagerProxy.readReply, ClientRequest.answered, hresult,
        htoken, concat, Option.bind_some, Option.map_some, List.append_nil, hcode, hread,
        Option.getD_some, ne_eq, not_true_eq_false, if_false]
      by_cases hr : answer.result = errOk
      · simp [hr]
      · simp [hr]
  | _ =>
      obtain ⟨bytes, hw, hread⟩ := hplain h
      simp only [reply, DistributedAbilityManagerProxy.readReply, ClientRequest.answered, hw, hread,
        Option.getD_some, ne_eq, not_true_eq_false, if_false]

end DistributedAbilityManagerStub

open DistributedAbilityManagerStub in
/-- **A call of the continuation manager crosses the wire**, whatever the service does: the stub
reads the request of the application, parameters included, to its end, the service is called with
it once, and its answer comes back. -/
theorem ability_rpc_transparent (hp : p.Lawful) {request : ClientRequest}
    {service : ClientRequest → ClientAnswer} {data : List UInt8}
    (hdata : DistributedAbilityManagerProxy.write p lib env request = .ok data)
    (hcarried : request.Carried p lib) (hreplies : request.Replies p (service request)) :
    onRemoteRequest p lib env request.code data = .ok (request, []) ∧
      clientRpc p lib env service request = request.answered (service request) := by
  have hrequest := reads_request hp hdata hcarried
  refine ⟨hrequest, ?_⟩
  rw [clientRpc, hdata]
  dsimp only
  rw [hrequest]
  exact reads_reply hp hreplies

/-- A parcel for the continuation manager. -/
def plainAbility : AbilityPrimitives where
  toSchedPrimitives := plainRequests
  string16Vector := plainParcel.string16.listOf []

theorem plainAbility_lawful : plainAbility.Lawful where
  toSched := plainRequests_lawful
  string16Vector := (plainParcel_lawful.string16.listOf
    (show 4 ∣ ([] : List UInt8).length by decide)).roundTrips

open DistributedAbilityManagerStub in
/-- An application asks for tablets. -/
theorem ability_rpc_transparent_tablets :
    (∃ data, onRemoteRequest plainAbility plainLibrary {} .register data =
      .ok (.register (some { deviceTypeVec := ["tablet"], continuationMode := 1 }), [])) ∧
    clientRpc plainAbility plainLibrary {} (fun _ => { token := some 7 })
        (.register (some { deviceTypeVec := ["tablet"], continuationMode := 1 })) =
      { token := some 7 } := by
  have hcarries : ∀ s ∈ ["tablet", ""], Carries plainParcel plainLibrary s := by
    intro s hs
    simp only [List.mem_cons, List.not_mem_nil, or_false] at hs
    rcases hs with rfl | rfl <;> exact ⟨by decide +kernel, by decide +kernel⟩
  obtain ⟨data, hdata⟩ : ∃ data, DistributedAbilityManagerProxy.write plainAbility plainLibrary {}
      (.register (some { deviceTypeVec := ["tablet"], continuationMode := 1 })) = .ok data :=
    ⟨_, rfl⟩
  refine (ability_rpc_transparent plainAbility_lawful hdata ?_ ⟨by decide, by decide⟩).imp_left
    fun hread => ⟨data, hread⟩
  rintro params hparams
  cases hparams
  exact {
    written := by decide +kernel
    inverse := List.forall_mem_singleton.mpr (hcarries "tablet" (by simp)).inverse
    targetBundle := hcarries "" (by simp)
    description := hcarries "" (by simp)
    filter := hcarries "" (by simp)
    continuationMode := by decide +kernel
    authInfo := hcarries "" (by simp) }

/-! ### A notifier -/

variable (p lib) in
/-- The parcel takes what was selected. -/
def Selected.Carried : Selected → Prop
  | connected continuationResults => continuationResults.length < 2 ^ 31 ∧
      ∀ result ∈ continuationResults, Carries p.toParcelPrimitives lib result.deviceId ∧
        Carries p.toParcelPrimitives lib result.deviceType ∧
        Carries p.toParcelPrimitives lib result.deviceName
  | disconnected _ => True

theorem mirrors_readContinuationResults (hp : p.Lawful) (hlib : lib.Lawful)
    {results : List ContinuationResult} (h : (Selected.connected results).Carried p lib) :
    Mirrors (writeContinuationResultsToParcel p.toParcelPrimitives lib results)
      (readContinuationResults p lib env) results := by
  obtain ⟨hlen, hcarried⟩ := h
  intro s hs rest
  have hread : readContinuationResultsFromParcel p.toParcelPrimitives lib [] (s ++ rest) =
      (true, results, rest) := by
    rw [readContinuationResultsFromParcel, readVector_written hp.toLawful hlib (fun result hm =>
      ContinuationResult.roundTrips hp.toLawful (hcarried result hm).1 (hcarried result hm).2.1
        (hcarried result hm).2.2) hlen hs]
    by_cases hr : results = []
    · rw [if_pos hr, hr]
    · rw [if_neg hr]
      rfl
  rw [readContinuationResults, hread]

/-- What is sent to a notifier is what it is told. -/
theorem onRemoteRequest_notify (hp : p.Lawful) (hlib : lib.Lawful) {selected : Selected}
    {code : EventCode} {data : List UInt8}
    (hdata : DeviceSelectionNotifierProxy.write p lib selected = some (code, data))
    (hcarried : selected.Carried p lib) :
    DeviceSelectionNotifierStub.onRemoteRequest p lib env code data = .ok (selected, []) := by
  have hdescriptor := mirrors_checkDescriptor hp notifierInterfaceToken env.errInvalidValue.1
  cases selected with
  | connected results =>
      obtain ⟨bytes, hbytes, he⟩ := Option.map_eq_some_iff.mp hdata
      cases he
      have hresults : Mirrors (concat [writeContinuationResultsToParcel p.toParcelPrimitives lib
          results]) (readContinuationResults p lib env >>= fun results =>
            pure (Selected.connected results)) (.connected results) :=
        .cons (mirrors_readContinuationResults hp hlib hcarried) <| .nil _
      have hrun := hdescriptor.cons (k := fun _ => _) hresults data hbytes []
      rw [List.append_nil] at hrun
      exact hrun
  | disconnected deviceIds =>
      obtain ⟨bytes, hbytes, he⟩ := Option.map_eq_some_iff.mp hdata
      cases he
      have hids : Mirrors (concat [p.stringVector.write deviceIds])
          (DistributedSchedStub.Bytes.readHelper env.toRequestEnv p.stringVector >>=
            fun deviceIds => pure (Selected.disconnected deviceIds)) (.disconnected deviceIds) :=
        .cons (DistributedSchedStub.Bytes.mirrors_readHelper env.toRequestEnv hp.stringVector _) <|
          .nil _
      have hrun := hdescriptor.cons (k := fun _ => _) hids data hbytes []
      rw [List.append_nil] at hrun
      exact hrun

end DistributedSched

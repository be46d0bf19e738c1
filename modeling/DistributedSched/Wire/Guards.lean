import DistributedSched.Wire.Requests

/-!
# Wire — who reaches the service

The stub calls the service for a request only when its caller may make it, and only with what a
method relies on; any other bytes end with an error code.

* `SchedRequest.Permitted`: the request comes from where its code is known, from foundation or from
  a system uid, and its access token has the permission where one is asked for.
* `SchedRequest.Proper`: the objects that are not null, the texts that are not empty.
* `requests_guarded`: every code, any bytes, however they are read.
-/

namespace DistributedSched

open Reading Coding

variable {p : SchedPrimitives} {σ : Type} {lib : SchedLibrary σ} {env : RequestEnv}

namespace RequestEnv

variable (env : RequestEnv)

/-- A call of the foundation process on the device. -/
def FromFoundation : Prop := env.isLocalCalling = true ∧ env.isFoundationCall = true

/-- And for an application whose token has the permission. -/
def FromFoundationFor (accessToken : Nat) : Prop :=
  env.FromFoundation ∧ env.checkPermission accessToken = errOk

/-- A call from another device, of a system uid. -/
def FromRemoteSystem : Prop := env.isLocalCalling = false ∧ env.callingUid < hidHap

/-- A call on the device, of a system uid. -/
def FromLocalSystem : Prop := env.isLocalCalling = true ∧ env.callingUid < hidHap

end RequestEnv

namespace SchedRequest

/-- Who may make a request. -/
def Permitted (env : RequestEnv) : SchedRequest → Prop
  | startRemoteAbility _ _ _ accessToken => env.FromFoundationFor accessToken
  | continueMission .. => env.FromFoundation ∨ env.FromRemoteSystem
  | startContinuation _ _ _ _ accessToken => env.FromFoundationFor accessToken
  | notifyCompleteContinuation .. => env.FromFoundation
  | connectRemoteAbility _ _ _ _ accessToken => env.FromFoundationFor accessToken
  | disconnectRemoteAbility _ _ accessToken => env.FromFoundationFor accessToken
  | getRemoteMissionSnapshotInfo .. => env.FromFoundation
  | registerMissionListener .. => env.FromFoundation
  | unRegisterMissionListener .. => env.FromFoundation
  | getMissionInfos .. => env.FromFoundation
  | startSyncRemoteMissions .. => env.FromFoundation
  | stopSyncRemoteMissions _ => env.FromFoundation
  | startRemoteAbilityByCall _ _ _ _ accessToken => env.FromFoundationFor accessToken
  | releaseRemoteAbility .. => env.FromFoundation
  | registerDistributedComponentListener _ => env.FromLocalSystem
  | getDistributedComponentList => env.FromLocalSystem
  | startRemoteFreeInstall _ _ _ accessToken _ => env.FromFoundationFor accessToken
  | notifyContinuationResultFromRemote .. => env.FromRemoteSystem
  | disconnectAbilityFromRemote .. => env.FromRemoteSystem
  | notifyProcessDiedFromRemote _ => env.FromRemoteSystem
  | startSyncMissionsFromRemote _ => env.FromRemoteSystem
  | stopSyncMissionsFromRemote _ => env.FromRemoteSystem
  | notifyMissionsChangedFromRemote .. => env.FromRemoteSystem
  | releaseAbilityFromRemote .. => env.FromRemoteSystem
  | notifyCompleteFreeInstallFromRemote .. => env.FromRemoteSystem

/-- What a method is never called with. -/
def Proper : SchedRequest → Prop
  | continueMission _ _ _ callback _ => callback ≠ none
  | notifyCompleteContinuation devId _ _ => devId ≠ []
  | getRemoteMissionSnapshotInfo networkId missionId => networkId ≠ "" ∧ 0 ≤ missionId
  | registerMissionListener devId obj => devId ≠ [] ∧ obj ≠ none
  | unRegisterMissionListener devId obj => devId ≠ [] ∧ obj ≠ none
  | startRemoteFreeInstall _ _ _ _ callback => callback ≠ none
  | _ => True

end SchedRequest

/-! ### The parts of a function -/

namespace DistributedSchedStub.Bytes

section parts

theorem ends_isFoundationCall : Ends StubExit.Fatal (fun _ => env.isFoundationCall = true)
    (isFoundationCall env) := by
  unfold isFoundationCall
  split
  · rename_i h
    exact .pure h
  · exact .throw id

theorem ends_checkCallingUid : Ends StubExit.Fatal (fun _ => env.callingUid < hidHap)
    (checkCallingUid env) := by
  unfold checkCallingUid
  split
  · rename_i h
    exact .pure h
  · exact .throw id

theorem ends_checkPermission (accessToken : Nat) :
    Ends StubExit.Fatal (fun _ => env.checkPermission accessToken = errOk)
      (checkPermission env accessToken) := by
  unfold checkPermission
  split
  · exact .throw id
  · rename_i h
    exact .pure (Decidable.not_not.mp h)

theorem ends_checkContinueMission : Ends StubExit.Fatal
    (fun _ => env.FromFoundation ∨ env.FromRemoteSystem) (checkContinueMission env) := by
  unfold checkContinueMission
  split
  · exact .throw id
  · rename_i h
    refine .pure ?_
    cases hl : env.isLocalCalling with
    | true => exact .inl ⟨hl, by simpa [hl] using h⟩
    | false => exact .inr ⟨hl, by simpa [hl] using h⟩

theorem ends_readHelper {α : Type} (c : Codec UInt8 α) :
    Ends StubExit.Fatal (fun _ => True) (readHelper env c) :=
  ends_readOr c id

theorem ends_readParcelable {α : Type} (code : Int) (c : Parcelable α) :
    Ends StubExit.Fatal (fun _ => True) (readParcelable p code c) := by
  refine .bind (ends_readD _ _) fun object _ => ?_
  cases object with
  | none => exact .throw id
  | some a => exact .pure trivial

theorem ends_readRemoteObject : Ends StubExit.Fatal (fun _ => True) (readRemoteObject p) :=
  fun _ => ⟨fun _ h => (by cases h), fun _ _ _ => trivial⟩

theorem ends_readObject (code : Int) : Ends StubExit.Fatal (fun _ => True) (readObject p code) := by
  refine .bind ends_readRemoteObject fun object _ => ?_
  cases object with
  | none => exact .throw id
  | some object => exact .pure trivial

theorem ends_readDevId (code : Int) :
    Ends StubExit.Fatal (fun devId => devId ≠ []) (readDevId p code) := by
  refine .bind (ends_readD _ _) fun devId _ => ?_
  split
  · exact .throw id
  · rename_i h
    exact .pure h

theorem ends_callerInfoUnmarshalling :
    Ends StubExit.Fatal (fun _ => True) (callerInfoUnmarshalling p env) :=
  .bind (ends_readHelper _) fun _ _ => .bind (ends_readHelper _) fun _ _ =>
    .bind (ends_readHelper _) fun _ _ => .bind (ends_readHelper _) fun _ _ =>
    .bind (ends_readHelper _) fun _ _ => .bind (ends_readHelper _) fun _ _ =>
    .bind (ends_readHelper _) fun _ _ => .pure trivial

theorem ends_readMissionInfos :
    Ends StubExit.Fatal (fun _ => True) (readMissionInfos p lib env) := by
  intro s
  refine ⟨fun e he => ?_, fun _ _ _ => trivial⟩
  unfold readMissionInfos at he
  split at he <;> cases he
  exact id

end parts

/-! ### The functions -/

variable (p lib env) in
/-- A function of a map calls the service only so. -/
def Guards (code : RequestCode) (func : RequestM SchedRequest) : Prop :=
  Ends StubExit.Fatal (fun request => request.code = code ∧ request.Permitted env ∧
    request.Proper) func

theorem localFuncs_guard (hl : env.isLocalCalling = true) {code : RequestCode}
    {func : RequestM SchedRequest} (h : localFuncsMap p lib env code = some func) :
    Guards env code func := by
  cases code with
  | startRemoteAbility =>
      cases h
      exact .bind ends_isFoundationCall fun _ hf => .bind (ends_readParcelable _ _) fun _ _ =>
        .bind (ends_readHelper _) fun _ _ => .bind (ends_readHelper _) fun _ _ =>
        .bind (ends_readHelper _) fun _ _ => .bind (ends_checkPermission _) fun _ ht =>
        .pure ⟨rfl, ⟨⟨hl, hf⟩, ht⟩, trivial⟩
  | continueMission =>
      cases h
      exact .bind ends_checkContinueMission fun _ hc => .bind (ends_readHelper _) fun _ _ =>
        .bind (ends_readHelper _) fun _ _ => .bind (ends_readHelper _) fun _ _ =>
        .bind (ends_readObject _) fun _ _ => .bind (ends_readParcelable _ _) fun _ _ =>
        .pure ⟨rfl, hc, Option.some_ne_none _⟩
  | startContinuation =>
      cases h
      exact .bind ends_isFoundationCall fun _ hf => .bind (ends_readParcelable _ _) fun _ _ =>
        .bind (ends_readD _ _) fun _ _ => .bind (ends_readD _ _) fun _ _ =>
        .bind (ends_readD _ _) fun _ _ => .bind (ends_readHelper _) fun _ _ =>
        .bind (ends_checkPermission _) fun _ ht => .pure ⟨rfl, ⟨⟨hl, hf⟩, ht⟩, trivial⟩
  | notifyCompleteContinuation =>
      cases h
      exact .bind ends_isFoundationCall fun _ hf => .bind (ends_readDevId _) fun _ hd =>
        .bind (ends_readHelper _) fun _ _ => .bind (ends_readHelper _) fun _ _ =>
        .pure ⟨rfl, ⟨hl, hf⟩, hd⟩
  | connectRemoteAbility =>
      cases h
      exact .bind ends_isFoundationCall fun _ hf => .bind (ends_readParcelable _ _) fun _ _ =>
        .bind ends_readRemoteObject fun _ _ => .bind (ends_readHelper _) fun _ _ =>
        .bind (ends_readHelper _) fun _ _ => .bind (ends_readHelper _) fun _ _ =>
        .bind (ends_checkPermission _) fun _ ht => .pure ⟨rfl, ⟨⟨hl, hf⟩, ht⟩, trivial⟩
  | disconnectRemoteAbility =>
      cases h
      exact .bind ends_isFoundationCall fun _ hf => .bind ends_readRemoteObject fun _ _ =>
        .bind (ends_readHelper _) fun _ _ => .bind (ends_readHelper _) fun _ _ =>
        .bind (ends_checkPermission _) fun _ ht => .pure ⟨rfl, ⟨⟨hl, hf⟩, ht⟩, trivial⟩
  | getRemoteMissionSnapshotInfo =>
      cases h
      refine .bind ends_isFoundationCall fun _ hf => .bind (ends_readD _ _) fun networkId _ => ?_
      split
      · exact .throw id
      rename_i hn
      refine .bind (ends_readHelper _) fun missionId _ => ?_
      split
      · exact .throw id
      · rename_i hm
        exact .pure ⟨rfl, ⟨hl, hf⟩, hn, Int.not_lt.mp hm⟩
  | registerMissionListener =>
      cases h
      exact .bind ends_isFoundationCall fun _ hf => .bind (ends_readDevId _) fun _ hd =>
        .bind (ends_readObject _) fun _ _ => .pure ⟨rfl, ⟨hl, hf⟩, hd, Option.some_ne_none _⟩
  | unRegisterMissionListener =>
      cases h
      exact .bind ends_isFoundationCall fun _ hf => .bind (ends_readDevId _) fun _ hd =>
        .bind (ends_readObject _) fun _ _ => .pure ⟨rfl, ⟨hl, hf⟩, hd, Option.some_ne_none _⟩
  | getMissionInfos =>
      cases h
      exact .bind ends_isFoundationCall fun _ hf => .bind (ends_readD _ _) fun _ _ =>
        .bind (ends_readHelper _) fun _ _ => .pure ⟨rfl, ⟨hl, hf⟩, trivial⟩
  | startSyncMissions =>
      cases h
      exact .bind ends_isFoundationCall fun _ hf => .bind (ends_readDevId _) fun _ _ =>
        .bind (ends_readD _ _) fun _ _ => .bind (ends_readD _ _) fun _ _ =>
        .pure ⟨rfl, ⟨hl, hf⟩, trivial⟩
  | stopSyncMissions =>
      cases h
      exact .bind ends_isFoundationCall fun _ hf => .bind (ends_readDevId _) fun _ _ =>
        .pure ⟨rfl, ⟨hl, hf⟩, trivial⟩
  | startRemoteAbilityByCall =>
      cases h
      exact .bind ends_isFoundationCall fun _ hf => .bind (ends_readParcelable _ _) fun _ _ =>
        .bind ends_readRemoteObject fun _ _ => .bind (ends_readHelper _) fun _ _ =>
        .bind (ends_readHelper _) fun _ _ => .bind (ends_readHelper _) fun _ _ =>
        .bind (ends_checkPermission _) fun _ ht => .pure ⟨rfl, ⟨⟨hl, hf⟩, ht⟩, trivial⟩
  | releaseRemoteAbility =>
      cases h
      exact .bind ends_isFoundationCall fun _ hf => .bind ends_readRemoteObject fun _ _ =>
        .bind (ends_readParcelable _ _) fun _ _ => .pure ⟨rfl, ⟨hl, hf⟩, trivial⟩
  | registerDistributedComponentListener =>
      cases h
      exact .bind ends_checkCallingUid fun _ hu => .bind ends_readRemoteObject fun _ _ =>
        .pure ⟨rfl, ⟨hl, hu⟩, trivial⟩
  | getDistributedComponentList =>
      cases h
      exact .bind ends_checkCallingUid fun _ hu => .pure ⟨rfl, ⟨hl, hu⟩, trivial⟩
  | startRemoteFreeInstall =>
      cases h
      exact .bind ends_isFoundationCall fun _ hf => .bind (ends_readParcelable _ _) fun _ _ =>
        .bind (ends_readHelper _) fun _ _ => .bind (ends_readHelper _) fun _ _ =>
        .bind (ends_readHelper _) fun _ _ => .bind (ends_readObject _) fun _ _ =>
        .bind (ends_checkPermission _) fun _ ht =>
        .pure ⟨rfl, ⟨⟨hl, hf⟩, ht⟩, Option.some_ne_none _⟩
  | _ => cases h

theorem remoteFuncs_guard (hl : env.isLocalCalling = false) {code : RequestCode}
    {func : RequestM SchedRequest} (h : remoteFuncsMap p lib env code = some func) :
    Guards env code func := by
  cases code with
  | continueMission =>
      cases h
      exact .bind ends_checkContinueMission fun _ hc => .bind (ends_readHelper _) fun _ _ =>
        .bind (ends_readHelper _) fun _ _ => .bind (ends_readHelper _) fun _ _ =>
        .bind (ends_readObject _) fun _ _ => .bind (ends_readParcelable _ _) fun _ _ =>
        .pure ⟨rfl, hc, Option.some_ne_none _⟩
  | notifyContinuationResultFromRemote =>
      cases h
      exact .bind ends_checkCallingUid fun _ hu => .bind (ends_readHelper _) fun _ _ =>
        .bind (ends_readHelper _) fun _ _ => .pure ⟨rfl, ⟨hl, hu⟩, trivial⟩
  | disconnectAbilityFromRemote =>
      cases h
      exact .bind ends_checkCallingUid fun _ hu => .bind ends_readRemoteObject fun _ _ =>
        .bind (ends_readHelper _) fun _ _ => .bind (ends_readHelper _) fun _ _ =>
        .pure ⟨rfl, ⟨hl, hu⟩, trivial⟩
  | notifyProcessDiedFromRemote =>
      cases h
      exact .bind ends_checkCallingUid fun _ hu => .bind (ends_readHelper _) fun _ _ =>
        .bind (ends_readHelper _) fun _ _ => .bind (ends_readHelper _) fun _ _ =>
        .pure ⟨rfl, ⟨hl, hu⟩, trivial⟩
  | startSyncMissionsFromRemote =>
      cases h
      exact .bind ends_checkCallingUid fun _ hu => .bind ends_callerInfoUnmarshalling fun _ _ =>
        .pure ⟨rfl, ⟨hl, hu⟩, trivial⟩
  | stopSyncMissionsFromRemote =>
      cases h
      exact .bind ends_checkCallingUid fun _ hu => .bind ends_callerInfoUnmarshalling fun _ _ =>
        .pure ⟨rfl, ⟨hl, hu⟩, trivial⟩
  | notifyMissionsChangedFromRemote =>
      cases h
      exact .bind ends_checkCallingUid fun _ hu => .bind (ends_readD _ _) fun _ _ =>
        .bind ends_readMissionInfos fun _ _ => .bind (ends_readD _ _) fun _ _ =>
        .bind (ends_readD _ _) fun _ _ => .bind (ends_readD _ _) fun _ _ =>
        .bind (ends_readD _ _) fun _ _ => .pure ⟨rfl, ⟨hl, hu⟩, trivial⟩
  | releaseAbilityFromRemote =>
      cases h
      exact .bind ends_checkCallingUid fun _ hu => .bind ends_readRemoteObject fun _ _ =>
        .bind (ends_readParcelable _ _) fun _ _ => .bind (ends_readHelper _) fun _ _ =>
        .bind (ends_readHelper _) fun _ _ => .pure ⟨rfl, ⟨hl, hu⟩, trivial⟩
  | notifyCompleteFreeInstallFromRemote =>
      cases h
      exact .bind ends_checkCallingUid fun _ hu => .bind (ends_readHelper _) fun _ _ =>
        .bind (ends_readHelper _) fun _ _ => .pure ⟨rfl, ⟨hl, hu⟩, trivial⟩
  | _ => cases h

/-- The maps, by where the call comes from. -/
theorem funcs_guard {code : RequestCode} {func : RequestM SchedRequest}
    (h : (if env.isLocalCalling then localFuncsMap p lib env code
      else remoteFuncsMap p lib env code) = some func) : Guards env code func := by
  cases hl : env.isLocalCalling with
  | true =>
      rw [hl, if_pos rfl] at h
      exact localFuncs_guard hl h
  | false =>
      rw [hl, if_neg Bool.false_ne_true] at h
      exact remoteFuncs_guard hl h

theorem ends_enforceInterfaceToken :
    Ends StubExit.Fatal (fun _ => True) (enforceInterfaceToken p) := by
  refine .bind (ends_readD _ _) fun token _ => ?_
  split
  · exact .pure trivial
  · exact .throw id

/-- Nothing is called without the token. -/
theorem token_of_ok {s s' : List UInt8} {func : RequestM SchedRequest} {request : SchedRequest}
    (h : (enforceInterfaceToken p >>= fun _ => func) s = .ok (request, s')) :
    (p.interfaceToken.read s).1 = some dmsInterfaceToken := by
  cases ht : (p.interfaceToken.read s).1 with
  | none =>
      have hread : enforceInterfaceToken p s = .error (.returned dmsPermissionDenied) := by
        unfold enforceInterfaceToken
        rw [run_bind_of_ok rfl, ht]
        rfl
      rw [run_bind_of_error hread] at h
      cases h
  | some token =>
      by_cases heq : token = dmsInterfaceToken
      · rw [heq]
      · have hread : enforceInterfaceToken p s = .error (.returned dmsPermissionDenied) := by
          unfold enforceInterfaceToken
          rw [run_bind_of_ok rfl, ht, Option.getD_some, if_neg heq]
          rfl
        rw [run_bind_of_error hread] at h
        cases h

end DistributedSchedStub.Bytes

open DistributedSchedStub.Bytes

/-- **The service is guarded**, for every code and any bytes, whatever the parcel makes of them:
the stub returns a code, or it calls the method of that code, for a caller that may call it, with
the interface token in front, and with nothing that the method is not to be called with. -/
theorem requests_guarded (p : SchedPrimitives) {σ : Type} (lib : SchedLibrary σ)
    (env : RequestEnv) (code : RequestCode) (data : List UInt8) :
    match onRemoteRequest p lib env code data with
    | .error e => ∃ errCode, e = .returned errCode
    | .ok (request, _) => request.code = code ∧ request.Permitted env ∧ request.Proper ∧
        (p.interfaceToken.read data).1 = some dmsInterfaceToken := by
  cases hfunc : if env.isLocalCalling then localFuncsMap p lib env code
      else remoteFuncsMap p lib env code with
  | none =>
      rw [onRemoteRequest, hfunc]
      exact ⟨_, rfl⟩
  | some func =>
      have hrun : onRemoteRequest p lib env code data =
          (enforceInterfaceToken p >>= fun _ => func) data := by rw [onRemoteRequest, hfunc]
      have hends := Ends.bind (ends_enforceInterfaceToken (p := p)) fun _ _ => funcs_guard hfunc
      rw [hrun]
      cases hr : (enforceInterfaceToken p >>= fun _ => func) data with
      | error e =>
          have hfatal := (hends data).1 e hr
          cases e with
          | returned errCode => exact ⟨errCode, rfl⟩
          | nullPointer => exact absurd trivial hfatal
          | exception => exact absurd trivial hfatal
      | ok r =>
          obtain ⟨hcode, hpermitted, hproper⟩ := (hends data).2 r.1 r.2 hr
          exact ⟨hcode, hpermitted, hproper, token_of_ok hr⟩

end DistributedSched

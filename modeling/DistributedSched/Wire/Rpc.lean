import DistributedSched.Service.FromRemote
import DistributedSched.Wire.Guards

/-!
# Wire — a call through the proxy and the stub

What a caller of `DistributedSchedProxy` gets is what the service answers to the request on the
other side, which is the request less the fields that do not cross.

* `SchedRequest.delivered`: the request on the other side.
* `SchedRequest.Carried`, `SchedRequest.Replies`: what the parcels take.
* `SchedRequest.answered`: the answer on this side.
* `rpc_transparent`: every request, any service.
-/

namespace DistributedSched

open Reading Coding

namespace VersionedCaller

/-- What `CallerInfoMarshalling` writes of a caller. -/
def marshalled (c : VersionedCaller) : VersionedCaller :=
  { uid := c.uid, pid := c.pid, callerType := c.callerType, sourceDeviceId := c.sourceDeviceId,
    callerAppId := c.callerAppId, duid := c.duid, dmsVersion := c.dmsVersion }

/-- What follows the missions that have changed. -/
def ofMissionsChanged (c : VersionedCaller) : VersionedCaller :=
  { uid := c.uid, pid := c.pid, sourceDeviceId := c.sourceDeviceId, dmsVersion := c.dmsVersion }

end VersionedCaller

namespace SchedRequest

/-- The request on the other side. -/
def delivered : SchedRequest → SchedRequest
  | notifyProcessDiedFromRemote callerInfo => notifyProcessDiedFromRemote callerInfo.ofProcessDied
  | startSyncMissionsFromRemote callerInfo => startSyncMissionsFromRemote callerInfo.marshalled
  | stopSyncMissionsFromRemote callerInfo => stopSyncMissionsFromRemote callerInfo.marshalled
  | notifyMissionsChangedFromRemote missionInfos callerInfo =>
    notifyMissionsChangedFromRemote missionInfos callerInfo.ofMissionsChanged
  | releaseAbilityFromRemote connect element callerInfo =>
    releaseAbilityFromRemote connect element callerInfo.ofRelease
  | request => request

variable {σ : Type}

/-- The stub takes no empty device id, strings come back from their conversion, and a list has a
length that is an `int32_t`. -/
def Carried (lib : SchedLibrary σ) : SchedRequest → Prop
  | notifyCompleteContinuation devId _ _ => devId ≠ []
  | registerMissionListener devId _ => devId ≠ []
  | unRegisterMissionListener devId _ => devId ≠ []
  | getMissionInfos deviceId _ => lib.Inverse deviceId
  | startSyncRemoteMissions devId _ _ => lib.Inverse devId ∧ lib.str8ToStr16 devId ≠ []
  | stopSyncRemoteMissions devId => lib.Inverse devId ∧ lib.str8ToStr16 devId ≠ []
  | notifyMissionsChangedFromRemote missionInfos _ => missionInfos.length < 2 ^ 31 ∧
      ∀ info ∈ missionInfos, lib.Inverse info.label ∧ lib.Inverse info.iconPath
  | _ => True

/-- The reply takes the answer, and the stub has a snapshot to look into. -/
def Replies (p : SchedPrimitives) (lib : SchedLibrary σ) (answer : SchedAnswer σ) :
    SchedRequest → Prop
  | notifyCompleteContinuation .. => True
  | notifyContinuationResultFromRemote .. => True
  | getMissionInfos .. => answer.result = errOk → answer.missionInfos.length < 2 ^ 31 ∧
      writeMissionInfosToParcel p.toParcelPrimitives lib.toListLibrary answer.missionInfos ≠ none
  | getRemoteMissionSnapshotInfo .. => answer.result = errOk → answer.missionSnapshot ≠ none ∧
      (p.parcelable lib.missionSnapshot).write answer.missionSnapshot ≠ none
  | startSyncMissionsFromRemote _ => answer.result = errOk →
      answer.dstbMissionInfos.length < 2 ^ 31 ∧
      (∀ info ∈ answer.dstbMissionInfos, lib.Inverse info.label ∧ lib.Inverse info.iconPath) ∧
      p.int32.write dmsVersionBase ≠ none ∧ writeDstbMissionInfosToParcel p.toParcelPrimitives
        lib.toListLibrary answer.dstbMissionInfos ≠ none
  | getDistributedComponentList => p.int32.write answer.result ≠ none ∧
      p.stringVector.write answer.distributedComponents ≠ none
  | _ => p.int32.write answer.result ≠ none

/-- The answer on this side: three requests hide the code of a failure, and one returns nothing. -/
def answered (env : RequestEnv) (answer : SchedAnswer σ) : SchedRequest → SchedAnswer σ
  | notifyCompleteContinuation .. => {}
  | getMissionInfos .. =>
    if answer.result = errOk then { missionInfos := answer.missionInfos }
    else { result := answer.result }
  | getRemoteMissionSnapshotInfo networkId _ =>
    if answer.result = errOk ∧ env.getUuidByNetworkId networkId ≠ "" then
      { missionSnapshot := answer.missionSnapshot }
    else { result := env.errNullObject.1 }
  | startSyncMissionsFromRemote _ =>
    if answer.result = errOk then { dstbMissionInfos := answer.dstbMissionInfos }
    else { result := env.errFlattenObject.1 }
  | getDistributedComponentList =>
    if answer.result = errOk then { distributedComponents := answer.distributedComponents }
    else { result := answer.result }
  | _ => { result := answer.result }

end SchedRequest

variable {p : SchedPrimitives} {σ : Type} {lib : SchedLibrary σ} {env : RequestEnv}

/-! ### The request -/

/-- What is written when no write fails. -/
theorem concat_of_writeAll {ws : List Write} {data : List UInt8} (h : writeAll ws = .ok data) :
    concat (ws.map Prod.snd) = some data := by
  induction ws generalizing data with
  | nil =>
      cases h
      rfl
  | cons w ws ih =>
      obtain ⟨code, _ | bytes⟩ := w
      · cases h
      · unfold writeAll at h
        cases hws : writeAll ws with
        | error code =>
            rw [hws] at h
            cases h
        | ok rest =>
            rw [hws] at h
            cases h
            exact concat_cons_eq_some.mpr ⟨bytes, rest, rfl, ih hws, rfl⟩

namespace DistributedSchedStub.Bytes

section mirrors

theorem isFoundationCall_of (h : env.isFoundationCall = true) : isFoundationCall env = pure () :=
  if_pos h

theorem checkCallingUid_of (h : env.callingUid < hidHap) : checkCallingUid env = pure () :=
  if_pos h

theorem checkPermission_of {accessToken : Nat} (h : env.checkPermission accessToken = errOk) :
    checkPermission env accessToken = pure () :=
  if_neg fun hne => hne h

theorem checkContinueMission_of (h : env.FromFoundation ∨ env.FromRemoteSystem) :
    checkContinueMission env = pure () := by
  unfold checkContinueMission
  rcases h with ⟨hl, hf⟩ | ⟨hl, hu⟩
  · rw [hl, hf, if_neg (by simp)]
  · rw [hl, decide_eq_true hu, if_neg (by simp)]

theorem mirrors_readParcelable (hp : p.Lawful) {α : Type} {c : Parcelable α} {a : α}
    (h : c.RoundTrips a) (code : Int) :
    Mirrors ((p.parcelable c).write (some a)) (readParcelable p code c) a := by
  intro s hs rest
  have hread := ((hp.parcelable_some h).readD (ε := StubExit) none) s hs rest
  rw [readParcelable, run_bind_of_ok hread]
  rfl

theorem mirrors_readRemoteObject (hp : p.Lawful) (object : RemoteObject) :
    Mirrors (p.remoteObject.write object) (readRemoteObject p) (some object) := by
  intro s hs rest
  rw [readRemoteObject, hp.remoteObject object s hs rest]

theorem mirrors_readObject (hp : p.Lawful) (object : RemoteObject) (code : Int) :
    Mirrors (p.remoteObject.write object) (readObject p code) object := by
  intro s hs rest
  rw [readObject, run_bind_of_ok (mirrors_readRemoteObject hp object s hs rest)]
  rfl

theorem mirrors_readDevId (hp : p.Lawful) {devId : List UInt16} (h : devId ≠ []) (code : Int) :
    Mirrors (p.string16.write devId) (readDevId p code) devId := by
  intro s hs rest
  have hread := ((hp.string16.roundTrips devId).readD (ε := StubExit) []) s hs rest
  rw [readDevId, run_bind_of_ok hread, if_neg h]
  rfl

theorem mirrors_readMissionInfos (hp : p.Lawful) (hlib : lib.Lawful)
    {missionInfos : List DstbMissionInfo} (hlen : missionInfos.length < 2 ^ 31)
    (hstrings : ∀ info ∈ missionInfos, lib.Inverse info.label ∧ lib.Inverse info.iconPath) :
    Mirrors (writeDstbMissionInfosToParcel p.toParcelPrimitives lib.toListLibrary missionInfos)
      (readMissionInfos p lib env) missionInfos := by
  intro s hs rest
  have hread : readDstbMissionInfosFromParcel p.toParcelPrimitives lib.toListLibrary []
      (s ++ rest) = (true, missionInfos, rest) := by
    rw [readDstbMissionInfosFromParcel, readVector_written hp.toLawful hlib.toLawful
      (fun info hm => DstbMissionInfo.roundTrips hp.toLawful hlib.toLawful (hstrings info hm).1
        (hstrings info hm).2) hlen hs]
    by_cases hnil : missionInfos = []
    · rw [if_pos hnil, hnil]
    · rw [if_neg hnil]
      rfl
  rw [readMissionInfos, hread]

variable (env) in
theorem mirrors_readHelper {α : Type} {c : Codec UInt8 α} (h : ∀ a, c.RoundTrips a) (a : α) :
    Mirrors (c.write a) (readHelper env c) a :=
  (h a).readOr _

theorem mirrors_callerInfoUnmarshalling (hp : p.Lawful) (c : VersionedCaller) :
    Mirrors (concat ((DistributedSchedProxy.Bytes.callerInfoMarshalling p env c).map Prod.snd))
      (callerInfoUnmarshalling p env) c.marshalled := by
  have hint32 := mirrors_readHelper env hp.int32.roundTrips
  have hstring := mirrors_readHelper env hp.string
  exact .cons (hint32 _) <| .cons (hint32 _) <| .cons (hint32 _) <| .cons (hstring _) <|
    .cons (hint32 _) <| .cons (hstring _) <| .cons (hint32 _) <| .nil c.marshalled

end mirrors

/-! ### The functions, once more -/

theorem withObject_eq_ok {object : Option RemoteObject} {f : RemoteObject → List Write}
    {ws : List Write} (h : DistributedSchedProxy.Bytes.withObject env object f = .ok ws) :
    ∃ o, object = some o ∧ ws = f o := by
  cases object with
  | none => cases h
  | some o =>
      cases h
      exact ⟨o, rfl, rfl⟩

variable (p lib env) in
/-- A function of the maps that reads the request off what was written. -/
def Delivers (ws : List Write) (request : SchedRequest) : Prop :=
  ∃ func, (if env.isLocalCalling then localFuncsMap p lib env request.code
      else remoteFuncsMap p lib env request.code) = some func ∧
    Mirrors (concat (ws.map Prod.snd)) func request.delivered

theorem Delivers.ofLocal {ws : List Write} {request : SchedRequest} {func : RequestM SchedRequest}
    (hl : env.isLocalCalling = true) (hfunc : localFuncsMap p lib env request.code = some func)
    (h : Mirrors (concat (ws.map Prod.snd)) func request.delivered) :
    Delivers p lib env ws request :=
  ⟨func, by rw [hl, if_pos rfl, hfunc], h⟩

theorem Delivers.ofRemote {ws : List Write} {request : SchedRequest} {func : RequestM SchedRequest}
    (hl : env.isLocalCalling = false) (hfunc : remoteFuncsMap p lib env request.code = some func)
    (h : Mirrors (concat (ws.map Prod.snd)) func request.delivered) :
    Delivers p lib env ws request :=
  ⟨func, by rw [hl, if_neg Bool.false_ne_true, hfunc], h⟩

/-- **Each request is read by its function**, when it may be made. -/
theorem funcs_deliver (hp : p.Lawful) (hlib : lib.Lawful) {request : SchedRequest}
    {ws : List Write} (hws : request.writes p lib env = .ok ws)
    (hpermitted : request.Permitted env) (hcarried : request.Carried lib) :
    Delivers p lib env ws request := by
  have hint32 := mirrors_readHelper env hp.int32.roundTrips
  have hint64 := mirrors_readHelper env hp.int64.roundTrips
  have huint32 := mirrors_readHelper env hp.uint32
  have hbool := mirrors_readHelper env hp.bool.roundTrips
  have hstring := mirrors_readHelper env hp.string
  have hobject := mirrors_readRemoteObject hp
  have hwant : ∀ want, Mirrors _ (readWant p lib env) want := fun want =>
    mirrors_readParcelable hp (hlib.want want) _
  have helement : ∀ element, Mirrors _ (readParcelable p env.errInvalidValue.1 lib.elementName)
      element := fun element => mirrors_readParcelable hp (hlib.elementName element) _
  cases request with
  | startRemoteAbility want callerUid requestCode accessToken =>
      cases hws
      obtain ⟨⟨hl, hf⟩, ht⟩ := hpermitted
      refine .ofLocal hl rfl ?_
      exact .check (isFoundationCall_of hf) <| .cons (hwant _) <| .cons (hint32 _) <|
        .cons (hint32 _) <| .cons (huint32 _) <| .check (checkPermission_of ht) <| .nil _
  | continueMission srcDeviceId dstDeviceId missionId callback wantParams =>
      obtain ⟨callback, rfl, rfl⟩ := withObject_eq_ok hws
      refine ⟨continueMissionInner p lib env, by cases env.isLocalCalling <;> rfl, ?_⟩
      exact .check (checkContinueMission_of hpermitted) <| .cons (hstring _) <|
        .cons (hstring _) <| .cons (hint32 _) <| .cons (mirrors_readObject hp _ _) <|
        .cons (mirrors_readParcelable hp (hlib.wantParams _) _) <| .nil _
  | startContinuation want missionId callerUid status accessToken =>
      cases hws
      obtain ⟨⟨hl, hf⟩, ht⟩ := hpermitted
      refine .ofLocal hl rfl ?_
      have hint32 : ∀ i, Mirrors (ε := StubExit) _ (p.int32.readD 0) i := fun i =>
        (hp.int32.roundTrips i).readD 0
      exact .check (isFoundationCall_of hf) <| .cons (hwant _) <| .cons (hint32 _) <|
        .cons (hint32 _) <| .cons (hint32 _) <| .cons (huint32 _) <|
        .check (checkPermission_of ht) <| .nil _
  | notifyCompleteContinuation devId sessionId isSuccess =>
      cases hws
      obtain ⟨hl, hf⟩ := hpermitted
      refine .ofLocal hl rfl ?_
      exact .check (isFoundationCall_of hf) <| .cons (mirrors_readDevId hp hcarried _) <|
        .cons (hint32 _) <| .cons (hbool _) <| .nil _
  | connectRemoteAbility want connect callerUid callerPid accessToken =>
      obtain ⟨connect, rfl, rfl⟩ := withObject_eq_ok hws
      obtain ⟨⟨hl, hf⟩, ht⟩ := hpermitted
      refine .ofLocal hl rfl ?_
      exact .check (isFoundationCall_of hf) <| .cons (hwant _) <| .cons (hobject _) <|
        .cons (hint32 _) <| .cons (hint32 _) <| .cons (huint32 _) <|
        .check (checkPermission_of ht) <| .nil _
  | disconnectRemoteAbility connect callerUid accessToken =>
      obtain ⟨connect, rfl, rfl⟩ := withObject_eq_ok hws
      obtain ⟨⟨hl, hf⟩, ht⟩ := hpermitted
      refine .ofLocal hl rfl ?_
      exact .check (isFoundationCall_of hf) <| .cons (hobject _) <| .cons (hint32 _) <|
        .cons (huint32 _) <| .check (checkPermission_of ht) <| .nil _
  | getRemoteMissionSnapshotInfo networkId missionId =>
      obtain ⟨hl, hf⟩ := hpermitted
      change (if networkId = "" then _ else if missionId < 0 then _ else _) = _ at hws
      split at hws
      · cases hws
      rename_i hn
      split at hws
      · cases hws
      rename_i hm
      cases hws
      refine .ofLocal hl rfl ?_
      refine .check (isFoundationCall_of hf) <| .cons ((hp.string networkId).readD "") ?_
      rw [if_neg hn]
      refine .cons (hint32 missionId) ?_
      rw [if_neg hm]
      exact .nil _
  | registerMissionListener devId obj =>
      cases hws
      obtain ⟨hl, hf⟩ := hpermitted
      refine .ofLocal hl rfl ?_
      refine .check (isFoundationCall_of hf) <| .cons (mirrors_readDevId hp hcarried _) ?_
      cases obj with
      | none => exact fun _ hs => (by cases hs)
      | some obj => exact .cons (mirrors_readObject hp _ _) <| .nil _
  | unRegisterMissionListener devId obj =>
      cases hws
      obtain ⟨hl, hf⟩ := hpermitted
      refine .ofLocal hl rfl ?_
      refine .check (isFoundationCall_of hf) <| .cons (mirrors_readDevId hp hcarried _) ?_
      cases obj with
      | none => exact fun _ hs => (by cases hs)
      | some obj => exact .cons (mirrors_readObject hp _ _) <| .nil _
  | getMissionInfos deviceId numMissions =>
      cases hws
      obtain ⟨hl, hf⟩ := hpermitted
      refine .ofLocal hl rfl ?_
      refine .check (isFoundationCall_of hf) <| .cons ((hp.string16.roundTrips _).readD []) <|
        .cons (hint32 _) ?_
      rw [show lib.str16ToStr8 (lib.str8ToStr16 deviceId) = deviceId from hcarried]
      exact .nil _
  | startSyncRemoteMissions devId fixConflict tag =>
      cases hws
      obtain ⟨hl, hf⟩ := hpermitted
      refine .ofLocal hl rfl ?_
      refine .check (isFoundationCall_of hf) <| .cons (mirrors_readDevId hp hcarried.2 _) <|
        .cons ((hp.bool.roundTrips _).readD false) <| .cons ((hp.int64.roundTrips _).readD 0) ?_
      rw [hcarried.1]
      exact .nil _
  | stopSyncRemoteMissions devId =>
      cases hws
      obtain ⟨hl, hf⟩ := hpermitted
      refine .ofLocal hl rfl ?_
      refine .check (isFoundationCall_of hf) <| .cons (mirrors_readDevId hp hcarried.2 _) ?_
      rw [hcarried.1]
      exact .nil _
  | startRemoteAbilityByCall want connect callerUid callerPid accessToken =>
      obtain ⟨connect, rfl, rfl⟩ := withObject_eq_ok hws
      obtain ⟨⟨hl, hf⟩, ht⟩ := hpermitted
      refine .ofLocal hl rfl ?_
      exact .check (isFoundationCall_of hf) <| .cons (hwant _) <| .cons (hobject _) <|
        .cons (hint32 _) <| .cons (hint32 _) <| .cons (huint32 _) <|
        .check (checkPermission_of ht) <| .nil _
  | releaseRemoteAbility connect element =>
      obtain ⟨connect, rfl, rfl⟩ := withObject_eq_ok hws
      obtain ⟨hl, hf⟩ := hpermitted
      refine .ofLocal hl rfl ?_
      exact .check (isFoundationCall_of hf) <| .cons (hobject _) <| .cons (helement _) <| .nil _
  | registerDistributedComponentListener callback =>
      obtain ⟨callback, rfl, rfl⟩ := withObject_eq_ok hws
      obtain ⟨hl, hu⟩ := hpermitted
      refine .ofLocal hl rfl ?_
      exact .check (checkCallingUid_of hu) <| .cons (hobject _) <| .nil _
  | getDistributedComponentList =>
      cases hws
      obtain ⟨hl, hu⟩ := hpermitted
      refine .ofLocal hl rfl ?_
      exact .check (checkCallingUid_of hu) <| .nil _
  | startRemoteFreeInstall want callerUid requestCode accessToken callback =>
      obtain ⟨callback, rfl, rfl⟩ := withObject_eq_ok hws
      obtain ⟨⟨hl, hf⟩, ht⟩ := hpermitted
      refine .ofLocal hl rfl ?_
      exact .check (isFoundationCall_of hf) <| .cons (hwant _) <| .cons (hint32 _) <|
        .cons (hint32 _) <| .cons (huint32 _) <| .cons (mirrors_readObject hp _ _) <|
        .check (checkPermission_of ht) <| .nil _
  | notifyContinuationResultFromRemote sessionId isSuccess =>
      cases hws
      obtain ⟨hl, hu⟩ := hpermitted
      refine .ofRemote hl rfl ?_
      exact .check (checkCallingUid_of hu) <| .cons (hint32 _) <| .cons (hbool _) <| .nil _
  | disconnectAbilityFromRemote connect uid sourceDeviceId =>
      obtain ⟨connect, rfl, rfl⟩ := withObject_eq_ok hws
      obtain ⟨hl, hu⟩ := hpermitted
      refine .ofRemote hl rfl ?_
      exact .check (checkCallingUid_of hu) <| .cons (hobject _) <| .cons (hint32 _) <|
        .cons (hstring _) <| .nil _
  | notifyProcessDiedFromRemote callerInfo =>
      cases hws
      obtain ⟨hl, hu⟩ := hpermitted
      refine .ofRemote hl rfl ?_
      exact .check (checkCallingUid_of hu) <| .cons (hint32 _) <| .cons (hint32 _) <|
        .cons (hstring _) <| .nil _
  | startSyncMissionsFromRemote callerInfo =>
      cases hws
      obtain ⟨hl, hu⟩ := hpermitted
      refine .ofRemote hl rfl <| .check (checkCallingUid_of hu) fun s hs rest => ?_
      rw [run_bind_of_ok (mirrors_callerInfoUnmarshalling hp callerInfo s hs rest)]
      rfl
  | stopSyncMissionsFromRemote callerInfo =>
      cases hws
      obtain ⟨hl, hu⟩ := hpermitted
      refine .ofRemote hl rfl <| .check (checkCallingUid_of hu) fun s hs rest => ?_
      rw [run_bind_of_ok (mirrors_callerInfoUnmarshalling hp callerInfo s hs rest)]
      rfl
  | notifyMissionsChangedFromRemote missionInfos callerInfo =>
      cases hws
      obtain ⟨hl, hu⟩ := hpermitted
      obtain ⟨hlen, hstrings⟩ := hcarried
      refine .ofRemote hl rfl ?_
      have hint32 : ∀ i, Mirrors (ε := StubExit) _ (p.int32.readD 0) i := fun i =>
        (hp.int32.roundTrips i).readD 0
      exact .check (checkCallingUid_of hu) <| .cons (hint32 _) <|
        .cons (mirrors_readMissionInfos hp hlib hlen hstrings) <|
        .cons ((hp.string _).readD "") <| .cons (hint32 _) <| .cons (hint32 _) <|
        .cons (hint32 _) <| .nil _
  | releaseAbilityFromRemote connect element callerInfo =>
      obtain ⟨connect, rfl, rfl⟩ := withObject_eq_ok hws
      obtain ⟨hl, hu⟩ := hpermitted
      refine .ofRemote hl rfl ?_
      exact .check (checkCallingUid_of hu) <| .cons (hobject _) <| .cons (helement _) <|
        .cons (hstring _) <| .cons (hstring "") <| .nil _
  | notifyCompleteFreeInstallFromRemote taskId resultCode =>
      cases hws
      obtain ⟨hl, hu⟩ := hpermitted
      refine .ofRemote hl rfl ?_
      exact .check (checkCallingUid_of hu) <| .cons (hint64 _) <| .cons (hint32 _) <| .nil _

end DistributedSchedStub.Bytes

/-! ### The reply -/

/-- A code is read as it is written. -/
theorem read_result (hp : p.Lawful) {result : Int} (h : p.int32.write result ≠ none)
    (rest : List UInt8) :
    p.int32.read ((p.int32.write result).getD [] ++ rest) = (some result, rest) := by
  obtain ⟨s, hs⟩ := Option.ne_none_iff_exists'.mp h
  rw [hs, Option.getD_some, hp.int32.roundTrips result s hs rest]

/-- A reply that is a code. -/
theorem plain_reply (hp : p.Lawful) {answer : SchedAnswer σ}
    (h : p.int32.write answer.result ≠ none) :
    (if errOk ≠ errOk then ({ result := errOk } : SchedAnswer σ)
      else { result := (p.int32.read ((p.int32.write answer.result).getD [])).1.getD 0 }) =
      { result := answer.result } := by
  have hread := read_result hp h []
  rw [List.append_nil] at hread
  rw [if_neg (fun hne => hne rfl), hread]
  rfl

/-- A list in a reply. -/
theorem readVector_reply (hp : p.Lawful) (hlib : lib.Lawful) {α : Type} {c : Parcelable α}
    {as : List α} (h : ∀ a ∈ as, c.RoundTrips a) (hlen : as.length < 2 ^ 31) {bytes : List UInt8}
    (hw : writeVector p.toParcelPrimitives c as = some bytes) :
    readVector p.toParcelPrimitives lib.toListLibrary c (fun _ => []) [] bytes =
      (true, as, []) := by
  have hread := readVector_written hp.toLawful hlib.toLawful h hlen hw (fun _ => []) [] []
  rw [List.append_nil] at hread
  rw [hread]
  by_cases hnil : as = []
  · rw [if_pos hnil, hnil]
  · rw [if_neg hnil, List.nil_append]

/-- **Each reply is read by the function that sent the request.** -/
theorem readReply_reply (hp : p.Lawful) (hlib : lib.Lawful) {request : SchedRequest}
    {answer : SchedAnswer σ} (h : request.Replies p lib answer) :
    request.readReply p lib env (request.delivered.reply p lib env answer).1
      (request.delivered.reply p lib env answer).2 = request.answered env answer := by
  cases request with
  | notifyCompleteContinuation devId sessionId isSuccess => rfl
  | notifyContinuationResultFromRemote sessionId isSuccess =>
      show (if answer.result ≠ errOk then { result := answer.result }
        else { result := (p.int32.read []).1.getD 0 } : SchedAnswer σ) = { result := answer.result }
      by_cases hr : answer.result = errOk
      · rw [if_neg (fun hne => hne hr), hp.int32_nil, hr]
        rfl
      · rw [if_pos hr]
  | getMissionInfos deviceId numMissions =>
      simp only [SchedRequest.delivered, SchedRequest.reply, SchedRequest.readReply,
        SchedRequest.answered]
      by_cases hr : answer.result = errOk
      · obtain ⟨hlen, hw⟩ := h hr
        obtain ⟨bytes, hw⟩ := Option.ne_none_iff_exists'.mp hw
        have hread : readMissionInfosFromParcel p.toParcelPrimitives lib.toListLibrary [] bytes =
            (true, answer.missionInfos, []) :=
          readVector_reply hp hlib (fun info _ => hlib.missionInfo info) hlen hw
        simp only [if_pos hr, hw, ne_eq, not_true_eq_false, if_false, hread]
      · simp [hr]
  | getRemoteMissionSnapshotInfo networkId missionId =>
      simp only [SchedRequest.delivered, SchedRequest.reply, SchedRequest.readReply,
        SchedRequest.answered]
      by_cases hr : answer.result = errOk
      · obtain ⟨hsnapshot, hw⟩ := h hr
        obtain ⟨snapshot, hsnapshot⟩ := Option.ne_none_iff_exists'.mp hsnapshot
        obtain ⟨bytes, hw⟩ := Option.ne_none_iff_exists'.mp hw
        rw [hsnapshot] at hw
        have hread := hp.parcelable_some (hlib.missionSnapshot snapshot) bytes hw []
        rw [List.append_nil] at hread
        by_cases hu : env.getUuidByNetworkId networkId = ""
        · simp [hr, hw, hu, hsnapshot, env.errNullObject.2]
        · simp [hr, hw, hu, hsnapshot, hread]
      · simp [hr, env.errNullObject.2]
  | startSyncMissionsFromRemote callerInfo =>
      simp only [SchedRequest.delivered, SchedRequest.reply, SchedRequest.readReply,
        SchedRequest.answered]
      by_cases hr : answer.result = errOk
      · obtain ⟨hlen, hstrings, hv, hw⟩ := h hr
        obtain ⟨bytes, hw⟩ := Option.ne_none_iff_exists'.mp hw
        obtain ⟨version, hv⟩ := Option.ne_none_iff_exists'.mp hv
        have hversion := hp.int32.roundTrips dmsVersionBase version hv bytes
        have hread : readDstbMissionInfosFromParcel p.toParcelPrimitives lib.toListLibrary []
            bytes = (true, answer.dstbMissionInfos, []) :=
          readVector_reply hp hlib (fun info hm => DstbMissionInfo.roundTrips hp.toLawful
            hlib.toLawful (hstrings info hm).1 (hstrings info hm).2) hlen hw
        have hconcat : concat [p.int32.write dmsVersionBase, writeDstbMissionInfosToParcel
            p.toParcelPrimitives lib.toListLibrary answer.dstbMissionInfos] =
            some (version ++ bytes) := by
          rw [hv, hw]
          simp [concat]
        simp [hr, hconcat, hversion, hread]
      · simp [hr, env.errFlattenObject.2]
  | getDistributedComponentList =>
      obtain ⟨hv, hw⟩ := h
      obtain ⟨code, hv⟩ := Option.ne_none_iff_exists'.mp hv
      obtain ⟨bytes, hw⟩ := Option.ne_none_iff_exists'.mp hw
      have hcode := hp.int32.roundTrips answer.result code hv bytes
      have hread := hp.stringVector answer.distributedComponents bytes hw []
      rw [List.append_nil] at hread
      have hconcat : concat [p.int32.write answer.result,
          p.stringVector.write answer.distributedComponents] = some (code ++ bytes) := by
        rw [hv, hw]
        simp [concat]
      simp only [SchedRequest.delivered, SchedRequest.reply, SchedRequest.readReply,
        SchedRequest.answered, hconcat]
      by_cases hr : answer.result = errOk
      · simp [hcode, hr, hread]
      · simp [hcode, hr]
  | _ => exact plain_reply hp h

/-! ### The call -/

open DistributedSchedStub.Bytes in
theorem mirrors_enforceInterfaceToken (hp : p.Lawful) :
    Mirrors (p.interfaceToken.write dmsInterfaceToken) (enforceInterfaceToken p) () := by
  intro s hs rest
  have hread := ((hp.interfaceToken dmsInterfaceToken).readD (ε := StubExit) "") s hs rest
  rw [enforceInterfaceToken, run_bind_of_ok hread, if_pos rfl]
  rfl

open DistributedSchedStub.Bytes in
/-- The stub reads the request that the proxy wrote, to its end. -/
theorem onRemoteRequest_write (hp : p.Lawful) (hlib : lib.Lawful) {request : SchedRequest}
    {data : List UInt8} (hdata : request.write p lib env = .ok data)
    (hpermitted : request.Permitted env) (hcarried : request.Carried lib) :
    onRemoteRequest p lib env request.code data = .ok (request.delivered, []) := by
  unfold SchedRequest.write at hdata
  cases hws : request.writes p lib env with
  | error code =>
      rw [hws] at hdata
      cases hdata
  | ok ws =>
      rw [hws] at hdata
      obtain ⟨func, hfunc, hmirrors⟩ := funcs_deliver hp hlib hws hpermitted hcarried
      have hwritten : writeAll (DistributedSchedProxy.Bytes.helper env p.interfaceToken
          dmsInterfaceToken :: ws) = .ok data := by
        cases hremote : env.remote with
        | true => simpa [hremote] using hdata
        | false => simp [hremote] at hdata
      have hrun := Mirrors.cons (mirrors_enforceInterfaceToken hp) (k := fun _ => func) hmirrors
        data (concat_of_writeAll hwritten) []
      rw [List.append_nil] at hrun
      rw [onRemoteRequest, hfunc]
      exact hrun

open DistributedSchedStub.Bytes in
/-- **A call through the proxy and the stub is a call of the service**, for every request that may
be made and that the parcels take, whatever the service does: the stub reads the request less the
fields that do not cross, and nothing else, the service is called once with it, and its answer
comes back. -/
theorem rpc_transparent (hp : p.Lawful) (hlib : lib.Lawful) {request : SchedRequest}
    {service : SchedRequest → SchedAnswer σ} {data : List UInt8}
    (hdata : request.write p lib env = .ok data) (hpermitted : request.Permitted env)
    (hcarried : request.Carried lib)
    (hreplies : request.Replies p lib (service request.delivered)) :
    onRemoteRequest p lib env request.code data = .ok (request.delivered, []) ∧
      rpc p lib env service request = request.answered env (service request.delivered) := by
  have hrequest := onRemoteRequest_write hp hlib hdata hpermitted hcarried
  refine ⟨hrequest, ?_⟩
  have hsent : sendRequest p lib env service request.code data =
      request.delivered.reply p lib env (service request.delivered) := by
    rw [sendRequest, hrequest]
  rw [rpc, hdata]
  show request.readReply p lib env (sendRequest p lib env service request.code data).1
    (sendRequest p lib env service request.code data).2 = _
  rw [hsent]
  exact readReply_reply hp hlib hreplies

/-! ### A request and its answer -/

/-- Words, and strings of chars that end with a word that is zero. -/
def plainRequests : SchedPrimitives where
  toParcelPrimitives := plainParcel
  uint32 := Codec.word
  string := plainString
  stringVector := plainString.listOf []
  interfaceToken := plainString
  remoteObject := Codec.word
where
  plainString : Codec UInt8 String :=
    ((Codec.word.convert (fun c => some c.toNat) (fun n => some (.ofNat n))).listOf
      [0, 0, 0, 0]).convert (fun s => some s.toList) (fun cs => some (.ofList cs))

theorem plainRequests_string_lawful : plainRequests.plainString.Lawful 4 :=
  ((Codec.word_lawful.convert fun c n hn => by
    cases hn
    rw [Char.ofNat_toNat]).listOf (show 4 ∣ [(0 : UInt8), 0, 0, 0].length by decide)).convert
      fun s cs hs => by
        cases hs
        rw [String.ofList_toList]

theorem plainRequests_lawful : plainRequests.Lawful where
  toLawful := plainParcel_lawful
  int32_nil := rfl
  uint32 := Codec.word_lawful.roundTrips
  string := plainRequests_string_lawful.roundTrips
  stringVector := (plainRequests_string_lawful.listOf
    (show 4 ∣ ([] : List UInt8).length by decide)).roundTrips
  interfaceToken := plainRequests_string_lawful.roundTrips
  remoteObject := Codec.word_lawful.roundTrips

/-- Nothing of a snapshot crosses, and no parameters of a want. -/
def plainRequestLibrary : SchedLibrary Unit where
  toListLibrary := plainLibrary
  wantParams := ⟨fun _ => none, throw ()⟩
  missionSnapshot := ⟨fun _ => some [], pure ()⟩

theorem plainRequestLibrary_lawful : plainRequestLibrary.Lawful where
  toLawful := plainLibrary_lawful
  wantParams _ := fun _ hs => by cases hs
  missionSnapshot _ := fun s hs rest => by
    cases hs
    rfl

open DistributedSchedStub.Bytes in
/-- A device starts to watch the missions of another one, which has a mission; and the ability
manager tells that a continuation is complete, which has no answer. -/
theorem rpc_transparent_sync :
    (∃ data, onRemoteRequest plainRequests plainRequestLibrary { isLocalCalling := false }
        .startSyncMissionsFromRemote data =
          .ok (.startSyncMissionsFromRemote { sourceDeviceId := "a", dmsVersion := 200 }, []) ∧
      rpc plainRequests plainRequestLibrary { isLocalCalling := false }
          (fun _ => { dstbMissionInfos := [{ id := 7, label := "mail" }] })
          (.startSyncMissionsFromRemote { sourceDeviceId := "a", dmsVersion := 200 }) =
        { dstbMissionInfos := [{ id := 7, label := "mail" }] }) ∧
    ∃ data, onRemoteRequest plainRequests plainRequestLibrary {} .notifyCompleteContinuation
      data = .ok (.notifyCompleteContinuation [98] 3 true, []) := by
  constructor
  · obtain ⟨data, hdata⟩ : ∃ data, SchedRequest.write plainRequests plainRequestLibrary
        { isLocalCalling := false }
        (.startSyncMissionsFromRemote { sourceDeviceId := "a", dmsVersion := 200 }) = .ok data :=
      ⟨_, rfl⟩
    refine ⟨data, rpc_transparent plainRequests_lawful plainRequestLibrary_lawful hdata
      ⟨rfl, by decide⟩ trivial fun _ => ⟨by decide, ?_, by decide, by decide +kernel⟩⟩
    exact List.forall_mem_singleton.mpr ⟨by decide +kernel, by decide +kernel⟩
  · obtain ⟨data, hdata⟩ : ∃ data, SchedRequest.write plainRequests plainRequestLibrary {}
        (.notifyCompleteContinuation [98] 3 true) = .ok data := ⟨_, rfl⟩
    obtain ⟨hread, -⟩ : onRemoteRequest plainRequests plainRequestLibrary {}
          .notifyCompleteContinuation data = .ok (.notifyCompleteContinuation [98] 3 true, []) ∧
        rpc plainRequests plainRequestLibrary {} (fun _ => {})
          (.notifyCompleteContinuation [98] 3 true) = {} :=
      rpc_transparent plainRequests_lawful plainRequestLibrary_lawful hdata ⟨rfl, rfl⟩
        (List.cons_ne_nil _ _) trivial
    exact ⟨data, hread⟩

end DistributedSched

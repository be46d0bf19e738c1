import Mathlib.Algebra.Group.Int.Defs
import Mathlib.Algebra.Group.Nat.Defs
import DistributedSched.Wire.Messages

/-!
# Wire — what the proxy writes is what the stub reads

The stub's call for a message of the proxy, in full (`SchedCall.received`).  It has what the
caller gave but for what the message leaves out; of a result, the message leaves out the access
token, which the other four carry in their extra info.

* `stub_reads_proxy`: the stub reads the proxy's message to its end, and makes this call.
* `proxy_stub_agree`: the arguments agree exactly when the message carries the access token, or
  it is zero.
* `serve_received`: the service answers the call as it answers the request of the caller.
* `result_drops_token`: a result whose caller has a token.
-/

namespace DistributedSched

open Reading DistributedSchedStub StubM

namespace SchedCall

/-- The values fit the types of their fields that go through JSON. -/
def Fits : SchedCall → Prop
  | startAbilityFromRemote _ _ _ callerInfo _ | connectAbilityFromRemote _ _ _ callerInfo _
  | startAbilityByCallFromRemote _ _ callerInfo _ => callerInfo.accessToken < 2 ^ 32
  | sendResultFromRemote .. => True
  | startFreeInstallFromRemote info _ =>
    info.callerInfo.accessToken < 2 ^ 32 ∧ -2 ^ 31 ≤ info.requestCode ∧ info.requestCode < 2 ^ 31

/-- The document that the proxy dumps. -/
def document : SchedCall → Option Json
  | startAbilityFromRemote _ _ _ callerInfo _ | connectAbilityFromRemote _ _ _ callerInfo _
  | startAbilityByCallFromRemote _ _ callerInfo _ =>
    some (DistributedSchedProxy.tokenDocument callerInfo)
  | sendResultFromRemote _ _ _ extraInfoJson _ _ => extraInfoJson
  | startFreeInstallFromRemote info _ => some (DistributedSchedProxy.freeInstallDocument info)

/-- The call that the stub makes. -/
def received (lib : NlohmannJson) : SchedCall → SchedCall
  | startAbilityFromRemote want abilityInfo requestCode callerInfo accountInfo =>
    startAbilityFromRemote want abilityInfo requestCode callerInfo.ofStart accountInfo
  | sendResultFromRemote want requestCode callerInfo extraInfoJson accountInfo resultCode =>
    sendResultFromRemote want requestCode callerInfo.ofSendResult
      (lib.parse (extraInfoJson.elim "<discarded>" lib.dump)) accountInfo resultCode
  | connectAbilityFromRemote want abilityInfo connect callerInfo accountInfo =>
    connectAbilityFromRemote want abilityInfo connect callerInfo.ofConnect accountInfo
  | startAbilityByCallFromRemote want connect callerInfo accountInfo =>
    startAbilityByCallFromRemote want connect callerInfo.ofStartByCall accountInfo
  | startFreeInstallFromRemote info taskId =>
    startFreeInstallFromRemote
      { want := DistributedSchedService.freeInstallWant info, requestCode := info.requestCode,
        callerInfo := info.callerInfo.ofStart, accountInfo := info.accountInfo } taskId

/-- The identity of the caller. -/
def SameCaller (given called : CallerInfo) : Prop :=
  called.uid = given.uid ∧ called.sourceDeviceId = given.sourceDeviceId ∧
    called.callerAppId = given.callerAppId ∧ called.accessToken = given.accessToken

/-- The arguments of the call are those that the proxy was given. -/
def Carried : SchedCall → SchedCall → Prop
  | startAbilityFromRemote want abilityInfo requestCode callerInfo accountInfo,
    startAbilityFromRemote want' abilityInfo' requestCode' callerInfo' accountInfo' =>
    want' = want ∧ abilityInfo' = abilityInfo ∧ requestCode' = requestCode ∧
      SameCaller callerInfo callerInfo' ∧ accountInfo' = accountInfo
  | sendResultFromRemote want requestCode callerInfo _ accountInfo resultCode,
    sendResultFromRemote want' requestCode' callerInfo' _ accountInfo' resultCode' =>
    want' = want ∧ requestCode' = requestCode ∧ SameCaller callerInfo callerInfo' ∧
      accountInfo' = accountInfo ∧ resultCode' = resultCode
  | connectAbilityFromRemote want abilityInfo connect callerInfo accountInfo,
    connectAbilityFromRemote want' abilityInfo' connect' callerInfo' accountInfo' =>
    want' = want ∧ abilityInfo' = abilityInfo ∧ connect' = connect ∧
      SameCaller callerInfo callerInfo' ∧ callerInfo'.pid = callerInfo.pid ∧
      accountInfo' = accountInfo
  | startAbilityByCallFromRemote want connect callerInfo accountInfo,
    startAbilityByCallFromRemote want' connect' callerInfo' accountInfo' =>
    want' = want ∧ connect' = connect ∧ SameCaller callerInfo callerInfo' ∧
      callerInfo'.pid = callerInfo.pid ∧ accountInfo' = accountInfo
  | startFreeInstallFromRemote info taskId, startFreeInstallFromRemote info' taskId' =>
    info'.want = DistributedSchedService.freeInstallWant info ∧
      info'.requestCode = info.requestCode ∧ SameCaller info.callerInfo info'.callerInfo ∧
      info'.accountInfo = info.accountInfo ∧ taskId' = taskId
  | _, _ => False

/-- The message carries the access token, or the caller has none. -/
def CarriesToken : SchedCall → Prop
  | sendResultFromRemote _ _ callerInfo _ _ _ => callerInfo.accessToken = 0
  | _ => True

end SchedCall

section roundTrip

variable {lib : NlohmannJson} {env : StubEnv}

theorem checkCallingUid_of_lt (h : env.callingUid < hidHap) : checkCallingUid env = pure () :=
  if_pos h

/-- The extra info of a caller gives its access token. -/
theorem parseAccessToken_document {callerInfo : CallerInfo} {extraInfo : String}
    (hp : lib.parse extraInfo = some (DistributedSchedProxy.tokenDocument callerInfo))
    (ht : callerInfo.accessToken < 2 ^ 32) :
    parseAccessToken lib extraInfo = pure callerInfo.accessToken := by
  have htoken : toUint32 callerInfo.accessToken = callerInfo.accessToken := by
    unfold toUint32
    omega
  unfold parseAccessToken
  rw [hp]
  show (pure (toUint32 callerInfo.accessToken) : StubM Nat) = _
  rw [htoken]

theorem parseFreeInstall_document {info : FreeInstallInfo} {extraInfo : String}
    (hp : lib.parse extraInfo = some (DistributedSchedProxy.freeInstallDocument info))
    (ht : info.callerInfo.accessToken < 2 ^ 32) (hl : -2 ^ 31 ≤ info.requestCode)
    (hr : info.requestCode < 2 ^ 31) :
    parseFreeInstall lib extraInfo = pure (info.callerInfo.accessToken, info.requestCode) := by
  have htoken : toUint32 info.callerInfo.accessToken = info.callerInfo.accessToken := by
    unfold toUint32
    omega
  have hcode : uint32ToInt32 (toUint32 info.requestCode) = info.requestCode := by
    unfold uint32ToInt32 toUint32
    split <;> omega
  unfold parseFreeInstall
  rw [hp]
  show (pure (toUint32 info.callerInfo.accessToken,
    uint32ToInt32 (toUint32 info.requestCode)) : StubM (Nat × Int)) = _
  rw [htoken, hcode]

theorem getStringArrayParam_setParam (want : Want) (key : String) (value : List String) :
    (want.setParam key (.stringArray value)).getStringArrayParam key = value := by
  simp [Want.getStringArrayParam, Want.setParam]

/-- **The stub reads what the proxy wrote.**  It reads the message to its end, and makes the call
`received`. -/
theorem stub_reads_proxy {call : SchedCall} {code : SchedCode} {data : List ParcelItem}
    (hw : call.write lib = some (code, data)) (hfits : call.Fits) (hempty : lib.parse "" = none)
    (hround : ∀ j, call.document = some j → lib.parse (lib.dump j) = some j)
    (huid : env.callingUid < hidHap) :
    onRemoteRequest lib env code data = .ok (call.received lib, []) := by
  cases call with
  | startAbilityFromRemote want abilityInfo requestCode callerInfo accountInfo =>
      cases hw
      have ht := parseAccessToken_document (hround _ rfl) hfits
      show startAbilityFromRemoteInner lib env _ = _
      unfold startAbilityFromRemoteInner
      rw [checkCallingUid_of_lt huid, pure_bind]
      iterate 8 refine (run_bind_of_ok rfl).trans ?_
      exact (run_bind_of_ok (congrFun ht _)).trans rfl
  | sendResultFromRemote want requestCode callerInfo extraInfoJson accountInfo resultCode =>
      cases hw
      show sendResultFromRemoteInner lib env _ = _
      unfold sendResultFromRemoteInner
      rw [checkCallingUid_of_lt huid]
      rfl
  | connectAbilityFromRemote want abilityInfo connect callerInfo accountInfo =>
      obtain ⟨connect, rfl, hw⟩ := Option.map_eq_some_iff.mp hw
      cases hw
      have ht := parseAccessToken_document (hround _ rfl) hfits
      show connectAbilityFromRemoteInner lib env _ = _
      unfold connectAbilityFromRemoteInner
      rw [checkCallingUid_of_lt huid, pure_bind]
      iterate 9 refine (run_bind_of_ok rfl).trans ?_
      exact (run_bind_of_ok (congrFun ht _)).trans rfl
  | startAbilityByCallFromRemote want connect callerInfo accountInfo =>
      obtain ⟨connect, rfl, hw⟩ := Option.map_eq_some_iff.mp hw
      cases hw
      have hdump := hround _ rfl
      have ht := parseAccessToken_document hdump hfits
      have hne : lib.dump (DistributedSchedProxy.tokenDocument callerInfo) ≠ "" := by
        intro he
        rw [he, hempty] at hdump
        cases hdump
      show startAbilityByCallFromRemoteInner lib env _ = _
      unfold startAbilityByCallFromRemoteInner
      rw [checkCallingUid_of_lt huid, pure_bind]
      iterate 7 refine (run_bind_of_ok rfl).trans ?_
      refine (congrFun (if_neg hne) _).trans ?_
      exact (run_bind_of_ok (congrFun ht _)).trans rfl
  | startFreeInstallFromRemote info taskId =>
      cases hw
      have ht := parseFreeInstall_document (hround _ rfl) hfits.1 hfits.2.1 hfits.2.2
      show startFreeInstallFromRemoteInner lib env _ = _
      unfold startFreeInstallFromRemoteInner
      rw [checkCallingUid_of_lt huid, pure_bind]
      iterate 8 refine (run_bind_of_ok rfl).trans ?_
      refine (run_bind_of_ok (congrFun ht _)).trans ?_
      refine (run_bind_of_ok rfl).trans ?_
      exact congrArg (fun names => Except.ok (SchedCall.startFreeInstallFromRemote
        { want := (info.want.setParam freeInstllCallingAppId
              (.string info.callerInfo.callerAppId)).setParam freeInstllCallingBundlenames
              (.stringArray names)
          requestCode := info.requestCode, callerInfo := info.callerInfo.ofStart
          accountInfo := info.accountInfo } taskId, [])) (getStringArrayParam_setParam ..)

/-- The call that the stub makes agrees with what was given but for the access token of a
result. -/
theorem carried_received {call : SchedCall} :
    call.Carried (call.received lib) ↔ call.CarriesToken := by
  cases call with
  | sendResultFromRemote want requestCode callerInfo extraInfoJson accountInfo resultCode =>
      simp [SchedCall.received, SchedCall.Carried, SchedCall.SameCaller, SchedCall.CarriesToken,
        CallerInfo.ofSendResult, eq_comm]
  | _ =>
      exact iff_of_true (by simp [SchedCall.received, SchedCall.Carried, SchedCall.SameCaller,
        CallerInfo.ofStart, CallerInfo.ofConnect, CallerInfo.ofStartByCall]) trivial

/-! ### The service -/

/-- The request as its sender sees it. -/
def SchedCall.remoteCall : SchedCall → RemoteCall
  | startAbilityFromRemote want _ requestCode callerInfo accountInfo =>
    .startAbilityFromRemote want requestCode callerInfo accountInfo
  | sendResultFromRemote want requestCode callerInfo _ accountInfo resultCode =>
    .sendResultFromRemote want requestCode callerInfo accountInfo resultCode
  | connectAbilityFromRemote want _ connect callerInfo accountInfo =>
    .connectAbilityFromRemote want connect callerInfo accountInfo
  | startAbilityByCallFromRemote want connect callerInfo accountInfo =>
    .startAbilityByCallFromRemote want connect callerInfo accountInfo
  | startFreeInstallFromRemote info taskId => .startFreeInstallFromRemote info taskId

/-- The method of the service that a stub function calls. -/
def SchedCall.serve (env : Env) (s : DistributedSchedService) :
    SchedCall → Outcome × Option DmsFreeInstallCallback
  | startAbilityFromRemote want _ requestCode callerInfo accountInfo =>
    (s.startAbilityFromRemote env want requestCode callerInfo accountInfo, none)
  | sendResultFromRemote want requestCode callerInfo _ accountInfo resultCode =>
    (s.sendResultFromRemote env want requestCode callerInfo accountInfo resultCode, none)
  | connectAbilityFromRemote want _ connect callerInfo accountInfo =>
    (s.connectAbilityFromRemote env want connect callerInfo accountInfo, none)
  | startAbilityByCallFromRemote want connect callerInfo accountInfo =>
    (s.startAbilityByCallFromRemote env want connect callerInfo accountInfo, none)
  | startFreeInstallFromRemote info taskId => s.startFreeInstallFromRemote env info taskId

/-- The call that the stub makes of the service is the request as the service takes it. -/
theorem serve_received {lib : NlohmannJson} {env : Env} (huid : env.callingUid < hidHap)
    (s : DistributedSchedService) (call : SchedCall) :
    (call.received lib).serve env s = s.onRemoteRequest env call.remoteCall := by
  unfold DistributedSchedService.onRemoteRequest
  rw [if_neg (Int.not_le.mpr huid)]
  cases call <;> rfl

end roundTrip

/-- **Proxy and stub agree.**  For a message that the proxy sends, the stub calls the service with
what the caller gave exactly when the message carries the access token or the caller has none. -/
theorem proxy_stub_agree {lib : NlohmannJson} {env : StubEnv} {call : SchedCall}
    {code : SchedCode} {data : List ParcelItem} (hw : call.write lib = some (code, data))
    (hfits : call.Fits) (hempty : lib.parse "" = none)
    (hround : ∀ j, call.document = some j → lib.parse (lib.dump j) = some j)
    (huid : env.callingUid < hidHap) :
    (∃ called rest, onRemoteRequest lib env code data = .ok (called, rest) ∧ call.Carried called) ↔
      call.CarriesToken := by
  rw [stub_reads_proxy hw hfits hempty hround huid, ← @carried_received lib]
  constructor
  · rintro ⟨called, rest, hr, hc⟩
    cases hr
    exact hc
  · intro hc
    exact ⟨_, _, rfl, hc⟩

/-- `nlohmann::json` on the extra info of a caller whose access token is 7. -/
def tokenJson : NlohmannJson where
  parse text := if text = "\x7b\x22accessTokenID\x22:7\x7d" then
    some (.object [(extroInfoJsonKeyAccessToken, .numberInteger 7)]) else
    if text = "null" then some .null else none
  dump
    | .null => "null"
    | _ => "\x7b\x22accessTokenID\x22:7\x7d"

/-- A caller of device "A" with the token. -/
def mailCaller : CallerInfo :=
  { uid := 20010, pid := 77, sourceDeviceId := "A", callerAppId := "mail.id"
    bundleNames := ["mail", "notes"], accessToken := 7 }

/-- A start by call of this caller, in an account of one group. -/
def mailCall : SchedCall :=
  .startAbilityByCallFromRemote { element := { deviceId := "B", bundleName := "editor" } } (some 1)
    mailCaller { accountType := sameAccountType, groupIdList := ["group"] }

/-- The service is called with the token and the rest of the caller. -/
theorem proxy_stub_agree_token : ∃ code data called rest,
    mailCall.write tokenJson = some (code, data) ∧
    onRemoteRequest tokenJson {} code data = .ok (called, rest) ∧ mailCall.Carried called := by
  obtain ⟨called, rest, hcalled, hcarried⟩ := (@proxy_stub_agree tokenJson {} mailCall _ _ rfl
    (show 7 < 2 ^ 32 by decide) (by decide) (fun j hj => by cases hj; rfl) (by decide)).mpr trivial
  exact ⟨_, _, called, rest, rfl, hcalled, hcarried⟩

/-- **A result drops the token.**  The caller has a token, and the service is called without. -/
theorem result_drops_token : ∃ called,
    onRemoteRequest tokenJson {} .sendResultFromRemote (.interfaceToken dmsInterfaceToken ::
      DistributedSchedProxy.sendResultFromRemote tokenJson {} 0 { accessToken := 7 } (some .null) {}
        0) = .ok (called, []) ∧
    ¬ (SchedCall.sendResultFromRemote {} 0 { accessToken := 7 } (some .null) {} 0).Carried called :=
  ⟨_, rfl, fun h => absurd h.2.2.1.2.2.2 (by decide)⟩

end DistributedSched

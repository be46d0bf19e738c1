import DistributedSched.Library.Runs
import DistributedSched.Service.FromRemote

/-!
# Network — results come home

An ability of another device is started with a request code, at once or when it has been installed
there.  When it was started for a result, the ability manager there gets a `DmsTokenCallback`, and
with it sends a result, which crosses back and goes to the ability manager of the device that asked.

* `DmsTokenCallback.sendResult`: the way back begins with the network id that the want carries.
* `ResultStep`: what the services of any number of devices are asked, requests and results that
  arrive or are lost, and what their ability managers do, in any order.
* `results_come_home`: over every run, what an ability manager is told is the result of an ability
  that its own device asked for, with the request code of that very request, and each result is told
  once at most.

Two things are assumed of what is around the services: `GetLocalDeviceId` answers a device its own
id or fails, and an ability manager hands back what it was given (`HandsBack`).
-/

namespace DistributedSched

open Std (ExtTreeMap)
open DistributedSchedService

/-- `SendResult`; `processName` is that of the native token of the caller, when it has one. -/
def DmsTokenCallback.sendResult (env : Env) (processName : Option String) (want : Want)
    (callerUid requestCode : Int) (accessToken : Nat) (resultCode : Int) : Int × List Effect :=
  if processName ≠ some "foundation" then (invalidParametersErr, [])
  else
    let deviceId := want.getStringParam dmsSrcNetworkId
    match env.checkedLocalId deviceId with
    | none => (invalidParametersErr, [])
    | some localDeviceId =>
      if !env.getRemoteDms deviceId then (invalidParametersErr, [])
      else match localCallerInfo env callerUid callerTypeNone localDeviceId accessToken with
        | none => (invalidParametersErr, [])
        | some callerInfo =>
          match DistributedSchedPermission.getAccountInfo env deviceId callerInfo with
          | .error ret => (ret, [])
          | .ok accountInfo =>
            let call := RemoteCall.sendResultFromRemote want requestCode callerInfo accountInfo
              resultCode
            (env.remoteResult call, [.rpc deviceId call])

/-! ### The network -/

/-- A request for an ability of another device. -/
structure Ask where
  device : String
  /-- as the application gave them -/
  want : Want
  requestCode : Int
  destination : String
  call : RemoteCall

/-- A free install that the ability manager of the destination was asked for. -/
structure Installing where
  ask : Ask
  callback : DmsFreeInstallCallback

/-- An ability that was started for a result there. -/
structure Started where
  ask : Ask
  want : Want
  requestCode : Int

structure SentResult where
  started : Started
  want : Want
  resultCode : Int
  destination : String
  call : RemoteCall

/-- What the ability manager of `device` was told. -/
structure ToldResult where
  /-- the number of the result that was sent -/
  result : Nat
  device : String
  requestCode : Int
  resultCode : Int
  want : Want

structure ResultNetwork where
  asks : List Ask := []
  /-- the requests under way -/
  asking : List Ask := []
  installing : List Installing := []
  started : List Started := []
  results : List SentResult := []
  /-- the results under way -/
  returning : List Nat := []
  told : List ToldResult := []

namespace Effect

def request : Effect → Option (String × RemoteCall)
  | .rpc deviceId call => some (deviceId, call)
  | _ => none

def startedForResult : Effect → Option (Want × Int)
  | .ams (.startAbility want requestCode _ true) => some (want, requestCode)
  | _ => none

def toldResult : Effect → Option (Int × Int × Want)
  | .ams (.sendResultToAbility requestCode resultCode want) =>
    some (requestCode, resultCode, want)
  | _ => none

end Effect

/-- A step.  A service may be in any state. -/
inductive ResultStep where
  | startRemoteAbility (device : String) (env : Env) (service : DistributedSchedService)
      (want : Want) (callerUid requestCode : Int) (accessToken : Nat)
  | startRemoteFreeInstall (device : String) (env : Env) (service : DistributedSchedService)
      (want : Want) (callerUid requestCode : Int) (accessToken : Nat)
      (callback : Option RemoteObject)
  /-- the request under way at `k` arrives -/
  | request (k : Nat) (env : Env) (service : DistributedSchedService)
  | installFinished (k : Nat) (env : Env) (service : DistributedSchedService) (want : Want)
      (requestCode resultCode : Int)
  /-- the ability manager gives the result of an ability that it has started -/
  | sendResult (k : Nat) (env : Env) (processName : Option String) (want : Want)
      (callerUid requestCode : Int) (accessToken : Nat) (resultCode : Int)
  /-- the result under way at `k` arrives -/
  | result (k : Nat) (env : Env) (service : DistributedSchedService)
  | loseRequest (k : Nat)
  | loseResult (k : Nat)

namespace ResultNetwork

variable (w : ResultNetwork)

/-- What is sent for a request. -/
def ask (device : String) (want : Want) (requestCode : Int) (effects : List Effect) :
    ResultNetwork :=
  let asks := (effects.filterMap Effect.request).map fun r => ⟨device, want, requestCode, r.1, r.2⟩
  { w with asks := w.asks ++ asks, asking := w.asking ++ asks }

/-- The abilities that are started. -/
def start (ask : Ask) (effects : List Effect) : ResultNetwork :=
  { w with started := w.started ++
      (effects.filterMap Effect.startedForResult).map fun r => ⟨ask, r.1, r.2⟩ }

/-- What is sent for a result. -/
def send (started : Started) (want : Want) (resultCode : Int) (effects : List Effect) :
    ResultNetwork :=
  let results := (effects.filterMap Effect.request).map fun r =>
    ⟨started, want, resultCode, r.1, r.2⟩
  { w with
    results := w.results ++ results
    returning := w.returning ++ (List.range results.length).map (w.results.length + ·) }

/-- What the ability manager of `device` is told. -/
def tell (result : Nat) (device : String) (effects : List Effect) : ResultNetwork :=
  { w with told := w.told ++
      (effects.filterMap Effect.toldResult).map fun t => ⟨result, device, t.1, t.2.1, t.2.2⟩ }

end ResultNetwork

namespace ResultStep

def apply (w : ResultNetwork) : ResultStep → Option ResultNetwork
  | startRemoteAbility device env service want callerUid requestCode accessToken =>
    some (w.ask device want requestCode
      (service.startRemoteAbility env want callerUid requestCode accessToken).effects)
  | startRemoteFreeInstall device env service want callerUid requestCode accessToken callback =>
    some (w.ask device want requestCode
      (service.startRemoteFreeInstall env want callerUid requestCode accessToken callback).effects)
  | request k env service =>
    match w.asking[k]? with
    | none => none
    | some ask =>
      let r := service.onRemoteRequest env ask.call
      some { w.start ask r.1.effects with
        asking := w.asking.eraseIdx k
        installing := w.installing ++ (r.2.map fun callback => ⟨ask, callback⟩).toList }
  | installFinished k env service want requestCode resultCode =>
    match w.installing[k]? with
    | none => none
    | some i => some (w.start i.ask
        (service.onInstallFinished env i.callback want requestCode resultCode).effects)
  | sendResult k env processName want callerUid requestCode accessToken resultCode =>
    match w.started[k]? with
    | none => none
    | some started => some (w.send started want resultCode
        (DmsTokenCallback.sendResult env processName want callerUid requestCode accessToken
          resultCode).2)
  | result k env service =>
    match w.returning[k]? with
    | none => none
    | some j =>
      match w.results[j]? with
      | none => none
      | some r => some { w.tell j r.destination (service.onRemoteRequest env r.call).1.effects with
          returning := w.returning.eraseIdx k }
  | loseRequest k => some { w with asking := w.asking.eraseIdx k }
  | loseResult k => some { w with returning := w.returning.eraseIdx k }

/-- A device knows its own id; an ability manager finishes a free install with the want and the
request code that it was given, and gives a result with the request code and the source that the
ability was started with. -/
def HandsBack (w : ResultNetwork) : ResultStep → Prop
  | startRemoteAbility device env .. | startRemoteFreeInstall device env .. =>
    ∀ localDeviceId ∈ env.localDeviceId, localDeviceId = device
  | installFinished k _ _ want requestCode _ => ∀ i ∈ w.installing[k]?,
    want = i.callback.info.want ∧ requestCode = i.callback.info.requestCode
  | sendResult k _ _ want _ requestCode _ _ => ∀ started ∈ w.started[k]?,
    want.getStringParam dmsSrcNetworkId = started.want.getStringParam dmsSrcNetworkId ∧
      requestCode = started.requestCode
  | _ => True

instance (w : ResultNetwork) : DecidablePred (HandsBack w)
  | startRemoteAbility .. | startRemoteFreeInstall .. | installFinished .. | sendResult .. =>
    inferInstanceAs (Decidable (∀ x ∈ _, _))
  | request .. | result .. | loseRequest _ | loseResult _ => .isTrue trivial

end ResultStep

/-! ### What each function sends -/

section functions

variable {env : Env} {s : DistributedSchedService} {want : Want} {callerUid requestCode : Int}
  {accessToken : Nat} {r : String × RemoteCall}

/-- A request for an ability, with the want and the request code that it carries. -/
def RemoteCall.starts : RemoteCall → Option (Want × Int)
  | .startAbilityFromRemote want requestCode _ _ => some (want, requestCode)
  | .startFreeInstallFromRemote info _ => some (info.want, info.requestCode)
  | _ => none

/-- A request of a device for an ability of another one. -/
def AsksFor (env : Env) (want : Want) (requestCode : Int) (r : String × RemoteCall) : Prop :=
  r.1 = want.element.deviceId ∧ ∃ localDeviceId, env.localDeviceId = some localDeviceId ∧
    localDeviceId ≠ r.1 ∧
    r.2.starts = some (want.setParam dmsSrcNetworkId (.string localDeviceId), requestCode)

theorem startRemoteAbility_request
    (h : r ∈ (s.startRemoteAbility env want callerUid requestCode accessToken).effects.filterMap
      Effect.request) : AsksFor env want requestCode r := by
  unfold startRemoteAbility at h
  dsimp only at h
  cases hl : env.checkedLocalId want.element.deviceId with
  | none =>
      rw [hl] at h
      cases h
  | some localDeviceId =>
      obtain ⟨hlocal, -, -, hne⟩ := Env.checkedLocalId_eq_some.mp hl
      rw [hl] at h
      dsimp only at h
      split at h
      · cases h
      split at h
      · cases h
      split at h
      · cases h
      · cases List.mem_singleton.mp h
        exact ⟨rfl, localDeviceId, hlocal, hne, rfl⟩

/-- The application is all that is told of a free install. -/
theorem mem_notifyFreeInstallResult {item : CallbackTaskItem} {resultCode : Int} {e : Effect}
    (he : e ∈ (notifyFreeInstallResult env item resultCode).2) :
    ∃ callback, item.callback = some callback ∧
      e = .freeInstallDone callback resultCode item.want := by
  unfold notifyFreeInstallResult at he
  cases hc : item.callback with
  | none =>
      rw [hc] at he
      cases he
  | some callback =>
      rw [hc] at he
      dsimp only at he
      split at he
      · cases he
      · exact ⟨callback, rfl, List.mem_singleton.mp he⟩

theorem notifyFreeInstallResult_request (env : Env) (item : CallbackTaskItem) (resultCode : Int) :
    (notifyFreeInstallResult env item resultCode).2.filterMap Effect.request = [] :=
  List.filterMap_eq_nil_iff.mpr fun e he => by
    obtain ⟨callback, -, rfl⟩ := mem_notifyFreeInstallResult he
    rfl

theorem startRemoteFreeInstall_request {callback : Option RemoteObject}
    (h : r ∈ (s.startRemoteFreeInstall env want callerUid requestCode accessToken
      callback).effects.filterMap Effect.request) : AsksFor env want requestCode r := by
  unfold startRemoteFreeInstall at h
  dsimp only at h
  cases hl : env.checkedLocalId want.element.deviceId with
  | none =>
      rw [hl] at h
      cases h
  | some localDeviceId =>
      obtain ⟨hlocal, -, -, hne⟩ := Env.checkedLocalId_eq_some.mp hl
      rw [hl] at h
      dsimp only at h
      split at h
      · cases h
      split at h
      · cases h
      split at h
      · cases h
      split at h
      · cases h
      split at h
      · simp only [failFreeInstall, List.filterMap_cons, notifyFreeInstallResult_request,
          Effect.request, List.mem_singleton] at h
        cases h
        exact ⟨rfl, localDeviceId, hlocal, hne, rfl⟩
      · cases List.mem_singleton.mp h
        exact ⟨rfl, localDeviceId, hlocal, hne, rfl⟩

/-- A result goes to the device that its want names. -/
theorem sendResult_request {processName : Option String} {resultCode : Int}
    (h : r ∈ (DmsTokenCallback.sendResult env processName want callerUid requestCode accessToken
      resultCode).2.filterMap Effect.request) :
    r.1 = want.getStringParam dmsSrcNetworkId ∧ ∃ callerInfo accountInfo,
      r.2 = .sendResultFromRemote want requestCode callerInfo accountInfo resultCode := by
  unfold DmsTokenCallback.sendResult at h
  split at h
  · cases h
  dsimp only at h
  split at h
  · cases h
  split at h
  · cases h
  split at h
  · cases h
  split at h
  · cases h
  · cases List.mem_singleton.mp h
    exact ⟨rfl, _, _, rfl⟩

variable {st : Want × Int}

theorem startAbility_started
    (h : st ∈ (startAbility env want requestCode).2.filterMap Effect.startedForResult) :
    st = (want, requestCode) ∧ want.getBoolParam Want.paramResvForResult false = true := by
  unfold startAbility at h
  split at h
  · cases h
  split at h
  · cases h
  · cases hb : want.getBoolParam Want.paramResvForResult false with
    | false =>
        rw [hb] at h
        cases h
    | true =>
        rw [hb] at h
        exact ⟨List.mem_singleton.mp h, rfl⟩

theorem startAbilityFromRemote_started {callerInfo : CallerInfo} {accountInfo : AccountInfo}
    (h : st ∈ (s.startAbilityFromRemote env want requestCode callerInfo
      accountInfo).effects.filterMap Effect.startedForResult) :
    st = (want, requestCode) ∧ want.getBoolParam Want.paramResvForResult false = true := by
  unfold startAbilityFromRemote at h
  dsimp only at h
  split at h
  · cases h
  split at h
  · cases h
  · exact startAbility_started h

/-- What is started for a free install that is finished. -/
theorem onInstallFinished_started {callback : DmsFreeInstallCallback} {resultCode : Int}
    (h : st ∈ (s.onInstallFinished env callback want requestCode resultCode).effects.filterMap
      Effect.startedForResult) :
    st = (want.removeFlags Want.flagInstallOnDemand, requestCode) ∧
      want.getBoolParam Want.paramResvForResult false = true := by
  have hnotify : ∀ info taskId code,
      (handleRemoteNotify env info taskId code).2.filterMap Effect.startedForResult = [] := by
    intro info taskId code
    unfold handleRemoteNotify
    dsimp only
    split
    · rfl
    · split <;> rfl
  unfold onInstallFinished notifyCompleteFreeInstall at h
  split at h
  · cases h
  split at h
  · rw [hnotify] at h
    cases h
  · rw [List.filterMap_append, hnotify, List.append_nil, startLocalAbility] at h
    dsimp only at h
    split at h
    · cases h
    split at h
    · cases h
    · exact startAbility_started h

/-- A free install that is asked for is asked for with the want of the request, and two more
parameters. -/
theorem startFreeInstallFromRemote_callback {info : FreeInstallInfo} {taskId : Int}
    {callback : DmsFreeInstallCallback}
    (h : (s.startFreeInstallFromRemote env info taskId).2 = some callback) :
    callback = ⟨taskId, info⟩ := by
  unfold startFreeInstallFromRemote at h
  split at h
  · cases h
  split at h
  · cases h
  split at h
  · cases h
  · exact (Option.some.inj h).symm

theorem startFreeInstallFromRemote_started (env : Env) (s : DistributedSchedService)
    (info : FreeInstallInfo) (taskId : Int) :
    (s.startFreeInstallFromRemote env info taskId).1.effects.filterMap Effect.startedForResult =
      [] := by
  unfold startFreeInstallFromRemote
  split
  · rfl
  split
  · rfl
  · split <;> rfl

end functions

/-! ### What a request asks for -/

/-- The want comes from the request of the device, and is for a result if that is. -/
structure Ask.Of (a : Ask) (want : Want) (requestCode : Int) : Prop where
  source : want.getStringParam dmsSrcNetworkId = a.device
  forResult : want.getBoolParam Want.paramResvForResult false =
    a.want.getBoolParam Want.paramResvForResult false
  requestCode : requestCode = a.requestCode

/-- A request that was sent. -/
structure Ask.Sent (a : Ask) : Prop where
  destination : a.destination = a.want.element.deviceId
  other : a.destination ≠ a.device
  call : ∃ want requestCode, a.call.starts = some (want, requestCode) ∧ a.Of want requestCode

theorem getBoolParam_setParam {want : Want} {key key' : String} {value : WantParam}
    (h : key ≠ key') (b : Bool) :
    (want.setParam key value).getBoolParam key' b = want.getBoolParam key' b := by
  unfold Want.setParam Want.getBoolParam
  rw [ExtTreeMap.getElem?_insert_of_ne h]

theorem getStringParam_setParam {want : Want} {key key' : String} {value : WantParam}
    (h : key ≠ key') :
    (want.setParam key value).getStringParam key' = want.getStringParam key' := by
  unfold Want.setParam Want.getStringParam
  rw [ExtTreeMap.getElem?_insert_of_ne h]

theorem getStringParam_setParam_self (want : Want) (key value : String) :
    (want.setParam key (.string value)).getStringParam key = value := by
  unfold Want.setParam Want.getStringParam
  rw [ExtTreeMap.getElem?_insert_self]

variable {a : Ask} {want : Want} {requestCode : Int}

/-- The stub adds parameters of its own to a free install. -/
theorem Ask.Of.freeInstallWant (h : a.Of want requestCode) {info : FreeInstallInfo}
    (hinfo : info.want = want) : a.Of (freeInstallWant info) requestCode where
  source := by
    subst hinfo
    unfold DistributedSchedService.freeInstallWant
    rw [getStringParam_setParam (by decide), getStringParam_setParam (by decide)]
    exact h.source
  forResult := by
    subst hinfo
    unfold DistributedSchedService.freeInstallWant
    rw [getBoolParam_setParam (by decide), getBoolParam_setParam (by decide)]
    exact h.forResult
  requestCode := h.requestCode

theorem AsksFor.sent {env : Env} {device : String} {r : String × RemoteCall}
    (h : AsksFor env want requestCode r)
    (hlocal : ∀ localDeviceId ∈ env.localDeviceId, localDeviceId = device) :
    Ask.Sent ⟨device, want, requestCode, r.1, r.2⟩ := by
  obtain ⟨hd, localDeviceId, hl, hne, hcall⟩ := h
  obtain rfl := hlocal localDeviceId hl
  exact {
    destination := hd
    other := Ne.symm hne
    call := ⟨_, _, hcall, getStringParam_setParam_self _ _ _, getBoolParam_setParam (by decide) _,
      rfl⟩ }

/-- What the service of the destination makes of a request. -/
theorem Ask.Sent.arrives (h : a.Sent) (env : Env) (service : DistributedSchedService) :
    (∀ st ∈ (service.onRemoteRequest env a.call).1.effects.filterMap Effect.startedForResult,
      a.Of st.1 st.2 ∧ st.1.getBoolParam Want.paramResvForResult false = true) ∧
    ∀ callback, (service.onRemoteRequest env a.call).2 = some callback →
      a.Of callback.info.want callback.info.requestCode := by
  obtain ⟨want, requestCode, hcall, hof⟩ := h.call
  unfold onRemoteRequest
  split
  · exact ⟨fun st hst => (by cases hst), fun callback hc => (by cases hc)⟩
  cases hc : a.call with
  | startAbilityFromRemote w rc callerInfo accountInfo =>
      rw [hc] at hcall
      cases hcall
      refine ⟨fun st hst => ?_, fun callback hcb => (by cases hcb)⟩
      obtain ⟨rfl, hresult⟩ := startAbilityFromRemote_started hst
      exact ⟨hof, hresult⟩
  | startFreeInstallFromRemote info taskId =>
      rw [hc] at hcall
      cases hcall
      refine ⟨fun st hst => ?_, fun callback hcb => ?_⟩
      · rw [startFreeInstallFromRemote_started] at hst
        cases hst
      · obtain rfl := startFreeInstallFromRemote_callback hcb
        exact hof.freeInstallWant rfl
  | _ =>
      rw [hc] at hcall
      cases hcall

/-- What the service of the device that asked makes of a result. -/
theorem sendResultFromRemote_told {env : Env} {service : DistributedSchedService}
    {callerInfo : CallerInfo} {accountInfo : AccountInfo} {resultCode : Int} :
    (service.onRemoteRequest env (.sendResultFromRemote want requestCode callerInfo accountInfo
        resultCode)).1.effects.filterMap Effect.toldResult = [] ∨
      (service.onRemoteRequest env (.sendResultFromRemote want requestCode callerInfo accountInfo
        resultCode)).1.effects.filterMap Effect.toldResult =
          [(requestCode, resultCode, want.removeParam dmsSrcNetworkId)] := by
  unfold onRemoteRequest
  split
  · exact .inl rfl
  dsimp only
  unfold sendResultFromRemote
  dsimp only
  split
  · exact .inl rfl
  split
  · exact .inl rfl
  split
  · exact .inl rfl
  · exact .inr rfl

/-! ### The way there and back -/

namespace ResultNetwork

variable {w w' : ResultNetwork}

structure Inv (w : ResultNetwork) : Prop where
  asks : ∀ a ∈ w.asks, a.Sent
  asking : ∀ a ∈ w.asking, a ∈ w.asks
  installing : ∀ i ∈ w.installing,
    i.ask ∈ w.asks ∧ i.ask.Of i.callback.info.want i.callback.info.requestCode
  started : ∀ st ∈ w.started, st.ask ∈ w.asks ∧ st.ask.Of st.want st.requestCode ∧
    st.want.getBoolParam Want.paramResvForResult false = true
  results : ∀ r ∈ w.results, r.started ∈ w.started ∧ r.destination = r.started.ask.device ∧
    ∃ callerInfo accountInfo, r.call = .sendResultFromRemote r.want r.started.ask.requestCode
      callerInfo accountInfo r.resultCode
  told : ∀ t ∈ w.told, ∃ r, w.results[t.result]? = some r ∧ t.device = r.destination ∧
    t.requestCode = r.started.ask.requestCode ∧ t.resultCode = r.resultCode ∧
    t.want = r.want.removeParam dmsSrcNetworkId
  returning : ∀ j ∈ w.told.map ToldResult.result ++ w.returning, j < w.results.length
  once : (w.told.map ToldResult.result ++ w.returning).Nodup

theorem Inv.init : Inv {} where
  asks a ha := by cases ha
  asking a ha := by cases ha
  installing i hi := by cases hi
  started st hst := by cases hst
  results r hr := by cases hr
  told t ht := by cases ht
  returning j hj := by cases hj
  once := List.nodup_nil

/-- A device asks. -/
theorem Inv.ask (h : w.Inv) {device : String} {want : Want} {requestCode : Int}
    {effects : List Effect} (hsent : ∀ r ∈ effects.filterMap Effect.request,
      Ask.Sent ⟨device, want, requestCode, r.1, r.2⟩) :
    (w.ask device want requestCode effects).Inv where
  asks a ha := by
    rcases List.mem_append.mp ha with ha | ha
    · exact h.asks a ha
    · obtain ⟨r, hr, rfl⟩ := List.mem_map.mp ha
      exact hsent r hr
  asking a ha := by
    rcases List.mem_append.mp ha with ha | ha
    · exact List.mem_append_left _ (h.asking a ha)
    · exact List.mem_append_right _ ha
  installing i hi := ⟨List.mem_append_left _ (h.installing i hi).1, (h.installing i hi).2⟩
  started st hst := ⟨List.mem_append_left _ (h.started st hst).1, (h.started st hst).2⟩
  results := h.results
  told := h.told
  returning := h.returning
  once := h.once

/-- Abilities are started for a request. -/
theorem Inv.start (h : w.Inv) {a : Ask} (ha : a ∈ w.asks) {effects : List Effect}
    (hof : ∀ st ∈ effects.filterMap Effect.startedForResult,
      a.Of st.1 st.2 ∧ st.1.getBoolParam Want.paramResvForResult false = true) :
    (w.start a effects).Inv where
  asks := h.asks
  asking := h.asking
  installing := h.installing
  started st hst := by
    rcases List.mem_append.mp hst with hst | hst
    · exact h.started st hst
    · obtain ⟨r, hr, rfl⟩ := List.mem_map.mp hst
      exact ⟨ha, hof r hr⟩
  results r hr := ⟨List.mem_append_left _ (h.results r hr).1, (h.results r hr).2⟩
  told := h.told
  returning := h.returning
  once := h.once

/-- A request is no longer under way, and may have left a free install behind. -/
theorem Inv.arrived (h : w.Inv) (k : Nat) {installing : List Installing}
    (hi : ∀ i ∈ installing,
      i.ask ∈ w.asks ∧ i.ask.Of i.callback.info.want i.callback.info.requestCode) :
    { w with asking := w.asking.eraseIdx k, installing := w.installing ++ installing }.Inv where
  asks := h.asks
  asking a ha := h.asking a (List.mem_of_mem_eraseIdx ha)
  installing i hm := (List.mem_append.mp hm).elim (h.installing i) (hi i)
  started := h.started
  results := h.results
  told := h.told
  returning := h.returning
  once := h.once

/-- A result is sent. -/
theorem Inv.send (h : w.Inv) {st : Started} (hst : st ∈ w.started) {want : Want}
    {resultCode : Int} {effects : List Effect}
    (hsource : want.getStringParam dmsSrcNetworkId = st.want.getStringParam dmsSrcNetworkId)
    (hrequest : ∀ r ∈ effects.filterMap Effect.request,
      r.1 = want.getStringParam dmsSrcNetworkId ∧ ∃ callerInfo accountInfo,
        r.2 = .sendResultFromRemote want st.requestCode callerInfo accountInfo resultCode) :
    (w.send st want resultCode effects).Inv where
  asks := h.asks
  asking := h.asking
  installing := h.installing
  started := h.started
  results r hr := by
    rcases List.mem_append.mp hr with hr | hr
    · exact h.results r hr
    · obtain ⟨x, hx, rfl⟩ := List.mem_map.mp hr
      obtain ⟨-, hof, -⟩ := h.started st hst
      obtain ⟨hd, callerInfo, accountInfo, hcall⟩ := hrequest x hx
      exact ⟨hst, hd.trans (hsource.trans hof.source), callerInfo, accountInfo,
        hof.requestCode ▸ hcall⟩
  told t ht := by
    obtain ⟨r, hr, hrest⟩ := h.told t ht
    exact ⟨r, (List.getElem?_append_left (List.getElem?_eq_some_iff.mp hr).1).trans hr, hrest⟩
  returning j hj := by
    rw [ResultNetwork.send, List.length_append]
    rw [ResultNetwork.send, ← List.append_assoc] at hj
    rcases List.mem_append.mp hj with hj | hj
    · exact Nat.lt_add_right _ (h.returning j hj)
    · obtain ⟨i, hi, rfl⟩ := List.mem_map.mp hj
      exact Nat.add_lt_add_left (List.mem_range.mp hi) _
  once := by
    rw [ResultNetwork.send, ← List.append_assoc, List.nodup_append]
    refine ⟨h.once, List.nodup_range.map fun i j hij => Nat.add_left_cancel hij, ?_⟩
    intro j hj i hi
    obtain ⟨n, -, rfl⟩ := List.mem_map.mp hi
    exact Nat.ne_of_lt (Nat.lt_of_lt_of_le (h.returning j hj) (Nat.le_add_right _ _))

/-- A result is no longer under way. -/
theorem Inv.lose (h : w.Inv) (k : Nat) :
    { w with returning := w.returning.eraseIdx k }.Inv where
  asks := h.asks
  asking := h.asking
  installing := h.installing
  started := h.started
  results := h.results
  told := h.told
  returning j hj := h.returning j ((List.mem_append.mp hj).elim (List.mem_append_left _)
    fun hj => List.mem_append_right _ (List.mem_of_mem_eraseIdx hj))
  once := h.once.sublist ((List.Sublist.refl _).append (List.eraseIdx_sublist _ k))

/-- A result arrives: the ability manager is told, or not. -/
theorem Inv.result (h : w.Inv) {k j : Nat} (hk : w.returning[k]? = some j) {r : SentResult}
    (hj : w.results[j]? = some r) {effects : List Effect}
    (htold : effects.filterMap Effect.toldResult = [] ∨ effects.filterMap Effect.toldResult =
      [(r.started.ask.requestCode, r.resultCode, r.want.removeParam dmsSrcNetworkId)]) :
    { w.tell j r.destination effects with returning := w.returning.eraseIdx k }.Inv := by
  rcases htold with he | he
  · rw [tell, he, List.map_nil, List.append_nil]
    exact h.lose k
  rw [tell, he, List.map_singleton]
  have hperm : (w.told.map ToldResult.result ++ [j] ++ w.returning.eraseIdx k).Perm
      (w.told.map ToldResult.result ++ w.returning) := by
    obtain ⟨hlt, rfl⟩ := List.getElem?_eq_some_iff.mp hk
    rw [List.append_assoc]
    exact (List.getElem_cons_eraseIdx_perm hlt).append_left _
  exact {
    asks := h.asks
    asking := h.asking
    installing := h.installing
    started := h.started
    results := h.results
    told := fun t ht => by
      rcases List.mem_append.mp ht with ht | ht
      · exact h.told t ht
      · cases List.mem_singleton.mp ht
        exact ⟨r, hj, rfl, rfl, rfl, rfl⟩
    returning := fun i hi => by
      rw [List.map_append, List.map_singleton] at hi
      exact h.returning i (hperm.mem_iff.mp hi)
    once := by
      rw [List.map_append, List.map_singleton]
      exact hperm.nodup_iff.mpr h.once }

/-- One step. -/
theorem Inv.step (h : w.Inv) {step : ResultStep} (hok : step.HandsBack w)
    (hs : step.apply w = some w') : w'.Inv := by
  cases step with
  | startRemoteAbility device env service want callerUid requestCode accessToken =>
      cases hs
      exact h.ask fun r hr => (startRemoteAbility_request hr).sent hok
  | startRemoteFreeInstall device env service want callerUid requestCode accessToken callback =>
      cases hs
      exact h.ask fun r hr => (startRemoteFreeInstall_request hr).sent hok
  | request k env service =>
      rw [ResultStep.apply] at hs
      cases hk : w.asking[k]? with
      | none =>
          rw [hk] at hs
          cases hs
      | some a =>
          rw [hk] at hs
          cases hs
          have ha := h.asking a (List.mem_of_getElem? hk)
          obtain ⟨hstarted, hcallback⟩ := (h.asks a ha).arrives env service
          refine (h.start ha hstarted).arrived k fun i hi => ?_
          obtain ⟨callback, hc, rfl⟩ := Option.map_eq_some_iff.mp (Option.mem_toList.mp hi)
          exact ⟨ha, hcallback callback hc⟩
  | installFinished k env service want requestCode resultCode =>
      rw [ResultStep.apply] at hs
      cases hk : w.installing[k]? with
      | none =>
          rw [hk] at hs
          cases hs
      | some i =>
          rw [hk] at hs
          cases hs
          obtain ⟨ha, hof⟩ := h.installing i (List.mem_of_getElem? hk)
          obtain ⟨rfl, rfl⟩ := hok i hk
          refine h.start ha fun st hst => ?_
          obtain ⟨rfl, hresult⟩ := onInstallFinished_started hst
          exact ⟨⟨hof.source, hof.forResult, hof.requestCode⟩, hresult⟩
  | sendResult k env processName want callerUid requestCode accessToken resultCode =>
      rw [ResultStep.apply] at hs
      cases hk : w.started[k]? with
      | none =>
          rw [hk] at hs
          cases hs
      | some st =>
          rw [hk] at hs
          cases hs
          obtain ⟨hsource, rfl⟩ := hok st hk
          exact h.send (List.mem_of_getElem? hk) hsource fun r hr => sendResult_request hr
  | result k env service =>
      rw [ResultStep.apply] at hs
      cases hk : w.returning[k]? with
      | none =>
          rw [hk] at hs
          cases hs
      | some j =>
          rw [hk] at hs
          dsimp only at hs
          cases hj : w.results[j]? with
          | none =>
              rw [hj] at hs
              cases hs
          | some r =>
              rw [hj] at hs
              cases hs
              obtain ⟨-, -, callerInfo, accountInfo, hcall⟩ :=
                h.results r (List.mem_of_getElem? hj)
              rw [hcall]
              exact h.result hk hj sendResultFromRemote_told
  | loseRequest k =>
      cases hs
      have hnone : ∀ i ∈ ([] : List Installing),
          i.ask ∈ w.asks ∧ i.ask.Of i.callback.info.want i.callback.info.requestCode :=
        fun i hi => (by cases hi)
      simpa only [List.append_nil] using h.arrived k hnone
  | loseResult k =>
      cases hs
      exact h.lose k

end ResultNetwork

/-- **Results come home.**  Over every run of any number of devices, whatever their services are in
the middle of: what an ability manager is told is a result that was sent for an ability that its own
device asked another one for, at once or as a free install, and asked for with a result; the request
code is that of this request, the result code and the want are what the ability gave, less the
source; and no result is told twice. -/
theorem results_come_home {w : ResultNetwork}
    (h : Runs.Reach ResultStep.apply (fun w step => step.HandsBack w) {} w) :
    (∀ t ∈ w.told, ∃ r, w.results[t.result]? = some r ∧ r.started ∈ w.started ∧
      r.started.ask ∈ w.asks ∧ t.device = r.started.ask.device ∧
      t.requestCode = r.started.ask.requestCode ∧ t.resultCode = r.resultCode ∧
      t.want = r.want.removeParam dmsSrcNetworkId ∧
      r.started.ask.destination = r.started.ask.want.element.deviceId ∧
      r.started.ask.destination ≠ r.started.ask.device ∧
      r.started.ask.want.getBoolParam Want.paramResvForResult false = true) ∧
    (w.told.map ToldResult.result).Nodup := by
  have hinv : w.Inv :=
    h.invariant ResultNetwork.Inv.init fun _ _ _ hw hok hs => hw.step hok hs
  refine ⟨fun t ht => ?_, (List.nodup_append.mp hinv.once).1⟩
  obtain ⟨r, hr, hdevice, hcode, hresult, hwant⟩ := hinv.told t ht
  obtain ⟨hst, hd, -⟩ := hinv.results r (List.mem_of_getElem? hr)
  obtain ⟨ha, hof, hfor⟩ := hinv.started r.started hst
  have hsent := hinv.asks r.started.ask ha
  exact ⟨r, hr, hst, ha, hdevice.trans hd, hcode, hresult, hwant, hsent.destination, hsent.other,
    hof.forResult.symm.trans hfor⟩

/-- One of two devices, which are in one group and have one application. -/
def peerEnv (device : String) : Env :=
  { callerEnv true with
    localDeviceId := some device
    bmsQueryAbilityInfo := fun _ => some { bundleName := "app", visible := true } }

/-- A device asks another one for a picture, and is told. -/
def pictureSteps : List ResultStep :=
  [.startRemoteAbility "A" (peerEnv "A") {} (({ element := { deviceId := "B" } } : Want).setParam
      Want.paramResvForResult (.bool true)) 20010 7 0,
    .request 0 (peerEnv "B") {},
    .sendResult 0 (peerEnv "B") (some "foundation")
      (({} : Want).setParam dmsSrcNetworkId (.string "A")) 20010 7 0 1,
    .result 0 (peerEnv "A") {}]

theorem results_come_home_picture : ∃ w : ResultNetwork, ∃ t ∈ w.told, ∃ r,
    w.results[t.result]? = some r ∧ t.device = r.started.ask.device ∧
      t.requestCode = r.started.ask.requestCode ∧ t.resultCode = r.resultCode := by
  have hrun : (Runs.exec (fun w step => if step.HandsBack w then step.apply w else none) {}
      pictureSteps).any (fun w => w.told.length = 1) = true := by decide +kernel
  obtain ⟨w, hw, hlen⟩ := (Option.any_eq_true _ _).mp hrun
  obtain ⟨t, ht⟩ := List.length_eq_one_iff.mp (of_decide_eq_true hlen)
  have hmem : t ∈ w.told := ht ▸ List.mem_singleton_self t
  obtain ⟨r, hr, -, -, hdevice, hcode, hresult, -⟩ :=
    (results_come_home (Runs.Reach.of_exec_checked hw)).1 t hmem
  exact ⟨w, t, hmem, r, hr, hdevice, hcode, hresult⟩

end DistributedSched

import DistributedSched.Call.Recipients
import DistributedSched.Connect.Agreement
import Mathlib.Logic.Function.Basic

/-!
# Call — abilities that one caller holds

The caller's device, and the devices where it starts abilities by call.  An application holds an
element through a connect object from the start that returned `ERR_OK` to the release that did,
or to its own death.  `callerMap_` keeps the elements of each device, but `calleeMap_` keeps one
element for each connect object, and a release drops the whole entry of both tables.

* `CalledStep.Safe`: a start is accepted on a device that keeps no other element of its connect
  object, and a release that is executed succeeds and is of the only element held.
* `called_abilities_kept`: in a run of such steps every element held is tracked on both devices,
  can be released, and is released when its caller dies.
* `release_drops_other`: two elements on two devices, and the release of one drops the other.
-/

namespace DistributedSched

open Std (ExtTreeMap)
open DistributedSchedService ConnectAbilitySession

/-! ### The operations of the caller's device -/

section caller

variable (env : Env) (s : DistributedSchedService)

/-- The request of `StartRemoteAbilityByCall`, when its checks pass. -/
def callRequest (want : Want) (callerUid callerPid : Int) (accessToken : Nat) :
    Option (CallerInfo × AccountInfo) := do
  let localDeviceId ← env.checkedLocalId want.element.deviceId
  let callerAppId ← env.getCallerAppIdFromBms callerUid
  let bundleNames ← env.getBundleNameListFromBms callerUid
  if env.getRemoteDms want.element.deviceId then
    let callerInfo : CallerInfo :=
      { uid := callerUid, pid := callerPid, sourceDeviceId := localDeviceId,
        accessToken := accessToken, callerAppId := callerAppId, bundleNames := bundleNames }
    match DistributedSchedPermission.getAccountInfo env want.element.deviceId callerInfo with
    | .error _ => none
    | .ok accountInfo => some (callerInfo, accountInfo)
  else none

/-- The request of `ReleaseRemoteAbility`, when its checks pass: the id it names as its source. -/
def releaseRequest (element : ElementName) : Option String :=
  if env.getRemoteDms element.deviceId then env.localDeviceId else none

theorem requestsTo_saveCallerComponent (deviceId : String) (want : Want) (connect : RemoteObject)
    (callerInfo : CallerInfo) :
    requestsTo deviceId (s.saveCallerComponent want connect callerInfo).2 = [] := by
  unfold saveCallerComponent
  split
  · simp
  · rfl

theorem requestsTo_removeCallerComponent (deviceId : String) (connect : RemoteObject) :
    requestsTo deviceId (s.removeCallerComponent connect).2 = [] := by
  unfold removeCallerComponent
  split
  · rfl
  · rename_i sessionsList _
    cases sessionsList <;> simp [reportCallerRemoved]

theorem getAccountInfo_ne_ok {remoteNetworkId : String} {callerInfo : CallerInfo} {ret : Int}
    (h : DistributedSchedPermission.getAccountInfo env remoteNetworkId callerInfo = .error ret) :
    ret ≠ errOk := by
  unfold DistributedSchedPermission.getAccountInfo at h
  split at h
  · cases h; exact env.errNullObject.2
  simp only at h
  split at h
  · cases h; exact env.errNullObject.2
  split at h
  · cases h; decide
  · cases h

theorem tryStartRemoteAbilityByCall_cases (want : Want) (connect : RemoteObject)
    (callerInfo : CallerInfo) :
    let o := s.tryStartRemoteAbilityByCall env want connect callerInfo
    (o.result ≠ errOk ∧ o.service = s ∧ requestsTo want.element.deviceId o.effects = []) ∨
    ∃ callerInfo' accountInfo,
      (if env.getRemoteDms want.element.deviceId then
        match DistributedSchedPermission.getAccountInfo env want.element.deviceId callerInfo with
        | .error _ => none
        | .ok accountInfo => some (callerInfo, accountInfo)
      else none) = some (callerInfo', accountInfo) ∧
      let call := RemoteCall.startAbilityByCallFromRemote want (some connect) callerInfo'
        accountInfo
      o.result = env.remoteResult call ∧
      requestsTo want.element.deviceId o.effects = [call] ∧
      o.service = if env.remoteResult call = errOk then
        (s.saveCallerComponent want connect callerInfo').1 else s := by
  simp only [tryStartRemoteAbilityByCall]
  cases env.getRemoteDms want.element.deviceId with
  | false => exact .inl ⟨show invalidParametersErr ≠ errOk by decide, rfl, rfl⟩
  | true =>
      cases ha : DistributedSchedPermission.getAccountInfo env want.element.deviceId callerInfo with
      | error ret => exact .inl ⟨getAccountInfo_ne_ok env ha, rfl, rfl⟩
      | ok accountInfo =>
          refine .inr ⟨callerInfo, accountInfo, rfl, ?_⟩
          simp only [Bool.not_true, Bool.false_eq_true, if_false]
          split
          · exact ⟨rfl, by simp [requestsTo_saveCallerComponent], rfl⟩
          · exact ⟨rfl, by simp, rfl⟩

/-- A start makes no request, or one request, and is recorded when that succeeds. -/
theorem startRemoteAbilityByCall_cases (want : Want) (connect : RemoteObject)
    (callerUid callerPid : Int) (accessToken : Nat) :
    let o := s.startRemoteAbilityByCall env want (some connect) callerUid callerPid accessToken
    (o.result ≠ errOk ∧ o.service = s ∧ requestsTo want.element.deviceId o.effects = []) ∨
    ∃ callerInfo accountInfo,
      callRequest env want callerUid callerPid accessToken = some (callerInfo, accountInfo) ∧
      let call := RemoteCall.startAbilityByCallFromRemote want (some connect) callerInfo accountInfo
      o.result = env.remoteResult call ∧
      requestsTo want.element.deviceId o.effects = [call] ∧
      o.service = if env.remoteResult call = errOk then
        (s.saveCallerComponent want connect callerInfo).1 else s := by
  simp only [startRemoteAbilityByCall, callRequest]
  cases env.checkedLocalId want.element.deviceId with
  | none => exact .inl ⟨show invalidParametersErr ≠ errOk by decide, rfl, rfl⟩
  | some localDeviceId =>
      cases env.getCallerAppIdFromBms callerUid with
      | none => exact .inl ⟨show invalidParametersErr ≠ errOk by decide, rfl, rfl⟩
      | some callerAppId =>
          cases env.getBundleNameListFromBms callerUid with
          | none => exact .inl ⟨show invalidParametersErr ≠ errOk by decide, rfl, rfl⟩
          | some bundleNames => exact tryStartRemoteAbilityByCall_cases env s want connect _

theorem releaseRemoteAbility_cases (connect : RemoteObject) (element : ElementName) :
    let o := s.releaseRemoteAbility env (some connect) element
    (releaseRequest env element = none ∧ o.result ≠ errOk ∧ o.service = s ∧
      requestsTo element.deviceId o.effects = []) ∨
    ∃ sourceDeviceId, releaseRequest env element = some sourceDeviceId ∧
      let call := RemoteCall.releaseAbilityFromRemote (some connect) element
        { sourceDeviceId := sourceDeviceId }
      o.result = env.remoteResult call ∧ requestsTo element.deviceId o.effects = [call] ∧
      o.service = if env.remoteResult call = errOk then (s.removeCallerComponent connect).1
        else s := by
  simp only [releaseRemoteAbility, releaseRequest]
  by_cases hd : element.deviceId = ""
  · rw [if_pos hd]
    refine .inl ⟨?_, show invalidParametersErr ≠ errOk by decide, rfl, rfl⟩
    simp [Env.getRemoteDms, hd]
  rw [if_neg hd]
  cases env.getRemoteDms element.deviceId with
  | false => exact .inl ⟨rfl, show invalidParametersErr ≠ errOk by decide, rfl, rfl⟩
  | true =>
      cases env.localDeviceId with
      | none => exact .inl ⟨rfl, show invalidParametersErr ≠ errOk by decide, rfl, rfl⟩
      | some sourceDeviceId =>
          refine .inr ⟨sourceDeviceId, rfl, ?_⟩
          simp only [Bool.not_true, Bool.false_eq_true, if_false]
          split
          · exact ⟨rfl, by simp [requestsTo_removeCallerComponent], rfl⟩
          · exact ⟨rfl, by simp, rfl⟩

end caller

/-! ### The system -/

/-- The caller's device, and every device where abilities are started. -/
structure CalledAbilities where
  caller : DistributedSchedService := {}
  callees : String → DistributedSchedService := fun _ => {}
  /-- the elements that are held, with their connect objects -/
  held : List (RemoteObject × ElementName) := []
  /-- the connect objects whose process has died -/
  dead : List RemoteObject := []

namespace CalledAbilities

/-- The callee's device executes the requests of an operation. -/
def afterRequests (s : CalledAbilities) (deviceId : String) (delivery : Delivery) (o : Outcome) :
    CalledAbilities :=
  { s with
    caller := o.service
    callees := Function.update s.callees deviceId
      (sendAll (fun _ => delivery) (s.callees deviceId) (requestsTo deviceId o.effects)) }

/-- The environment of the caller's device, where a request to a device has the answer of that
device. -/
def answering (s : CalledAbilities) (env : Env) (deviceId : String) (delivery : Delivery) : Env :=
  { env with remoteResult := fun call => (delivery.send (s.callees deviceId) call).2.result }

end CalledAbilities

inductive CalledStep where
  | startRemoteAbilityByCall (env : Env) (delivery : Delivery) (want : Want)
      (connect : RemoteObject) (callerUid callerPid : Int) (accessToken : Nat)
  | releaseRemoteAbility (env : Env) (delivery : Delivery) (connect : RemoteObject)
      (element : ElementName)
  /-- the process of a connect object dies, and its own device is told -/
  | localCallerDied (env : Env) (connect : RemoteObject)
  /-- a callee's device is told of the death -/
  | callerDied (env : Env) (deviceId : String) (connect : RemoteObject)

namespace CalledStep

/-- An application that has died makes no calls. -/
def apply (s : CalledAbilities) : CalledStep → Option CalledAbilities
  | startRemoteAbilityByCall env delivery want connect callerUid callerPid accessToken =>
    if connect ∈ s.dead then none
    else
      let o := s.caller.startRemoteAbilityByCall (s.answering env want.element.deviceId delivery)
        want (some connect) callerUid callerPid accessToken
      let s' := s.afterRequests want.element.deviceId delivery o
      some (if o.result = errOk then { s' with held := (connect, want.element) :: s.held } else s')
  | releaseRemoteAbility env delivery connect element =>
    if connect ∈ s.dead then none
    else
      let o := s.caller.releaseRemoteAbility (s.answering env element.deviceId delivery)
        (some connect) element
      let s' := s.afterRequests element.deviceId delivery o
      some (if o.result = errOk then
          { s' with held := s.held.filter fun h => h ≠ (connect, element) }
        else s')
  | localCallerDied env connect =>
    if connect ∈ s.dead then none
    else some { s with
      caller := (s.caller.processCallerDied env (some connect) .caller).1
      dead := connect :: s.dead }
  | callerDied env deviceId connect =>
    if connect ∈ s.dead then
      some { s with
        callees := Function.update s.callees deviceId
          ((s.callees deviceId).processCallerDied env (some connect) .callee).1
        held := s.held.filter fun h => ¬(h.1 = connect ∧ h.2.deviceId = deviceId) }
    else none

/-- A start is accepted on a device that keeps no other element of its connect object.  A
release that is executed where there is an entry succeeds, and is of the only element that the
connect object holds. -/
def Safe (s : CalledAbilities) : CalledStep → Prop
  | startRemoteAbilityByCall env delivery want connect callerUid callerPid accessToken =>
    ∀ callerInfo accountInfo envB elapsedTime,
      callRequest env want callerUid callerPid accessToken = some (callerInfo, accountInfo) →
      delivery = .executed envB elapsedTime → envB.callingUid < hidHap →
      CalleeStep.Starts envB want callerInfo.ofStartByCall accountInfo →
        ∀ info, (s.callees want.element.deviceId).calleeMap[connect]? = some info →
          info.element = want.element
  | releaseRemoteAbility env delivery connect element =>
    ∀ sourceDeviceId envB elapsedTime, releaseRequest env element = some sourceDeviceId →
      delivery = .executed envB elapsedTime → envB.callingUid < hidHap →
      (envB.checkedLocalIdForRelease sourceDeviceId).isSome = true →
        ∀ info, (s.callees element.deviceId).calleeMap[connect]? = some info →
          (envB.amsConnect = errOk ∧ envB.amsReleaseAbility info.callbackWrapper = errOk) ∧
            ∀ e, (connect, e) ∈ s.held → e = element
  | _ => True

end CalledStep

/-! ### Requests at a callee's device -/

section requests

variable (delivery : Delivery) (b : DistributedSchedService)

theorem send_start (want : Want) (connect : RemoteObject) (callerInfo : CallerInfo)
    (accountInfo : AccountInfo) :
    let r := delivery.send b
      (.startAbilityByCallFromRemote want (some connect) callerInfo accountInfo)
    (r.2.result ≠ errOk ∧ r.1.calleeMap = b.calleeMap) ∨
    r.2.result = errOk ∧ ∃ envB elapsedTime, delivery = .executed envB elapsedTime ∧
      envB.callingUid < hidHap ∧
      CalleeStep.Starts envB want callerInfo.ofStartByCall accountInfo ∧
      ∃ callbackWrapper, r.1.calleeMap = b.calleeMap.insertIfNew connect
        ⟨callerInfo.ofStartByCall, callbackWrapper, want.element⟩ := by
  cases delivery with
  | failed code elapsedTime => exact .inl ⟨code.2, rfl⟩
  | executed envB elapsedTime =>
      simp only [Delivery.send, onRemoteRequest]
      split
      · exact .inl ⟨show dmsPermissionDenied ≠ errOk by decide, rfl⟩
      rename_i hu
      rcases CalleeDevice.startFromRemote_cases envB { service := b } want connect
        callerInfo.ofStartByCall accountInfo with
        ⟨-, hr, -, -, hm⟩ | ⟨hs, hr, -, -, hm⟩
      · exact .inl ⟨hr, hm⟩
      · exact .inr ⟨hr, envB, elapsedTime, rfl, Int.not_le.mp hu, hs, hm⟩

theorem send_release (connect : RemoteObject) (element : ElementName) (sourceDeviceId : String) :
    let r := delivery.send b (.releaseAbilityFromRemote (some connect) element
      { sourceDeviceId := sourceDeviceId })
    (r.2.result ≠ errOk ∧ r.1.calleeMap = b.calleeMap) ∨
    ∃ envB elapsedTime info, delivery = .executed envB elapsedTime ∧
      envB.callingUid < hidHap ∧
      (envB.checkedLocalIdForRelease sourceDeviceId).isSome = true ∧
      b.calleeMap[connect]? = some info ∧ r.1.calleeMap = b.calleeMap.erase connect ∧
      r.2.result =
        (DistributedSchedAdapter.releaseAbility envB info.callbackWrapper element).1 := by
  cases delivery with
  | failed code elapsedTime => exact .inl ⟨code.2, rfl⟩
  | executed envB elapsedTime =>
      simp only [Delivery.send, onRemoteRequest]
      split
      · exact .inl ⟨show dmsPermissionDenied ≠ errOk by decide, rfl⟩
      rename_i hu
      simp only [releaseAbilityFromRemote, CallerInfo.ofRelease]
      cases hl : envB.checkedLocalIdForRelease sourceDeviceId with
      | none => exact .inl ⟨show invalidRemoteParametersErr ≠ errOk by decide, rfl⟩
      | some localDeviceId =>
          cases hm : b.calleeMap[connect]? with
          | none => exact .inl ⟨show invalidRemoteParametersErr ≠ errOk by decide, rfl⟩
          | some info =>
              exact .inr ⟨envB, elapsedTime, info, rfl, Int.not_le.mp hu, by rw [hl]; rfl, rfl,
                rfl, rfl⟩

end requests

/-! ### The tables of the caller's device -/

/-- `callerMap_` has the element in the session of its device. -/
def DistributedSchedService.TracksCallee (s : DistributedSchedService) (connect : RemoteObject)
    (element : ElementName) : Prop :=
  ∃ l, s.callerMap[connect]? = some l ∧
    ∃ session ∈ l, session.destinationDeviceId = element.deviceId ∧
      element ∈ session.elementsList

theorem mem_addToSessions_self (localDeviceId remoteDeviceId : String) (element : ElementName)
    (callerInfo : CallerInfo) (targetComponent : TargetComponent)
    (l : List ConnectAbilitySession) :
    ∃ session ∈ addToSessions localDeviceId remoteDeviceId element callerInfo targetComponent l,
      session.destinationDeviceId = remoteDeviceId ∧ element ∈ session.elementsList := by
  induction l with
  | nil =>
      exact ⟨_, List.mem_singleton_self _, destinationDeviceId_addElement,
        mem_elementsList_addElement⟩
  | cons session l ih =>
      rw [addToSessions]
      split
      · rename_i hd
        exact ⟨_, List.mem_cons_self, destinationDeviceId_addElement.trans hd.symm,
          mem_elementsList_addElement⟩
      · obtain ⟨session', hs, h⟩ := ih
        exact ⟨session', List.mem_cons_of_mem _ hs, h⟩

/-- An element that a session has is kept. -/
theorem addToSessions_keeps {localDeviceId remoteDeviceId : String} {element : ElementName}
    {callerInfo : CallerInfo} {targetComponent : TargetComponent}
    {l : List ConnectAbilitySession} {session : ConnectAbilitySession} (hs : session ∈ l)
    {e : ElementName} (he : e ∈ session.elementsList) :
    ∃ session' ∈ addToSessions localDeviceId remoteDeviceId element callerInfo targetComponent l,
      session'.destinationDeviceId = session.destinationDeviceId ∧
        e ∈ session'.elementsList := by
  induction l with
  | nil => cases hs
  | cons first l ih =>
      rw [addToSessions]
      split
      · rcases List.mem_cons.mp hs with rfl | hs
        · refine ⟨_, List.mem_cons_self, destinationDeviceId_addElement, ?_⟩
          unfold addElement
          split
          · exact he
          · exact List.mem_append_left _ he
        · exact ⟨session, List.mem_cons_of_mem _ hs, rfl, he⟩
      · rcases List.mem_cons.mp hs with rfl | hs
        · exact ⟨session, List.mem_cons_self, rfl, he⟩
        · obtain ⟨session', hs, h⟩ := ih hs
          exact ⟨session', List.mem_cons_of_mem _ hs, h⟩

section saved

variable (s : DistributedSchedService) (want : Want) (connect : RemoteObject)
  (callerInfo : CallerInfo)

theorem saveCallerComponent_callerMap :
    (s.saveCallerComponent want connect callerInfo).1.callerMap =
      s.callerMap.insert connect (addToSessions callerInfo.sourceDeviceId want.element.deviceId
        want.element callerInfo .harmonyComponent (s.callerMap[connect]?.getD [])) := by
  unfold saveCallerComponent
  split <;> simp [*]

theorem tracksCallee_saveCallerComponent :
    (s.saveCallerComponent want connect callerInfo).1.TracksCallee connect want.element := by
  obtain ⟨session, hs, h⟩ := mem_addToSessions_self callerInfo.sourceDeviceId
    want.element.deviceId want.element callerInfo .harmonyComponent
    (s.callerMap[connect]?.getD [])
  refine ⟨_, ?_, session, hs, h⟩
  rw [saveCallerComponent_callerMap, ExtTreeMap.getElem?_insert_self]

variable {s}

theorem DistributedSchedService.TracksCallee.saveCallerComponent {c : RemoteObject}
    {e : ElementName}
    (h : s.TracksCallee c e) :
    (s.saveCallerComponent want connect callerInfo).1.TracksCallee c e := by
  obtain ⟨l, hl, session, hs, hd, he⟩ := h
  simp only [TracksCallee, saveCallerComponent_callerMap, ExtTreeMap.getElem?_insert,
    Std.LawfulEqCmp.compare_eq_iff_eq]
  by_cases hc : connect = c
  · subst hc
    have hmem : session ∈ s.callerMap[connect]?.getD [] := by rw [hl]; exact hs
    obtain ⟨session', hs', hd', he'⟩ := @addToSessions_keeps callerInfo.sourceDeviceId
      want.element.deviceId want.element callerInfo .harmonyComponent _ _ hmem _ he
    exact ⟨_, if_pos rfl, session', hs', hd'.trans hd, he'⟩
  · exact ⟨l, by rw [if_neg hc, hl], session, hs, hd, he⟩

end saved

/-! ### The invariant -/

namespace CalledAbilities

/-- The elements held are those that the callees' tables have, each under its own device, and
`callerMap_` tracks those of a live connect object. -/
structure Inv (s : CalledAbilities) : Prop where
  entry : ∀ (deviceId : String) (c : RemoteObject) (info : ConnectInfo),
    (s.callees deviceId).calleeMap[c]? = some info →
      (c, info.element) ∈ s.held ∧ info.element.deviceId = deviceId
  callee : ∀ (c : RemoteObject) (e : ElementName), (c, e) ∈ s.held →
    ∃ info, (s.callees e.deviceId).calleeMap[c]? = some info ∧ info.element = e
  caller : ∀ (c : RemoteObject) (e : ElementName), (c, e) ∈ s.held → c ∉ s.dead →
    s.caller.TracksCallee c e

variable {s : CalledAbilities}

theorem init_inv : Inv {} where
  entry deviceId c info h := by simp at h
  callee c e h := absurd h List.not_mem_nil
  caller c e h := absurd h List.not_mem_nil

/-- A device that has the requests of an operation behind it, when its table is known. -/
theorem calleeMap_afterRequests {deviceId : String} {delivery : Delivery} {o : Outcome}
    {m : Map RemoteObject ConnectInfo}
    (hm : (sendAll (fun _ => delivery) (s.callees deviceId)
      (requestsTo deviceId o.effects)).calleeMap = m) (d : String) :
    ((s.afterRequests deviceId delivery o).callees d).calleeMap =
      if d = deviceId then m else (s.callees d).calleeMap := by
  simp only [afterRequests, Function.update_apply]
  split
  · exact hm
  · rfl

theorem Inv.congr (h : s.Inv) {s' : CalledAbilities}
    (hm : ∀ d, (s'.callees d).calleeMap = (s.callees d).calleeMap)
    (hc : s'.caller.callerMap = s.caller.callerMap) (hh : s'.held = s.held)
    (hd : s'.dead = s.dead) : s'.Inv where
  entry d c info hk := by
    rw [hm] at hk
    rw [hh]
    exact h.entry d c info hk
  callee c e he := by
    rw [hh] at he
    obtain ⟨info, hk, hi⟩ := h.callee c e he
    exact ⟨info, by rw [hm]; exact hk, hi⟩
  caller c e he hn := by
    rw [hh] at he
    rw [hd] at hn
    simp only [TracksCallee, hc]
    exact h.caller c e he hn

/-- A request that leaves the callee's table, of an operation that leaves the caller's. -/
theorem Inv.failed (h : s.Inv) {deviceId : String} {delivery : Delivery} {o : Outcome}
    (hm : (sendAll (fun _ => delivery) (s.callees deviceId)
      (requestsTo deviceId o.effects)).calleeMap = (s.callees deviceId).calleeMap)
    (ho : o.service = s.caller) : (s.afterRequests deviceId delivery o).Inv := by
  refine h.congr (fun d => ?_) (congrArg _ ho) rfl rfl
  rw [calleeMap_afterRequests hm]
  split
  · rename_i hd; rw [hd]
  · rfl

theorem Inv.started (h : s.Inv) {deviceId : String} {delivery : Delivery} {o : Outcome}
    {want : Want} {connect : RemoteObject} {callerInfo : CallerInfo} {info : ConnectInfo}
    (hd : want.element.deviceId = deviceId) (hi : info.element = want.element)
    (hm : (sendAll (fun _ => delivery) (s.callees deviceId)
      (requestsTo deviceId o.effects)).calleeMap =
        (s.callees deviceId).calleeMap.insertIfNew connect info)
    (ho : o.service = (s.caller.saveCallerComponent want connect callerInfo).1)
    (hsafe : ∀ info, (s.callees deviceId).calleeMap[connect]? = some info →
      info.element = want.element) :
    Inv { s.afterRequests deviceId delivery o with
      held := (connect, want.element) :: s.held } := by
  have hmap := calleeMap_afterRequests hm
  -- the entry of `connect`, old or new, is of the element
  have hentry : ∃ info', ((s.callees deviceId).calleeMap.insertIfNew connect info)[connect]? =
      some info' ∧ info'.element = want.element := by
    rw [ExtTreeMap.getElem?_insertIfNew]
    by_cases hn : connect ∈ (s.callees deviceId).calleeMap
    · obtain ⟨info', hk⟩ := Option.isSome_iff_exists.mp
        (ExtTreeMap.isSome_getElem?_iff_mem.mpr hn)
      exact ⟨info', by rw [if_neg fun h => h.2 hn, hk], hsafe info' hk⟩
    · exact ⟨info, by simp [hn], hi⟩
  have hother : ∀ c, connect ≠ c →
      ((s.callees deviceId).calleeMap.insertIfNew connect info)[c]? =
        (s.callees deviceId).calleeMap[c]? :=
    fun _ hc => ExtTreeMap.getElem?_insertIfNew_of_ne hc
  refine ⟨fun d c info' hk => ?_, fun c e he => ?_, fun c e he hn => ?_⟩
  · rw [hmap] at hk
    split at hk
    · rename_i hd'
      subst hd'
      by_cases hc : connect = c
      · subst hc
        obtain ⟨info'', hk', hi'⟩ := hentry
        obtain rfl := Option.some.inj (hk'.symm.trans hk)
        exact ⟨hi' ▸ List.mem_cons_self, hi' ▸ hd⟩
      · rw [hother c hc] at hk
        exact (h.entry d c info' hk).imp_left (List.mem_cons_of_mem _)
    · exact (h.entry d c info' hk).imp_left (List.mem_cons_of_mem _)
  · rw [hmap]
    by_cases hc : connect = c ∧ e.deviceId = deviceId
    · obtain ⟨rfl, hd'⟩ := hc
      obtain ⟨info', hk', hi'⟩ := hentry
      refine ⟨info', by rw [if_pos hd', hk'], hi'.trans ?_⟩
      rcases List.mem_cons.mp he with he | he
      · exact (congrArg Prod.snd he).symm
      · -- another element of the device cannot be held: there is one entry for both
        obtain ⟨info'', hk, rfl⟩ := h.callee connect e he
        exact (hsafe info'' (hd' ▸ hk)).symm
    · -- any other holding is an old one, and its entry is not touched
      have he : (c, e) ∈ s.held := by
        refine (List.mem_cons.mp he).resolve_left fun he => hc ?_
        cases he
        exact ⟨rfl, hd⟩
      obtain ⟨info', hk, hi'⟩ := h.callee c e he
      refine ⟨info', ?_, hi'⟩
      split
      · rename_i hd'
        rw [hother c fun hc' => hc ⟨hc', hd'⟩, ← hd']
        exact hk
      · exact hk
  · show (o.service).TracksCallee c e
    rw [ho]
    rcases List.mem_cons.mp he with he | he
    · cases he
      exact tracksCallee_saveCallerComponent ..
    · exact (h.caller c e he hn).saveCallerComponent ..

/-- The entry of `connect` is erased, and what it holds is released. -/
theorem Inv.released (h : s.Inv) {delivery : Delivery} {o : Outcome} {connect : RemoteObject}
    {element : ElementName}
    (hm : (sendAll (fun _ => delivery) (s.callees element.deviceId)
      (requestsTo element.deviceId o.effects)).calleeMap =
        (s.callees element.deviceId).calleeMap.erase connect)
    (ho : o.service = (s.caller.removeCallerComponent connect).1)
    (honly : ∀ e, (connect, e) ∈ s.held → e = element) :
    Inv { s.afterRequests element.deviceId delivery o with
      held := s.held.filter fun h => h ≠ (connect, element) } := by
  have hheld : ∀ c e, (c, e) ∈ s.held.filter (fun h => h ≠ (connect, element)) →
      (c, e) ∈ s.held ∧ connect ≠ c := by
    intro c e he
    obtain ⟨he, hne⟩ := List.mem_filter.mp he
    refine ⟨he, ?_⟩
    rintro rfl
    exact of_decide_eq_true hne (by rw [honly e he])
  have hmap := calleeMap_afterRequests hm
  refine ⟨fun d c info hk => ?_, fun c e he => ?_, fun c e he hn => ?_⟩
  · rw [hmap] at hk
    -- the entries that stay are of another device, or another connect
    have hk' : (s.callees d).calleeMap[c]? = some info ∧
        (d = element.deviceId → connect ≠ c) := by
      split at hk
      · rename_i hd
        rw [ExtTreeMap.getElem?_erase] at hk
        split at hk
        · cases hk
        · rename_i hc
          exact ⟨hd ▸ hk, fun _ he => hc (Std.LawfulEqCmp.compare_eq_iff_eq.mpr he)⟩
      · rename_i hd
        exact ⟨hk, fun he => absurd he hd⟩
    obtain ⟨hk, hc⟩ := hk'
    obtain ⟨he, hd⟩ := h.entry d c info hk
    refine ⟨List.mem_filter.mpr ⟨he, decide_eq_true fun heq => ?_⟩, hd⟩
    cases heq
    exact hc hd.symm rfl
  · obtain ⟨he, hc⟩ := hheld c e he
    obtain ⟨info, hk, hi⟩ := h.callee c e he
    refine ⟨info, ?_, hi⟩
    rw [hmap]
    split
    · rename_i hd
      rw [ExtTreeMap.getElem?_erase_of_ne hc, ← hd]
      exact hk
    · exact hk
  · obtain ⟨he, hc⟩ := hheld c e he
    obtain ⟨l, hl, htracks⟩ := h.caller c e he hn
    refine ⟨l, ?_, htracks⟩
    show o.service.callerMap[c]? = some l
    rw [ho]
    unfold removeCallerComponent
    split
    · exact hl
    · exact (ExtTreeMap.getElem?_erase_of_ne hc).trans hl

theorem Inv.localCallerDied (h : s.Inv) (env : Env) (connect : RemoteObject) :
    Inv { s with
      caller := (s.caller.processCallerDied env (some connect) .caller).1
      dead := connect :: s.dead } := by
  refine ⟨h.entry, h.callee, fun c e he hn => ?_⟩
  obtain ⟨hc, hn⟩ := not_or.mp (mt List.mem_cons.mpr hn)
  obtain ⟨l, hl, htracks⟩ := h.caller c e he hn
  refine ⟨l, ?_, htracks⟩
  simp only [processCallerDied, handleLocalCallerDied]
  split
  · exact hl
  · exact (ExtTreeMap.getElem?_erase_of_ne (Ne.symm hc)).trans hl

theorem Inv.callerDied (h : s.Inv) (env : Env) (deviceId : String) {connect : RemoteObject} :
    Inv { s with
      callees := Function.update s.callees deviceId
        ((s.callees deviceId).processCallerDied env (some connect) .callee).1
      held := s.held.filter fun h => ¬(h.1 = connect ∧ h.2.deviceId = deviceId) } := by
  have hmap : ∀ d c, (Function.update s.callees deviceId
      ((s.callees deviceId).processCallerDied env (some connect) .callee).1 d).calleeMap[c]? =
        if d = deviceId ∧ connect = c then none else (s.callees d).calleeMap[c]? := by
    intro d c
    rw [Function.update_apply]
    by_cases hd : d = deviceId
    · subst hd
      simp only [if_true, true_and]
      exact CalleeDevice.eraseCallee_calleeMap env _ connect c
    · rw [if_neg hd, if_neg fun h => hd h.1]
  refine ⟨fun d c info hk => ?_, fun c e he => ?_, fun c e he hn => ?_⟩
  · rw [hmap] at hk
    split at hk
    · cases hk
    · rename_i hne
      obtain ⟨he, hd⟩ := h.entry d c info hk
      refine ⟨List.mem_filter.mpr ⟨he, decide_eq_true fun heq => hne ?_⟩, hd⟩
      exact ⟨hd.symm.trans heq.2, heq.1.symm⟩
  · obtain ⟨he, hne⟩ := List.mem_filter.mp he
    obtain ⟨info, hk, hi⟩ := h.callee c e he
    refine ⟨info, ?_, hi⟩
    rw [hmap, if_neg, hk]
    exact fun heq => of_decide_eq_true hne ⟨heq.2.symm, heq.1⟩
  · exact h.caller c e (List.mem_filter.mp he).1 hn

theorem releaseAbility_fst {env : Env} {connect : RemoteObject} {element : ElementName} :
    env.amsConnect = errOk ∧ env.amsReleaseAbility connect = errOk →
      (DistributedSchedAdapter.releaseAbility env connect element).1 = errOk := by
  rintro ⟨ha, hr⟩
  simp [DistributedSchedAdapter.releaseAbility, ha, hr]

theorem Inv.apply_inv (h : s.Inv) {step : CalledStep} {s' : CalledAbilities}
    (hsafe : step.Safe s) (hs : step.apply s = some s') : s'.Inv := by
  cases step with
  | startRemoteAbilityByCall env delivery want connect callerUid callerPid accessToken =>
      simp only [CalledStep.apply] at hs
      split at hs
      · cases hs
      obtain rfl := Option.some.inj hs
      rcases startRemoteAbilityByCall_cases (s.answering env want.element.deviceId delivery)
        s.caller want connect callerUid callerPid accessToken with
        ⟨hr, ho, hq⟩ | ⟨callerInfo, accountInfo, hreq, hr, hq, ho⟩
      · rw [if_neg hr]
        exact h.failed (by rw [hq]; rfl) ho
      · rcases send_start delivery (s.callees want.element.deviceId) want connect callerInfo
          accountInfo with
          ⟨hn, hm⟩ | ⟨hok, envB, elapsedTime, rfl, hu, hstarts, callbackWrapper, hm⟩
        · rw [if_neg (hr ▸ hn)]
          exact h.failed (by rw [hq]; exact hm) (ho.trans (if_neg hn))
        · rw [if_pos (hr.trans hok)]
          exact h.started rfl rfl (by rw [hq]; exact hm) (ho.trans (if_pos hok))
            (hsafe callerInfo accountInfo envB elapsedTime hreq rfl hu hstarts)
  | releaseRemoteAbility env delivery connect element =>
      simp only [CalledStep.apply] at hs
      split at hs
      · cases hs
      obtain rfl := Option.some.inj hs
      rcases releaseRemoteAbility_cases (s.answering env element.deviceId delivery) s.caller
        connect element with
        ⟨-, hr, ho, hq⟩ | ⟨sourceDeviceId, hreq, hr, hq, ho⟩
      · rw [if_neg hr]
        exact h.failed (by rw [hq]; rfl) ho
      · rcases send_release delivery (s.callees element.deviceId) connect element
          sourceDeviceId with
          ⟨hn, hm⟩ | ⟨envB, elapsedTime, info, rfl, hu, hl, hk, hm, hres⟩
        · rw [if_neg (hr ▸ hn)]
          exact h.failed (by rw [hq]; exact hm) (ho.trans (if_neg hn))
        · obtain ⟨hams, honly⟩ := hsafe sourceDeviceId envB elapsedTime hreq rfl hu hl info hk
          have hok := hres.trans (releaseAbility_fst hams)
          rw [if_pos (hr.trans hok)]
          exact h.released (by rw [hq]; exact hm) (ho.trans (if_pos hok)) honly
  | localCallerDied env connect =>
      simp only [CalledStep.apply] at hs
      split at hs
      · cases hs
      · cases hs
        exact h.localCallerDied env connect
  | callerDied env deviceId connect =>
      simp only [CalledStep.apply] at hs
      split at hs
      · cases hs
        exact h.callerDied env deviceId
      · cases hs

/-- The release of an entry, where the ability manager succeeds. -/
theorem release_ok {env envB : Env} {elapsedTime : Int} {c : RemoteObject} {e : ElementName}
    {sourceDeviceId : String} {info : ConnectInfo}
    (hk : (s.callees e.deviceId).calleeMap[c]? = some info)
    (hreq : releaseRequest env e = some sourceDeviceId) (hu : envB.callingUid < hidHap)
    (hl : (envB.checkedLocalIdForRelease sourceDeviceId).isSome = true)
    (hams : envB.amsConnect = errOk ∧ envB.amsReleaseAbility info.callbackWrapper = errOk) :
    (s.caller.releaseRemoteAbility (s.answering env e.deviceId (.executed envB elapsedTime))
      (some c) e).result = errOk := by
  rcases releaseRemoteAbility_cases (s.answering env e.deviceId (.executed envB elapsedTime))
    s.caller c e with ⟨hn, -⟩ | ⟨sourceDeviceId', hreq', hr, -⟩
  · have hreq : releaseRequest (s.answering env e.deviceId (.executed envB elapsedTime)) e =
        some sourceDeviceId := hreq
    rw [hn] at hreq
    cases hreq
  · obtain rfl : sourceDeviceId = sourceDeviceId' := Option.some.inj (hreq.symm.trans hreq')
    obtain ⟨localDeviceId, hl⟩ := Option.isSome_iff_exists.mp hl
    rw [hr]
    simp only [answering, Delivery.send, onRemoteRequest, if_neg (Int.not_le.mpr hu),
      releaseAbilityFromRemote, CallerInfo.ofRelease, hl, hk]
    exact releaseAbility_fst hams

end CalledAbilities

/-- **Releasing one called ability keeps the others.**  In a run of safe steps, an element that
is held is in the session of its device while its connect object lives, and in the table of the
callee's device; a release of it that is executed succeeds; and the death of the caller releases
it. -/
theorem called_abilities_kept {s : CalledAbilities}
    (h : Runs.Reach CalledStep.apply CalledStep.Safe {} s) {c : RemoteObject} {e : ElementName}
    (he : (c, e) ∈ s.held) :
    (c ∉ s.dead → s.caller.TracksCallee c e) ∧
    ∃ info, (s.callees e.deviceId).calleeMap[c]? = some info ∧ info.element = e ∧
      (∀ env envB elapsedTime sourceDeviceId, releaseRequest env e = some sourceDeviceId →
        envB.callingUid < hidHap →
        (envB.checkedLocalIdForRelease sourceDeviceId).isSome = true →
        envB.amsConnect = errOk ∧ envB.amsReleaseAbility info.callbackWrapper = errOk →
          (s.caller.releaseRemoteAbility
            (s.answering env e.deviceId (.executed envB elapsedTime)) (some c) e).result =
              errOk) ∧
      ∀ envB, CalleeDevice.releases
          ((s.callees e.deviceId).processCallerDied envB (some c) .callee).2 =
        if envB.amsConnect = errOk then [CalleeDevice.released info] else [] := by
  have hinv : s.Inv :=
    h.invariant CalledAbilities.init_inv fun s step s' hi hsafe hs => hi.apply_inv hsafe hs
  obtain ⟨info, hk, hi⟩ := hinv.callee c e he
  refine ⟨hinv.caller c e he, info, hk, hi, ?_, fun envB => ?_⟩
  · intro env envB elapsedTime sourceDeviceId hreq hu hl hams
    exact CalledAbilities.release_ok hk hreq hu hl hams
  · exact CalleeDevice.releases_processCallerDied envB hk

/-- An element of the bundle "app". -/
def appOn (deviceId : String) : ElementName := { deviceId := deviceId, bundleName := "app" }

/-- A start on a device through a connect object. -/
def startOn (connect : RemoteObject) (deviceId : String) : CalledStep :=
  .startRemoteAbilityByCall (callerEnv true)
    (.executed { calleeEnv with localDeviceId := some deviceId } 0)
    { element := appOn deviceId } connect 10000 1 1

/-- The element on "B" is released. -/
def releaseOnB : CalledStep :=
  .releaseRemoteAbility (callerEnv true) (.executed calleeEnv 0) 7 (appOn "B")

/-- Two connect objects hold an element each, and the release of the first leaves the second. -/
theorem called_abilities_kept_one : ∃ s : CalledAbilities,
    Runs.exec CalledStep.apply {} [startOn 7 "B", startOn 8 "C", releaseOnB] = some s ∧
    s.held = [(8, appOn "C")] ∧ s.caller.callerMap.contains 7 = false ∧
    (s.callees "B").calleeMap.contains 7 = false ∧ s.caller.TracksCallee 8 (appOn "C") ∧
    ∃ info, (s.callees "C").calleeMap[(8 : RemoteObject)]? = some info ∧
      info.element = appOn "C" := by
  obtain ⟨s, hexec, hreach, hheld, hdead, hcaller, hcallee⟩ : ∃ s : CalledAbilities,
      Runs.exec CalledStep.apply {} [startOn 7 "B", startOn 8 "C", releaseOnB] = some s ∧
      Runs.Reach CalledStep.apply CalledStep.Safe {} s ∧ s.held = [(8, appOn "C")] ∧
      s.dead = [] ∧ s.caller.callerMap.contains 7 = false ∧
      (s.callees "B").calleeMap.contains 7 = false := by
    refine ⟨_, rfl, .next (.next (.next .init (l := startOn 7 "B") ?_ rfl) (l := startOn 8 "C") ?_
      rfl) (l := releaseOnB) ?_ rfl, by decide, rfl, by decide, by decide⟩
    · rintro callerInfo accountInfo envB elapsedTime - - - - info hk
      cases hk
    · rintro callerInfo accountInfo envB elapsedTime - - - - info hk
      cases hk
    · rintro sourceDeviceId envB elapsedTime - hb - - info hk
      cases hb
      refine ⟨⟨rfl, rfl⟩, fun e he => ?_⟩
      rcases List.mem_cons.mp he with he | he
      · cases he
      · cases List.mem_singleton.mp he
        rfl
  obtain ⟨htracked, info, hk, he, -⟩ :=
    called_abilities_kept hreach (hheld ▸ List.mem_singleton_self (8, appOn "C"))
  exact ⟨s, hexec, hheld, hcaller, hcallee, htracked (hdead ▸ List.not_mem_nil), info, hk, he⟩

/-- **The release of one element drops the other.**  Elements on devices "B" and "C" are started
through connect object 7, and the one on "B" is released: the one on "C" is held, and
`callerMap_` does not track it. -/
theorem release_drops_other : ∃ s : CalledAbilities,
    Runs.exec CalledStep.apply {} [startOn 7 "B", startOn 7 "C", releaseOnB] = some s ∧
    s.held = [(7, appOn "C")] ∧ s.dead = [] ∧ ¬ s.caller.TracksCallee 7 (appOn "C") := by
  refine ⟨_, rfl, by decide, rfl, ?_⟩
  rintro ⟨l, hl, -⟩
  cases hl

end DistributedSched

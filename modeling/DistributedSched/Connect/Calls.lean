import DistributedSched.Connect.Counter

/-!
# Connect — calls of ConnectRemoteAbility side by side

`distributedLock_` is not held while a call of `ConnectRemoteAbility` waits for the other
device.  A call is three steps: its checks, under the lock for the counter; its requests; and
the mapping, under the lock again.  `ConnectCalls` is the service with any number of calls
between their steps.

* `CallStep.apply_cases`: a step of a call leaves the service, or is the mapping of a call that
  was answered `ERR_OK`.
* `connectRemoteAbility_calls`: the three steps of one call, with nothing in between, are
  `connectRemoteAbility`.
-/

namespace DistributedSched

open Std (ExtTreeMap)
open DistributedSchedService

/-- A call of `ConnectRemoteAbility` that has passed its checks. -/
structure ConnectCall where
  want : Want
  connect : RemoteObject
  callerInfo : CallerInfo
  /-- a request was answered `ERR_OK` -/
  answered : Bool := false

structure ConnectCalls where
  service : DistributedSchedService := {}
  calls : Map Nat ConnectCall := ∅
  nextCall : Nat := 0

inductive CallStep where
  /-- a new call checks its arguments and the counter -/
  | check (env : Env) (want : Want) (connect : Option RemoteObject) (callerUid callerPid : Int)
      (accessToken : Nat)
  /-- the last request of a call comes back -/
  | answer (i : Nat) (result : Int)
  | mapping (i : Nat)

/-- The mapping of a call. -/
def ConnectCall.map (call : ConnectCall) (s : DistributedSchedService) :
    DistributedSchedService × List Effect :=
  s.remoteConnectAbilityMappingLocked (some call.connect) call.callerInfo.sourceDeviceId
    call.want.element.deviceId call.want.element call.callerInfo .harmonyComponent

namespace CallStep

def apply (s : ConnectCalls) : CallStep → Option (ConnectCalls × List Effect)
  | check env want connect callerUid callerPid accessToken =>
    match s.service.connectRequest env want connect callerUid callerPid accessToken with
    | .error _ => some (s, [])
    | .ok (connect, callerInfo, _) =>
      some ({ s with
        calls := s.calls.insert s.nextCall ⟨want, connect, callerInfo, false⟩
        nextCall := s.nextCall + 1 }, [])
  | answer i result =>
    match s.calls[i]? with
    | none => none
    | some call =>
      if call.answered then none
      else if result = errOk then
        some ({ s with calls := s.calls.insert i { call with answered := true } }, [])
      else some ({ s with calls := s.calls.erase i }, [])
  | mapping i =>
    match s.calls[i]? with
    | none => none
    | some call =>
      if call.answered then
        some ({ s with service := (call.map s.service).1, calls := s.calls.erase i },
          (call.map s.service).2)
      else none

/-- What a step of a call does.  A call in progress afterwards was in progress before, or has
just passed the check of the counter. -/
theorem apply_cases {s s' : ConnectCalls} {step : CallStep} {es : List Effect}
    (h : step.apply s = some (s', es)) :
    (∀ (i : Nat) (call : ConnectCall), s'.calls[i]? = some call →
      (∃ old, s.calls[i]? = some old ∧ call.callerInfo = old.callerInfo) ∨
        s.service.checkDistributedConnectLocked call.callerInfo = errOk) ∧
    ((s'.service = s.service ∧ es = [] ∧ ∀ i, step ≠ .mapping i) ∨
      ∃ i call, step = .mapping i ∧ s.calls[i]? = some call ∧ call.answered = true ∧
        (s'.service, es) = call.map s.service) := by
  cases step with
  | check env want connect callerUid callerPid accessToken =>
      simp only [apply] at h
      split at h
      · cases h
        exact ⟨fun i call hk => .inl ⟨call, hk, rfl⟩, .inl ⟨rfl, rfl, nofun⟩⟩
      · rename_i c callerInfo accountInfo hreq
        cases h
        refine ⟨fun i call hk => ?_, .inl ⟨rfl, rfl, nofun⟩⟩
        simp only [ExtTreeMap.getElem?_insert] at hk
        split at hk
        · cases hk
          exact .inr (connectRequest_ok env s.service hreq).2.2.2.2
        · exact .inl ⟨call, hk, rfl⟩
  | answer i result =>
      simp only [apply] at h
      split at h
      · cases h
      rename_i old hold
      split at h
      · cases h
      split at h
      · cases h
        refine ⟨fun j call hk => ?_, .inl ⟨rfl, rfl, nofun⟩⟩
        simp only [ExtTreeMap.getElem?_insert] at hk
        split at hk
        · rename_i hij
          obtain rfl := Std.LawfulEqOrd.eq_of_compare hij
          cases hk
          exact .inl ⟨old, hold, rfl⟩
        · exact .inl ⟨call, hk, rfl⟩
      · cases h
        refine ⟨fun j call hk => ?_, .inl ⟨rfl, rfl, nofun⟩⟩
        simp only [ExtTreeMap.getElem?_erase] at hk
        split at hk
        · cases hk
        · exact .inl ⟨call, hk, rfl⟩
  | mapping i =>
      simp only [apply] at h
      split at h
      · cases h
      rename_i call hcall
      split at h
      · rename_i ha
        cases h
        refine ⟨fun j call hk => ?_, .inr ⟨i, call, rfl, hcall, ha, rfl⟩⟩
        simp only [ExtTreeMap.getElem?_erase] at hk
        split at hk
        · cases hk
        · exact .inl ⟨call, hk, rfl⟩
      · cases h

end CallStep

/-- Every call in progress has a uid that is not negative: it passed the check. -/
def ConnectCalls.UidsChecked (s : ConnectCalls) : Prop :=
  ∀ (i : Nat) (call : ConnectCall), s.calls[i]? = some call → 0 ≤ call.callerInfo.uid

theorem ConnectCalls.UidsChecked.apply {s s' : ConnectCalls} {step : CallStep} {es : List Effect}
    (hu : s.UidsChecked) (h : step.apply s = some (s', es)) : s'.UidsChecked := by
  intro i call hk
  rcases (CallStep.apply_cases h).1 i call hk with ⟨old, hold, he⟩ | hc
  · rw [he]
    exact hu i old hold
  · exact ((checkDistributedConnectLocked_eq_ok _).mp hc).1

/-- One call by itself: its steps do to the service what `connectRemoteAbility` does. -/
theorem connectRemoteAbility_calls {σ : Type} (env : Env) (s : DistributedSchedService)
    (rpc : RemoteCall → σ → σ × RpcReply) (peer : σ) (want : Want) (connect : Option RemoteObject)
    (callerUid callerPid : Int) (accessToken n : Nat) :
    let r := s.connectRemoteAbility env rpc peer want connect callerUid callerPid accessToken
    ∃ steps s', Runs.exec (fun s step => (CallStep.apply s step).map Prod.fst)
        { service := s, nextCall := n } steps = some s' ∧
      s'.service = r.2.service ∧ s'.calls = ∅ := by
  simp only [connectRemoteAbility_eq]
  cases hreq : s.connectRequest env want connect callerUid callerPid accessToken with
  | error code =>
      refine ⟨[.check env want connect callerUid callerPid accessToken], ⟨s, ∅, n⟩, ?_, rfl, rfl⟩
      simp only [Runs.exec, CallStep.apply, hreq, Option.map_some, Option.bind_some]
  | ok request =>
      obtain ⟨c, callerInfo, accountInfo⟩ := request
      simp only
      generalize tryConnectTimes
        (rpc (.connectAbilityFromRemote want (some c) callerInfo accountInfo))
        bindConnectRetryTimes peer remoteDeviceBindAbilityErr = r
      have hnone : ∀ m : Map Nat ConnectCall, (∀ i : Nat, n ≠ i → m[i]? = none) →
          m.erase n = ∅ := by
        intro m hm
        refine ExtTreeMap.ext_getElem? fun i => ?_
        rw [ExtTreeMap.getElem?_erase]
        split
        · simp
        · rename_i hi
          rw [hm i fun h => hi (by rw [h]; exact Std.ReflOrd.compare_self)]
          simp
      by_cases hk : r.2 = errOk
      · refine ⟨[.check env want connect callerUid callerPid accessToken, .answer n errOk,
          .mapping n], ⟨(ConnectCall.map ⟨want, c, callerInfo, true⟩ s).1,
            (((∅ : Map Nat ConnectCall).insert n ⟨want, c, callerInfo, false⟩).insert n
              ⟨want, c, callerInfo, true⟩).erase n, n + 1⟩, ?_, ?_, hnone _ fun i hi => ?_⟩
        · simp [Runs.exec, CallStep.apply, hreq, ConnectCall.map]
        · rw [if_pos hk, ConnectCall.map]
        · simp [hi]
      · refine ⟨[.check env want connect callerUid callerPid accessToken, .answer n r.2],
          ⟨s, ((∅ : Map Nat ConnectCall).insert n ⟨want, c, callerInfo, false⟩).erase n, n + 1⟩,
          ?_, ?_, hnone _ fun i hi => ?_⟩
        · simp [Runs.exec, CallStep.apply, hreq, hk]
        · rw [if_neg hk]
        · simp [hi]

end DistributedSched

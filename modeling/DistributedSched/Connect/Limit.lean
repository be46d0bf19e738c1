import DistributedSched.Connect.Calls

/-!
# Connect — the limit of connections of a uid

`CheckDistributedConnectLocked` refuses a uid with `MAX_DISTRIBUTED_CONNECT_NUM` connections.
The check and the increment of the counter are two critical sections of a call, with requests
to the other device in between, and the mapping does not check again.

* `limit_kept`: the limit is kept as long as a mapping that adds a connect finds the check
  still passed, and a step that keeps it is one of these.  The other operations only decrease
  the counter.
* `limit_exceeded`: calls that pass the check together are all counted, however many there
  are.
-/

namespace DistributedSched

open Std (ExtTreeMap)
open DistributedSchedService

/-! ### Operations that only decrease the counter -/

/-- No uid has more than `MAX_DISTRIBUTED_CONNECT_NUM` connections. -/
def WithinLimit (t : Map Int Nat) : Prop :=
  ∀ (uid : Int) (n : Nat), t[uid]? = some n → n ≤ maxDistributedConnectNum

theorem WithinLimit.decreaseConnectLocked {t : Map Int Nat} (h : WithinLimit t) (uid : Int) :
    WithinLimit (decreaseConnectLocked t uid).1 := by
  simp only [DistributedSchedService.decreaseConnectLocked]
  split
  · exact h
  cases hn : t[uid]? with
  | none => exact h
  | some n =>
      simp only
      intro u k hk
      have hle := h uid n hn
      by_cases hz : (if 0 < n then n - 1 else n) = 0
      · rw [if_pos hz, ExtTreeMap.getElem?_erase] at hk
        split at hk
        · cases hk
        · exact h u k hk
      · rw [if_neg hz, ExtTreeMap.getElem?_insert] at hk
        split at hk
        · obtain rfl := Option.some.inj hk
          split <;> omega
        · exact h u k hk

variable {env : Env} {s : DistributedSchedService}

theorem disconnect_withinLimit (h : WithinLimit s.trackingUidMap)
    (connect : Option RemoteObject) :
    WithinLimit (s.disconnectRemoteAbility env connect).service.trackingUidMap := by
  cases connect with
  | none => exact h
  | some c =>
      simp only [disconnectRemoteAbility]
      cases s.distributedConnectAbilityMap[c]? with
      | none => exact h
      | some l => cases l <;> exact h.decreaseConnectLocked _

theorem deviceOffline_withinLimit (h : WithinLimit s.trackingUidMap) (deviceId : String) :
    WithinLimit (s.processDeviceOffline env deviceId).1.trackingUidMap := by
  simp only [processDeviceOffline]
  cases env.checkedLocalId deviceId with
  | none => exact h
  | some localDeviceId =>
      refine ExtTreeMap.walk_acc
        (f := offlineDistributedConnect env s.distributedComponentListener deviceId)
        (Q := fun acc => WithinLimit acc.1) (s := (s.trackingUidMap, [])) h
        fun acc connect l _ hacc => ?_
      simp only [offlineDistributedConnect]
      split
      · exact hacc.decreaseConnectLocked _
      · exact hacc

theorem connectDied_withinLimit (h : WithinLimit s.trackingUidMap)
    (connect : Option RemoteObject) :
    WithinLimit (s.processConnectDied env connect).1.trackingUidMap := by
  unfold processConnectDied
  split
  · exact h
  · exact h
  · refine ExtTreeMap.walk_acc (Q := fun acc : ConnectDiedAcc => WithinLimit acc.trackingUidMap) h
      fun acc connect l _ hacc => ?_
    cases l with
    | nil => exact hacc
    | cons session l =>
        simp only [connectDied]
        split
        · simp only [(foldl_addProcessDiedNotify _ _ acc).1]
          exact hacc.decreaseConnectLocked _
        · exact hacc

/-- A mapping of a connect that is there leaves the counter; one of a new connect keeps the
limit when the check passes, and then only. -/
theorem mapping_withinLimit {call : ConnectCall} (h : WithinLimit s.trackingUidMap)
    (hu : 0 ≤ call.callerInfo.uid) :
    WithinLimit (call.map s).1.trackingUidMap ↔
      (s.distributedConnectAbilityMap[call.connect]? = none →
        s.checkDistributedConnectLocked call.callerInfo = errOk) := by
  simp only [ConnectCall.map, remoteConnectAbilityMappingLocked]
  cases s.distributedConnectAbilityMap[call.connect]? with
  | some l => exact iff_of_true h fun hn => absurd hn (Option.some_ne_none l)
  | none =>
      simp only [forall_const, checkDistributedConnectLocked_eq_ok, hu, true_and]
      constructor
      · intro hb
        have := hb call.callerInfo.uid _ (by rw [ExtTreeMap.bump, ExtTreeMap.getElem?_insert_self])
        omega
      · intro hlt u n hn
        rw [ExtTreeMap.bump, ExtTreeMap.getElem?_insert] at hn
        split at hn
        · obtain rfl := Option.some.inj hn
          omega
        · exact h u n hn

/-! ### Runs -/

/-- A step of a call, or one of the operations that take connects out of the table. -/
inductive LimitStep where
  | call (step : CallStep)
  | disconnect (env : Env) (connect : Option RemoteObject)
  | deviceOffline (env : Env) (deviceId : String)
  | connectDied (env : Env) (connect : Option RemoteObject)

namespace LimitStep

def apply (s : ConnectCalls) : LimitStep → Option ConnectCalls
  | call step => (step.apply s).map Prod.fst
  | disconnect env connect =>
    some { s with service := (s.service.disconnectRemoteAbility env connect).service }
  | deviceOffline env deviceId =>
    some { s with service := (s.service.processDeviceOffline env deviceId).1 }
  | connectDied env connect =>
    some { s with service := (s.service.processConnectDied env connect).1 }

/-- A mapping that adds a connect would pass the check of its call once more. -/
def Rechecked (s : ConnectCalls) : LimitStep → Prop
  | call (.mapping i) => ∀ call, s.calls[i]? = some call →
    s.service.distributedConnectAbilityMap[call.connect]? = none →
      s.service.checkDistributedConnectLocked call.callerInfo = errOk
  | _ => True

/-- What is kept: the limit, and that calls in progress have passed the check. -/
def Inv (s : ConnectCalls) : Prop := WithinLimit s.service.trackingUidMap ∧ s.UidsChecked

theorem apply_inv {s s' : ConnectCalls} {step : LimitStep} (h : Inv s)
    (hs : step.apply s = some s') :
    s'.UidsChecked ∧ (WithinLimit s'.service.trackingUidMap ↔ step.Rechecked s) := by
  obtain ⟨hw, hu⟩ := h
  cases step with
  | call step =>
      obtain ⟨⟨s₁, es⟩, happly, rfl⟩ := Option.map_eq_some_iff.mp hs
      refine ⟨hu.apply happly, ?_⟩
      rcases (CallStep.apply_cases happly).2 with ⟨he, -, hne⟩ | ⟨i, call, rfl, hk, -, he⟩
      · rw [he]
        refine iff_of_true hw ?_
        cases step with
        | mapping i => exact absurd rfl (hne i)
        | check => trivial
        | answer => trivial
      · have hservice : s₁.service = (call.map s.service).1 := (Prod.ext_iff.mp he).1
        simp only [hservice, mapping_withinLimit hw (hu i call hk)]
        simp only [Rechecked, hk, Option.some.injEq, forall_eq']
  | disconnect env connect =>
      obtain rfl := Option.some.inj hs
      exact ⟨hu, iff_of_true (disconnect_withinLimit hw connect) trivial⟩
  | deviceOffline env deviceId =>
      obtain rfl := Option.some.inj hs
      exact ⟨hu, iff_of_true (deviceOffline_withinLimit hw deviceId) trivial⟩
  | connectDied env connect =>
      obtain rfl := Option.some.inj hs
      exact ⟨hu, iff_of_true (connectDied_withinLimit hw connect) trivial⟩

end LimitStep

/-- **The limit is kept** in every run in which a mapping that adds a connect finds the check
still passed; and in every state of such a run, a step keeps the limit exactly when it is so. -/
theorem limit_kept {s : ConnectCalls}
    (h : Runs.Reach LimitStep.apply LimitStep.Rechecked {} s) :
    WithinLimit s.service.trackingUidMap ∧
      ∀ step s', LimitStep.apply s step = some s' →
        (WithinLimit s'.service.trackingUidMap ↔ step.Rechecked s) := by
  have hinv : LimitStep.Inv s := by
    refine h.invariant ⟨fun uid n hn => ?_, fun i call hk => ?_⟩ fun s step s' hi hok hs => ?_
    · simp at hn
    · simp at hk
    · obtain ⟨hu, hw⟩ := LimitStep.apply_inv hi hs
      exact ⟨hw.mpr hok, hu⟩
  exact ⟨hinv.1, fun step s' hs => (LimitStep.apply_inv hinv hs).2⟩

/-! ### Calls that pass the check together -/

/-- The `i`-th of many connects of one uid, each with its own object. -/
def nthCheck (i : Nat) : CallStep :=
  .check (callerEnv true) { element := { deviceId := "B", bundleName := "app" } } (some i) 20010
    77 9

/-- The call that `nthCheck i` makes of an empty service. -/
def nthCall (i : Nat) (answered : Bool) : ConnectCall :=
  { want := { element := { deviceId := "B", bundleName := "app" } }
    connect := i
    callerInfo :=
      { uid := 20010, pid := 77, callerType := callerTypeHarmony, sourceDeviceId := "A",
        bundleNames := ["app"], accessToken := 9 }
    answered := answered }

/-- Two connects side by side keep the limit, and the disconnect of the first leaves one. -/
theorem limit_kept_once : ∃ s, Runs.exec LimitStep.apply {} [.call (nthCheck 0), .call (nthCheck 1),
      .call (.answer 0 errOk), .call (.answer 1 errOk), .call (.mapping 1), .call (.mapping 0),
      .disconnect (callerEnv true) (some 0)] = some s ∧
    s.service.trackingUidMap.tally 20010 = 1 ∧
    s.service.distributedConnectAbilityMap.toList.map Prod.fst = [1] ∧
    WithinLimit s.service.trackingUidMap := by
  refine ⟨_, rfl, rfl, rfl, ?_⟩
  refine (limit_kept (.next (.next (.next (.next (.next (.next (.next .init
    (l := .call (nthCheck 0)) trivial rfl) (l := .call (nthCheck 1)) trivial rfl)
    (l := .call (.answer 0 errOk)) trivial rfl) (l := .call (.answer 1 errOk)) trivial rfl)
    (l := .call (.mapping 1)) (fun call hc _ => ?_) rfl)
    (l := .call (.mapping 0)) (fun call hc _ => ?_) rfl)
    (l := .disconnect (callerEnv true) (some 0)) trivial rfl)).1
  -- no more than one connect of the uid is counted when either is mapped
  · obtain rfl : nthCall 1 true = call := Option.some.inj hc
    rfl
  · obtain rfl : nthCall 0 true = call := Option.some.inj hc
    rfl

/-- Any number of calls pass the check of an empty counter, and are answered `ERR_OK`. -/
theorem nthCall_answered (n : Nat) : ∃ s, Runs.Reachable LimitStep.apply {} s ∧ s.service = {} ∧
    s.nextCall = n ∧ ∀ i < n, s.calls[i]? = some (nthCall i true) := by
  induction n with
  | zero => exact ⟨{}, .init, rfl, rfl, nofun⟩
  | succ n ih =>
      obtain ⟨⟨service, calls, nextCall⟩, hr, rfl, rfl, hc⟩ := ih
      refine ⟨⟨{}, (calls.insert nextCall (nthCall nextCall false)).insert nextCall
        (nthCall nextCall true), nextCall + 1⟩, ?_, rfl, rfl, fun i hi => ?_⟩
      · refine .next (.next hr trivial (l := .call (nthCheck nextCall)) rfl) trivial
          (l := .call (.answer nextCall errOk)) ?_
        simp only [LimitStep.apply, CallStep.apply, ExtTreeMap.getElem?_insert_self]
        rfl
      · simp only [ExtTreeMap.getElem?_insert, Std.LawfulEqOrd.compare_eq_iff_eq]
        by_cases h : nextCall = i
        · rw [if_pos h, h]
        · rw [if_neg h, if_neg h]
          have hi : i < nextCall + 1 := hi
          exact hc i (show i < nextCall by omega)

/-- Then they are mapped one after the other, and each is counted. -/
theorem nthCall_mapped (n : Nat) : ∀ k ≤ n, ∃ s, Runs.Reachable LimitStep.apply {} s ∧
    s.service.trackingUidMap.tally 20010 = k ∧
    (∀ c : RemoteObject, k ≤ c → s.service.distributedConnectAbilityMap[c]? = none) ∧
    ∀ i, k ≤ i → i < n → s.calls[i]? = some (nthCall i true) := by
  intro k
  induction k with
  | zero =>
      intro _
      obtain ⟨s, hr, hs, -, hc⟩ := nthCall_answered n
      exact ⟨s, hr, by rw [hs]; rfl, by simp [hs], fun i _ hi => hc i hi⟩
  | succ k ih =>
      intro hk
      obtain ⟨s, hr, ht, hm, hc⟩ := ih (by omega)
      have hcall := hc k (Nat.le_refl k) hk
      have hnew : s.service.distributedConnectAbilityMap[(nthCall k true).connect]? = none :=
        hm k (Nat.le_refl k)
      refine ⟨_, .next hr trivial (l := .call (.mapping k)) (by
          simp only [LimitStep.apply, CallStep.apply, hcall]; rfl),
        ?_, fun c hkc => ?_, fun i hi hn => ?_⟩
      · simp only [ConnectCall.map, remoteConnectAbilityMappingLocked, hnew]
        exact (ExtTreeMap.tally_bump ..).trans ((if_pos rfl).trans (congrArg (· + 1) ht))
      · have hne : (nthCall k true).connect ≠ c := show k ≠ c by omega
        simp only [ConnectCall.map, remoteConnectAbilityMappingLocked, hnew,
          ExtTreeMap.getElem?_insert_of_ne hne]
        exact hm c (by omega)
      · have hki : k ≠ i := by omega
        exact (ExtTreeMap.getElem?_erase_of_ne hki).trans (hc i (by omega) hn)

/-- **601 calls of one uid that wait for the other device at the same time**: all of them are
counted, and the limit is passed. -/
theorem limit_exceeded : ∃ s, Runs.Reachable LimitStep.apply {} s ∧
    s.service.trackingUidMap.tally 20010 = maxDistributedConnectNum + 1 ∧
    ¬ WithinLimit s.service.trackingUidMap := by
  obtain ⟨s, hr, ht, -⟩ := nthCall_mapped 601 601 (Nat.le_refl _)
  refine ⟨s, hr, ht, fun hw => ?_⟩
  cases hn : s.service.trackingUidMap[(20010 : Int)]? with
  | none =>
      rw [ExtTreeMap.tally, hn] at ht
      exact absurd ht (by decide)
  | some n =>
      rw [ExtTreeMap.tally, hn, Option.getD_some] at ht
      exact absurd (hw _ n hn) (by rw [ht]; decide)

end DistributedSched

import DistributedSched.Library.Runs
import DistributedSched.Service.Continuation

/-!
# Continuation — which result completes an attempt

An attempt is one call of `ContinueLocalMission`.  Attempts are numbered; the number
of an attempt stands for its callback and is the parameter of the timeout armed for it.  The
operations run one after the other.

* `AttemptStep`: a call of `ContinueLocalMission`, a result message, whoever sends it, a
  timeout event, a local rejection, or a query of the bundle manager that comes back with success.
* `result_completes`: an attempt is completed by its own timeout, by a local rejection of its
  mission or by a result for its mission; and a mission is cleaned by a successful result for it
  only, while an attempt is in progress.
* `late_result_completes`: a result for an earlier attempt, sent by its device, completes the
  current attempt on another device and cleans the mission.
-/

namespace DistributedSched

open Std (ExtTreeMap)
open DSchedContinuation

/-- A continuation that fails on the source device. -/
inductive Rejection where
  /-- `StartContinuation` with a status other than `ERR_OK` -/
  | status (code : Int) (h : code ≠ errOk)
  /-- `OnQueryInstallationFinished` with an error -/
  | installQuery
  /-- a free install that fails -/
  | freeInstall

/-- What `NotifyContinuationCallbackResult` is called with. -/
def Rejection.result : Rejection → Int
  | status code _ => code
  | installQuery => continueRemoteUninstalledCannotFreeinstall
  | freeInstall => continueFreeInstallFailed

structure Attempts where
  continuation : DSchedContinuation Nat Nat := {}
  /-- the number of attempts so far -/
  started : Nat := 0

inductive AttemptStep where
  | continueLocalMission (env : Env) (dstDeviceId : String) (missionId : Int32)
      (wantParams : Map String WantParam)
  /-- `NotifyContinuationResultFromRemote`; the message does not carry its sender -/
  | result (env : Env) (sender : String) (sessionId : Int32) (isSuccess : Bool)
  /-- the pending event at `k` is processed -/
  | timeout (env : Env) (k : Nat)
  | rejected (env : Env) (missionId : Int32) (rejection : Rejection)
  /-- `OnQueryInstallationFinished` with success, while an attempt is in progress on the mission -/
  | canInstall (env : Env) (missionId : Int32) (versionCode : Nat)

/-- What a step leaves behind, with the attempt whose callback is notified. -/
structure AttemptOutcome where
  state : Attempts
  completed : Option Nat := none
  effects : List Effect := []

namespace AttemptStep

/-- `NotifyContinuationCallbackResult`. -/
def finish (s : Attempts) (env : Env) (missionId isSuccess : Int) : AttemptOutcome :=
  let r := s.continuation.notifyContinuationCallbackResult env missionId isSuccess
  ⟨{ s with continuation := r.2.1 }, r.1, r.2.2⟩

def apply (s : Attempts) : AttemptStep → Option AttemptOutcome
  | continueLocalMission env dstDeviceId missionId wantParams =>
    let r := s.continuation.continueLocalMission env s.started dstDeviceId missionId.toInt
      (some s.started) wantParams
    some { state := ⟨r.2.1, s.started + 1⟩, effects := r.2.2 }
  | result env _ sessionId isSuccess =>
    if sessionId.toInt ≤ 0 then some { state := s }
    else some (finish s env sessionId.toInt
      (if isSuccess then 0 else notifyCompleteContinuationFailed))
  | timeout env k =>
    match s.continuation.continuationHandler.pending[k]? with
    | none => none
    | some event =>
      let c := s.continuation
      let s := { s with continuation :=
        { c with continuationHandler := c.continuationHandler.take k } }
      match processEvent event.innerEventId with
      | none => some { state := s }
      | some missionId => some (finish s env missionId continueAbilityTimeoutErr)
  | rejected env missionId rejection => some (finish s env missionId.toInt rejection.result)
  | canInstall env missionId versionCode =>
    -- the timeout that is armed anew is for the attempt in progress
    s.continuation.callbackMap[missionId.toInt]?.map fun attempt =>
      let r := s.continuation.onQueryInstallationFinished env attempt errOk missionId.toInt
        versionCode
      ⟨{ s with continuation := r.2.2.1 }, r.2.1, r.2.2.2⟩

def run (s : Attempts) (step : AttemptStep) : Option Attempts := (step.apply s).map (·.state)

/-- The step may complete the attempt that is in progress on the mission. -/
def Completes (s : Attempts) (missionId : Int) (attempt : Nat) : AttemptStep → Prop
  | continueLocalMission .. => False
  | result _ _ sessionId _ => sessionId.toInt = missionId ∧ 0 < missionId
  | timeout _ k => ∃ event, s.continuation.continuationHandler.pending[k]? = some event ∧
    event.param = attempt ∧ processEvent event.innerEventId = some missionId
  | rejected _ missionId' _ => missionId'.toInt = missionId
  | canInstall .. => False

/-- A query that comes back with an error is the rejection `installQuery`. -/
theorem apply_installQuery (s : Attempts) (env : Env) (missionId : Int32) (param versionCode : Nat)
    {resultCode : Int} (h : resultCode ≠ errOk) :
    let r := s.continuation.onQueryInstallationFinished env param resultCode missionId.toInt
      versionCode
    (rejected env missionId .installQuery).apply s =
      some ⟨{ s with continuation := r.2.2.1 }, r.2.1, r.2.2.2⟩ := by
  rw [onQueryInstallationFinished, if_pos h]
  rfl

end AttemptStep

theorem Rejection.result_ne_zero (r : Rejection) : r.result ≠ 0 := by
  cases r with
  | status code h => exact h
  | installQuery => decide
  | freeInstall => decide

/-! ### What is completed -/

/-- A notification completes the attempt in progress on its mission, and cleans the mission
when the result is a success. -/
theorem finish_completes (s : Attempts) (env : Env) (missionId isSuccess : Int) :
    (∀ attempt, (AttemptStep.finish s env missionId isSuccess).completed = some attempt →
      s.continuation.callbackMap[missionId]? = some attempt) ∧
    ∀ missionId', Effect.ams (.cleanMission missionId') ∈
        (AttemptStep.finish s env missionId isSuccess).effects →
      missionId' = missionId ∧ isSuccess = 0 ∧
        s.continuation.callbackMap[missionId]? ≠ none := by
  simp only [AttemptStep.finish, notifyContinuationCallbackResult]
  split
  · rename_i hp
    refine ⟨fun attempt ha => ?_, fun missionId' hm => ?_⟩
    · simp only [notifyMissionCenterResult, Option.filter_eq_some_iff, popCallback_fst] at ha
      exact ha.1
    · split at hm
      · rename_i hz
        cases List.mem_singleton.mp hm
        exact ⟨rfl, hz, isInContinuationProgress_iff.mp hp⟩
      · cases hm
  · refine ⟨fun attempt ha => ?_, fun missionId' hm => ?_⟩
    · cases ha
    · cases List.mem_singleton.mp hm

theorem continueLocalMission_cleans {env : Env} {c : DSchedContinuation Nat Nat} {param : Nat}
    {dstDeviceId : String} {missionId : Int} {callback : Option Nat}
    {wantParams : Map String WantParam} (missionId' : Int) :
    Effect.ams (.cleanMission missionId') ∉ (c.continueLocalMission env param dstDeviceId missionId
      callback wantParams).2.2 := by
  unfold DSchedContinuation.continueLocalMission
  intro hm
  repeat' split at hm
  all_goals first | cases hm; done | cases List.mem_singleton.mp hm

/-- A notification leaves its mission without an entry and without a timeout. -/
theorem finish_state (s : Attempts) (env : Env) (missionId isSuccess : Int) :
    let c := (AttemptStep.finish s env missionId isSuccess).state.continuation
    c.continuationHandler = s.continuation.continuationHandler.removeEvent missionId ∧
      ∀ k : Int, c.callbackMap[k]? =
        if missionId = k then none else s.continuation.callbackMap[k]? := by
  simp only [AttemptStep.finish, notifyContinuationCallbackResult]
  split
  · simp only [notifyMissionCenterResult, removeTimeOut, popCallback_continuationHandler,
      popCallback_getElem?, true_and, implies_true]
  · rename_i hp
    refine ⟨rfl, fun k => ?_⟩
    split
    · rename_i hk
      exact hk ▸ Decidable.not_not.mp fun hn => hp (isInContinuationProgress_iff.mpr hn)
    · rfl

namespace Attempts

/-- Every timeout that is pending was armed for the attempt in progress on its mission. -/
def Inv (s : Attempts) : Prop :=
  ∀ event ∈ s.continuation.continuationHandler.pending, ∃ missionId : Int32,
    event.innerEventId = toUint32 missionId.toInt ∧
      s.continuation.callbackMap[missionId.toInt]? = some event.param

variable {s : Attempts}

/-- A state with fewer timeouts, none of them for a mission whose attempt has ended. -/
theorem Inv.of_sub (h : s.Inv) {s' : Attempts}
    (hsub : ∀ event ∈ s'.continuation.continuationHandler.pending,
      event ∈ s.continuation.continuationHandler.pending ∧
        ∀ missionId : Int32, event.innerEventId = toUint32 missionId.toInt →
          s'.continuation.callbackMap[missionId.toInt]? =
            s.continuation.callbackMap[missionId.toInt]?) : s'.Inv := by
  intro event he
  obtain ⟨he, hm⟩ := hsub event he
  obtain ⟨missionId, hid, ha⟩ := h event he
  exact ⟨missionId, hid, (hm missionId hid).trans ha⟩

theorem Inv.finish_inv (h : s.Inv) (env : Env) (missionId isSuccess : Int) :
    (AttemptStep.finish s env missionId isSuccess).state.Inv := by
  obtain ⟨hhandler, hmap⟩ := finish_state s env missionId isSuccess
  refine h.of_sub fun event he => ?_
  rw [hhandler] at he
  obtain ⟨he, hid⟩ := List.mem_filter.mp he
  refine ⟨he, fun missionId' hm => ?_⟩
  rw [hmap, if_neg]
  rintro rfl
  exact of_decide_eq_true hid hm

theorem Inv.continueLocalMission_inv (h : s.Inv) (env : Env) (dstDeviceId : String)
    (missionId : Int32) (wantParams : Map String WantParam) (attempt started : Nat) :
    Inv ⟨(s.continuation.continueLocalMission env attempt dstDeviceId missionId.toInt
      (some attempt) wantParams).2.1, started⟩ := by
  unfold DSchedContinuation.continueLocalMission
  split
  · exact h
  rename_i hp
  have hnone : s.continuation.callbackMap[missionId.toInt]? = none :=
    Decidable.not_not.mp fun hn => hp (isInContinuationProgress_iff.mpr hn)
  -- no timeout of the mission is pending, since none of its attempts is in progress
  have hclear : ∀ event ∈ s.continuation.continuationHandler.pending,
      event.innerEventId ≠ toUint32 missionId.toInt := by
    intro event he hid
    obtain ⟨missionId', hid', ha⟩ := h event he
    obtain rfl := toUint32_int32_inj (hid'.symm.trans hid)
    rw [hnone] at ha
    cases ha
  have harmed : ∀ isFreeInstall timeout, Inv ⟨(s.continuation.pushCallback missionId.toInt
      (some attempt) dstDeviceId isFreeInstall).2.setTimeOut env.sendEvent missionId.toInt attempt
        timeout, started⟩ := by
    intro isFreeInstall timeout event he
    rw [pushCallback_of_none hnone] at he ⊢
    have hcases : event ∈ s.continuation.continuationHandler.pending ∨
        event = ⟨toUint32 missionId.toInt, attempt, timeout⟩ := by
      simp only [setTimeOut, EventHandler.sendEvent] at he
      split at he
      · exact (List.mem_append.mp he).imp id List.mem_singleton.mp
      · exact .inl he
    rcases hcases with he | rfl
    · obtain ⟨missionId', hid, ha⟩ := h event he
      refine ⟨missionId', hid, ?_⟩
      have hne : missionId.toInt ≠ missionId'.toInt := fun hm => hclear event he (hm ▸ hid)
      simp only [setTimeOut, ExtTreeMap.getElem?_insert_of_ne hne, ha]
    · exact ⟨missionId, rfl, ExtTreeMap.getElem?_insert_self⟩
  split
  · exact h
  · exact harmed false _
  · dsimp only
    split
    · refine (harmed true checkRemoteInstallAbility).of_sub fun event he => ?_
      simp only [popCallback_continuationHandler] at he
      obtain ⟨he, hid⟩ := List.mem_filter.mp he
      refine ⟨he, fun missionId' hm => ?_⟩
      have hne : missionId.toInt ≠ missionId'.toInt := fun hk =>
        of_decide_eq_true hid (hm.trans (congrArg toUint32 hk.symm))
      rw [popCallback_getElem?, if_neg hne]
      rfl
    · exact harmed true _

/-- The timeout of an attempt is armed anew. -/
theorem Inv.canInstall_inv (h : s.Inv) (env : Env) {missionId : Int32} {attempt : Nat}
    (ha : s.continuation.callbackMap[missionId.toInt]? = some attempt) (versionCode : Nat) :
    Inv { s with continuation := (s.continuation.onQueryInstallationFinished env attempt errOk
      missionId.toInt versionCode).2.2.1 } := by
  intro event he
  have hcases : event ∈ s.continuation.continuationHandler.pending ∨
      event = ⟨toUint32 missionId.toInt, attempt, continuationFreeInstallTimeout⟩ := by
    simp only [onQueryInstallationFinished, if_neg (show ¬ errOk ≠ errOk by decide), setTimeOut,
      EventHandler.sendEvent] at he
    split at he
    · exact (List.mem_append.mp he).imp (fun he => (List.mem_filter.mp he).1) List.mem_singleton.mp
    · exact .inl (List.mem_filter.mp he).1
  rcases hcases with he | rfl
  · exact h event he
  · exact ⟨missionId, rfl, ha⟩

theorem Inv.apply_inv (h : s.Inv) {step : AttemptStep} {o : AttemptOutcome}
    (hs : step.apply s = some o) : o.state.Inv := by
  cases step with
  | continueLocalMission env dstDeviceId missionId wantParams =>
      cases hs
      exact h.continueLocalMission_inv env dstDeviceId missionId wantParams _ _
  | result env sender sessionId isSuccess =>
      simp only [AttemptStep.apply] at hs
      split at hs
      · cases hs; exact h
      · cases hs; exact h.finish_inv env _ _
  | timeout env k =>
      simp only [AttemptStep.apply] at hs
      split at hs
      · cases hs
      have htake : Inv { s with continuation := { s.continuation with
          continuationHandler := s.continuation.continuationHandler.take k } } :=
        h.of_sub fun event he => ⟨List.mem_of_mem_eraseIdx he, fun _ _ => rfl⟩
      split at hs
      · cases hs; exact htake
      · cases hs; exact htake.finish_inv env _ _
  | rejected env missionId rejection =>
      cases hs
      exact h.finish_inv env _ _
  | canInstall env missionId versionCode =>
      obtain ⟨attempt, ha, rfl⟩ := Option.map_eq_some_iff.mp hs
      exact h.canInstall_inv env ha versionCode

end Attempts

/-- **A result completes the attempt that is in progress on its mission.**  In every run, when a
step notifies the callback of an attempt, the attempt is the one in progress on a mission and
the step is the timeout that was armed for that attempt, a local rejection for the mission, or a
result message for the mission.  When a step cleans a mission, an attempt is in progress on it
and the step is a message that reports a success for it. -/
theorem result_completes {s : Attempts} {step : AttemptStep} {o : AttemptOutcome}
    (h : Runs.Reachable AttemptStep.run {} s) (hs : step.apply s = some o) :
    (∀ attempt, o.completed = some attempt → ∃ missionId,
      s.continuation.callbackMap[missionId]? = some attempt ∧
        step.Completes s missionId attempt) ∧
    ∀ missionId, Effect.ams (.cleanMission missionId) ∈ o.effects →
      0 < missionId ∧ s.continuation.callbackMap[missionId]? ≠ none ∧
        ∃ env sender sessionId, sessionId.toInt = missionId ∧
          step = .result env sender sessionId true := by
  have hinv : s.Inv := by
    refine h.invariant (fun event he => nomatch he) fun s step s' hi _ hs => ?_
    obtain ⟨o, ho, rfl⟩ := Option.map_eq_some_iff.mp hs
    exact hi.apply_inv ho
  cases step with
  | continueLocalMission env dstDeviceId missionId wantParams =>
      cases hs
      refine ⟨fun attempt ha => (nomatch ha), fun missionId' hm => ?_⟩
      exact absurd hm (continueLocalMission_cleans missionId')
  | result env sender sessionId isSuccess =>
      simp only [AttemptStep.apply] at hs
      split at hs
      · cases hs
        exact ⟨fun attempt ha => (nomatch ha), fun missionId hm => (nomatch hm)⟩
      rename_i hpos
      cases hs
      obtain ⟨hcompleted, hclean⟩ := finish_completes s env sessionId.toInt
        (if isSuccess then 0 else notifyCompleteContinuationFailed)
      refine ⟨fun attempt ha => ⟨_, hcompleted attempt ha, rfl, Int.not_le.mp hpos⟩,
        fun missionId hm => ?_⟩
      obtain ⟨rfl, hz, hp⟩ := hclean missionId hm
      cases isSuccess with
      | true => exact ⟨Int.not_le.mp hpos, hp, env, sender, sessionId, rfl, rfl⟩
      | false => exact absurd hz (by decide)
  | timeout env k =>
      simp only [AttemptStep.apply] at hs
      split at hs
      · cases hs
      rename_i event hk
      split at hs
      · cases hs
        exact ⟨fun attempt ha => (nomatch ha), fun missionId hm => (nomatch hm)⟩
      rename_i missionId hm
      cases hs
      obtain ⟨hcompleted, hclean⟩ := finish_completes { s with continuation :=
        { s.continuation with
          continuationHandler := s.continuation.continuationHandler.take k } }
        env missionId continueAbilityTimeoutErr
      refine ⟨fun attempt ha => ⟨missionId, hcompleted attempt ha, event, hk, ?_, hm⟩,
        fun missionId' hm => ?_⟩
      · obtain ⟨missionId', hid, hparam⟩ := hinv event (List.mem_of_getElem? hk)
        rw [hid, processEvent, uint32ToInt32_toUint32_int32] at hm
        split at hm
        · cases hm
        · cases hm
          exact Option.some.inj (hparam.symm.trans (hcompleted attempt ha))
      · exact absurd (hclean missionId' hm).2.1 (by decide)
  | rejected env missionId rejection =>
      cases hs
      obtain ⟨hcompleted, hclean⟩ := finish_completes s env missionId.toInt rejection.result
      exact ⟨fun attempt ha => ⟨_, hcompleted attempt ha, rfl⟩,
        fun missionId' hm => absurd (hclean missionId' hm).2.1 rejection.result_ne_zero⟩
  | canInstall env missionId versionCode =>
      obtain ⟨attempt, -, rfl⟩ := Option.map_eq_some_iff.mp hs
      refine ⟨fun attempt' ha => ?_, fun missionId' hm => ?_⟩
      · cases ha
      · cases List.mem_singleton.mp hm

/-! ### A late result -/

/-- The bundle of every mission is installed on the other device. -/
def continueEnv : Env :=
  { amsGetMissionInfo := fun _ => some { element := { bundleName := "app" } }
    bundleManager := true, getDistributedBundleInfo := fun _ _ => some 1 }

/-- An attempt to continue mission 5. -/
def continueFive (dstDeviceId : String) : AttemptStep :=
  .continueLocalMission continueEnv dstDeviceId 5 ∅

/-- The timeout of the first attempt. -/
theorem result_completes_timeout : ∃ s o, AttemptStep.run {} (continueFive "B") = some s ∧
    (AttemptStep.timeout continueEnv 0).apply s = some o ∧ o.completed = some 0 ∧
    ∃ missionId, s.continuation.callbackMap[missionId]? = some 0 ∧
      (AttemptStep.timeout continueEnv 0).Completes s missionId 0 := by
  refine ⟨_, _, rfl, rfl, by decide, ?_⟩
  exact (@result_completes _ (.timeout continueEnv 0) _
    (.next .init (l := continueFive "B") trivial rfl) rfl).1 0 (by decide)

/-- **A result for an earlier attempt completes the current one.**  The first attempt on
mission 5, to device "B", has timed out, and the second, to device "C", is in progress.  Device
"B" now reports a success: the callback of the second attempt is notified, and the mission is
cleaned. -/
theorem late_result_completes : ∃ s o,
    Runs.exec AttemptStep.run {} [continueFive "B", .timeout continueEnv 0, continueFive "C"] =
        some s ∧
      s.continuation.getTargetDevice 5 = "C" ∧ s.continuation.callbackMap[(5 : Int)]? = some 1 ∧
      (AttemptStep.result continueEnv "B" 5 true).apply s = some o ∧ o.completed = some 1 ∧
      Effect.ams (.cleanMission 5) ∈ o.effects := by
  refine ⟨_, _, rfl, ?_, ?_, rfl, ?_, ?_⟩ <;> decide

end DistributedSched

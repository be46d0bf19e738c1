import DistributedSched.Service.Continuation

/-!
# Continuation — what a rejected continuation leaves behind

`ContinueLocalMission` stores the callback, the device, the free-install flag and the timeout
before its last step, which may still fail.

* `LeavesNoTrace`: when the call fails, the table and the pending timeouts are as before.
* `RejectedCleanly`: what the ability manager and the bundle manager must answer for that, and
  what must not be there before.
* `rejected_continuation_leaves_no_trace`: the one holds exactly when the other does.
* `failed_continuation_in_progress`: a mission whose `ContinueAbility` fails stays in progress.
-/

namespace DistributedSched

open Std (ExtTreeMap)

/-! ### The two last steps of the call -/

namespace DSchedContinuation

variable {κ π : Type} {c : DSchedContinuation κ π} {missionId : Int}

/-- Nothing undoes what is stored for a mission whose bundle is installed on the other
device. -/
theorem stored_eq_self_iff (h : c.callbackMap[missionId]? = none) (callback : Option κ)
    (deviceId : String) (sent : Bool) (param : π) (timeout : Int) :
    (c.pushCallback missionId callback deviceId false).2.setTimeOut sent missionId param timeout
      = c ↔ callback = none ∧ sent = false := by
  cases callback with
  | some callback =>
      simp only [pushCallback_of_none h, setTimeOut, reduceCtorEq, false_and, iff_false]
      intro he
      exact ExtTreeMap.insert_ne_self h callback (congrArg DSchedContinuation.callbackMap he)
  | none =>
      cases sent with
      | false => exact iff_of_true rfl ⟨rfl, rfl⟩
      | true =>
          simp only [pushCallback, setTimeOut, Bool.true_eq_false, and_false, iff_false]
          intro he
          exact EventHandler.sendEvent_ne _ _ _ _
            (congrArg DSchedContinuation.continuationHandler he)

/-- The undo of a free install takes back what was stored, and with it what was there before
under the same id. -/
theorem undone_eq_self_iff (h : c.callbackMap[missionId]? = none) (callback : Option κ)
    (deviceId : String) (sent : Bool) (param : π) (timeout : Int) :
    ((((c.pushCallback missionId callback deviceId true).2.setTimeOut sent missionId param
      timeout).removeTimeOut missionId).popCallback missionId).2 = c ↔
      ¬ c.continuationHandler.Armed missionId ∧ (callback ≠ none →
        c.continuationDevices[missionId]? = none ∧ c.freeInstall[missionId]? = none) := by
  obtain ⟨callbackMap, continuationDevices, freeInstall, handler⟩ := c
  cases callback with
  | none =>
      simp only [pushCallback, setTimeOut, removeTimeOut, popCallback, h,
        EventHandler.removeEvent_sendEvent, DSchedContinuation.mk.injEq, true_and,
        EventHandler.removeEvent_eq_self, ne_eq, not_true_eq_false, false_implies, and_true]
  | some callback =>
      simp only [pushCallback_of_none h, setTimeOut, removeTimeOut, popCallback,
        ExtTreeMap.getElem?_insert_self, EventHandler.removeEvent_sendEvent, if_true,
        ExtTreeMap.erase_insert, ExtTreeMap.erase_insertIfNew, DSchedContinuation.mk.injEq,
        ExtTreeMap.erase_eq_self_iff, EventHandler.removeEvent_eq_self]
      constructor
      · rintro ⟨-, hdevices, hfree, harmed⟩
        exact ⟨harmed, fun _ => ⟨hdevices, hfree⟩⟩
      · rintro ⟨harmed, hold⟩
        obtain ⟨hdevices, hfree⟩ := hold (Option.some_ne_none _)
        exact ⟨h, hdevices, hfree, harmed⟩

end DSchedContinuation

/-! ### The property and its condition -/

/-- When the call fails, the four tables of `DSchedContinuation` are as before. -/
def LeavesNoTrace (env : Env) (s : DistributedSchedService) (dstDeviceId : String)
    (missionId : Int) (callback : Option RemoteObject) (wantParams : Map String WantParam) : Prop :=
  let r := s.continueLocalMission env dstDeviceId missionId callback wantParams
  r.result ≠ errOk →
    r.service.dschedContinuation.callbackMap = s.dschedContinuation.callbackMap ∧
    r.service.dschedContinuation.continuationDevices = s.dschedContinuation.continuationDevices ∧
    r.service.dschedContinuation.freeInstall = s.dschedContinuation.freeInstall ∧
    r.service.dschedContinuation.continuationHandler.pending =
      s.dschedContinuation.continuationHandler.pending

/-- The call does not get as far as to store anything, or its last step succeeds, or there is
nothing to take back. -/
structure RejectedCleanly (env : Env) (c : DSchedContinuation RemoteObject Int)
    (dstDeviceId : String) (missionId : Int) (callback : Option RemoteObject)
    (wantParams : Map String WantParam) : Prop where
  /-- the bundle is installed on the other device -/
  installed : c.callbackMap[missionId]? = none →
    ∀ missionWant, env.amsGetMissionInfo missionId = some missionWant →
    ∀ versionCode, env.checkRemoteBundleInfoForContinuation dstDeviceId
      missionWant.element.bundleName = .ok versionCode →
    env.amsContinueAbility = errOk ∨ callback = none ∧ env.sendEvent = false
  /-- it has to be installed there first -/
  freeInstall : c.callbackMap[missionId]? = none →
    ∀ missionWant, env.amsGetMissionInfo missionId = some missionWant →
    ∀ result, env.checkRemoteBundleInfoForContinuation dstDeviceId
      missionWant.element.bundleName = .error result →
    result ≠ continueRemoteUninstalledUnsupportFreeinstall →
    { missionWant with params := wantParams }.getBoolParam "isFreeInstall" false = true →
    env.checkIfRemoteCanInstall
      { missionWant with params := wantParams, element.deviceId := dstDeviceId } missionId = true ∨
    ¬ c.continuationHandler.Armed missionId ∧ (callback ≠ none →
      c.continuationDevices[missionId]? = none ∧ c.freeInstall[missionId]? = none)

section Rejected

variable {env : Env} {s : DistributedSchedService} {c : DSchedContinuation RemoteObject Int}
  {dstDeviceId : String} {missionId : Int} {callback : Option RemoteObject}
  {wantParams : Map String WantParam} {missionWant : Want}

theorem leavesNoTrace_iff :
    LeavesNoTrace env s dstDeviceId missionId callback wantParams ↔
      ((s.dschedContinuation.continueLocalMission env 0 dstDeviceId missionId callback
        wantParams).1 ≠ errOk →
      (s.dschedContinuation.continueLocalMission env 0 dstDeviceId missionId callback
        wantParams).2.1 = s.dschedContinuation) := by
  unfold LeavesNoTrace DistributedSchedService.continueLocalMission
  refine imp_congr_right fun _ => ?_
  constructor
  · rintro ⟨hcallback, hdevices, hfree, hpending⟩
    have hhandler := congrArg EventHandler.mk hpending
    exact DSchedContinuation.mk.injEq .. ▸ ⟨hcallback, hdevices, hfree, hhandler⟩
  · intro he
    dsimp only
    rw [he]
    exact ⟨rfl, rfl, rfl, rfl⟩

/-- The condition where the bundle is installed on the other device. -/
theorem rejectedCleanly_installed (hn : c.callbackMap[missionId]? = none)
    (hm : env.amsGetMissionInfo missionId = some missionWant) {versionCode : Nat}
    (hb : env.checkRemoteBundleInfoForContinuation dstDeviceId missionWant.element.bundleName =
      .ok versionCode) :
    RejectedCleanly env c dstDeviceId missionId callback wantParams ↔
      env.amsContinueAbility = errOk ∨ callback = none ∧ env.sendEvent = false := by
  constructor
  · intro h
    exact h.installed hn _ hm _ hb
  · intro h
    refine ⟨fun _ _ _ _ _ => h, fun _ w hw result hr => ?_⟩
    cases hm.symm.trans hw
    cases hb.symm.trans hr

/-- The condition where it is not. -/
theorem rejectedCleanly_freeInstall (hn : c.callbackMap[missionId]? = none)
    (hm : env.amsGetMissionInfo missionId = some missionWant) {result : Int}
    (hb : env.checkRemoteBundleInfoForContinuation dstDeviceId missionWant.element.bundleName =
      .error result) :
    RejectedCleanly env c dstDeviceId missionId callback wantParams ↔
      (result ≠ continueRemoteUninstalledUnsupportFreeinstall →
      { missionWant with params := wantParams }.getBoolParam "isFreeInstall" false = true →
      env.checkIfRemoteCanInstall
        { missionWant with params := wantParams, element.deviceId := dstDeviceId }
        missionId = true ∨
      ¬ c.continuationHandler.Armed missionId ∧ (callback ≠ none →
        c.continuationDevices[missionId]? = none ∧ c.freeInstall[missionId]? = none)) := by
  constructor
  · intro h
    exact h.freeInstall hn _ hm _ hb
  · intro h
    refine ⟨fun _ w hw version hv => ?_, fun _ w hw answer hr => ?_⟩
    · cases hm.symm.trans hw
      cases hb.symm.trans hv
    · cases hm.symm.trans hw
      cases hb.symm.trans hr
      exact h

/-- A mission that is not known is refused at once. -/
theorem rejectedCleanly_unknown (hm : env.amsGetMissionInfo missionId = none) :
    RejectedCleanly env c dstDeviceId missionId callback wantParams :=
  ⟨fun _ w hw => absurd (hm.symm.trans hw) (Option.some_ne_none w).symm,
    fun _ w hw => absurd (hm.symm.trans hw) (Option.some_ne_none w).symm⟩

end Rejected

/-- **A rejected continuation.**  A call that fails leaves no trace exactly when nothing was
stored, the last step succeeds, or its undo has only its own traces to take back. -/
theorem rejected_continuation_leaves_no_trace (env : Env) (s : DistributedSchedService)
    (dstDeviceId : String) (missionId : Int) (callback : Option RemoteObject)
    (wantParams : Map String WantParam) :
    LeavesNoTrace env s dstDeviceId missionId callback wantParams ↔
      RejectedCleanly env s.dschedContinuation dstDeviceId missionId callback wantParams := by
  rw [leavesNoTrace_iff]
  generalize s.dschedContinuation = c
  by_cases hp : c.isInContinuationProgress missionId = true
  · have hin := DSchedContinuation.isInContinuationProgress_iff.mp hp
    simp only [DSchedContinuation.continueLocalMission, hp, if_true, implies_true, true_iff]
    exact ⟨fun hn => absurd hn hin, fun hn => absurd hn hin⟩
  have hn : c.callbackMap[missionId]? = none := by
    simpa only [DSchedContinuation.isInContinuationProgress_iff, ne_eq, not_not] using hp
  simp only [DSchedContinuation.continueLocalMission, if_neg hp]
  cases hm : env.amsGetMissionInfo missionId with
  | none =>
      simp only [continuationRoute, hm, implies_true, true_iff]
      exact rejectedCleanly_unknown hm
  | some missionWant =>
      cases hb : env.checkRemoteBundleInfoForContinuation dstDeviceId
          missionWant.element.bundleName with
      | ok versionCode =>
          rw [rejectedCleanly_installed hn hm hb]
          simp only [continuationRoute, hm, hb, DSchedContinuation.stored_eq_self_iff hn]
          exact or_iff_not_imp_left.symm
      | error result =>
          rw [rejectedCleanly_freeInstall hn hm hb]
          simp only [continuationRoute, hm, hb]
          by_cases hs : result = continueRemoteUninstalledUnsupportFreeinstall
          · simp only [hs, if_true, implies_true, ne_eq, not_true_eq_false, false_implies]
          cases hf : { missionWant with params := wantParams }.getBoolParam "isFreeInstall"
            false with
          | false => simp [hs]
          | true =>
              cases hi : env.checkIfRemoteCanInstall
                  { missionWant with params := wantParams, element.deviceId := dstDeviceId }
                  missionId with
              | true => simp [hs, hi]
              | false =>
                  have hfail : invalidParametersErr ≠ errOk := by decide
                  simp [hs, hi, hfail, DSchedContinuation.undone_eq_self_iff hn]

/-- **Left in progress.**  `ContinueAbility` fails after the callback and the timeout have been
stored: the mission is in progress, and its timeout is pending. -/
theorem failed_continuation_in_progress :
    ¬ LeavesNoTrace
      { amsGetMissionInfo := fun _ => some { element := { bundleName := "a" } }
        bundleManager := true
        getDistributedBundleInfo := fun _ _ => some 1, amsContinueAbility := 29360128 }
      {} "b" 5 (some 7) ∅ := by
  intro h
  have hmap := (h (by decide)).1
  have hin := congrArg (fun m : Map Int RemoteObject => m[(5 : Int)]?) hmap
  cases hin

end DistributedSched

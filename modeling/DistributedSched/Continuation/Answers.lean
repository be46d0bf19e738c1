import DistributedSched.Continuation.Calls
import DistributedSched.Continuation.Results

/-!
# Continuation — every accepted continuation is answered once

* `Safe`: the steps that lose nothing.  A push finds no entry of its mission, whose id is
  positive; the timeout is sent and the parcel of a result is written; a timeout that is removed
  leaves no entry behind that no call takes care of (`Attended`); and a continuation that cannot
  be installed pops its own callback.
* `Inv`: what these steps keep between any two blocks of any calls.  The callback of a call is in
  one place (`places`), and every entry has a timeout pending or is attended (`watched`).
* `continuations_answered`: in a run of such steps, whenever no call is in progress, the callback
  of every accepted call is registered or has been sent its result once, and every mission that
  is registered has a timeout pending that its handler acts on.
* `concurrent_start_lost`: two calls for one mission are both accepted, and the callback of one
  of them is neither registered nor answered.
-/

namespace DistributedSched

open Std (ExtTreeMap)
open DSchedContinuation

namespace ContinuationCall

/-- The call arms a timeout of the mission, or takes its entry out. -/
def Attends (missionId : Int32) : ContinuationCall → Prop
  | setTimeOut _ missionId' _ => missionId' = missionId
  | popCallback missionId' => missionId' = missionId
  | notify missionId' _ => missionId' = missionId
  | popResult missionId' _ => missionId' = missionId
  | _ => False

/-- The callback whose result is in delivery. -/
def delivering : ContinuationCall → Option Nat
  | removeResultTimeOut _ _ callback => callback
  | sendResult callback _ => some callback
  | _ => none

/-- The callback of the call has not been pushed. -/
def Fresh : ContinuationCall → Prop
  | isInProgress .. => True
  | pushCallback .. => True
  | _ => False

/-- The callback of the call has been pushed, and the call may still be accepted. -/
def Pending : ContinuationCall → Prop
  | setTimeOut .. => True
  | continueAbility .. => True
  | checkInstall .. => True
  | _ => False

end ContinuationCall

namespace Continuations

variable (s : Continuations)

/-- A call is in progress that arms a timeout of the mission or takes its entry out. -/
def Attended (missionId : Int32) : Prop :=
  ∃ (i : Nat) (call : ContinuationCall), s.calls[i]? = some call ∧ call.Attends missionId

/-- The missions that callback `i` is registered for. -/
def registered (i : Nat) : Nat := s.continuation.callbackMap.count fun _ callback => callback = i

def inDelivery (i : Nat) : Nat := s.calls.count fun _ call => call.delivering == some i

/-- The places where callback `i` is. -/
def places (i : Nat) : Nat := s.registered i + s.inDelivery i + s.sent.count i

end Continuations

namespace ContinuationStep

def Safe (s : Continuations) : ContinuationStep → Prop
  | block i env => ∀ call, s.calls[i]? = some call →
    match call with
    | .pushCallback dstDeviceId missionId wantParams =>
      ∀ route, continuationRoute env dstDeviceId missionId.toInt wantParams = .ok route →
        0 < missionId.toInt ∧ s.continuation.callbackMap[missionId.toInt]? = none
    | .setTimeOut .. => env.sendEvent = true
    | .popCallback missionId => ∀ callback,
      s.continuation.callbackMap[missionId.toInt]? = some callback → callback = i
    | .removeResultTimeOut missionId .. =>
      s.continuation.callbackMap[missionId.toInt]? = none ∨ s.Attended missionId
    | .removeOther missionId =>
      s.continuation.callbackMap[missionId.toInt]? = none ∨ s.Attended missionId
    | .sendResult .. => env.parcelWrites = true
    | _ => True
  | _ => True

end ContinuationStep

namespace Continuations

structure Inv (s : Continuations) : Prop where
  started : ∀ (i : Nat) (call : ContinuationCall), s.calls[i]? = some call → i < s.started
  unused : ∀ i, s.started ≤ i → s.places i = 0
  fresh : ∀ (i : Nat) (call : ContinuationCall), s.calls[i]? = some call → call.Fresh →
    s.places i = 0
  pending : ∀ (i : Nat) (call : ContinuationCall), s.calls[i]? = some call → call.Pending →
    s.places i = 1
  accepted : ∀ i ∈ s.accepted, i < s.started ∧ s.calls[i]? = none ∧ s.places i = 1
  positive : ∀ (k : Int) (callback : Nat), s.continuation.callbackMap[k]? = some callback →
    ∃ missionId : Int32, missionId.toInt = k ∧ 0 < k
  watched : ∀ missionId : Int32, s.continuation.callbackMap[missionId.toInt]? ≠ none →
    s.continuation.continuationHandler.Armed missionId.toInt ∨ s.Attended missionId

variable {s : Continuations}

/-! ### Places -/

/-- A call at another block has another result in delivery. -/
theorem inDelivery_after (i : Nat) (b : ContinuationBlock) (j : Nat) :
    (s.after i b).inDelivery j +
        (if s.calls[i]?.any (·.delivering == some j) then 1 else 0) =
      s.inDelivery j + if b.next.any (·.delivering == some j) then 1 else 0 :=
  ExtTreeMap.count_put b.next

theorem places_after (i : Nat) (b : ContinuationBlock) (j : Nat) :
    (s.after i b).places j =
      b.continuation.callbackMap.count (fun _ callback => callback = j) +
        (s.after i b).inDelivery j + (s.sent.count j + b.sent.toList.count j) := by
  simp only [places, registered, after, List.count_append]

/-- A callback that is popped is registered once less. -/
theorem registered_pop (missionId : Int) (j : Nat) :
    (s.continuation.popCallback missionId).2.callbackMap.count (fun _ callback => callback = j) +
        (if s.continuation.callbackMap[missionId]? = some j then 1 else 0) = s.registered j := by
  unfold registered popCallback
  cases hm : s.continuation.callbackMap[missionId]? with
  | none => rfl
  | some callback =>
      rw [ExtTreeMap.count_erase (p := fun _ callback => decide (callback = j)) hm]
      by_cases hj : callback = j <;> simp [hj]

/-! ### A block -/

section blocks

variable {i : Nat} {call : ContinuationCall} {b : ContinuationBlock}

theorem calls_after_eq_some {j : Nat} {call' : ContinuationCall} :
    (s.after i b).calls[j]? = some call' ↔
      i = j ∧ b.next = some call' ∨ i ≠ j ∧ s.calls[j]? = some call' :=
  ExtTreeMap.getElem?_put_eq_some

/-- A call is still attended after a block of another call, or of one that goes on. -/
theorem Attended.after {missionId : Int32} (h : s.Attended missionId)
    (hi : s.calls[i]? = some call)
    (hnext : call.Attends missionId → ∃ call', b.next = some call' ∧ call'.Attends missionId) :
    (s.after i b).Attended missionId := by
  obtain ⟨j, call', hj, ha⟩ := h
  by_cases hij : i = j
  · subst hij
    obtain rfl := Option.some.inj (hi.symm.trans hj)
    obtain ⟨call', hn, ha⟩ := hnext ha
    exact ⟨i, call', calls_after_eq_some.mpr (.inl ⟨rfl, hn⟩), ha⟩
  · exact ⟨j, call', calls_after_eq_some.mpr (.inr ⟨hij, hj⟩), ha⟩

theorem attended_next {missionId : Int32} {call' : ContinuationCall} (hn : b.next = some call')
    (ha : call'.Attends missionId) : (s.after i b).Attended missionId :=
  ⟨i, call', calls_after_eq_some.mpr (.inl ⟨rfl, hn⟩), ha⟩

/-- What a block of call `i` has to do for its own callback, and for the table. -/
theorem Inv.after_inv (h : s.Inv) (hi : s.calls[i]? = some call)
    (hreturned : b.returned = some errOk → b.next = none ∧ (s.after i b).places i = 1)
    (hplaces : ∀ j, j ≠ i → (s.after i b).places j = s.places j)
    (hfresh : ∀ call', b.next = some call' → call'.Fresh → (s.after i b).places i = 0)
    (hpending : ∀ call', b.next = some call' → call'.Pending → (s.after i b).places i = 1)
    (hpositive : ∀ (k : Int) (callback : Nat), b.continuation.callbackMap[k]? = some callback →
      ∃ missionId : Int32, missionId.toInt = k ∧ 0 < k)
    (hwatched : ∀ missionId : Int32, b.continuation.callbackMap[missionId.toInt]? ≠ none →
      b.continuation.continuationHandler.Armed missionId.toInt ∨
        (s.after i b).Attended missionId) :
    (s.after i b).Inv where
  started j call' hj := by
    rcases calls_after_eq_some.mp hj with ⟨rfl, -⟩ | ⟨-, hj⟩
    · exact h.started i call hi
    · exact h.started j call' hj
  unused j hj := by
    have hlt := h.started i call hi
    have hj : s.started ≤ j := hj
    rw [hplaces j (by omega), h.unused j hj]
  fresh j call' hj hf := by
    rcases calls_after_eq_some.mp hj with ⟨rfl, hn⟩ | ⟨hij, hj⟩
    · exact hfresh call' hn hf
    · rw [hplaces j (Ne.symm hij), h.fresh j call' hj hf]
  pending j call' hj hp := by
    rcases calls_after_eq_some.mp hj with ⟨rfl, hn⟩ | ⟨hij, hj⟩
    · exact hpending call' hn hp
    · rw [hplaces j (Ne.symm hij), h.pending j call' hj hp]
  accepted j hj := by
    have hold : j ∈ s.accepted →
        j < s.started ∧ (s.calls.put i b.next)[j]? = none ∧ (s.after i b).places j = 1 := by
      intro hj
      obtain ⟨hlt, hnone, hone⟩ := h.accepted j hj
      have hij : i ≠ j := by
        rintro rfl
        rw [hi] at hnone
        cases hnone
      exact ⟨hlt, by rw [ExtTreeMap.getElem?_put_of_ne _ hij, hnone],
        by rw [hplaces j (Ne.symm hij), hone]⟩
    simp only [after] at hj
    split at hj
    · rename_i hr
      obtain ⟨hn, hone⟩ := hreturned hr
      rcases List.mem_append.mp hj with hj | hj
      · exact hold hj
      · cases List.mem_singleton.mp hj
        exact ⟨h.started i call hi, by simp only [after, hn, ExtTreeMap.getElem?_put_self], hone⟩
    · exact hold hj
  positive := hpositive
  watched := hwatched

/-- The results in delivery, when neither the call nor its next block has one. -/
theorem inDelivery_quiet (hi : s.calls[i]? = some call) (hdelivering : call.delivering = none)
    (hnext : ∀ call', b.next = some call' → call'.delivering = none) (j : Nat) :
    (s.after i b).inDelivery j = s.inDelivery j := by
  refine ExtTreeMap.count_put_of_false (fun c hc => ?_) fun c hc => ?_
  · obtain rfl := Option.some.inj (hi.symm.trans hc)
    simp [hdelivering]
  · simp [hnext c hc]

/-- A block that leaves the callbacks where they are. -/
theorem Inv.quiet_inv (h : s.Inv) (hi : s.calls[i]? = some call)
    (hdelivering : call.delivering = none)
    (hnext : ∀ call', b.next = some call' → call'.delivering = none ∧
      (call'.Fresh → call.Fresh) ∧ (call'.Pending → call.Pending))
    (hmap : b.continuation.callbackMap = s.continuation.callbackMap) (hsent : b.sent = none)
    (hreturned : b.returned = some errOk → b.next = none ∧ call.Pending)
    (hwatched : ∀ missionId : Int32, s.continuation.callbackMap[missionId.toInt]? ≠ none →
      s.continuation.continuationHandler.Armed missionId.toInt ∨ s.Attended missionId →
      b.continuation.continuationHandler.Armed missionId.toInt ∨
        (s.after i b).Attended missionId) :
    (s.after i b).Inv := by
  have hplaces : ∀ j, (s.after i b).places j = s.places j := by
    intro j
    rw [places_after, inDelivery_quiet hi hdelivering fun call' hc => (hnext call' hc).1, hmap,
      hsent]
    rfl
  refine h.after_inv hi (fun hr => ?_) (fun j _ => hplaces j) (fun call' hn hf => ?_)
    (fun call' hn hp => ?_) (hmap ▸ h.positive) fun missionId hm => ?_
  · obtain ⟨hn, hp⟩ := hreturned hr
    exact ⟨hn, by rw [hplaces, h.pending i call hi hp]⟩
  · rw [hplaces, h.fresh i call hi ((hnext call' hn).2.1 hf)]
  · rw [hplaces, h.pending i call hi ((hnext call' hn).2.2 hp)]
  · rw [hmap] at hm
    exact hwatched missionId hm (h.watched missionId hm)

/-- A timeout is removed: a mission that is registered then is attended. -/
theorem watched_remove {missionId : Int32} {s' : Continuations}
    (hleft : s.continuation.callbackMap[missionId.toInt]? = none ∨ s'.Attended missionId)
    (hattended : ∀ m, s.Attended m → s'.Attended m) (m : Int32)
    (hm : s.continuation.callbackMap[m.toInt]? ≠ none)
    (hw : s.continuation.continuationHandler.Armed m.toInt ∨ s.Attended m) :
    (s.continuation.removeTimeOut missionId.toInt).continuationHandler.Armed m.toInt ∨
      s'.Attended m := by
  by_cases he : missionId = m
  · subst he
    exact .inr (hleft.resolve_left hm)
  · refine hw.imp (fun ha => ?_) (hattended m)
    exact (EventHandler.armed_removeEvent ..).mpr ⟨ha, fun h => he (toUint32_int32_inj h)⟩

/-- The checks of `ContinueLocalMission` fail with an error code. -/
theorem continuationRoute_ne_ok {env : Env} {dstDeviceId : String} {missionId result : Int}
    {wantParams : Map String WantParam}
    (h : continuationRoute env dstDeviceId missionId wantParams = .error result) :
    result ≠ errOk := by
  unfold continuationRoute at h
  split at h
  · cases h; decide
  simp only at h
  split at h
  · cases h
  split at h
  · rename_i hr
    cases h
    rw [hr]
    decide
  split at h
  · cases h; decide
  · cases h

theorem Inv.push_inv (h : s.Inv) {dstDeviceId : String} {missionId : Int32}
    {wantParams : Map String WantParam}
    (hi : s.calls[i]? = some (.pushCallback dstDeviceId missionId wantParams))
    (hpos : 0 < missionId.toInt) (hnone : s.continuation.callbackMap[missionId.toInt]? = none)
    (route : ContinuationRoute) :
    (s.after i
      { continuation := (s.continuation.pushCallback missionId.toInt (some i) dstDeviceId
          route.isFreeInstall).2
        next := some (.setTimeOut dstDeviceId missionId route) }).Inv := by
  rw [pushCallback_of_none hnone]
  have hplaces : ∀ j, (s.after i
      { continuation := { s.continuation with
          callbackMap := s.continuation.callbackMap.insert missionId.toInt i
          continuationDevices :=
            s.continuation.continuationDevices.insertIfNew missionId.toInt dstDeviceId
          freeInstall := if route.isFreeInstall then
              s.continuation.freeInstall.insert missionId.toInt route.isFreeInstall
            else s.continuation.freeInstall }
        next := some (.setTimeOut dstDeviceId missionId route) }).places j =
      s.places j + if i = j then 1 else 0 := by
    intro j
    rw [places_after, inDelivery_quiet hi rfl fun call' hc => by cases hc; rfl]
    simp only [ExtTreeMap.count_insert_new hnone, decide_eq_true_eq, Option.toList_none,
      List.count_nil, places, registered]
    omega
  have hi₀ := h.fresh i _ hi trivial
  refine h.after_inv hi (fun hr => (nomatch hr)) (fun j hj => ?_) (fun call' hn hf => ?_)
    (fun call' hn hp => ?_) (fun k callback hk => ?_) fun m hm => ?_
  · rw [hplaces, if_neg (Ne.symm hj), Nat.add_zero]
  · cases hn; exact hf.elim
  · rw [hplaces, if_pos rfl, hi₀]
  · simp only [ExtTreeMap.getElem?_insert, Std.LawfulEqCmp.compare_eq_iff_eq] at hk
    split at hk
    · rename_i he; exact ⟨missionId, he, he ▸ hpos⟩
    · exact h.positive k callback hk
  · by_cases he : missionId = m
    · exact .inr (attended_next rfl he)
    · have hne : missionId.toInt ≠ m.toInt := fun h => he (Int32.toInt_inj.mp h)
      simp only [ExtTreeMap.getElem?_insert_of_ne hne] at hm
      exact (h.watched m hm).imp_right fun ha => ha.after hi False.elim

/-! #### An entry is taken out -/

theorem Inv.positive_pop (h : s.Inv) (missionId : Int) (k : Int) (callback : Nat)
    (hk : (s.continuation.popCallback missionId).2.callbackMap[k]? = some callback) :
    ∃ missionId : Int32, missionId.toInt = k ∧ 0 < k := by
  rw [popCallback_getElem?] at hk
  split at hk
  · cases hk
  · exact h.positive k callback hk

theorem Inv.watched_pop (h : s.Inv) {missionId : Int32} {s' : Continuations}
    (hattended : ∀ m, missionId ≠ m → s.Attended m → s'.Attended m) (m : Int32)
    (hm : (s.continuation.popCallback missionId.toInt).2.callbackMap[m.toInt]? ≠ none) :
    (s.continuation.popCallback missionId.toInt).2.continuationHandler.Armed m.toInt ∨
      s'.Attended m := by
  rw [popCallback_getElem?] at hm
  split at hm
  · exact absurd rfl hm
  · rename_i hne
    rw [popCallback_continuationHandler]
    exact (h.watched m hm).imp_right (hattended m fun he => hne (congrArg _ he))

/-- A continuation that cannot be installed pops its own callback. -/
theorem Inv.popCallback_inv (h : s.Inv) {missionId : Int32}
    (hi : s.calls[i]? = some (.popCallback missionId))
    (hown : ∀ callback, s.continuation.callbackMap[missionId.toInt]? = some callback →
      callback = i) :
    (s.after i
      { continuation := (s.continuation.popCallback missionId.toInt).2
        returned := some invalidParametersErr }).Inv := by
  refine h.after_inv hi (fun hr => ?_) (fun j hj => ?_) (fun call' hn => (nomatch hn))
    (fun call' hn => (nomatch hn)) (h.positive_pop _) (h.watched_pop fun m hne ha => ?_)
  · exact absurd (Option.some.inj hr) (by decide)
  · have hpop := registered_pop (s := s) missionId.toInt j
    rw [if_neg fun hm => hj (hown j hm)] at hpop
    rw [places_after, inDelivery_quiet hi rfl fun call' hc => by cases hc]
    simp only [Option.toList_none, List.count_nil, places] at hpop ⊢
    omega
  · exact ha.after hi fun he => absurd he hne

/-- A callback that is popped to be answered is in delivery. -/
theorem Inv.popResult_inv (h : s.Inv) {missionId : Int32} {isSuccess : Int}
    (hi : s.calls[i]? = some (.popResult missionId isSuccess)) (env : Env) :
    (s.after i ((ContinuationCall.popResult missionId isSuccess).block env i
      s.continuation)).Inv := by
  have hplaces : ∀ j, (s.after i ((ContinuationCall.popResult missionId isSuccess).block env i
      s.continuation)).places j = s.places j := by
    intro j
    have hpop := registered_pop (s := s) missionId.toInt j
    have hdelivery := inDelivery_after (s := s) i
      ((ContinuationCall.popResult missionId isSuccess).block env i s.continuation) j
    rw [hi] at hdelivery
    rw [places_after]
    simp only [ContinuationCall.block, ContinuationCall.delivering, popCallback_fst,
      Option.any_some, beq_iff_eq, reduceCtorEq, if_false, Option.toList_none, List.count_nil,
      places] at hdelivery hpop ⊢
    omega
  refine h.after_inv hi (fun hr => by cases hr) (fun j _ => hplaces j) (fun call' hn hf => ?_)
    (fun call' hn hp => ?_) (h.positive_pop _) (h.watched_pop fun m hne ha => ?_)
  · cases hn; exact hf.elim
  · cases hn; exact hp.elim
  · exact ha.after hi fun he => absurd he hne

theorem Inv.removeResultTimeOut_inv (h : s.Inv) {missionId : Int32} {isSuccess : Int}
    {callback : Option Nat}
    (hi : s.calls[i]? = some (.removeResultTimeOut missionId isSuccess callback))
    (hsafe : s.continuation.callbackMap[missionId.toInt]? = none ∨ s.Attended missionId)
    (env : Env) :
    (s.after i ((ContinuationCall.removeResultTimeOut missionId isSuccess callback).block env i
      s.continuation)).Inv := by
  have hplaces : ∀ j, (s.after i ((ContinuationCall.removeResultTimeOut missionId isSuccess
      callback).block env i s.continuation)).places j = s.places j := by
    intro j
    have hdelivery := inDelivery_after (s := s) i
      ((ContinuationCall.removeResultTimeOut missionId isSuccess callback).block env i
        s.continuation) j
    rw [hi] at hdelivery
    rw [places_after]
    cases callback <;>
      simp only [ContinuationCall.block, ContinuationCall.delivering, removeTimeOut,
        Option.map_none, Option.map_some, Option.any_none, Option.any_some, beq_iff_eq,
        reduceCtorEq, Bool.false_eq_true, if_false, Option.toList_none, List.count_nil,
        places, registered] at hdelivery ⊢ <;>
      omega
  refine h.after_inv hi (fun hr => by cases hr) (fun j _ => hplaces j)
    (fun call' hn hf => ?_) (fun call' hn hp => ?_) h.positive fun m hm => ?_
  · obtain ⟨_, -, rfl⟩ := Option.map_eq_some_iff.mp hn
    exact hf.elim
  · obtain ⟨_, -, rfl⟩ := Option.map_eq_some_iff.mp hn
    exact hp.elim
  · exact watched_remove (hsafe.imp_right fun ha => ha.after hi False.elim)
      (fun m ha => ha.after hi False.elim) m hm (h.watched m hm)

/-- A result in delivery is sent. -/
theorem Inv.sendResult_inv (h : s.Inv) {callback : Nat} {isSuccess : Int}
    (hi : s.calls[i]? = some (.sendResult callback isSuccess)) :
    (s.after i { continuation := s.continuation, sent := some callback }).Inv := by
  have hplaces : ∀ j, (s.after i { continuation := s.continuation
                                   sent := some callback }).places j = s.places j := by
    intro j
    have hdelivery := inDelivery_after (s := s) i
      { continuation := s.continuation, sent := some callback } j
    rw [hi] at hdelivery
    rw [places_after]
    simp only [ContinuationCall.delivering, Option.any_none, Option.any_some, beq_iff_eq,
      Option.some.injEq, Bool.false_eq_true, if_false, Option.toList_some,
      List.count_singleton, places, registered] at hdelivery ⊢
    omega
  exact h.after_inv hi (fun hr => by cases hr) (fun j _ => hplaces j)
    (fun call' hn => by cases hn) (fun call' hn => by cases hn) h.positive
    fun m hm => (h.watched m hm).imp_right fun ha => ha.after hi False.elim

theorem Inv.block_inv (h : s.Inv) (hi : s.calls[i]? = some call) {env : Env}
    (hsafe : (ContinuationStep.block i env).Safe s) :
    (s.after i (call.block env i s.continuation)).Inv := by
  replace hsafe := hsafe call hi
  cases call with
  | isInProgress dstDeviceId missionId wantParams =>
      simp only [ContinuationCall.block]
      split
      · refine h.quiet_inv hi rfl (fun call' hc => by cases hc) rfl rfl (fun hr => ?_)
          fun m hm hw => hw.imp_right fun ha => ha.after hi False.elim
        exact absurd (Option.some.inj hr) (by decide)
      · refine h.quiet_inv hi rfl (fun call' hc => ?_) rfl rfl (fun hr => by cases hr)
          fun m hm hw => hw.imp_right fun ha => ha.after hi False.elim
        cases hc
        exact ⟨rfl, fun _ => trivial, False.elim⟩
  | pushCallback dstDeviceId missionId wantParams =>
      simp only [ContinuationCall.block]
      split
      · rename_i result hr
        refine h.quiet_inv hi rfl (fun call' hc => by cases hc) rfl rfl (fun hok => ?_)
          fun m hm hw => hw.imp_right fun ha => ha.after hi False.elim
        exact absurd (Option.some.inj hok) (continuationRoute_ne_ok hr)
      · rename_i route hr
        obtain ⟨hpos, hnone⟩ := hsafe route hr
        exact h.push_inv hi hpos hnone route
  | setTimeOut dstDeviceId missionId route =>
      have hsent : env.sendEvent = true := hsafe
      simp only [ContinuationCall.block, setTimeOut, hsent]
      refine h.quiet_inv hi rfl (fun call' hc => ?_) rfl rfl (fun hr => by cases hr)
        fun m hm hw => ?_
      · cases hc
        split
        · exact ⟨rfl, False.elim, fun _ => trivial⟩
        · exact ⟨rfl, False.elim, fun _ => trivial⟩
      · -- the call attends its mission no more; its event does
        by_cases he : missionId = m
        · subst he
          exact .inl ((EventHandler.armed_sendEvent ..).mpr (.inr rfl))
        · exact hw.imp (fun ha => (EventHandler.armed_sendEvent ..).mpr (.inl ha))
            fun ha => ha.after hi fun hm => absurd hm he
  | continueAbility dstDeviceId missionId versionCode =>
      simp only [ContinuationCall.block]
      exact h.quiet_inv hi rfl (fun call' hc => by cases hc) rfl rfl
        (fun _ => ⟨rfl, trivial⟩) fun m hm hw => hw.imp_right fun ha => ha.after hi False.elim
  | checkInstall missionId want =>
      simp only [ContinuationCall.block]
      split
      · refine h.quiet_inv hi rfl (fun call' hc => ?_) rfl rfl (fun hr => by cases hr)
          fun m hm hw => hw.imp_right fun ha => ha.after hi False.elim
        cases hc
        exact ⟨rfl, False.elim, False.elim⟩
      · exact h.quiet_inv hi rfl (fun call' hc => by cases hc) rfl rfl
          (fun _ => ⟨rfl, trivial⟩) fun m hm hw => hw.imp_right fun ha => ha.after hi False.elim
  | removeTimeOut missionId =>
      simp only [ContinuationCall.block]
      refine h.quiet_inv hi rfl (fun call' hc => ?_) rfl rfl (fun hr => by cases hr)
        (watched_remove (.inr (attended_next rfl rfl)) fun m ha => ha.after hi False.elim)
      cases hc
      exact ⟨rfl, False.elim, False.elim⟩
  | notify missionId isSuccess =>
      simp only [ContinuationCall.block]
      split
      · refine h.quiet_inv hi rfl (fun call' hc => ?_) rfl rfl (fun hr => by cases hr)
          fun m hm hw => hw.imp_right fun ha => ha.after hi fun hm => ⟨_, rfl, hm⟩
        cases hc
        exact ⟨rfl, False.elim, False.elim⟩
      · rename_i hp
        refine h.quiet_inv hi rfl (fun call' hc => ?_) rfl rfl (fun hr => by cases hr)
          fun m hm hw => hw.imp_right fun ha => ha.after hi fun he => ?_
        · cases hc
          exact ⟨rfl, False.elim, False.elim⟩
        · -- the mission that is left has no callback to wait for
          obtain rfl : missionId = m := he
          exact absurd (isInContinuationProgress_iff.mpr hm) hp
  | removeOther missionId =>
      simp only [ContinuationCall.block]
      refine h.quiet_inv hi rfl (fun call' hc => by cases hc) rfl rfl (fun hr => by cases hr)
        (watched_remove ?_ fun m ha => ha.after hi False.elim)
      -- the mission has no callback to wait for, or is attended still
      exact hsafe.imp_right fun ha => ha.after hi False.elim
  | popCallback missionId => exact h.popCallback_inv hi hsafe
  | popResult missionId isSuccess => exact h.popResult_inv hi env
  | removeResultTimeOut missionId isSuccess callback =>
      exact h.removeResultTimeOut_inv hi hsafe env
  | sendResult callback isSuccess =>
      have hw : env.parcelWrites = true := hsafe
      simp only [ContinuationCall.block, hw, if_true]
      exact h.sendResult_inv hi

end blocks

/-! ### Every step -/

/-- A call starts, in a state where it attends the missions that lost their timeout. -/
theorem Inv.start_inv (h : s.Inv) (c : DSchedContinuation Nat Nat) (call : ContinuationCall)
    (hmap : c.callbackMap = s.continuation.callbackMap)
    (hdelivering : call.delivering = none) (hpending : ¬ call.Pending)
    (hwatched : ∀ missionId : Int32, s.continuation.callbackMap[missionId.toInt]? ≠ none →
      s.continuation.continuationHandler.Armed missionId.toInt →
        c.continuationHandler.Armed missionId.toInt ∨ call.Attends missionId) :
    (start { s with continuation := c } call).Inv := by
  have hfree : s.calls[s.started]? = none := by
    refine Option.eq_none_iff_forall_not_mem.mpr fun call' hc => ?_
    exact absurd (h.started _ call' hc) (Nat.lt_irrefl _)
  have hne : ∀ j, j < s.started → s.started ≠ j := fun j hj he => absurd he (by omega)
  have hplaces : ∀ j, (start { s with continuation := c } call).places j = s.places j := by
    intro j
    have hd : (s.calls.put s.started (some call)).count
        (fun _ call => call.delivering == some j) = s.inDelivery j := by
      refine ExtTreeMap.count_put_of_false (fun c hc => ?_) fun c hc => ?_
      · rw [hfree] at hc; cases hc
      · cases hc; simp [hdelivering]
    simp only [places, registered, inDelivery, start, hmap, hd]
  have hcases : ∀ {j : Nat} {call' : ContinuationCall},
      (s.calls.put s.started (some call))[j]? = some call' →
        s.started = j ∧ call = call' ∨ s.started ≠ j ∧ s.calls[j]? = some call' := by
    intro j call' hj
    exact (ExtTreeMap.getElem?_put_eq_some.mp hj).imp_left (And.imp_right Option.some.inj)
  refine ⟨fun j call' hj => ?_, fun j hj => ?_, fun j call' hj hf => ?_, fun j call' hj hp => ?_,
    fun j hj => ?_, fun k callback hk => h.positive k callback (hmap ▸ hk), fun m hm => ?_⟩
  · rcases hcases hj with ⟨rfl, -⟩ | ⟨-, hj⟩
    · exact Nat.lt_succ_self _
    · exact Nat.lt_succ_of_lt (h.started j call' hj)
  · rw [hplaces, h.unused j (Nat.le_of_succ_le hj)]
  · rcases hcases hj with ⟨rfl, -⟩ | ⟨-, hj⟩
    · rw [hplaces, h.unused _ (Nat.le_refl _)]
    · rw [hplaces, h.fresh j call' hj hf]
  · rcases hcases hj with ⟨-, rfl⟩ | ⟨-, hj⟩
    · exact absurd hp hpending
    · rw [hplaces, h.pending j call' hj hp]
  · obtain ⟨hlt, hnone, hone⟩ := h.accepted j hj
    refine ⟨Nat.lt_succ_of_lt hlt, ?_, by rw [hplaces, hone]⟩
    exact (ExtTreeMap.getElem?_put_of_ne _ (hne j hlt) _).trans hnone
  · replace hm : s.continuation.callbackMap[m.toInt]? ≠ none := hmap ▸ hm
    have hself : call.Attends m → Attended (start { s with continuation := c } call) m :=
      fun ha => ⟨s.started, call, ExtTreeMap.getElem?_put_self .., ha⟩
    rcases h.watched m hm with ha | ⟨j, call', hj, ha⟩
    · exact (hwatched m hm ha).imp_right hself
    · refine .inr ⟨j, call', ?_, ha⟩
      exact (ExtTreeMap.getElem?_put_of_ne _ (hne j (h.started j call' hj)) _).trans hj

/-- The handler acts on the timeout of a mission whose id is positive. -/
theorem processEvent_toUint32 {missionId : Int32} (h : 0 < missionId.toInt) :
    processEvent (toUint32 missionId.toInt) = some missionId.toInt := by
  rw [processEvent, uint32ToInt32_toUint32_int32, if_neg (Int.not_le.mpr h)]

theorem Inv.apply_inv (h : s.Inv) {s' : Continuations} {step : ContinuationStep}
    (hsafe : step.Safe s) (hs : step.apply s = some s') : s'.Inv := by
  cases step with
  | continueLocalMission dstDeviceId missionId wantParams =>
      cases hs
      exact h.start_inv s.continuation _ rfl rfl id fun m _ ha => .inl ha
  | notifyContinuationCallbackResult missionId isSuccess =>
      cases hs
      exact h.start_inv s.continuation _ rfl rfl id fun m _ ha => .inl ha
  | timeout k =>
      simp only [ContinuationStep.apply] at hs
      split at hs
      · cases hs
      rename_i event hk
      -- a mission that loses its timeout is the one that the handler is called with
      have htake : ∀ m : Int32, s.continuation.callbackMap[m.toInt]? ≠ none →
          s.continuation.continuationHandler.Armed m.toInt →
          (s.continuation.continuationHandler.take k).Armed m.toInt ∨
            processEvent event.innerEventId = some m.toInt := by
        intro m hm ha
        by_cases he : event.innerEventId = toUint32 m.toInt
        · obtain ⟨callback, hc⟩ := Option.ne_none_iff_exists'.mp hm
          obtain ⟨-, -, hpos⟩ := h.positive _ callback hc
          exact .inr (he ▸ processEvent_toUint32 hpos)
        · exact .inl (EventHandler.armed_take hk ha he)
      split at hs
      · rename_i hn
        cases hs
        refine { h with watched := fun m hm => ?_ }
        refine (h.watched m hm).imp_left fun ha => (htake m hm ha).resolve_right fun hp => ?_
        rw [hn] at hp
        cases hp
      · rename_i missionId hp
        cases hs
        refine h.start_inv
          { s.continuation with
            continuationHandler := s.continuation.continuationHandler.take k }
          _ rfl rfl id fun m hm ha => (htake m hm ha).imp_right fun hm => ?_
        rw [hp] at hm
        show Int32.ofInt missionId = m
        rw [Option.some.inj hm, Int32.ofInt_toInt]
  | block i env =>
      simp only [ContinuationStep.apply] at hs
      split at hs
      · cases hs
      rename_i call hi
      cases hs
      exact h.block_inv hi hsafe

theorem init_inv : Inv {} where
  started i call hi := by simp at hi
  unused i _ := by simp [places, registered, inDelivery]
  fresh i call hi := by simp at hi
  pending i call hi := by simp at hi
  accepted i hi := absurd hi List.not_mem_nil
  positive k callback hk := by simp at hk
  watched m hm := by simp at hm

end Continuations

/-- **Every accepted continuation is answered once.**  In a run of steps that lose nothing,
whenever no call is in progress, the callback of each call that returned `ERR_OK` is registered
and was sent no result, or it is not registered and was sent one; and every mission that is
registered has a timeout pending that its handler acts on. -/
theorem continuations_answered {s : Continuations}
    (h : Runs.Reach ContinuationStep.apply ContinuationStep.Safe {} s) (hidle : s.calls = ∅) :
    (∀ i ∈ s.accepted,
      (∃ missionId : Int, s.continuation.callbackMap[missionId]? = some i) ∧
        s.sent.count i = 0 ∨
      (∀ missionId : Int, s.continuation.callbackMap[missionId]? ≠ some i) ∧
        s.sent.count i = 1) ∧
    ∀ missionId : Int, s.continuation.callbackMap[missionId]? ≠ none →
      ∃ event ∈ s.continuation.continuationHandler.pending,
        processEvent event.innerEventId = some missionId := by
  have hinv : s.Inv :=
    h.invariant Continuations.init_inv fun s step s' hi hsafe hs => hi.apply_inv hsafe hs
  refine ⟨fun i hi => ?_, fun missionId hm => ?_⟩
  · obtain ⟨-, -, hone⟩ := hinv.accepted i hi
    have hd : s.inDelivery i = 0 := by rw [Continuations.inDelivery, hidle, ExtTreeMap.count_empty]
    rw [Continuations.places, hd] at hone
    by_cases hr : ∃ missionId : Int, s.continuation.callbackMap[missionId]? = some i
    · obtain ⟨missionId, hr⟩ := hr
      have hpos : 0 < s.registered i := ExtTreeMap.count_pos hr (by simp)
      exact .inl ⟨⟨missionId, hr⟩, by omega⟩
    · have hzero : s.registered i = 0 := by
        refine ExtTreeMap.count_eq_zero.mpr fun k callback hk => decide_eq_false ?_
        rintro rfl
        exact hr ⟨k, hk⟩
      exact .inr ⟨fun missionId hm => hr ⟨missionId, hm⟩, by omega⟩
  · obtain ⟨callback, hc⟩ := Option.ne_none_iff_exists'.mp hm
    obtain ⟨m, rfl, hpos⟩ := hinv.positive missionId callback hc
    rcases hinv.watched m hm with ⟨event, he, hid⟩ | ⟨j, call, hj, -⟩
    · exact ⟨event, he, hid ▸ Continuations.processEvent_toUint32 hpos⟩
    · rw [hidle] at hj
      simp at hj

/-- Two missions are continued side by side, and the first is answered. -/
def continueTwo : List ContinuationStep :=
  [.continueLocalMission "B" 5 ∅, .continueLocalMission "C" 6 ∅] ++
    (List.replicate 4 [ContinuationStep.block 0 continueEnv, .block 1 continueEnv]).flatten ++
    .notifyContinuationCallbackResult 5 0 :: List.replicate 4 (.block 2 continueEnv)

/-- The first callback was sent its result once, and the second waits for it with a timeout. -/
theorem continuations_answered_one : ∃ s : Continuations,
    Runs.exec ContinuationStep.apply {} continueTwo = some s ∧ s.accepted = [0, 1] ∧
    s.sent.count 0 = 1 ∧ s.sent.count 1 = 0 ∧ s.continuation.callbackMap[(6 : Int)]? = some 1 ∧
    ∃ event ∈ s.continuation.continuationHandler.pending,
      processEvent event.innerEventId = some 6 := by
  obtain ⟨s, hexec, h, hidle, haccepted, hmap⟩ : ∃ s : Continuations,
      Runs.exec ContinuationStep.apply {} continueTwo = some s ∧
      Runs.Reach ContinuationStep.apply ContinuationStep.Safe {} s ∧ s.calls = ∅ ∧
      s.accepted = [0, 1] ∧ s.continuation.callbackMap.toList = [(6, 1)] := by
    refine ⟨_, rfl, .next (.next (.next (.next (.next (.next (.next (.next (.next (.next (.next
      (.next (.next (.next (.next .init (l := .continueLocalMission "B" 5 ∅) trivial rfl)
      (l := .continueLocalMission "C" 6 ∅) trivial rfl) (l := .block 0 continueEnv) ?_ rfl)
      (l := .block 1 continueEnv) ?_ rfl) (l := .block 0 continueEnv) ?_ rfl)
      (l := .block 1 continueEnv) ?_ rfl) (l := .block 0 continueEnv) ?_ rfl)
      (l := .block 1 continueEnv) ?_ rfl) (l := .block 0 continueEnv) ?_ rfl)
      (l := .block 1 continueEnv) ?_ rfl)
      (l := .notifyContinuationCallbackResult 5 0) trivial rfl) (l := .block 2 continueEnv) ?_ rfl)
      (l := .block 2 continueEnv) ?_ rfl) (l := .block 2 continueEnv) ?_ rfl)
      (l := .block 2 continueEnv) ?_ rfl, ExtTreeMap.isEmpty_iff.mp rfl, by decide, by decide⟩
    all_goals
      intro call hi
      cases Option.some.inj hi
    -- each push finds no entry of its mission, and the timeout that is removed is of no entry
    all_goals first | trivial | exact fun _ _ => ⟨by decide, rfl⟩ | exact rfl | exact .inl rfl
  obtain ⟨hanswered, htimeout⟩ := continuations_answered h hidle
  have hentry : ∀ (missionId : Int) (i : Nat), s.continuation.callbackMap[missionId]? = some i →
      (missionId, i) = (6, 1) := fun missionId i hi =>
    List.mem_singleton.mp (hmap ▸ ExtTreeMap.mem_toList_iff_getElem?_eq_some.mpr hi)
  have hsix : s.continuation.callbackMap[(6 : Int)]? = some 1 :=
    ExtTreeMap.mem_toList_iff_getElem?_eq_some.mp (hmap ▸ List.mem_singleton_self _)
  refine ⟨s, hexec, haccepted, ?_, ?_, hsix, htimeout 6 (hsix ▸ Option.some_ne_none 1)⟩
  · rcases hanswered 0 (by simp [haccepted]) with ⟨⟨missionId, hi⟩, -⟩ | ⟨-, hsent⟩
    · cases hentry missionId 0 hi
    · exact hsent
  · rcases hanswered 1 (by simp [haccepted]) with ⟨-, hsent⟩ | ⟨hnone, -⟩
    · exact hsent
    · exact absurd hsix (hnone 6)

/-- The blocks of two calls for mission 5, in turns. -/
def concurrentStart : List ContinuationStep :=
  [.continueLocalMission "B" 5 ∅, .continueLocalMission "B" 5 ∅] ++
    (List.replicate 4 [ContinuationStep.block 0 continueEnv, .block 1 continueEnv]).flatten

/-- **Two starts at once lose a callback.**  Both calls find no continuation in progress, the
second push is refused and goes unnoticed, and both return `ERR_OK`. -/
theorem concurrent_start_lost : ∃ s : Continuations,
    Runs.exec ContinuationStep.apply {} concurrentStart = some s ∧ s.calls = ∅ ∧
      s.accepted = [0, 1] ∧ s.continuation.callbackMap.toList = [(5, 0)] ∧ s.sent = [] := by
  exact ⟨_, rfl, ExtTreeMap.isEmpty_iff.mp rfl, by decide, by decide, rfl⟩

end DistributedSched

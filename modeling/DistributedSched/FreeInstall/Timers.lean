import DistributedSched.Component.DmsCallbackTask
import DistributedSched.Library.Runs

/-!
# FreeInstall — task ids and timers

The functions of `DmsCallbackTask` on their own, called in any order.  Task ids are `int64_t`;
the handler of the timers takes `uint32_t` event ids, so `SendEvent` and `RemoveEvent` see a task
id modulo 2^32, and `ProcessEvent` widens what is left of it.

* `TaskStep`: a call of one of the functions, or a timer whose delay is over.
* `TaskStep.Matches`: what a step owes to the ids of the tasks that are outstanding.
* `TaskStep.Fits`: no event is sent for an id that has more than 32 bits.
* `Timed`: every outstanding task and every pending event has an id of 32 bits.  In runs of steps
  that fit, the steps that match are those that fit.
-/

namespace DistributedSched

open Std (ExtTreeMap)
open Runs (Reach)

/-- One `callbackMapMutex_` block, one `taskMutex_` block, or the `k`-th pending event: it leaves
the queue, and `ProcessEvent` calls the timeout callback with its id. -/
inductive TaskStep where
  | generateTaskId
  | pushCallback (sent : Bool) (taskId : Int) (callback : Option RemoteObject) (deviceId : String)
      (launchType : LaunchType) (want : Want)
  | popCallback (taskId : Int)
  | notifyDeviceOffline (env : Env) (deviceId : String)
  | timeout (k : Nat)

namespace TaskStep

/-- `StartRemoteFreeInstall` pushes an id that `GenerateTaskId` gave it: one below the counter. -/
def apply (t : DmsCallbackTask) : TaskStep → Option DmsCallbackTask
  | generateTaskId => some t.generateTaskId.2
  | pushCallback sent taskId callback deviceId launchType want =>
    if t.currTaskId ≤ taskId then none
    else some (t.pushCallback sent taskId callback deviceId launchType want).2
  | popCallback taskId => some (t.popCallback taskId).2
  | notifyDeviceOffline env deviceId => some (t.notifyDeviceOffline env deviceId).1
  | timeout k =>
    if k < t.dmsCallbackHandler.pending.length then
      some { t with dmsCallbackHandler := t.dmsCallbackHandler.take k }
    else none

/-- `++currTaskId_` does not wrap. -/
def NoWrap (t : DmsCallbackTask) : TaskStep → Prop
  | generateTaskId => t.currTaskId + 1 < 2 ^ 63
  | _ => True

/-- A task whose event is sent has an id of 32 bits. -/
def Fits : TaskStep → Prop
  | pushCallback sent taskId callback _ launchType _ =>
    sent = true → (launchType = .freeInstallStart → callback ≠ none) → taskId < 2 ^ 32
  | _ => True

/-- What the step owes.  A new id is positive and no outstanding task has it.  A push that
succeeds arms one event, which calls back with the id pushed.  A pop leaves the events of every
other task, and a device that goes offline those of every task of another device.  An event that
is over calls back with an id that was generated. -/
def Matches (t : DmsCallbackTask) : TaskStep → Prop
  | generateTaskId => 0 < t.generateTaskId.1 ∧ t.callbackMap[t.generateTaskId.1]? = none
  | pushCallback sent taskId callback deviceId launchType want =>
    (t.pushCallback sent taskId callback deviceId launchType want).1 = errOk →
      ∃ event, (t.pushCallback sent taskId callback deviceId launchType
          want).2.dmsCallbackHandler.pending = t.dmsCallbackHandler.pending ++ [event] ∧
        DmsCallbackTask.processEvent event.innerEventId = some taskId
  | popCallback taskId =>
    ∀ other, other ≠ taskId → t.callbackMap[other]? ≠ none →
      (t.popCallback taskId).2.dmsCallbackHandler.timersOf other =
        t.dmsCallbackHandler.timersOf other
  | notifyDeviceOffline env deviceId =>
    ∀ (other : Int) (item : CallbackTaskItem), t.callbackMap[other]? = some item →
      item.deviceId ≠ deviceId →
      (t.notifyDeviceOffline env deviceId).1.dmsCallbackHandler.timersOf other =
        t.dmsCallbackHandler.timersOf other
  | timeout k =>
    ∀ event, t.dmsCallbackHandler.pending[k]? = some event →
      ∃ taskId, DmsCallbackTask.processEvent event.innerEventId = some taskId ∧
        0 < taskId ∧ taskId < t.currTaskId

end TaskStep

namespace DmsCallbackTask

/-! ### Event ids -/

/-- A positive id of 32 bits comes back from the event that is sent for it. -/
theorem processEvent_toUint32 {taskId : Int} (h₀ : 0 < taskId) :
    processEvent (toUint32 taskId) = some taskId ↔ taskId < 2 ^ 32 := by
  have hmod := Int.emod_nonneg taskId (show (2 ^ 32 : Int) ≠ 0 by decide)
  have hlt := Int.emod_lt_of_pos taskId (show (0 : Int) < 2 ^ 32 by decide)
  have hcast : ((toUint32 taskId : Nat) : Int) = taskId % 2 ^ 32 := Int.toNat_of_nonneg hmod
  rw [processEvent, hcast]
  constructor
  · intro h
    split at h
    · cases h
    · have hid := Option.some.inj h
      omega
  · intro h
    have hid : taskId % 2 ^ 32 = taskId := Int.emod_eq_of_lt (by omega) h
    rw [hid, if_neg (by omega)]

/-! ### The invariant -/

/-- The ids of the tasks and of the events are of 32 bits, positive, and were generated. -/
structure Timed (t : DmsCallbackTask) : Prop where
  counter : 0 < t.currTaskId
  tasks : ∀ (taskId : Int) (item : CallbackTaskItem), t.callbackMap[taskId]? = some item →
    item.taskId = taskId ∧ 0 < taskId ∧ taskId < t.currTaskId ∧ taskId < 2 ^ 32
  events : ∀ event ∈ t.dmsCallbackHandler.pending,
    ∃ taskId, processEvent event.innerEventId = some taskId ∧ 0 < taskId ∧ taskId < t.currTaskId

theorem timed_init : Timed {} where
  counter := by decide
  tasks taskId item hi := by simp at hi
  events event he := absurd he List.not_mem_nil

variable {t : DmsCallbackTask}

/-- Tasks and events go away at most. -/
theorem Timed.shrink (h : t.Timed) {t' : DmsCallbackTask} (hc : t.currTaskId ≤ t'.currTaskId)
    (hm : ∀ (taskId : Int) (item : CallbackTaskItem), t'.callbackMap[taskId]? = some item →
      t.callbackMap[taskId]? = some item)
    (he : ∀ event ∈ t'.dmsCallbackHandler.pending, event ∈ t.dmsCallbackHandler.pending) :
    t'.Timed where
  counter := by have := h.counter; omega
  tasks taskId item hi := by
    obtain ⟨hid, h₀, hlt, hfit⟩ := h.tasks taskId item (hm taskId item hi)
    exact ⟨hid, h₀, by omega, hfit⟩
  events event hev := by
    obtain ⟨taskId, hp, h₀, hlt⟩ := h.events event (he event hev)
    exact ⟨taskId, hp, h₀, by omega⟩

/-- A task is pushed under an id of 32 bits. -/
theorem Timed.push (h : t.Timed) {sent : Bool} {taskId : Int} {callback : Option RemoteObject}
    {deviceId : String} {launchType : LaunchType} {want : Want} (hlt : taskId < t.currTaskId)
    (hfit : TaskStep.Fits (.pushCallback sent taskId callback deviceId launchType want)) :
    (t.pushCallback sent taskId callback deviceId launchType want).2.Timed := by
  cases sent with
  | false =>
      rw [pushCallback_unsent]
      exact h
  | true =>
      obtain hp | ⟨h₀, hcallback, -, hp⟩ :=
        t.pushCallback_cases true taskId callback deviceId launchType want
      · rw [hp]
        exact h
      have hbits : taskId < 2 ^ 32 := hfit rfl hcallback
      rw [hp]
      exact {
        counter := h.counter
        tasks := fun k item hi => by
          rw [ExtTreeMap.getElem?_insert] at hi
          split at hi
          · rename_i hk
            obtain rfl : taskId = k := Std.LawfulEqCmp.eq_of_compare hk
            cases hi
            exact ⟨rfl, h₀, hlt, hbits⟩
          · exact h.tasks k item hi
        events := List.forall_mem_append.mpr ⟨h.events, List.forall_mem_singleton.mpr
          ⟨taskId, (processEvent_toUint32 h₀).mpr hbits, h₀, hlt⟩⟩ }

theorem mem_pending_popCallback {taskId : Int} {event : InnerEvent Int}
    (h : event ∈ (t.popCallback taskId).2.dmsCallbackHandler.pending) :
    event ∈ t.dmsCallbackHandler.pending := by
  unfold popCallback at h
  split at h
  · exact h
  · exact List.mem_of_mem_filter h

theorem mem_pending_notifyDeviceOffline {env : Env} {deviceId : String} {event : InnerEvent Int}
    (h : event ∈ (notifyDeviceOffline env t deviceId).1.dmsCallbackHandler.pending) :
    event ∈ t.dmsCallbackHandler.pending := by
  revert h
  refine ExtTreeMap.walk_acc (Q := fun acc : EventHandler Int × List Effect =>
    event ∈ acc.1.pending → event ∈ t.dmsCallbackHandler.pending) id
    fun acc taskId item _ ih hev => ?_
  split at hev
  · exact ih (List.mem_of_mem_filter hev)
  · exact ih hev

/-- **Every step that fits keeps the ids to 32 bits.** -/
theorem Timed.apply (h : t.Timed) {step : TaskStep} {t' : DmsCallbackTask} (hw : step.NoWrap t)
    (hfit : step.Fits) (hs : step.apply t = some t') : t'.Timed := by
  cases step with
  | generateTaskId =>
      have hid := generateTaskId_eq h.counter (Int.lt_sub_right_of_add_lt hw)
      simp only [TaskStep.apply, hid] at hs
      cases hs
      exact h.shrink (Int.le_add_one Int.le_rfl) (fun _ _ hi => hi) fun _ he => he
  | pushCallback sent taskId callback deviceId launchType want =>
      simp only [TaskStep.apply] at hs
      split at hs
      · cases hs
      rename_i hlt
      cases hs
      exact h.push (Int.not_le.mp hlt) hfit
  | popCallback taskId =>
      cases hs
      refine h.shrink (Int.le_of_eq (popCallback_currTaskId ..).symm) (fun k item hi => ?_)
        fun _ => mem_pending_popCallback
      rw [popCallback_getElem?] at hi
      split at hi
      · cases hi
      · exact hi
  | notifyDeviceOffline env deviceId =>
      cases hs
      refine h.shrink Int.le_rfl (fun k item hi => ?_) fun _ => mem_pending_notifyDeviceOffline
      rw [notifyDeviceOffline_getElem?] at hi
      exact (Option.filter_eq_some_iff.mp hi).1
  | timeout k =>
      simp only [TaskStep.apply] at hs
      split at hs
      · cases hs
        exact h.shrink Int.le_rfl (fun _ _ hi => hi) fun _ => List.mem_of_mem_eraseIdx
      · cases hs

/-! ### What a step owes -/

/-- Two outstanding tasks have different event ids. -/
theorem Timed.toUint32_ne (h : t.Timed) {i j : Int} (hi : t.callbackMap[i]? ≠ none)
    (hj : t.callbackMap[j]? ≠ none) (hne : i ≠ j) : toUint32 i ≠ toUint32 j := by
  obtain ⟨item, hi⟩ := Option.ne_none_iff_exists'.mp hi
  obtain ⟨item', hj⟩ := Option.ne_none_iff_exists'.mp hj
  obtain ⟨-, hi₀, -, hi₁⟩ := h.tasks i item hi
  obtain ⟨-, hj₀, -, hj₁⟩ := h.tasks j item' hj
  exact fun he => hne (toUint32_inj (by omega) hi₁ (by omega) hj₁ he)

theorem Timed.popCallback (h : t.Timed) {taskId other : Int} (hne : other ≠ taskId)
    (ho : t.callbackMap[other]? ≠ none) :
    (t.popCallback taskId).2.dmsCallbackHandler.timersOf other =
      t.dmsCallbackHandler.timersOf other := by
  unfold DmsCallbackTask.popCallback
  split
  · rfl
  · rename_i item hi
    have hi : t.callbackMap[taskId]? ≠ none := hi ▸ Option.some_ne_none item
    exact EventHandler.timersOf_removeEvent (h.toUint32_ne hi ho hne.symm) _

theorem Timed.notifyDeviceOffline (h : t.Timed) (env : Env) {deviceId : String} {other : Int}
    {item : CallbackTaskItem} (ho : t.callbackMap[other]? = some item)
    (hd : item.deviceId ≠ deviceId) :
    (t.notifyDeviceOffline env deviceId).1.dmsCallbackHandler.timersOf other =
      t.dmsCallbackHandler.timersOf other := by
  refine ExtTreeMap.walk_induction
    (P := fun (acc : EventHandler Int × List Effect) _ =>
      acc.1.timersOf other = t.dmsCallbackHandler.timersOf other)
    rfl fun acc m taskId visited hk _ ih => ?_
  split
  · rename_i hdev
    have hne : taskId ≠ other := by
      rintro rfl
      obtain rfl := Option.some.inj (hk.symm.trans ho)
      exact hd hdev
    have hids := h.toUint32_ne (hk ▸ Option.some_ne_none visited) (ho ▸ Option.some_ne_none item)
      hne
    rw [(h.tasks taskId visited hk).1, EventHandler.timersOf_removeEvent hids, ih]
  · exact ih

/-- An accepted push arms an event that calls back with the id modulo 2^32. -/
theorem matches_pushCallback_iff (h : t.Timed) {sent : Bool} {taskId : Int}
    {callback : Option RemoteObject} {deviceId : String} {launchType : LaunchType} {want : Want} :
    TaskStep.Matches t (.pushCallback sent taskId callback deviceId launchType want) ↔
      TaskStep.Fits (.pushCallback sent taskId callback deviceId launchType want) := by
  simp only [TaskStep.Matches, TaskStep.Fits]
  constructor
  · intro hm hsent hcallback
    by_contra hbits
    have hbits : (2 : Int) ^ 32 ≤ taskId := Int.not_lt.mp hbits
    -- an id that large is not outstanding, so nothing refuses it
    have hnew : t.callbackMap[taskId]? = none := by
      by_contra hold
      obtain ⟨item, hi⟩ := Option.ne_none_iff_exists'.mp hold
      have := (h.tasks taskId item hi).2.2.2
      omega
    subst hsent
    rw [pushCallback_stored _ _ (by omega) hcallback hnew] at hm
    obtain ⟨event, hp, hid⟩ := hm rfl
    obtain rfl := List.head_eq_of_cons_eq (List.append_cancel_left hp)
    have := (processEvent_toUint32 (by omega)).mp hid
    omega
  · intro hfit hok
    have herr : invalidParametersErr ≠ errOk := by decide
    cases sent with
    | false =>
        rw [pushCallback_unsent] at hok
        exact absurd hok herr
    | true =>
        obtain hp | ⟨h₀, hcallback, -, hp⟩ :=
          t.pushCallback_cases true taskId callback deviceId launchType want
        · rw [hp] at hok
          exact absurd hok herr
        · rw [hp]
          exact ⟨_, rfl, (processEvent_toUint32 h₀).mpr (hfit rfl hcallback)⟩

theorem Timed.matches_iff (h : t.Timed) {step : TaskStep} (hw : step.NoWrap t) :
    step.Matches t ↔ step.Fits := by
  cases step with
  | generateTaskId =>
      refine iff_of_true ?_ trivial
      rw [TaskStep.Matches, generateTaskId_eq h.counter (Int.lt_sub_right_of_add_lt hw)]
      refine ⟨h.counter, ?_⟩
      by_contra hold
      obtain ⟨item, hi⟩ := Option.ne_none_iff_exists'.mp hold
      exact absurd (h.tasks _ item hi).2.2.1 (Int.lt_irrefl _)
  | pushCallback sent taskId callback deviceId launchType want => exact matches_pushCallback_iff h
  | popCallback taskId =>
      exact iff_of_true (fun other hne ho => h.popCallback hne ho) trivial
  | notifyDeviceOffline env deviceId =>
      exact iff_of_true (fun other item ho hd => h.notifyDeviceOffline env ho hd) trivial
  | timeout k =>
      exact iff_of_true (fun event he => h.events event (List.mem_of_getElem? he)) trivial

/-! ### Every run -/

theorem timed_of_reach
    (h : Reach TaskStep.apply (fun t step => step.NoWrap t ∧ step.Fits) {} t) : t.Timed :=
  h.invariant timed_init fun _ _ _ ih hok hs => ih.apply hok.1 hok.2 hs

/-- **In every run whose events have ids of 32 bits, a step matches exactly when its own event
has one.** -/
theorem stepMatches_iff_fits
    (h : Reach TaskStep.apply (fun t step => step.NoWrap t ∧ step.Fits) {} t) {step : TaskStep}
    (hw : step.NoWrap t) : step.Matches t ↔ step.Fits :=
  (timed_of_reach h).matches_iff hw

/-- A task is outstanding, with its timer, when the other one is popped. -/
theorem stepMatches_iff_fits_pop :
    ∃ t : DmsCallbackTask, t.callbackMap[(1 : Int)]? ≠ none ∧ t.callbackMap[(2 : Int)]? ≠ none ∧
      ((TaskStep.popCallback 1).Matches t ↔ (TaskStep.popCallback 1).Fits) := by
  let push (taskId : Int) : TaskStep := .pushCallback true taskId (some 0) "" .freeInstallStart {}
  have hfits : ∀ taskId < 2 ^ 32, (push taskId).Fits := fun _ hlt _ _ => hlt
  obtain ⟨t, hrun, h₁, h₂⟩ : ∃ t : DmsCallbackTask,
      Reach TaskStep.apply (fun t step => step.NoWrap t ∧ step.Fits) {} t ∧
        t.callbackMap[(1 : Int)]? ≠ none ∧ t.callbackMap[(2 : Int)]? ≠ none :=
    ⟨_, .next (.next (.next (.next .init
      (l := .generateTaskId) ⟨show (1 : Int) + 1 < 2 ^ 63 by decide, trivial⟩ rfl)
      (l := .generateTaskId) ⟨show (2 : Int) + 1 < 2 ^ 63 by decide, trivial⟩ rfl)
      (l := push 1) ⟨trivial, hfits 1 (by decide)⟩ rfl)
      (l := push 2) ⟨trivial, hfits 2 (by decide)⟩ rfl, by decide, by decide⟩
  exact ⟨t, h₁, h₂, stepMatches_iff_fits hrun trivial⟩

/-- Any number of ids can be generated. -/
theorem reach_generated (n : Nat) (hn : (n : Int) + 1 < 2 ^ 63) :
    Reach TaskStep.apply (fun t step => step.NoWrap t) {} { currTaskId := n + 1 } := by
  induction n with
  | zero => exact .init
  | succ n ih =>
      push_cast at hn
      refine .next (ih (by omega)) (l := .generateTaskId) ?_ ?_
      · exact hn
      · have hgen := @generateTaskId_eq { currTaskId := n + 1 } (by simp only; omega)
          (by simp only; omega)
        rw [TaskStep.apply, hgen]
        push_cast
        rfl

/-- The id after 2^32 calls back as 1, and when it is popped, the timer of task 1 is gone. -/
theorem crossed_timers :
    ∃ t t' : DmsCallbackTask,
      Reach TaskStep.apply (fun t step => step.NoWrap t) {} t ∧
      Reach TaskStep.apply (fun t step => step.NoWrap t) {} t' ∧
      ¬ (TaskStep.pushCallback true (2 ^ 32 + 1) (some 0) "" .freeInstallStart {}).Matches t ∧
      ¬ (TaskStep.popCallback (2 ^ 32 + 1)).Matches t' := by
  have h₀ : Reach TaskStep.apply (fun t step => step.NoWrap t) {} { currTaskId := 2 ^ 32 + 2 } :=
    reach_generated (2 ^ 32 + 1) (by decide)
  let push (taskId : Int) : TaskStep := .pushCallback true taskId (some 0) "" .freeInstallStart {}
  refine ⟨_, _, h₀, .next (.next h₀ (l := push 1) trivial rfl)
    (l := push (2 ^ 32 + 1)) trivial rfl, fun hpush => ?_, fun hpop => ?_⟩
  · obtain ⟨event, hevent, hid⟩ := hpush rfl
    obtain rfl := List.head_eq_of_cons_eq hevent
    exact absurd hid (by decide)
  · exact absurd (hpop 1 (by decide) (by decide)) (by decide)

end DmsCallbackTask

end DistributedSched

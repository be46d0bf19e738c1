import DistributedSched.FreeInstall.Calls
import DistributedSched.Library.Custody

/-!
# FreeInstall — every task is answered once

A `FREEINSTALL_START` task whose push succeeded is in the table, or its result is in delivery,
or the result has been delivered, and it is in one of these places once.

* `Inv`: what holds between any two blocks of any calls.  Task ids are given to one push each
  (`exclusive`, `issued`), an item keeps its id wherever it goes (`table`, `delivering`,
  `answers`), and only tasks in the table have a timeout pending (`armed`).
* `free_install_once`: exactly one of the three places, for the callback that was pushed.
-/

namespace DistributedSched

open Std (ExtTreeMap)
open Custody
open DistributedSchedService

namespace FreeInstallCall

/-- The task id that is about to be pushed. -/
def pushing : FreeInstallCall → Option Int
  | push taskId _ => some taskId
  | _ => none

/-- The item whose result is in delivery. -/
def delivering : FreeInstallCall → Option CallbackTaskItem
  | deliver item _ => some item
  | _ => none

/-- The task that a call takes out of the table next, with the result to deliver. -/
def taking : FreeInstallCall → Option (Int × Int)
  | fail taskId result => some (taskId, result)
  | pop taskId resultCode .freeInstallStart => some (taskId, resultCode)
  | _ => none

def delivers (taskId : Int) (call : FreeInstallCall) : Bool :=
  call.delivering.any fun item => item.taskId = taskId

theorem delivers_eq_true {taskId : Int} {call : FreeInstallCall} :
    call.delivers taskId = true ↔ ∃ item, call.delivering = some item ∧ item.taskId = taskId := by
  unfold delivers
  cases call.delivering <;> simp

/-- The call has no id to push and no result to deliver. -/
def Quiet (call : FreeInstallCall) : Prop := call.pushing = none ∧ call.delivering = none

theorem Quiet.delivers {call : FreeInstallCall} (h : call.Quiet) (taskId : Int) :
    call.delivers taskId = false := by
  rw [FreeInstallCall.delivers, h.2]
  rfl

end FreeInstallCall

namespace FreeInstalls

variable (s : FreeInstalls)

abbrev task : DmsCallbackTask := s.service.dmsCallbackTask

def pushing (i : Nat) : Option Int := s.calls[i]?.bind FreeInstallCall.pushing

/-- The results of a task that are in delivery. -/
def inDelivery (taskId : Int) : Nat :=
  s.calls.count fun _ call => call.delivers taskId

/-- The results of a task that were sent. -/
def delivered (taskId : Int) : Nat := s.answers.countP fun answer => answer.1 = taskId

def inTable (taskId : Int) : Nat := if s.task.callbackMap.contains taskId then 1 else 0

structure Inv : Prop where
  currTaskId : s.task.currTaskId = s.generated + 1
  generated : s.generated < 2 ^ 32
  exclusive : Exclusive s.pushing
  issued : ∀ taskId, Held s.pushing taskId →
    0 < taskId ∧ taskId ≤ s.generated ∧ ∀ item ∈ s.pushed, item.taskId ≠ taskId
  pushed : ∀ item ∈ s.pushed, 0 < item.taskId ∧ item.taskId ≤ s.generated ∧
    (item.launchType = .freeInstallStart → item.callback ≠ none)
  unique : (s.pushed.map CallbackTaskItem.taskId).Nodup
  table : ∀ (taskId : Int) (item : CallbackTaskItem), s.task.callbackMap[taskId]? = some item →
    item.taskId = taskId ∧ item ∈ s.pushed
  delivering : ∀ (i : Nat) (call : FreeInstallCall) (item : CallbackTaskItem),
    s.calls[i]? = some call → call.delivering = some item → item = {} ∨ item ∈ s.pushed
  answers : ∀ answer ∈ s.answers, ∃ item ∈ s.pushed, item.taskId = answer.1 ∧
    ∃ callback resultCode, item.callback = some callback ∧
      answer.2 = .freeInstallDone callback resultCode item.want
  continues : ∀ (i : Nat) (taskId resultCode : Int),
    s.calls[i]? = some (.pop taskId resultCode .freeInstallContinue) →
      ∃ item ∈ s.pushed, item.taskId = taskId ∧ item.launchType = .freeInstallContinue
  once : ∀ item ∈ s.pushed, item.launchType = .freeInstallStart →
    s.delivered item.taskId + s.inDelivery item.taskId + s.inTable item.taskId = 1
  armed : ∀ taskId : Int, 0 < taskId → taskId < 2 ^ 32 →
    s.task.dmsCallbackHandler.Armed taskId → s.task.callbackMap[taskId]? ≠ none

variable {s}

/-! ### Places -/

theorem inTable_eq (taskId : Int) :
    s.inTable taskId = if s.task.callbackMap[taskId]? = none then 0 else 1 := by
  rw [inTable, ExtTreeMap.contains_eq_isSome_getElem?]
  cases s.task.callbackMap[taskId]? <;> simp

/-- The items that were pushed are told apart by their ids. -/
theorem Inv.eq_of_taskId (h : s.Inv) {item item' : CallbackTaskItem} (hi : item ∈ s.pushed)
    (hi' : item' ∈ s.pushed) (he : item.taskId = item'.taskId) : item = item' :=
  List.inj_on_of_nodup_map h.unique hi hi' he

theorem init_inv : Inv {} where
  currTaskId := rfl
  generated := by decide
  exclusive i j a hi := by simp [pushing] at hi
  issued taskId ht := by
    obtain ⟨i, hi⟩ := ht
    simp [pushing] at hi
  pushed _ hi := absurd hi List.not_mem_nil
  unique := List.nodup_nil
  table taskId item hi := by simp at hi
  delivering i call item hi := by simp at hi
  answers _ ha := absurd ha List.not_mem_nil
  continues i taskId resultCode hi := by simp at hi
  once _ hi := absurd hi List.not_mem_nil
  armed taskId _ _ ha := by
    obtain ⟨e, he, -⟩ := ha
    cases he

/-! ### Steps that move no item -/

/-- A step of the service that leaves the table, and arms nothing. -/
theorem Inv.same_table (h : s.Inv) {service : DistributedSchedService}
    (hm : service.dmsCallbackTask.callbackMap = s.task.callbackMap)
    (hc : service.dmsCallbackTask.currTaskId = s.task.currTaskId)
    (ha : ∀ taskId, service.dmsCallbackTask.dmsCallbackHandler.Armed taskId →
      s.task.dmsCallbackHandler.Armed taskId) :
    Inv { s with service := service } where
  currTaskId := hc.trans h.currTaskId
  generated := h.generated
  exclusive := h.exclusive
  issued := h.issued
  pushed := h.pushed
  unique := h.unique
  table taskId item hi := h.table taskId item (hm ▸ hi)
  delivering := h.delivering
  answers := h.answers
  continues := h.continues
  once item hi hl := by
    have := h.once item hi hl
    unfold inTable at this ⊢
    rwa [hm]
  armed taskId h₀ h₁ ht := by
    show service.dmsCallbackTask.callbackMap[taskId]? ≠ none
    rw [hm]
    exact h.armed taskId h₀ h₁ (ha taskId ht)

theorem pushing_put (i : Nat) (next : Option FreeInstallCall) :
    pushing { s with calls := s.calls.put i next } =
      Function.update s.pushing i (next.bind (·.pushing)) := by
  funext j
  by_cases hj : j = i
  · subst hj
    rw [Function.update_self, pushing, ExtTreeMap.getElem?_put_self]
  · rw [Function.update_of_ne hj, pushing, pushing, ExtTreeMap.getElem?_put_of_ne _ (Ne.symm hj)]

/-- A call at another block has other results in delivery. -/
theorem inDelivery_put (i : Nat) (next : Option FreeInstallCall) (taskId : Int) :
    inDelivery { s with calls := s.calls.put i next } taskId +
        (if s.calls[i]?.any (·.delivers taskId) then 1 else 0) =
      s.inDelivery taskId + if next.any (·.delivers taskId) then 1 else 0 :=
  ExtTreeMap.count_put next

theorem idle_any {i : Nat} (hold : ∀ call, s.calls[i]? = some call → call.delivering = none)
    (taskId : Int) : s.calls[i]?.any (·.delivers taskId) = false := by
  cases hi : s.calls[i]? with
  | none => rfl
  | some call =>
      show call.delivers taskId = false
      rw [FreeInstallCall.delivers, hold call hi]
      rfl

/-- A call that has no result to deliver begins, goes on or ends. -/
theorem Inv.put_call (h : s.Inv) {i : Nat} {next : Option FreeInstallCall}
    (hold : ∀ call, s.calls[i]? = some call → call.delivering = none)
    (hnew : ∀ call, next = some call → call.delivering = none)
    (hcontinues : ∀ taskId resultCode, next = some (.pop taskId resultCode .freeInstallContinue) →
      ∃ item ∈ s.pushed, item.taskId = taskId ∧ item.launchType = .freeInstallContinue)
    (hexclusive : Exclusive (Function.update s.pushing i (next.bind (·.pushing))))
    (hissued : ∀ taskId, Held (Function.update s.pushing i (next.bind (·.pushing))) taskId →
      0 < taskId ∧ taskId ≤ s.generated ∧ ∀ item ∈ s.pushed, item.taskId ≠ taskId) :
    Inv { s with calls := s.calls.put i next } := by
  have hdelivery : ∀ taskId,
      inDelivery { s with calls := s.calls.put i next } taskId = s.inDelivery taskId :=
    fun taskId => ExtTreeMap.count_put_of_false
      (fun call hc => by rw [FreeInstallCall.delivers, hold call hc]; rfl)
      (fun call hc => by rw [FreeInstallCall.delivers, hnew call hc]; rfl)
  refine { h with
    exclusive := pushing_put i next ▸ hexclusive
    issued := pushing_put i next ▸ hissued
    delivering := fun j call item hj hd => ?_
    continues := fun j taskId resultCode hj => ?_
    once := fun item hi hl => (hdelivery item.taskId).symm ▸ h.once item hi hl }
  · rcases ExtTreeMap.getElem?_put_eq_some.mp hj with ⟨-, hn⟩ | ⟨-, hj⟩
    · rw [hnew call hn] at hd
      cases hd
    · exact h.delivering j call item hj hd
  · rcases ExtTreeMap.getElem?_put_eq_some.mp hj with ⟨-, hn⟩ | ⟨-, hj⟩
    · exact hcontinues taskId resultCode hn
    · exact h.continues j taskId resultCode hj

/-- A call that goes on or ends without an id to push. -/
theorem Inv.pushing_next (h : s.Inv) (i : Nat) (next : Option FreeInstallCall)
    (hnext : next.bind (·.pushing) = none) :
    Exclusive (Function.update s.pushing i (next.bind (·.pushing))) ∧
      ∀ taskId, Held (Function.update s.pushing i (next.bind (·.pushing))) taskId ↔
        Held s.pushing taskId ∧ s.pushing i ≠ some taskId := by
  rw [hnext, ← keep_ne]
  refine ⟨h.exclusive.keep _, fun taskId =>
    h.exclusive.held_keep.trans (and_congr_right fun _ => ?_)⟩
  simp

theorem Inv.next_inv (h : s.Inv) {i : Nat} {next : Option FreeInstallCall}
    (hold : ∀ call, s.calls[i]? = some call → call.delivering = none)
    (hnew : ∀ call, next = some call → call.Quiet)
    (hcontinues : ∀ taskId resultCode, next = some (.pop taskId resultCode .freeInstallContinue) →
      ∃ item ∈ s.pushed, item.taskId = taskId ∧ item.launchType = .freeInstallContinue) :
    Inv { s with calls := s.calls.put i next } := by
  obtain ⟨hexclusive, hheld⟩ := h.pushing_next i next
    (Option.bind_eq_none_iff.mpr fun call hc => (hnew call hc).1)
  exact h.put_call hold (fun call hc => (hnew call hc).2) hcontinues hexclusive
    fun taskId ht => h.issued taskId ((hheld taskId).mp ht).1

/-! ### A task is pushed -/

/-- A call gets a new task id. -/
theorem Inv.start_inv (h : s.Inv) {i : Nat} (hi : s.calls[i]? = none)
    (hg : s.generated + 1 < 2 ^ 32) (request : FreeInstallRequest) :
    Inv { s with
      service := { s.service with dmsCallbackTask := s.task.generateTaskId.2 }
      calls := s.calls.put i (some (.push s.task.generateTaskId.1 request))
      generated := s.generated + 1 } := by
  have hid := h.currTaskId
  rw [DmsCallbackTask.generateTaskId_eq (by omega) (by omega)]
  have hnext : Inv { s with
      service := { s.service with
        dmsCallbackTask := { s.task with currTaskId := s.task.currTaskId + 1 } }
      generated := s.generated + 1 } :=
    { h with
      currTaskId := by push_cast; omega
      generated := hg
      issued := fun taskId ht => by
        obtain ⟨h₀, h₁, hne⟩ := h.issued taskId ht
        exact ⟨h₀, by push_cast; omega, hne⟩
      pushed := fun item hi => by
        obtain ⟨h₀, h₁, hc⟩ := h.pushed item hi
        exact ⟨h₀, by push_cast; omega, hc⟩ }
  have hnew : ¬ Held s.pushing s.task.currTaskId := fun ht => by
    have := (h.issued _ ht).2.1
    omega
  have hfree : s.pushing i = none := by rw [pushing, hi]; rfl
  refine hnext.put_call (fun call hc => ?_) (fun call hc => ?_) nofun
    (h.exclusive.acquire hnew) fun taskId ht => ?_
  · rw [hi] at hc; cases hc
  · cases hc; rfl
  · rcases (held_acquire hfree).mp ht with rfl | ht
    · refine ⟨by omega, by push_cast; omega, fun item hi he => ?_⟩
      have := (h.pushed item hi).2.1
      omega
    · obtain ⟨h₀, h₁, hne⟩ := hnext.issued taskId ht
      exact ⟨h₀, h₁, hne⟩

/-- A task that was not pushed has no result. -/
theorem Inv.unplaced (h : s.Inv) {taskId : Int} (h₀ : 0 < taskId)
    (hne : ∀ item ∈ s.pushed, item.taskId ≠ taskId) :
    s.delivered taskId = 0 ∧ s.inDelivery taskId = 0 := by
  constructor
  · refine List.countP_eq_zero.mpr fun answer ha he => ?_
    obtain ⟨item, hi, hid, -⟩ := h.answers answer ha
    exact hne item hi (hid.trans (of_decide_eq_true he))
  · refine ExtTreeMap.count_eq_zero.mpr fun i call hc => Bool.eq_false_iff.mpr fun hd => ?_
    obtain ⟨item, hd, hid⟩ := FreeInstallCall.delivers_eq_true.mp hd
    rcases h.delivering i call item hc hd with rfl | hi
    · have : (-1 : Int) = taskId := hid
      omega
    · exact hne item hi hid

/-- A push that succeeds puts its item into the table and arms its timeout. -/
theorem Inv.push_inv (h : s.Inv) (item : CallbackTaskItem) (delay : Int)
    (h₀ : 0 < item.taskId) (h₁ : item.taskId ≤ s.generated) (hp : ¬ Held s.pushing item.taskId)
    (hne : ∀ x ∈ s.pushed, x.taskId ≠ item.taskId)
    (hc : item.launchType = .freeInstallStart → item.callback ≠ none) :
    Inv { s with
      service := { s.service with
        dmsCallbackTask := { s.task with
          dmsCallbackHandler := s.task.dmsCallbackHandler.sendEvent true item.taskId 0 delay
          callbackMap := s.task.callbackMap.insert item.taskId item } }
      pushed := s.pushed ++ [item] } where
  currTaskId := h.currTaskId
  generated := h.generated
  exclusive := h.exclusive
  issued taskId ht := by
    obtain ⟨h₀, h₁, hx⟩ := h.issued taskId ht
    refine ⟨h₀, h₁, List.forall_mem_append.mpr ⟨hx, List.forall_mem_singleton.mpr ?_⟩⟩
    rintro rfl
    exact hp ht
  pushed := List.forall_mem_append.mpr
    ⟨h.pushed, List.forall_mem_singleton.mpr ⟨h₀, h₁, hc⟩⟩
  unique := by
    rw [← List.concat_eq_append, List.map_concat, List.nodup_concat]
    refine ⟨fun hm => ?_, h.unique⟩
    obtain ⟨x, hx, hid⟩ := List.mem_map.mp hm
    exact hne x hx hid
  table taskId x hx := by
    simp only [ExtTreeMap.getElem?_insert] at hx
    split at hx
    · rename_i he
      cases hx
      exact ⟨Std.LawfulEqCmp.eq_of_compare he, List.mem_append_right _ (.head _)⟩
    · exact (h.table taskId x hx).imp id (List.mem_append_left _)
  delivering i call x hx hd :=
    (h.delivering i call x hx hd).imp id (List.mem_append_left _)
  answers answer ha := by
    obtain ⟨x, hx, hr⟩ := h.answers answer ha
    exact ⟨x, List.mem_append_left _ hx, hr⟩
  continues i taskId resultCode hi := by
    obtain ⟨x, hx, hr⟩ := h.continues i taskId resultCode hi
    exact ⟨x, List.mem_append_left _ hx, hr⟩
  once := by
    refine List.forall_mem_append.mpr ⟨fun x hx hl => ?_, List.forall_mem_singleton.mpr fun _ => ?_⟩
    · have := h.once x hx hl
      rw [inTable_eq] at this ⊢
      rwa [ExtTreeMap.getElem?_insert_of_ne (Ne.symm (hne x hx))]
    · -- the item is new: nothing is delivered for it yet
      obtain ⟨hd, hi⟩ := h.unplaced h₀ hne
      rw [inTable_eq]
      simp only [ExtTreeMap.getElem?_insert_self]
      show s.delivered item.taskId + s.inDelivery item.taskId + 1 = 1
      rw [hd, hi]
  armed taskId ht₀ ht₁ ha := by
    have hg := h.generated
    simp only [ExtTreeMap.getElem?_insert]
    split
    · nofun
    · rename_i hne
      rcases (EventHandler.armed_sendEvent ..).mp ha with ha | he
      · exact h.armed taskId ht₀ ht₁ ha
      · -- ids below 2 ^ 32 do not share an event
        have := toUint32_inj (by omega) (by omega) (by omega) (by omega) he
        exact absurd (Std.LawfulEqCmp.compare_eq_iff_eq.mpr this) hne

/-! ### A task is popped -/

/-- A popped task has no timeout event. -/
theorem Inv.armed_pop (h : s.Inv) {taskId k : Int} (h₀ : 0 < k) (h₁ : k < 2 ^ 32)
    (ha : (s.task.popCallback taskId).2.dmsCallbackHandler.Armed k) :
    (s.task.popCallback taskId).2.callbackMap[k]? ≠ none := by
  obtain ⟨ha, hne⟩ := DmsCallbackTask.armed_popCallback ha
  have hk := h.armed k h₀ h₁ ha
  rw [DmsCallbackTask.popCallback_getElem?]
  split
  · rename_i he
    subst he
    exact absurd rfl (hne hk)
  · exact hk

/-- A task that no start waits for is popped and dropped. -/
theorem Inv.drop_inv (h : s.Inv) {taskId : Int}
    (hd : ∀ item ∈ s.pushed, item.launchType = .freeInstallStart → item.taskId ≠ taskId) :
    Inv { s with service := { s.service with
      dmsCallbackTask := (s.task.popCallback taskId).2 } } := by
  refine { h with
    currTaskId := (DmsCallbackTask.popCallback_currTaskId ..).trans h.currTaskId
    table := fun k item hk => ?_
    once := fun item hi hl => ?_
    armed := fun k h₀ h₁ ha => h.armed_pop h₀ h₁ ha }
  · rw [DmsCallbackTask.popCallback_getElem?] at hk
    split at hk
    · cases hk
    · exact h.table k item hk
  · have := h.once item hi hl
    rw [inTable_eq] at this ⊢
    rwa [DmsCallbackTask.popCallback_getElem?, if_neg (Ne.symm (hd item hi hl))]

/-- A task is popped to be delivered. -/
theorem Inv.take_inv (h : s.Inv) {i : Nat} (taskId resultCode : Int)
    (hold : ∀ call, s.calls[i]? = some call → call.delivering = none) :
    Inv { s with
      service := { s.service with dmsCallbackTask := (s.task.popCallback taskId).2 }
      calls := s.calls.put i (some (.deliver (s.task.popCallback taskId).1 resultCode)) } := by
  obtain ⟨hexclusive, hheld⟩ := h.pushing_next i
    (some (.deliver (s.task.popCallback taskId).1 resultCode)) rfl
  rw [← pushing_put] at hexclusive
  simp only [← pushing_put] at hheld
  refine { h with
    currTaskId := (DmsCallbackTask.popCallback_currTaskId ..).trans h.currTaskId
    exclusive := hexclusive
    issued := fun k hk => h.issued k ((hheld k).mp hk).1
    table := fun k item hk => ?_
    delivering := fun j call item hj hd => ?_
    continues := fun j k code hj => ?_
    once := fun x hx hl => ?_
    armed := fun k h₀ h₁ ha => h.armed_pop h₀ h₁ ha }
  · rw [DmsCallbackTask.popCallback_getElem?] at hk
    split at hk
    · cases hk
    · exact h.table k item hk
  · rcases ExtTreeMap.getElem?_put_eq_some.mp hj with ⟨-, hn⟩ | ⟨-, hj⟩
    · cases hn
      cases hd
      rw [DmsCallbackTask.popCallback_fst]
      cases hm : s.task.callbackMap[taskId]? with
      | none => exact .inl rfl
      | some item => exact .inr (h.table taskId item hm).2
    · exact h.delivering j call item hj hd
  · rcases ExtTreeMap.getElem?_put_eq_some.mp hj with ⟨-, hn⟩ | ⟨-, hj⟩
    · cases hn
    · exact h.continues j k code hj
  · have honce := h.once x hx hl
    have hput := inDelivery_put (s := s) i
      (some (.deliver (s.task.popCallback taskId).1 resultCode)) x.taskId
    have hnew : (some (FreeInstallCall.deliver (s.task.popCallback taskId).1 resultCode)).any
        (·.delivers x.taskId) = decide ((s.task.popCallback taskId).1.taskId = x.taskId) := rfl
    have hpos := (h.pushed x hx).1
    rw [idle_any hold, hnew, if_neg Bool.false_ne_true, Nat.add_zero] at hput
    show s.delivered x.taskId + inDelivery { s with calls := _ } x.taskId + _ = 1
    rw [hput]
    rw [inTable_eq] at honce ⊢
    rw [DmsCallbackTask.popCallback_getElem?, DmsCallbackTask.popCallback_fst]
    have hid : ∀ item, s.task.callbackMap[taskId]? = some item → item.taskId = taskId :=
      fun item hi => (h.table taskId item hi).1
    -- the task that is popped goes from the table to the delivery
    by_cases he : taskId = x.taskId
    · subst he
      obtain hm | ⟨item, hm⟩ := (s.task.callbackMap[x.taskId]?).eq_none_or_eq_some
      · have hne : (-1 : Int) ≠ x.taskId := by omega
        simp only [hm, if_true, Option.getD_none, decide_eq_true_eq, if_neg hne] at honce ⊢
        exact honce
      · simp only [hm, reduceCtorEq, if_true, if_false, Option.getD_some, decide_eq_true_eq,
          hid item hm] at honce ⊢
        omega
    · -- a pop that finds nothing delivers the item with the id -1, which no task has
      have hne : (s.task.callbackMap[taskId]?.getD {}).taskId ≠ x.taskId := by
        cases hm : s.task.callbackMap[taskId]? with
        | none => exact fun hx => by have : (-1 : Int) = x.taskId := hx; omega
        | some item => exact fun hx => he ((hid item hm).symm.trans hx)
      simp only [if_neg he, decide_eq_true_eq, if_neg hne]
      exact honce

/-! ### A result is sent -/

/-- The results sent for an item, as they are recorded. -/
def answersOf (env : Env) (item : CallbackTaskItem) (resultCode : Int) : List (Int × Effect) :=
  (notifyFreeInstallResult env item resultCode).2.map fun e => (item.taskId, e)

section answersOf

variable {env : Env} (hw : env.parcelWrites = true) {item : CallbackTaskItem} {resultCode : Int}
include hw

theorem mem_answersOf {answer : Int × Effect} (ha : answer ∈ answersOf env item resultCode) :
    item.taskId = answer.1 ∧ ∃ callback, item.callback = some callback ∧
      answer.2 = .freeInstallDone callback resultCode item.want := by
  rw [answersOf, notifyFreeInstallResult_effects hw] at ha
  obtain ⟨e, he, rfl⟩ := List.mem_map.mp ha
  obtain ⟨callback, hc, rfl⟩ := Option.map_eq_some_iff.mp (Option.mem_toList.mp he)
  exact ⟨rfl, callback, hc, rfl⟩

theorem countP_answersOf_of_ne {taskId : Int} (hne : item.taskId ≠ taskId) :
    (answersOf env item resultCode).countP (fun answer => answer.1 = taskId) = 0 := by
  refine List.countP_eq_zero.mpr fun answer ha he => hne ?_
  exact (mem_answersOf hw ha).1.trans (of_decide_eq_true he)

theorem countP_answersOf (hc : item.callback ≠ none) :
    (answersOf env item resultCode).countP (fun answer => answer.1 = item.taskId) = 1 := by
  obtain ⟨callback, hc⟩ := Option.ne_none_iff_exists'.mp hc
  rw [answersOf, notifyFreeInstallResult_effects hw, hc]
  simp

end answersOf

theorem Inv.deliver_inv (h : s.Inv) {i : Nat} {item : CallbackTaskItem} {resultCode : Int}
    (hi : s.calls[i]? = some (.deliver item resultCode)) {env : Env}
    (hw : env.parcelWrites = true) :
    Inv { s with
      calls := s.calls.put i none
      answers := s.answers ++ answersOf env item resultCode } := by
  obtain ⟨hexclusive, hheld⟩ := h.pushing_next i none rfl
  rw [← pushing_put] at hexclusive
  simp only [← pushing_put] at hheld
  have hitem := h.delivering i _ item hi rfl
  refine { h with
    exclusive := hexclusive
    issued := fun k hk => h.issued k ((hheld k).mp hk).1
    delivering := fun j call x hj hd => ?_
    answers := List.forall_mem_append.mpr ⟨h.answers, fun answer ha => ?_⟩
    continues := fun j k code hj => ?_
    once := fun x hx hl => ?_ }
  · rcases ExtTreeMap.getElem?_put_eq_some.mp hj with ⟨-, hn⟩ | ⟨-, hj⟩
    · cases hn
    · exact h.delivering j call x hj hd
  · obtain ⟨hid, callback, hc, he⟩ := mem_answersOf hw ha
    rcases hitem with rfl | hitem
    · cases hc
    · exact ⟨item, hitem, hid, callback, resultCode, hc, he⟩
  · rcases ExtTreeMap.getElem?_put_eq_some.mp hj with ⟨-, hn⟩ | ⟨-, hj⟩
    · cases hn
    · exact h.continues j k code hj
  · have honce := h.once x hx hl
    have hput := inDelivery_put (s := s) i none x.taskId
    have hold : s.calls[i]?.any (·.delivers x.taskId) = decide (item.taskId = x.taskId) := by
      rw [hi]; rfl
    rw [hold] at hput
    show List.countP _ (s.answers ++ _) + inDelivery { s with calls := _ } x.taskId +
      s.inTable x.taskId = 1
    rw [List.countP_append]
    -- what leaves the delivery is answered
    by_cases he : item.taskId = x.taskId
    · have hx : item = x := by
        rcases hitem with rfl | hitem
        · have hpos := (h.pushed x hx).1
          have : (-1 : Int) = x.taskId := he
          omega
        · exact h.eq_of_taskId hitem hx he
      subst hx
      rw [countP_answersOf hw ((h.pushed item hx).2.2 hl)]
      simp only [decide_true, if_true, Option.any_none, Bool.false_eq_true, if_false] at hput
      unfold delivered at honce
      omega
    · rw [countP_answersOf_of_ne hw he]
      simp only [he, decide_false, Option.any_none, Bool.false_eq_true, if_false] at hput
      unfold delivered at honce
      omega

/-- The device of some tasks goes offline. -/
theorem Inv.offline_inv (h : s.Inv) {env : Env} (hw : env.parcelWrites = true)
    (deviceId : String) :
    Inv { s with
      service := (s.service.processFreeInstallOffline env deviceId).1
      answers := s.answers ++ offlineAnswers env s.task deviceId } := by
  have hmap := DmsCallbackTask.notifyDeviceOffline_getElem? env s.task deviceId
  have hmem : ∀ answer ∈ offlineAnswers env s.task deviceId, ∃ item ∈ s.pushed,
      answer ∈ answersOf env item deviceOfflineErr := by
    intro answer ha
    obtain ⟨⟨k, item⟩, he, ha⟩ := List.mem_flatMap.mp ha
    split at ha
    · exact ⟨item, (h.table k item (ExtTreeMap.mem_toList_iff_getElem?_eq_some.mp he)).2, ha⟩
    · cases ha
  have hcount : ∀ x ∈ s.pushed, x.launchType = .freeInstallStart →
      (offlineAnswers env s.task deviceId).countP (fun answer => answer.1 = x.taskId) =
        if s.task.callbackMap[x.taskId]?.any (·.deviceId = deviceId) then 1 else 0 := by
    intro x hx hl
    refine (ExtTreeMap.countP_flatMap_toList (m := s.task.callbackMap) (g := fun _ item =>
      if item.deviceId = deviceId then answersOf env item deviceOfflineErr else [])
      (k := x.taskId) fun k item hk hne => ?_).trans ?_
    · split
      · exact countP_answersOf_of_ne hw ((h.table k item hk).1 ▸ hne)
      · rfl
    · cases hk : s.task.callbackMap[x.taskId]? with
      | none => rfl
      | some item =>
          obtain ⟨hid, hi⟩ := h.table x.taskId item hk
          obtain rfl := h.eq_of_taskId hi hx hid
          simp only [Option.map_some, Option.getD_some, Option.any_some, decide_eq_true_eq]
          split
          · exact countP_answersOf hw ((h.pushed item hx).2.2 hl)
          · rfl
  refine { h with
    currTaskId := h.currTaskId
    table := fun k item hk => ?_
    answers := List.forall_mem_append.mpr ⟨h.answers, fun answer ha => ?_⟩
    once := fun x hx hl => ?_
    armed := fun k h₀ h₁ ha => ?_ }
  · replace hk := (hmap k).symm.trans hk
    exact h.table k item (Option.filter_eq_some_iff.mp hk).1
  · obtain ⟨item, hi, ha⟩ := hmem answer ha
    obtain ⟨hid, callback, hc, he⟩ := mem_answersOf hw ha
    exact ⟨item, hi, hid, callback, deviceOfflineErr, hc, he⟩
  · have honce := h.once x hx hl
    rw [inTable_eq] at honce ⊢
    show List.countP _ (s.answers ++ _) + s.inDelivery x.taskId +
      (if (DmsCallbackTask.notifyDeviceOffline env s.task deviceId).1.callbackMap[x.taskId]? = none
        then 0 else 1) = 1
    rw [List.countP_append, hcount x hx hl, hmap]
    unfold delivered at honce
    cases hk : s.task.callbackMap[x.taskId]? with
    | none =>
        rw [hk] at honce
        exact honce
    | some item =>
        rw [hk] at honce
        -- a task of the device leaves the table, and is answered
        by_cases hd : item.deviceId = deviceId <;>
          simp only [Option.any_some, Option.filter, hd, ne_eq, not_true_eq_false,
            not_false_eq_true, decide_true, decide_false, Bool.false_eq_true, reduceCtorEq,
            if_true, if_false] at honce ⊢ <;>
          omega
  · obtain ⟨ha, hk⟩ := DmsCallbackTask.armed_notifyDeviceOffline
      (fun taskId item hi => (h.table taskId item hi).1) ha
    intro hn
    exact h.armed k h₀ h₁ ha (hk.symm.trans hn)

/-! ### Every step -/

/-- A push, and the call after it. -/
theorem Inv.pushBlock_inv (h : s.Inv) {i : Nat} {taskId : Int} {request : FreeInstallRequest}
    (hi : s.calls[i]? = some (.push taskId request)) (env : Env) :
    let b := (FreeInstallCall.push taskId request).block env s.service
    Inv { s with
      service := b.service, calls := s.calls.put i b.next
      pushed := s.pushed ++ b.pushed.toList } := by
  have hold : ∀ call, s.calls[i]? = some call → call.delivering = none :=
    ExtTreeMap.forall_getElem? hi rfl
  have hpushing : s.pushing i = some taskId := by rw [pushing, hi]; rfl
  obtain ⟨h₀, h₁, hne⟩ := h.issued taskId ⟨i, hpushing⟩
  simp only [FreeInstallCall.block]
  rcases s.task.pushCallback_cases env.sendEvent taskId request.callback
    request.want.element.deviceId (launchTypeOf request.want) request.want with
    hp | ⟨-, hc, -, hp⟩
  · rw [hp, if_pos (show invalidParametersErr ≠ errOk by decide)]
    simp only [Option.toList_none, List.append_nil]
    exact h.next_inv hold (fun _ hc => by cases hc) fun _ _ hc => by cases hc
  · rw [hp, if_neg (show ¬ errOk ≠ errOk by decide)]
    simp only [ExtTreeMap.getElem?_insert_self, Option.toList_some]
    have hnext := @Inv.next_inv s h i (some (if launchTypeOf request.want =
        .freeInstallContinue then .setMission taskId request else .send taskId request))
      hold (fun call hcall => ?_) fun t code hcall => ?_
    · refine hnext.push_inv ⟨request.callback, taskId, launchTypeOf request.want,
        request.want.element.deviceId, request.want⟩ _ h₀ h₁ (fun hheld => ?_) hne hc
      rw [pushing_put] at hheld
      refine (((h.pushing_next i _ ?_).2 taskId).mp hheld).2 hpushing
      simp only [Option.bind_some]
      split <;> rfl
    · obtain rfl := Option.some.inj hcall
      split <;> exact ⟨rfl, rfl⟩
    · replace hcall := Option.some.inj hcall
      split at hcall <;> cases hcall

/-- A block of a call that moves no item. -/
theorem Inv.quiet_inv (h : s.Inv) {i : Nat} {next : Option FreeInstallCall}
    {service : DistributedSchedService}
    (hold : ∀ call, s.calls[i]? = some call → call.delivering = none)
    (hnew : ∀ call, next = some call → call.Quiet)
    (hcontinues : ∀ taskId resultCode, next = some (.pop taskId resultCode .freeInstallContinue) →
      ∃ item ∈ s.pushed, item.taskId = taskId ∧ item.launchType = .freeInstallContinue)
    (hm : service.dmsCallbackTask.callbackMap = s.task.callbackMap)
    (hc : service.dmsCallbackTask.currTaskId = s.task.currTaskId)
    (hh : service.dmsCallbackTask.dmsCallbackHandler = s.task.dmsCallbackHandler) :
    Inv { s with service := service, calls := s.calls.put i next } :=
  (h.next_inv hold hnew hcontinues).same_table hm hc fun _ ha => hh ▸ ha

theorem Inv.block_inv (h : s.Inv) {i : Nat} {call : FreeInstallCall}
    (hi : s.calls[i]? = some call) {env : Env}
    (hw : ∀ item resultCode, call = .deliver item resultCode → env.parcelWrites = true) :
    let b := call.block env s.service
    Inv { s with
      service := b.service, calls := s.calls.put i b.next
      pushed := s.pushed ++ b.pushed.toList, answers := s.answers ++ b.answers } := by
  have hold : ∀ {c : FreeInstallCall}, call = c → c.delivering = none →
      ∀ call, s.calls[i]? = some call → call.delivering = none := by
    rintro c rfl hc
    exact ExtTreeMap.forall_getElem? hi hc
  cases call with
  | push taskId request =>
      simp only [show ((FreeInstallCall.push taskId request).block env s.service).answers = [] by
        simp only [FreeInstallCall.block]; split <;> rfl, List.append_nil]
      exact h.pushBlock_inv hi env
  | setMission taskId request =>
      simp only [FreeInstallCall.block, Option.toList_none, List.append_nil]
      refine h.quiet_inv (hold rfl rfl) (fun call hc => ?_) (fun t code hc => ?_) ?_ ?_ ?_
      · cases hc; exact ⟨rfl, rfl⟩
      · cases hc
      all_goals
        unfold DmsCallbackTask.setContinuationMissionMap
        split <;> rfl
  | send taskId request =>
      simp only [FreeInstallCall.block]
      split
      · simp only [Option.toList_none, List.append_nil]
        exact h.next_inv (hold rfl rfl) (fun _ hc => by cases hc) fun _ _ hc => by cases hc
      · simp only [Option.toList_none, List.append_nil]
        refine h.next_inv (hold rfl rfl) (fun call hc => ?_) fun t code hc => ?_
        · split at hc
          · cases hc; exact ⟨rfl, rfl⟩
          · cases hc
        · split at hc <;> cases hc
  | fail taskId result =>
      simp only [FreeInstallCall.block, Option.toList_none, List.append_nil]
      exact h.take_inv taskId result (hold rfl rfl)
  | getLaunchType taskId resultCode =>
      simp only [FreeInstallCall.block, Option.toList_none, List.append_nil]
      refine h.next_inv (hold rfl rfl) (fun call hc => ?_) fun t code hc => ?_
      · cases hc; exact ⟨rfl, rfl⟩
      · simp only [Option.some.injEq, FreeInstallCall.pop.injEq] at hc
        obtain ⟨rfl, -, hl⟩ := hc
        obtain ⟨item, hitem, hl⟩ := DmsCallbackTask.getLaunchType_continue hl
        obtain ⟨hid, hp⟩ := h.table taskId item hitem
        exact ⟨item, hp, hid, hl⟩
  | pop taskId resultCode launchType =>
      simp only [FreeInstallCall.block, Option.toList_none, List.append_nil]
      cases launchType with
      | freeInstallStart => exact h.take_inv taskId resultCode (hold rfl rfl)
      | freeInstallContinue =>
          obtain ⟨item, hp, hid, hl⟩ := h.continues i taskId resultCode hi
          -- a continuation is popped without an answer, so no start may have its id
          have hother : ∀ x ∈ s.pushed, x.launchType = .freeInstallStart → x.taskId ≠ taskId := by
            intro x hx hxl hxid
            obtain rfl := h.eq_of_taskId hp hx (hid.trans hxid.symm)
            rw [hl] at hxl
            cases hxl
          have hdrop := h.drop_inv hother
          simp only
          split
          · refine hdrop.next_inv (hold rfl rfl) (fun call hc => ?_) fun t code hc => ?_
            · cases hc; exact ⟨rfl, rfl⟩
            · cases hc
          · refine hdrop.next_inv (hold rfl rfl) (fun call hc => ?_) fun t code hc => ?_
            · cases hc; exact ⟨rfl, rfl⟩
            · cases hc
  | deliver item resultCode =>
      simp only [FreeInstallCall.block, Option.toList_none, List.append_nil]
      exact h.deliver_inv hi (hw item resultCode rfl)
  | getMission taskId =>
      simp only [FreeInstallCall.block, Option.toList_none, List.append_nil]
      refine h.next_inv (hold rfl rfl) (fun call hc => ?_) fun t code hc => ?_
      · cases hc; exact ⟨rfl, rfl⟩
      · cases hc
  | notifyContinuation taskId missionId =>
      simp only [FreeInstallCall.block, Option.toList_none, List.append_nil]
      refine h.quiet_inv (hold rfl rfl) (fun call hc => ?_) (fun t code hc => ?_) rfl rfl rfl
      · cases hc; exact ⟨rfl, rfl⟩
      · cases hc
  | popMission taskId =>
      simp only [FreeInstallCall.block, Option.toList_none, List.append_nil]
      exact h.quiet_inv (hold rfl rfl) (fun _ hc => by cases hc) (fun _ _ hc => by cases hc)
        rfl rfl rfl

theorem Inv.apply_inv (h : s.Inv) {s' : FreeInstalls} {step : FreeInstallStep}
    (ha : step.Assumed s) (hs : step.apply s = some s') : s'.Inv := by
  have hidle : ∀ {i : Nat}, s.calls[i]? = none →
      ∀ call, s.calls[i]? = some call → call.delivering = none := fun hn call hc => by
    rw [hn] at hc
    cases hc
  cases step with
  | startRemoteFreeInstall i env want callerUid requestCode accessToken callback =>
      rcases FreeInstallStep.apply_start hs with rfl | ⟨hn, request, rfl⟩
      · exact h
      · exact h.start_inv hn ha request
  | notifyCompleteFreeInstallFromRemote i taskId resultCode =>
      obtain ⟨hn, rfl⟩ := FreeInstallStep.apply_notify hs
      refine h.next_inv (hidle hn) (fun call hc => ?_) fun t code hc => ?_
      · cases hc; exact ⟨rfl, rfl⟩
      · cases hc
  | timeout i k resultCode =>
      obtain ⟨hn, task, rfl⟩ := FreeInstallStep.apply_timeout hs
      refine (h.next_inv (hidle hn) (fun call hc => ?_) fun t code hc => ?_).same_table
        rfl rfl fun taskId => EventHandler.armed_of_take
      · obtain ⟨taskId, -, rfl⟩ := Option.map_eq_some_iff.mp hc
        exact ⟨rfl, rfl⟩
      · obtain ⟨taskId, -, hc⟩ := Option.map_eq_some_iff.mp hc
        cases hc
  | deviceOffline env deviceId =>
      cases hs
      exact h.offline_inv ha deviceId
  | block i env =>
      obtain ⟨call, hi, rfl⟩ := FreeInstallStep.apply_block hs
      refine h.block_inv hi ?_
      rintro item resultCode rfl
      exact ha item resultCode hi
  | other service =>
      cases hs
      exact h.same_table rfl rfl fun _ => id

/-! ### Who takes a task out -/

/-- A call that finds its task takes it out of the table, and has its result in delivery. -/
theorem apply_taking {s' : FreeInstalls} {i : Nat} {call : FreeInstallCall}
    {taskId resultCode : Int} {item : CallbackTaskItem} {env : Env}
    (hi : s.calls[i]? = some call) (ht : call.taking = some (taskId, resultCode))
    (hm : s.task.callbackMap[taskId]? = some item)
    (hs : FreeInstallStep.apply s (.block i env) = some s') :
    s'.calls[i]? = some (.deliver item resultCode) ∧
      s'.task.callbackMap.contains taskId = false := by
  have hpop : (s.task.popCallback taskId).1 = item := by
    rw [DmsCallbackTask.popCallback_fst, hm]
    rfl
  have hgone : (s.task.popCallback taskId).2.callbackMap.contains taskId = false := by
    rw [ExtTreeMap.contains_eq_false_iff, DmsCallbackTask.popCallback_getElem?, if_pos rfl]
  obtain ⟨call', hi', rfl⟩ := FreeInstallStep.apply_block hs
  obtain rfl := Option.some.inj (hi'.symm.trans hi)
  simp only [ExtTreeMap.getElem?_put_self]
  cases call' with
  | fail k result =>
      cases ht
      exact ⟨congrArg (fun item => some (FreeInstallCall.deliver item resultCode)) hpop, hgone⟩
  | pop k code launchType =>
      cases launchType with
      | freeInstallStart =>
          cases ht
          exact ⟨congrArg (fun item => some (FreeInstallCall.deliver item resultCode)) hpop, hgone⟩
      | freeInstallContinue => cases ht
  | _ => cases ht

/-- No task of a device that went offline is left in the table. -/
theorem apply_offline {s' : FreeInstalls} {env : Env} {deviceId : String}
    (hs : FreeInstallStep.apply s (.deviceOffline env deviceId) = some s') (taskId : Int)
    (item : CallbackTaskItem) (hm : s'.task.callbackMap[taskId]? = some item) :
    item.deviceId ≠ deviceId := by
  cases hs
  have hm := (DmsCallbackTask.notifyDeviceOffline_getElem? env s.task deviceId taskId).symm.trans hm
  exact of_decide_eq_true (Option.filter_eq_some_iff.mp hm).2

end FreeInstalls

/-- **Free-install tasks are answered exactly once.**  In every run, for every
`FREEINSTALL_START` task whose push succeeded, the results delivered, the results in delivery
and its entry in the table are one in all; every result that is delivered or in delivery is for
the item that was pushed under its id, and goes to that item's callback; and a task that has left
the table has no timeout event pending.  A completion, or a request that fails, takes the task
that it finds out of the table and delivers its result, and a device that goes offline leaves no
task of its own there. -/
theorem free_install_once {s : FreeInstalls}
    (h : Runs.Reach FreeInstallStep.apply FreeInstallStep.Assumed {} s) :
    (∀ item ∈ s.pushed, item.launchType = .freeInstallStart →
      s.delivered item.taskId + s.inDelivery item.taskId +
        (if s.service.dmsCallbackTask.callbackMap.contains item.taskId then 1 else 0) = 1) ∧
    (∀ item ∈ s.pushed, ∀ item' ∈ s.pushed, item.taskId = item'.taskId → item = item') ∧
    (∀ answer ∈ s.answers, ∃ item ∈ s.pushed, item.taskId = answer.1 ∧
      ∃ callback resultCode, item.callback = some callback ∧
        answer.2 = .freeInstallDone callback resultCode item.want) ∧
    (∀ (i : Nat) (item : CallbackTaskItem) (resultCode : Int),
      s.calls[i]? = some (.deliver item resultCode) → item.callback ≠ none → item ∈ s.pushed) ∧
    (∀ item ∈ s.pushed, s.service.dmsCallbackTask.callbackMap.contains item.taskId = false →
      ¬ s.service.dmsCallbackTask.dmsCallbackHandler.Armed item.taskId) ∧
    (∀ (i : Nat) (call : FreeInstallCall) (taskId resultCode : Int) (item : CallbackTaskItem)
        (env : Env) (s' : FreeInstalls),
      s.calls[i]? = some call → call.taking = some (taskId, resultCode) →
      s.service.dmsCallbackTask.callbackMap[taskId]? = some item →
      FreeInstallStep.apply s (.block i env) = some s' →
        s'.calls[i]? = some (.deliver item resultCode) ∧
          s'.service.dmsCallbackTask.callbackMap.contains taskId = false) ∧
    ∀ (env : Env) (deviceId : String) (s' : FreeInstalls),
      FreeInstallStep.apply s (.deviceOffline env deviceId) = some s' →
        ∀ (taskId : Int) (item : CallbackTaskItem),
          s'.service.dmsCallbackTask.callbackMap[taskId]? = some item →
            item.deviceId ≠ deviceId := by
  have hinv : s.Inv :=
    h.invariant FreeInstalls.init_inv fun s step s' hi ha hs => hi.apply_inv ha hs
  refine ⟨hinv.once, fun item hi item' hi' he => hinv.eq_of_taskId hi hi' he, hinv.answers,
    fun i item code hi hc => ?_, fun item hi hn ha => ?_,
    fun i call taskId code item env s' hi ht hm hs => FreeInstalls.apply_taking hi ht hm hs,
    fun env deviceId s' hs => FreeInstalls.apply_offline hs⟩
  · rcases hinv.delivering i _ item hi rfl with rfl | hp
    · exact absurd rfl hc
    · exact hp
  · obtain ⟨h₀, h₁, -⟩ := hinv.pushed item hi
    have hg := hinv.generated
    exact hinv.armed item.taskId h₀ (by omega) ha (ExtTreeMap.contains_eq_false_iff.mp hn)

instance (s : FreeInstalls) : DecidablePred (FreeInstallStep.Assumed s)
  | .startRemoteFreeInstall .. => inferInstanceAs (Decidable (_ < _))
  | .deviceOffline .. => inferInstanceAs (Decidable (_ = true))
  | .block i env =>
    decidable_of_iff (env.parcelWrites = true ∨ ∀ call ∈ s.calls[i]?, call.delivering = none) (by
      constructor
      · rintro (hw | hcall) item resultCode hc
        · exact hw
        · cases hcall _ hc
      · intro h
        by_cases hw : env.parcelWrites = true
        · exact .inl hw
        · refine .inr fun call hc => ?_
          cases call with
          | deliver item resultCode => exact absurd (h item resultCode hc) hw
          | _ => rfl)
  | .notifyCompleteFreeInstallFromRemote .. | .timeout .. | .other _ => .isTrue trivial

/-- A free install on a device, for the callback with the id. -/
def installOn (i : Nat) (deviceId : String) (callback : Nat) : FreeInstallStep :=
  .startRemoteFreeInstall i (callerEnv true) { element := { deviceId := deviceId } } 10000 0 0
    (some callback)

/-- Task 1 on device "B" times out with code 3, and the result of "B" comes after it; task 2 on
device "C" is still in the table. -/
def installRun : List FreeInstallStep :=
  let block (i : Nat) : FreeInstallStep := .block i (callerEnv true)
  [installOn 0 "B" 7, block 0, installOn 1 "C" 8, block 1, .timeout 2 0 3, block 2, block 2,
    block 2, .notifyCompleteFreeInstallFromRemote 3 1 errOk, block 3, block 3, block 3]

/-- The code that an application is told. -/
def Effect.doneCode : Effect → Option Int
  | .freeInstallDone _ resultCode _ => some resultCode
  | _ => none

/-- Task 1 has left the table and is answered once, with the code of its timeout; task 2 is not
answered. -/
theorem free_install_once_timeout : ∃ s : FreeInstalls,
    s.delivered 1 = 1 ∧ s.task.callbackMap.contains 1 = false ∧ s.inDelivery 1 = 0 ∧
    s.delivered 2 = 0 ∧ s.task.callbackMap.contains 2 = true ∧
    (∃ item ∈ s.pushed, item.taskId = 1 ∧ item.callback = some 7 ∧
      s.answers = [(1, .freeInstallDone 7 3 item.want)]) ∧
    ¬ s.task.dmsCallbackHandler.Armed 1 := by
  have hrun : (Runs.exec (fun s step => if FreeInstallStep.Assumed s step then step.apply s
        else none) {} installRun).any (fun s =>
      s.delivered 1 = 1 ∧ s.task.callbackMap.contains 1 = false ∧ s.inDelivery 1 = 0 ∧
      s.task.callbackMap.contains 2 = true ∧
      s.pushed.map (fun item => (item.taskId, item.callback, item.launchType)) =
        [(1, some 7, .freeInstallStart), (2, some 8, .freeInstallStart)] ∧
      s.answers.map (fun answer => (answer.1, answer.2.doneCode)) = [(1, some 3)]) = true := by
    decide +kernel
  obtain ⟨s, hs, hcheck⟩ := (Option.any_eq_true _ _).mp hrun
  obtain ⟨hdelivered, hgone, hdelivery, hstays, hpushed, hanswers⟩ := of_decide_eq_true hcheck
  obtain ⟨honce, hsame, hanswered, -, harmed, -⟩ :=
    free_install_once (Runs.Reach.of_exec_checked hs)
  have hitems : ∀ e ∈ s.pushed.map (fun item => (item.taskId, item.callback, item.launchType)),
      ∃ item ∈ s.pushed, (item.taskId, item.callback, item.launchType) = e :=
    fun e he => List.mem_map.mp he
  rw [hpushed] at hitems
  obtain ⟨item, hi, he⟩ := hitems _ (.head _)
  obtain ⟨item', hi', he'⟩ := hitems _ (.tail _ (.head _))
  simp only [Prod.mk.injEq] at he he'
  refine ⟨s, hdelivered, hgone, hdelivery, ?_, hstays, ?_, he.1 ▸ harmed item hi (he.1 ▸ hgone)⟩
  · have hcount := honce item' hi' he'.2.2
    rw [he'.1, hstays, if_pos rfl] at hcount
    omega
  · obtain ⟨answer, ha, hcode⟩ := List.map_eq_singleton_iff.mp hanswers
    obtain ⟨hid, hcode⟩ := Prod.mk.injEq .. ▸ hcode
    have hmem : answer ∈ s.answers := ha ▸ List.mem_singleton_self answer
    obtain ⟨asked, hasked, hk, callback, code, hcallback, heffect⟩ := hanswered answer hmem
    obtain rfl := hsame asked hasked item hi (hk.trans (hid.trans he.1.symm))
    obtain rfl := Option.some.inj (hcallback.symm.trans he.2.1)
    obtain rfl : code = 3 := by
      rw [heffect] at hcode
      exact Option.some.inj hcode
    exact ⟨asked, hi, he.1, he.2.1, ha.trans (congrArg List.singleton (Prod.ext hid heffect))⟩

end DistributedSched

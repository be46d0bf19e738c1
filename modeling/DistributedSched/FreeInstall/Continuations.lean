import DistributedSched.FreeInstall.TaskIds

/-!
# FreeInstall — what becomes of a continuation

A free install of a continuation is a task in `callbackMap_` and, under the same id, a mission in
`continuationMissionMap_`.  The two are written and erased by blocks of their own; when the
install fails, the mission is looked up and the continuation is told (`notifyContinuation`).

* `ContinueInstalls`: the system, with what was stored and told so far, and the continuations that
  left the table without success.
* `FreeInstallStep.Proper`: the conditions on a step.  A continuation leaves the table by a result
  only, which finds its launch type and, if it is a failure, its mission; and a mission is stored
  while its task is there.
* `ContinueInstalls.Inv`: a continuation that failed is told, or on its way to be told, once.
* `failed_install_ends_continuation`: over every run of such steps, what is told was stored for
  that task, each continuation that failed is told once, and no mission is left behind.
* `failed_request_tells_nothing`: a request that fails, and a result that comes too early.
-/

namespace DistributedSched

open Std (ExtTreeMap)

namespace FreeInstallCall

/-- The task whose mission the call is to erase. -/
def completing : FreeInstallCall → Option Int
  | getMission taskId | notifyContinuation taskId _ | popMission taskId => some taskId
  | _ => none

/-- The task whose continuation the call is to tell. -/
def ending : FreeInstallCall → Option Int
  | getMission taskId | notifyContinuation taskId _ => some taskId
  | _ => none

def ends (taskId : Int) (call : FreeInstallCall) : Bool := call.ending = some taskId

end FreeInstallCall

namespace FreeInstalls

variable (s : FreeInstalls)

/-- A call is to erase the mission of the task. -/
def Completing (taskId : Int) : Prop :=
  ∃ (i : Nat) (call : FreeInstallCall), s.calls[i]? = some call ∧ call.completing = some taskId

/-- The calls that are to tell the continuation of the task. -/
def endings (taskId : Int) : Nat := s.calls.count fun _ call => call.ends taskId

/-- The task was pushed for a continuation, and has left the table. -/
def Gone (taskId : Int) : Prop := s.Pushed taskId ∧ s.task.callbackMap[taskId]? = none

end FreeInstalls

/-! ### The system with what it has done -/

structure ContinueInstalls where
  installs : FreeInstalls := {}
  /-- what `SetContinuationMissionMap` has stored: a task and its mission -/
  stored : List (Int × Int) := []
  /-- the missions given to `NotifyContinuationCallbackResult`, each with the task -/
  notified : List (Int × Int) := []
  /-- the continuations that left `callbackMap_` without success -/
  failed : List Int := []

namespace FreeInstallStep

/-- What the step stores. -/
def stores (s : FreeInstalls) : FreeInstallStep → List (Int × Int)
  | block i _ =>
    match s.calls[i]? with
    | some (.setMission taskId request) =>
      let task := s.task.setContinuationMissionMap taskId
        (request.want.getIntParam "sessionId" (-1))
      match s.task.continuationMissionMap[taskId]?, task.continuationMissionMap[taskId]? with
      | none, some missionId => [(taskId, missionId)]
      | _, _ => []
    | _ => []
  | _ => []

/-- What the step tells. -/
def notifies (s : FreeInstalls) : FreeInstallStep → List (Int × Int)
  | block i _ =>
    match s.calls[i]? with
    | some (.notifyContinuation taskId missionId) => [(taskId, missionId)]
    | _ => []
  | _ => []

/-- The continuations that the step takes out of the table without success. -/
def fails (s : FreeInstalls) : FreeInstallStep → List Int
  | block i _ =>
    match s.calls[i]? with
    | some (.pop taskId resultCode _) =>
      if resultCode ≠ errOk ∧ s.Continuing taskId then [taskId] else []
    | some (.fail taskId _) => if s.Continuing taskId then [taskId] else []
    | _ => []
  | deviceOffline _ deviceId =>
    s.task.callbackMap.toList.filterMap fun e =>
      if e.2.deviceId = deviceId ∧ e.2.launchType = .freeInstallContinue then some e.1 else none
  | _ => []

def applyTo (c : ContinueInstalls) (step : FreeInstallStep) : Option ContinueInstalls :=
  (step.apply c.installs).map fun installs =>
    { installs := installs
      stored := c.stored ++ step.stores c.installs
      notified := c.notified ++ step.notifies c.installs
      failed := c.failed ++ step.fails c.installs }

end FreeInstallStep

/-- The condition on a block. -/
def FreeInstallCall.Proper (c : ContinueInstalls) : FreeInstallCall → Prop
  | setMission taskId request => 0 < request.want.getIntParam "sessionId" (-1) →
    c.installs.task.callbackMap[taskId]? ≠ none ∨ c.installs.Completing taskId
  | fail taskId _ => ¬ c.installs.Continuing taskId
  | pop taskId resultCode .freeInstallStart => c.installs.Continuing taskId →
    resultCode = errOk ∧ c.installs.task.continuationMissionMap[taskId]? = none
  | pop taskId resultCode .freeInstallContinue => resultCode ≠ errOk → taskId ∉ c.failed
  | getMission taskId => c.installs.task.continuationMissionMap[taskId]? ≠ none
  | _ => True

/-- The condition on a step; `++currTaskId_` does not wrap. -/
def FreeInstallStep.Proper (c : ContinueInstalls) : FreeInstallStep → Prop
  | startRemoteFreeInstall .. => c.installs.task.currTaskId + 1 < 2 ^ 63
  | deviceOffline _ deviceId => ∀ (taskId : Int) (item : CallbackTaskItem),
    c.installs.task.callbackMap[taskId]? = some item → item.deviceId = deviceId →
      item.launchType ≠ .freeInstallContinue
  | block i _ => ∀ call, c.installs.calls[i]? = some call → call.Proper c
  | _ => True

/-! ### What holds between two blocks -/

namespace ContinueInstalls

/-- How often the continuation of a task was told. -/
def notifications (c : ContinueInstalls) (taskId : Int) : Nat :=
  c.notified.countP fun p => p.1 = taskId

structure Inv (c : ContinueInstalls) : Prop where
  missions : ∀ taskId missionId : Int,
    c.installs.task.continuationMissionMap[taskId]? = some missionId →
      (taskId, missionId) ∈ c.stored
  stored : ∀ p ∈ c.stored, c.installs.Pushed p.1
  single : (c.stored.map Prod.fst).Nodup
  unstored : ∀ (i : Nat) (taskId : Int) (request : FreeInstallRequest),
    c.installs.calls[i]? = some (.setMission taskId request) → ∀ p ∈ c.stored, p.1 ≠ taskId
  completing : ∀ (i : Nat) (call : FreeInstallCall) (taskId : Int),
    c.installs.calls[i]? = some call → call.completing = some taskId → c.installs.Gone taskId
  notifying : ∀ (i : Nat) (taskId missionId : Int),
    c.installs.calls[i]? = some (.notifyContinuation taskId missionId) →
      (taskId, missionId) ∈ c.stored
  notified : ∀ p ∈ c.notified, p ∈ c.stored ∧ c.installs.Gone p.1
  failed : ∀ taskId ∈ c.failed, c.installs.Gone taskId ∧
    c.notifications taskId + c.installs.endings taskId = 1
  keys : ∀ taskId : Int, c.installs.task.continuationMissionMap[taskId]? ≠ none →
    c.installs.task.callbackMap[taskId]? ≠ none ∨ c.installs.Completing taskId

variable {c : ContinueInstalls}

theorem init_inv : Inv {} where
  missions taskId missionId h := by simp at h
  stored _ h := absurd h List.not_mem_nil
  single := List.nodup_nil
  unstored i taskId request h := by simp at h
  completing i call taskId h := by simp at h
  notifying i taskId missionId h := by simp at h
  notified _ h := absurd h List.not_mem_nil
  failed _ h := absurd h List.not_mem_nil
  keys taskId h := by simp at h

/-! ### Calls -/

theorem ends_eq_true {taskId : Int} {call : FreeInstallCall} :
    call.ends taskId = true ↔ call.ending = some taskId := by
  rw [FreeInstallCall.ends, decide_eq_true_eq]

theorem completing_of_ends {taskId : Int} {call : FreeInstallCall}
    (h : call.ends taskId = true) : call.completing = some taskId := by
  rw [ends_eq_true] at h
  cases call with
  | getMission t => exact h
  | notifyContinuation t missionId => exact h
  | _ => cases h

/-- A call that completes no task is not to tell a continuation. -/
theorem ends_eq_false {call : FreeInstallCall} (h : call.completing = none) (taskId : Int) :
    call.ends taskId = false := by
  refine Bool.eq_false_iff.mpr fun hends => ?_
  have hc := completing_of_ends hends
  rw [h] at hc
  cases hc

/-- A call that completes the task still does, or is one that goes on completing it. -/
theorem completing_put {taskId : Int} {i : Nat} {next : Option FreeInstallCall}
    (h : c.installs.Completing taskId)
    (hkeep : ∀ call, c.installs.calls[i]? = some call → call.completing = some taskId →
      ∃ call', next = some call' ∧ call'.completing = some taskId) :
    FreeInstalls.Completing { c.installs with calls := c.installs.calls.put i next } taskId := by
  obtain ⟨j, call, hj, hc⟩ := h
  by_cases he : i = j
  · subst he
    obtain ⟨call', hn, hc'⟩ := hkeep call hj hc
    exact ⟨i, call', ExtTreeMap.getElem?_put_eq_some.mpr (.inl ⟨rfl, hn⟩), hc'⟩
  · exact ⟨j, call, ExtTreeMap.getElem?_put_eq_some.mpr (.inr ⟨he, hj⟩), hc⟩

theorem endings_put (i : Nat) (next : Option FreeInstallCall) (taskId : Int) :
    FreeInstalls.endings { c.installs with calls := c.installs.calls.put i next } taskId +
        (if c.installs.calls[i]?.any (·.ends taskId) then 1 else 0) =
      c.installs.endings taskId + if next.any (·.ends taskId) then 1 else 0 :=
  ExtTreeMap.count_put next

/-- A call goes on, and may have told a continuation. -/
theorem Inv.put (h : c.Inv) (i : Nat) (next : Option FreeInstallCall) (told : List (Int × Int))
    (hset : ∀ taskId request, next = some (.setMission taskId request) →
      ∀ p ∈ c.stored, p.1 ≠ taskId)
    (hcompleting : ∀ call taskId, next = some call → call.completing = some taskId →
      c.installs.Gone taskId)
    (hnotifying : ∀ taskId missionId, next = some (.notifyContinuation taskId missionId) →
      (taskId, missionId) ∈ c.stored)
    (htold : ∀ p ∈ told, p ∈ c.stored ∧ c.installs.Gone p.1)
    (hcount : ∀ taskId ∈ c.failed, told.countP (fun p => p.1 = taskId) +
        (if next.any (·.ends taskId) then 1 else 0) =
      if c.installs.calls[i]?.any (·.ends taskId) then 1 else 0)
    (hkeys : ∀ call taskId, c.installs.calls[i]? = some call → call.completing = some taskId →
      c.installs.task.continuationMissionMap[taskId]? ≠ none →
        ∃ call', next = some call' ∧ call'.completing = some taskId) :
    Inv { c with
      installs := { c.installs with calls := c.installs.calls.put i next }
      notified := c.notified ++ told } := by
  refine { h with
    unstored := fun j taskId request hj => ?_
    completing := fun j call taskId hj hc => ?_
    notifying := fun j taskId missionId hj => ?_
    notified := List.forall_mem_append.mpr ⟨h.notified, htold⟩
    failed := fun taskId ht => ?_
    keys := fun taskId hm => ?_ }
  · obtain ⟨-, hn⟩ | ⟨-, hj⟩ := ExtTreeMap.getElem?_put_eq_some.mp hj
    · exact hset taskId request hn
    · exact h.unstored j taskId request hj
  · obtain ⟨-, hn⟩ | ⟨-, hj⟩ := ExtTreeMap.getElem?_put_eq_some.mp hj
    · exact hcompleting call taskId hn hc
    · exact h.completing j call taskId hj hc
  · obtain ⟨-, hn⟩ | ⟨-, hj⟩ := ExtTreeMap.getElem?_put_eq_some.mp hj
    · exact hnotifying taskId missionId hn
    · exact h.notifying j taskId missionId hj
  · obtain ⟨hgone, hone⟩ := h.failed taskId ht
    have hput := endings_put (c := c) i next taskId
    have hmore := hcount taskId ht
    refine ⟨hgone, ?_⟩
    show List.countP _ (c.notified ++ told) + FreeInstalls.endings { c.installs with calls := _ }
      taskId = 1
    rw [List.countP_append]
    unfold notifications at hone
    omega
  · exact (h.keys taskId hm).imp_right fun hc =>
      completing_put hc fun call hi hcall => hkeys call taskId hi hcall hm

/-- A call that has nothing to do with missions begins, goes on or ends. -/
theorem Inv.put_plain (h : c.Inv) (i : Nat) (next : Option FreeInstallCall)
    (hold : ∀ call, c.installs.calls[i]? = some call → call.completing = none)
    (hset : ∀ taskId request, next = some (.setMission taskId request) →
      ∀ p ∈ c.stored, p.1 ≠ taskId)
    (hnext : ∀ call, next = some call → call.completing = none) :
    Inv { c with installs := { c.installs with calls := c.installs.calls.put i next } } := by
  have hnone : ∀ (o : Option FreeInstallCall) (taskId : Int),
      (∀ call, o = some call → call.completing = none) → o.any (·.ends taskId) = false := by
    intro o taskId ho
    cases o with
    | none => rfl
    | some call => exact ends_eq_false (ho call rfl) taskId
  have hput := h.put i next [] hset (fun call taskId hn hc => ?_) (fun taskId missionId hn => ?_)
    (fun p hp => absurd hp List.not_mem_nil) (fun taskId _ => ?_) (fun call taskId hi hc _ => ?_)
  · rwa [List.append_nil] at hput
  · rw [hnext call hn] at hc
    cases hc
  · cases hnext _ hn
  · rw [hnone _ taskId hold, hnone _ taskId hnext]
    rfl
  · rw [hold call hi] at hc
    cases hc

/-- The service changes, and items may be pushed.  No mission changes, a task that has left the
table stays out of it, and one that has a mission and is in it stays there. -/
theorem Inv.changed (h : c.Inv) {service : DistributedSchedService}
    {pushed : List CallbackTaskItem}
    (hm : service.dmsCallbackTask.continuationMissionMap =
      c.installs.task.continuationMissionMap)
    (hpushed : ∀ taskId, c.installs.Pushed taskId →
      FreeInstalls.Pushed { c.installs with service := service, pushed := pushed } taskId)
    (hout : ∀ taskId : Int, c.installs.Pushed taskId →
      c.installs.task.callbackMap[taskId]? = none →
        service.dmsCallbackTask.callbackMap[taskId]? = none)
    (hkeep : ∀ taskId : Int, c.installs.task.continuationMissionMap[taskId]? ≠ none →
      c.installs.task.callbackMap[taskId]? ≠ none →
        service.dmsCallbackTask.callbackMap[taskId]? ≠ none) :
    Inv { c with installs := { c.installs with service := service, pushed := pushed } } := by
  have hgone : ∀ taskId, c.installs.Gone taskId →
      FreeInstalls.Gone { c.installs with service := service, pushed := pushed } taskId :=
    fun taskId hg => ⟨hpushed taskId hg.1, hout taskId hg.1 hg.2⟩
  exact { h with
    missions := fun taskId missionId hmission =>
      h.missions taskId missionId ((congrArg (·[taskId]?) hm).symm.trans hmission)
    stored := fun p hp => hpushed p.1 (h.stored p hp)
    completing := fun i call taskId hi hc => hgone taskId (h.completing i call taskId hi hc)
    notified := fun p hp => (h.notified p hp).imp id (hgone p.1)
    failed := fun taskId hf => (h.failed taskId hf).imp (hgone taskId) id
    keys := fun taskId hmission => by
      have hmission : c.installs.task.continuationMissionMap[taskId]? ≠ none :=
        fun hn => hmission ((congrArg (·[taskId]?) hm).trans hn)
      exact (h.keys taskId hmission).imp_left (hkeep taskId hmission) }

/-- The service changes something else. -/
theorem Inv.same_tables (h : c.Inv) {service : DistributedSchedService}
    (ht : service.dmsCallbackTask.callbackMap = c.installs.task.callbackMap)
    (hm : service.dmsCallbackTask.continuationMissionMap =
      c.installs.task.continuationMissionMap) :
    Inv { c with installs := { c.installs with service := service } } := by
  refine h.changed hm (fun _ hp => hp) (fun taskId _ hn => ?_) fun taskId _ hold => ?_
  · rw [ht]
    exact hn
  · rw [ht]
    exact hold

/-! ### Tasks -/

/-- The mission of a task is stored for a continuation. -/
theorem Inv.continuing (h : c.Inv) (hids : c.installs.Ids) {taskId : Int}
    (hm : c.installs.task.continuationMissionMap[taskId]? ≠ none)
    (ht : c.installs.task.callbackMap[taskId]? ≠ none) : c.installs.Continuing taskId := by
  obtain ⟨missionId, hmission⟩ := Option.ne_none_iff_exists'.mp hm
  exact hids.continuing (h.stored _ (h.missions taskId missionId hmission)) ht

/-- Tasks without a mission leave the table. -/
theorem Inv.shrink (h : c.Inv) (hids : c.installs.Ids) {service : DistributedSchedService}
    (hm : service.dmsCallbackTask.continuationMissionMap =
      c.installs.task.continuationMissionMap)
    (hgone : ∀ taskId : Int, c.installs.task.callbackMap[taskId]? = none →
      service.dmsCallbackTask.callbackMap[taskId]? = none)
    (hkeep : ∀ taskId : Int, c.installs.Continuing taskId →
      c.installs.task.continuationMissionMap[taskId]? ≠ none →
        service.dmsCallbackTask.callbackMap[taskId]? ≠ none) :
    Inv { c with installs := { c.installs with service := service } } := by
  refine h.changed hm (fun _ hp => hp) (fun taskId _ hn => hgone taskId hn) ?_
  intro taskId hmission ht
  exact hkeep taskId (h.continuing hids hmission ht) hmission

/-- An item with a new id is pushed. -/
theorem Inv.push (h : c.Inv) {item : CallbackTaskItem}
    (hnew : ∀ taskId, c.installs.Pushed taskId → item.taskId ≠ taskId)
    {service : DistributedSchedService}
    (hm : service.dmsCallbackTask.continuationMissionMap =
      c.installs.task.continuationMissionMap)
    (ht : service.dmsCallbackTask.callbackMap =
      c.installs.task.callbackMap.insert item.taskId item) :
    Inv { c with installs := { c.installs with
      service := service, pushed := c.installs.pushed ++ [item] } } := by
  refine h.changed hm (fun _ hp => hp.append rfl) (fun taskId hp hn => ?_) fun taskId _ hold => ?_
  · rw [ht, ExtTreeMap.getElem?_insert_of_ne (hnew taskId hp)]
    exact hn
  · rw [ht, ExtTreeMap.getElem?_insert]
    split
    · exact Option.some_ne_none item
    · exact hold

/-- While a task is in the table its continuation is not told, and no call is to tell it. -/
theorem Inv.untold (h : c.Inv) {taskId : Int}
    (ht : c.installs.task.callbackMap[taskId]? ≠ none) :
    c.notifications taskId = 0 ∧ c.installs.endings taskId = 0 := by
  constructor
  · refine List.countP_eq_zero.mpr fun p hm he => ?_
    have hg := (h.notified p hm).2
    rw [of_decide_eq_true he] at hg
    exact ht hg.2
  · refine ExtTreeMap.count_eq_zero.mpr fun i call hi => Bool.eq_false_iff.mpr fun he => ?_
    exact ht (h.completing i call taskId hi (completing_of_ends he)).2

/-- A continuation is popped, by a call that is to erase its mission; after a failure it is also to
tell it. -/
theorem Inv.pop (h : c.Inv) {i : Nat} {call next : FreeInstallCall} {taskId : Int}
    (hi : c.installs.calls[i]? = some call) (hcall : call.completing = none)
    (hp : c.installs.Pushed taskId) (hnext : next.completing = some taskId)
    (hnotifying : ∀ k missionId, next ≠ .notifyContinuation k missionId) {fails : List Int}
    (hfails : fails = [] ∧ (taskId ∈ c.failed → next.ends taskId = false) ∨
      fails = [taskId] ∧ c.installs.task.callbackMap[taskId]? ≠ none ∧
        next.ends taskId = true) :
    Inv { c with
      installs := { c.installs with
        service := { c.installs.service with
          dmsCallbackTask := (c.installs.task.popCallback taskId).2 }
        calls := c.installs.calls.put i (some next) }
      failed := c.failed ++ fails } := by
  have htable : ∀ k : Int, (c.installs.task.popCallback taskId).2.callbackMap[k]? =
      if taskId = k then none else c.installs.task.callbackMap[k]? :=
    DmsCallbackTask.popCallback_getElem? _ _
  have hmissions := DmsCallbackTask.popCallback_continuationMissionMap c.installs.task taskId
  have hgone : ∀ k, c.installs.Gone k → FreeInstalls.Gone { c.installs with
      service := { c.installs.service with
        dmsCallbackTask := (c.installs.task.popCallback taskId).2 } } k := by
    intro k hg
    refine ⟨hg.1, (htable k).trans ?_⟩
    split
    · rfl
    · exact hg.2
  have hself : FreeInstalls.Gone { c.installs with
      service := { c.installs.service with
        dmsCallbackTask := (c.installs.task.popCallback taskId).2 } } taskId :=
    ⟨hp, (htable taskId).trans (if_pos rfl)⟩
  have hcount : ∀ k, FreeInstalls.endings { c.installs with
      calls := c.installs.calls.put i (some next) } k =
        c.installs.endings k + if next.ends k then 1 else 0 := by
    intro k
    have hput := endings_put (c := c) i (some next) k
    rw [hi, Option.any_some, Option.any_some, ends_eq_false hcall k] at hput
    exact hput
  refine {
    missions := fun k missionId hmission =>
      h.missions k missionId ((congrArg (·[k]?) hmissions).symm.trans hmission)
    stored := h.stored
    single := h.single
    unstored := fun j k request hj => ?_
    completing := fun j call' k hj hc => ?_
    notifying := fun j k missionId hj => ?_
    notified := fun p hm => (h.notified p hm).imp id (hgone p.1)
    failed := fun k hk => ?_
    keys := fun k hmission => ?_ }
  · obtain ⟨-, hn⟩ | ⟨-, hj⟩ := ExtTreeMap.getElem?_put_eq_some.mp hj
    · cases hn
      cases hnext
    · exact h.unstored j k request hj
  · obtain ⟨-, hn⟩ | ⟨-, hj⟩ := ExtTreeMap.getElem?_put_eq_some.mp hj
    · cases hn
      obtain rfl := Option.some.inj (hnext.symm.trans hc)
      exact hself
    · exact hgone k (h.completing j call' k hj hc)
  · obtain ⟨-, hn⟩ | ⟨-, hj⟩ := ExtTreeMap.getElem?_put_eq_some.mp hj
    · exact absurd (Option.some.inj hn) (hnotifying k missionId)
    · exact h.notifying j k missionId hj
  · show FreeInstalls.Gone _ k ∧ c.notifications k + FreeInstalls.endings { c.installs with
      calls := c.installs.calls.put i (some next) } k = 1
    rw [hcount k]
    obtain hk | hk := List.mem_append.mp hk
    · -- a failure is told by the call that has found it
      obtain ⟨hg, hone⟩ := h.failed k hk
      refine ⟨hgone k hg, ?_⟩
      have hnot : next.ends k = false := by
        refine Bool.eq_false_iff.mpr fun hn => ?_
        obtain rfl := Option.some.inj (hnext.symm.trans (completing_of_ends hn))
        obtain ⟨-, hnot⟩ | ⟨-, hin, -⟩ := hfails
        · rw [hnot hk] at hn
          cases hn
        · exact hin hg.2
      rw [hnot]
      exact hone
    · obtain ⟨rfl, -⟩ | ⟨rfl, hin, hn⟩ := hfails
      · cases hk
      obtain rfl := List.mem_singleton.mp hk
      obtain ⟨htold, hnone⟩ := h.untold hin
      exact ⟨hself, by rw [htold, hnone, hn]; rfl⟩
  · have hmission : c.installs.task.continuationMissionMap[k]? ≠ none :=
      fun hn => hmission ((congrArg (·[k]?) hmissions).trans hn)
    by_cases he : taskId = k
    · subst he
      exact .inr ⟨i, next, ExtTreeMap.getElem?_put_self .., hnext⟩
    · obtain hold | hc := h.keys k hmission
      · refine .inl fun hn => hold ?_
        exact (if_neg he).symm.trans ((htable k).symm.trans hn)
      · refine .inr (completing_put hc fun call' hj hc' => ?_)
        cases hi.symm.trans hj
        rw [hcall] at hc'
        cases hc'

/-- The mission of a task is erased, and the call returns. -/
theorem Inv.popMission (h : c.Inv) {i : Nat} {taskId : Int}
    (hi : c.installs.calls[i]? = some (.popMission taskId)) :
    Inv { c with installs := { c.installs with
      service := { c.installs.service with
        dmsCallbackTask := c.installs.task.popContinuationMissionMap taskId }
      calls := c.installs.calls.put i none } } := by
  have hmissions : ∀ k : Int,
      (c.installs.task.popContinuationMissionMap taskId).continuationMissionMap[k]? =
        if taskId = k then none else c.installs.task.continuationMissionMap[k]? := by
    intro k
    simp [DmsCallbackTask.popContinuationMissionMap, ExtTreeMap.getElem?_erase]
  have herased : Inv { c with installs := { c.installs with
      service := { c.installs.service with
        dmsCallbackTask := c.installs.task.popContinuationMissionMap taskId } } } :=
    { h with
      missions := fun k missionId hmission => by
        have hmission := (hmissions k).symm.trans hmission
        split at hmission
        · cases hmission
        · exact h.missions k missionId hmission
      keys := fun k hmission => by
        refine h.keys k fun hn => hmission ((hmissions k).trans ?_)
        split
        · rfl
        · exact hn }
  have hput := herased.put i none [] (fun _ _ hn => by cases hn) (fun _ _ hn => by cases hn)
    (fun _ _ hn => by cases hn) (fun p hp => absurd hp List.not_mem_nil)
    (fun k _ => ?_) (fun call k hj hc hmission => ?_)
  · rwa [List.append_nil] at hput
  · rw [show c.installs.calls[i]? = some (.popMission taskId) from hi]
    rfl
  · cases hi.symm.trans hj
    obtain rfl := Option.some.inj hc
    exact absurd ((hmissions _).trans (if_pos rfl)) hmission

/-- A mission is stored, under a task that has none and is in the table or being completed. -/
theorem Inv.store (h : c.Inv) {taskId missionId : Int} (hp : c.installs.Pushed taskId)
    (hfresh : ∀ p ∈ c.stored, p.1 ≠ taskId)
    (hset : ∀ (i : Nat) (request : FreeInstallRequest),
      c.installs.calls[i]? ≠ some (.setMission taskId request))
    (hthere : c.installs.task.callbackMap[taskId]? ≠ none ∨ c.installs.Completing taskId) :
    Inv { c with
      installs := { c.installs with service := { c.installs.service with
        dmsCallbackTask := { c.installs.task with
          continuationMissionMap :=
            c.installs.task.continuationMissionMap.insert taskId missionId } } }
      stored := c.stored ++ [(taskId, missionId)] } where
  missions k mission hk := by
    simp only [ExtTreeMap.getElem?_insert, Std.LawfulEqCmp.compare_eq_iff_eq] at hk
    split at hk
    · rename_i he
      cases hk
      exact List.mem_append_right _ (List.mem_singleton.mpr (by rw [he]))
    · exact List.mem_append_left _ (h.missions k mission hk)
  stored := List.forall_mem_append.mpr ⟨h.stored, List.forall_mem_singleton.mpr hp⟩
  single := by
    rw [← List.concat_eq_append, List.map_concat, List.nodup_concat]
    refine ⟨fun hm => ?_, h.single⟩
    obtain ⟨p, hp, he⟩ := List.mem_map.mp hm
    exact hfresh p hp he
  unstored j k request hj := by
    refine List.forall_mem_append.mpr ⟨h.unstored j k request hj, ?_⟩
    refine List.forall_mem_singleton.mpr ?_
    rintro rfl
    exact hset j request hj
  completing := h.completing
  notifying j k mission hj := List.mem_append_left _ (h.notifying j k mission hj)
  notified p hm := (h.notified p hm).imp_left (List.mem_append_left _)
  failed := h.failed
  keys k hk := by
    simp only [ExtTreeMap.getElem?_insert, Std.LawfulEqCmp.compare_eq_iff_eq] at hk
    split at hk
    · rename_i he
      exact he ▸ hthere
    · exact h.keys k hk

theorem Inv.setMission (h : c.Inv) (hids : c.installs.Ids) {i : Nat} {taskId : Int}
    {request : FreeInstallRequest}
    (hi : c.installs.calls[i]? = some (.setMission taskId request))
    (hthere : 0 < request.want.getIntParam "sessionId" (-1) →
      c.installs.task.callbackMap[taskId]? ≠ none ∨ c.installs.Completing taskId) (env : Env) :
    Inv { c with
      installs := { c.installs with
        service := { c.installs.service with
          dmsCallbackTask := c.installs.task.setContinuationMissionMap taskId
            (request.want.getIntParam "sessionId" (-1)) }
        calls := c.installs.calls.put i (some (.send taskId request)) }
      stored := c.stored ++ (FreeInstallStep.block i env).stores c.installs } := by
  have hfresh := h.unstored i taskId request hi
  have hnone : c.installs.task.continuationMissionMap[taskId]? = none := by
    refine Option.eq_none_iff_forall_ne_some.mpr fun missionId hm => ?_
    exact hfresh _ (h.missions taskId missionId hm) rfl
  have hsend := h.put_plain i (some (.send taskId request))
    (ExtTreeMap.forall_getElem? hi rfl) (fun _ _ hn => by cases hn)
    (fun call hn => by cases hn; rfl)
  simp only [FreeInstallStep.stores, hi, hnone]
  generalize hsession : request.want.getIntParam "sessionId" (-1) = missionId
  rw [hsession] at hthere
  unfold DmsCallbackTask.setContinuationMissionMap
  split
  · simp only [hnone, List.append_nil]
    exact hsend.same_tables rfl rfl
  · rename_i hpos
    rw [not_or, Int.not_le, Int.not_le] at hpos
    simp only [ExtTreeMap.insertIfNew_eq_insert hnone, ExtTreeMap.getElem?_insert_self]
    refine hsend.store (hids.setting i taskId request hi) hfresh (fun j request' hj => ?_) ?_
    · -- no other call stores under this id
      obtain ⟨-, hn⟩ | ⟨hne, hj⟩ := ExtTreeMap.getElem?_put_eq_some.mp hj
      · cases hn
      refine hne (hids.exclusive i j taskId ?_ ?_)
      · rw [FreeInstalls.starting, hi]; rfl
      · rw [FreeInstalls.starting, hj]; rfl
    · refine (hthere hpos.2).imp_right fun hc => completing_put hc fun call hj hc' => ?_
      cases hi.symm.trans hj
      cases hc'

/-! ### Every step -/

/-- The other counters of the system are not looked at. -/
theorem Inv.counters (h : c.Inv) (generated : Nat) (answers : List (Int × Effect)) :
    Inv { c with installs := { c.installs with generated := generated, answers := answers } } :=
  { h with }

/-- A call gets a new id. -/
theorem Inv.start (h : c.Inv) {i : Nat}
    (hold : ∀ call, c.installs.calls[i]? = some call → call.completing = none)
    (request : FreeInstallRequest) :
    Inv { c with installs := { c.installs with
      service := { c.installs.service with dmsCallbackTask := c.installs.task.generateTaskId.2 }
      calls := c.installs.calls.put i (some (.push c.installs.task.generateTaskId.1 request))
      generated := c.installs.generated + 1 } } := by
  have hput := h.put_plain i (some (.push c.installs.task.generateTaskId.1 request)) hold
    (fun _ _ hn => by cases hn) fun _ hn => by cases hn; rfl
  have htables : Inv { c with installs := { c.installs with
      service := { c.installs.service with dmsCallbackTask := c.installs.task.generateTaskId.2 }
      calls := c.installs.calls.put i (some (.push c.installs.task.generateTaskId.1 request)) } } :=
    hput.same_tables rfl rfl
  exact htables.counters (c.installs.generated + 1) c.installs.answers

theorem Inv.pushBlock (h : c.Inv) (hids : c.installs.Ids) {i : Nat} {taskId : Int}
    {request : FreeInstallRequest} (hi : c.installs.calls[i]? = some (.push taskId request))
    (env : Env) :
    let b := (FreeInstallCall.push taskId request).block env c.installs.service
    Inv { c with installs := { c.installs with
      service := b.service, calls := c.installs.calls.put i b.next
      pushed := c.installs.pushed ++ b.pushed.toList } } := by
  have hold : ∀ call, c.installs.calls[i]? = some call → call.completing = none :=
    ExtTreeMap.forall_getElem? hi rfl
  have hnew : ∀ k, c.installs.Pushed k → taskId ≠ k := by
    rintro k ⟨x, hx, rfl, -⟩
    exact (hids.unpushed i taskId request hi x hx).symm
  simp only [FreeInstallCall.block]
  rcases c.installs.task.pushCallback_cases env.sendEvent taskId request.callback
    request.want.element.deviceId (DistributedSchedService.launchTypeOf request.want)
    request.want with hp | ⟨-, -, -, hp⟩
  · rw [hp, if_pos (show invalidParametersErr ≠ errOk by decide)]
    simp only [Option.toList_none, List.append_nil]
    exact h.put_plain i none hold (fun _ _ hn => by cases hn) fun _ hn => by cases hn
  · rw [hp, if_neg (show ¬ errOk ≠ errOk by decide)]
    simp only [ExtTreeMap.getElem?_insert_self, Option.toList_some]
    have hcall := h.put_plain i (some (if DistributedSchedService.launchTypeOf request.want =
        .freeInstallContinue then .setMission taskId request else .send taskId request)) hold
      (fun k request' hn p hp => ?_) fun call hn => ?_
    · exact @Inv.push _ hcall ⟨request.callback, taskId,
        DistributedSchedService.launchTypeOf request.want, request.want.element.deviceId,
        request.want⟩ hnew _ rfl rfl
    · replace hn := Option.some.inj hn
      split at hn <;> cases hn
      exact (hnew p.1 (h.stored p hp)).symm
    · cases hn
      split <;> rfl

/-- A task is popped to be delivered, and no mission is left for it. -/
theorem Inv.deliverPopped (h : c.Inv) (hids : c.installs.Ids) (i : Nat) {taskId : Int}
    (hold : ∀ call, c.installs.calls[i]? = some call → call.completing = none)
    (hnone : c.installs.Continuing taskId →
      c.installs.task.continuationMissionMap[taskId]? = none) (resultCode : Int) :
    Inv { c with installs := { c.installs with
      service := { c.installs.service with
        dmsCallbackTask := (c.installs.task.popCallback taskId).2 }
      calls := c.installs.calls.put i
        (some (.deliver (c.installs.task.popCallback taskId).1 resultCode)) } } := by
  have htable : ∀ k : Int, (c.installs.task.popCallback taskId).2.callbackMap[k]? =
      if taskId = k then none else c.installs.task.callbackMap[k]? :=
    DmsCallbackTask.popCallback_getElem? _ _
  have hcall := h.put_plain i (some (.deliver (c.installs.task.popCallback taskId).1 resultCode))
    hold (fun _ _ hn => by cases hn) fun call hn => by cases hn; rfl
  refine hcall.shrink (hids.put_plain i _ rfl fun _ _ hn => by cases hn)
    (DmsCallbackTask.popCallback_continuationMissionMap ..) (fun k hk => ?_) fun k hk hm => ?_
  · refine (htable k).trans ?_
    split
    · rfl
    · exact hk
  · have hne : taskId ≠ k := by
      rintro rfl
      exact hm (hnone hk)
    exact fun hn => hk.ne_none ((if_neg hne).symm.trans ((htable k).symm.trans hn))

theorem Inv.popBlock (h : c.Inv) (hids : c.installs.Ids) {i : Nat} {taskId resultCode : Int}
    {launchType : LaunchType}
    (hi : c.installs.calls[i]? = some (.pop taskId resultCode launchType))
    (hok : (FreeInstallCall.pop taskId resultCode launchType).Proper c) (env : Env) :
    let b := (FreeInstallCall.pop taskId resultCode launchType).block env c.installs.service
    Inv { c with
      installs := { c.installs with service := b.service, calls := c.installs.calls.put i b.next }
      failed := c.failed ++ (FreeInstallStep.block i env).fails c.installs } := by
  have hold : ∀ call, c.installs.calls[i]? = some call → call.completing = none :=
    ExtTreeMap.forall_getElem? hi rfl
  simp only [FreeInstallCall.block, FreeInstallStep.fails, hi]
  cases launchType with
  | freeInstallStart =>
      have hnot : ¬ (resultCode ≠ errOk ∧ c.installs.Continuing taskId) :=
        fun hc => hc.1 (hok hc.2).1
      rw [if_neg hnot, List.append_nil]
      exact h.deliverPopped hids i hold (fun hc => (hok hc).2) resultCode
  | freeInstallContinue =>
      have hp := hids.continues i taskId resultCode hi
      by_cases hr : resultCode = errOk
      · simp only [hr, if_true, ne_eq, not_true_eq_false, false_and, if_false]
        exact h.pop hi rfl hp rfl (fun _ _ hn => by cases hn) (.inl ⟨rfl, fun _ => rfl⟩)
      · simp only [hr, if_false, ne_eq, not_false_eq_true, true_and]
        refine h.pop hi rfl hp rfl (fun _ _ hn => by cases hn) ?_
        split
        · rename_i hc
          exact .inr ⟨rfl, hc.ne_none, by rw [ends_eq_true]; rfl⟩
        · exact .inl ⟨rfl, fun hf => absurd hf (hok hr)⟩

/-- The mission that is found was stored for the task. -/
theorem Inv.getMissionBlock (h : c.Inv) (hids : c.installs.Ids) {i : Nat} {taskId : Int}
    (hi : c.installs.calls[i]? = some (.getMission taskId))
    (hok : (FreeInstallCall.getMission taskId).Proper c) :
    Inv { c with installs := { c.installs with
      calls := c.installs.calls.put i (some (.notifyContinuation taskId
        (c.installs.task.getContinuaionMissionId taskId))) } } := by
  obtain ⟨missionId, hm⟩ := Option.ne_none_iff_exists'.mp hok
  have hgone := h.completing i _ taskId hi rfl
  obtain ⟨item, hitem, rfl, -⟩ := hgone.1
  have hpos := (hids.pushed item hitem).1
  have hfound : c.installs.task.getContinuaionMissionId item.taskId = missionId := by
    rw [DmsCallbackTask.getContinuaionMissionId, if_neg (by omega), hm]
    rfl
  rw [hfound]
  have hput := h.put i (some (.notifyContinuation item.taskId missionId)) []
    (fun _ _ hn => by cases hn) (fun call k hn hc => ?_) (fun k mission hn => ?_)
    (fun p hp => absurd hp List.not_mem_nil) (fun k _ => ?_) (fun call k hj hc _ => ?_)
  · rwa [List.append_nil] at hput
  · cases hn
    cases hc
    exact hgone
  · cases hn
    exact h.missions _ missionId hm
  · rw [hi]
    exact Nat.zero_add _
  · cases hi.symm.trans hj
    exact ⟨_, rfl, hc⟩

theorem Inv.notifyBlock (h : c.Inv) {i : Nat} {taskId missionId : Int}
    (hi : c.installs.calls[i]? = some (.notifyContinuation taskId missionId)) :
    Inv { c with
      installs := { c.installs with calls := c.installs.calls.put i (some (.popMission taskId)) }
      notified := c.notified ++ [(taskId, missionId)] } := by
  have hgone := h.completing i _ taskId hi rfl
  have hstored := h.notifying i taskId missionId hi
  refine h.put i (some (.popMission taskId)) [(taskId, missionId)]
    (fun _ _ hn => by cases hn) (fun call k hn hc => ?_) (fun _ _ hn => by cases hn)
    (List.forall_mem_singleton.mpr ⟨hstored, hgone⟩) (fun k _ => ?_) (fun call k hj hc _ => ?_)
  · cases hn
    cases hc
    exact hgone
  · rw [hi, List.countP_singleton]
    show _ + 0 = if decide (some taskId = some k) = true then 1 else 0
    simp only [decide_eq_true_eq, Option.some.injEq, Nat.add_zero]
  · cases hi.symm.trans hj
    exact ⟨_, rfl, hc⟩

theorem Inv.block (h : c.Inv) (hids : c.installs.Ids) {i : Nat} {call : FreeInstallCall}
    (hi : c.installs.calls[i]? = some call) (hok : call.Proper c) (env : Env) :
    let b := call.block env c.installs.service
    Inv {
      installs := { c.installs with
        service := b.service, calls := c.installs.calls.put i b.next
        pushed := c.installs.pushed ++ b.pushed.toList }
      stored := c.stored ++ (FreeInstallStep.block i env).stores c.installs
      notified := c.notified ++ (FreeInstallStep.block i env).notifies c.installs
      failed := c.failed ++ (FreeInstallStep.block i env).fails c.installs } := by
  have hplain : ∀ {call' : FreeInstallCall}, call = call' → call'.completing = none →
      ∀ other, c.installs.calls[i]? = some other → other.completing = none := by
    rintro call' rfl hc
    exact ExtTreeMap.forall_getElem? hi hc
  cases call with
  | push taskId request =>
      simp only [FreeInstallStep.stores, FreeInstallStep.notifies, FreeInstallStep.fails, hi,
        List.append_nil]
      exact h.pushBlock hids hi env
  | setMission taskId request =>
      simp only [FreeInstallStep.notifies, FreeInstallStep.fails, hi, List.append_nil,
        FreeInstallCall.block, Option.toList_none]
      exact h.setMission hids hi hok env
  | send taskId request =>
      simp only [FreeInstallStep.stores, FreeInstallStep.notifies, FreeInstallStep.fails, hi,
        List.append_nil, FreeInstallCall.block]
      split
      · simp only [Option.toList_none, List.append_nil]
        exact h.put_plain i none (hplain rfl rfl) (fun _ _ hn => by cases hn)
          fun _ hn => by cases hn
      · simp only [Option.toList_none, List.append_nil]
        split
        · exact h.put_plain i _ (hplain rfl rfl) (fun _ _ hn => by cases hn)
            fun _ hn => by cases hn; rfl
        · exact h.put_plain i none (hplain rfl rfl) (fun _ _ hn => by cases hn)
            fun _ hn => by cases hn
  | fail taskId result =>
      have hnot : ¬ c.installs.Continuing taskId := hok
      simp only [FreeInstallStep.stores, FreeInstallStep.notifies, FreeInstallStep.fails, hi,
        if_neg hnot, List.append_nil, FreeInstallCall.block, Option.toList_none]
      exact h.deliverPopped hids i (hplain rfl rfl) (fun hc => absurd hc hnot) result
  | getLaunchType taskId resultCode =>
      simp only [FreeInstallStep.stores, FreeInstallStep.notifies, FreeInstallStep.fails, hi,
        List.append_nil, FreeInstallCall.block, Option.toList_none]
      exact h.put_plain i _ (hplain rfl rfl) (fun _ _ hn => by cases hn)
        fun _ hn => by cases hn; rfl
  | pop taskId resultCode launchType =>
      simp only [FreeInstallStep.stores, FreeInstallStep.notifies, hi, List.append_nil]
      have hpop := h.popBlock hids hi hok env
      simpa only [FreeInstallCall.block, Option.toList_none, List.append_nil] using hpop
  | deliver item resultCode =>
      simp only [FreeInstallStep.stores, FreeInstallStep.notifies, FreeInstallStep.fails, hi,
        List.append_nil, FreeInstallCall.block, Option.toList_none]
      exact h.put_plain i none (hplain rfl rfl) (fun _ _ hn => by cases hn)
        fun _ hn => by cases hn
  | getMission taskId =>
      simp only [FreeInstallStep.stores, FreeInstallStep.notifies, FreeInstallStep.fails, hi,
        List.append_nil, FreeInstallCall.block, Option.toList_none]
      exact h.getMissionBlock hids hi hok
  | notifyContinuation taskId missionId =>
      simp only [FreeInstallStep.stores, FreeInstallStep.notifies, FreeInstallStep.fails, hi,
        List.append_nil, FreeInstallCall.block, Option.toList_none]
      exact (h.notifyBlock hi).same_tables rfl rfl
  | popMission taskId =>
      simp only [FreeInstallStep.stores, FreeInstallStep.notifies, FreeInstallStep.fails, hi,
        List.append_nil, FreeInstallCall.block, Option.toList_none]
      exact h.popMission hi

/-- A device goes offline, for which no continuation is in the table. -/
theorem Inv.offline (h : c.Inv) (hids : c.installs.Ids) {env : Env} {deviceId : String}
    (hok : (FreeInstallStep.deviceOffline env deviceId).Proper c) :
    Inv { c with installs := { c.installs with
      service := (c.installs.service.processFreeInstallOffline env deviceId).1 } } := by
  have hmap := DmsCallbackTask.notifyDeviceOffline_getElem? env c.installs.task deviceId
  refine h.shrink hids rfl (fun k hk => ?_) fun k hk _ hn => ?_
  · refine (hmap k).trans ?_
    rw [hk]
    rfl
  · obtain ⟨item, hitem, hl⟩ := FreeInstalls.continuing_iff.mp hk
    have hn := (hmap k).symm.trans hn
    rw [hitem, Option.filter_eq_none_iff] at hn
    have hd : item.deviceId = deviceId := by simpa using hn item rfl
    exact hok k item hitem hd hl

theorem fails_offline {env : Env} {deviceId : String}
    (hok : (FreeInstallStep.deviceOffline env deviceId).Proper c) :
    (FreeInstallStep.deviceOffline env deviceId).fails c.installs = [] := by
  refine List.filterMap_eq_nil_iff.mpr fun e he => if_neg ?_
  rintro ⟨hd, hl⟩
  exact hok e.1 e.2 (ExtTreeMap.mem_toList_iff_getElem?_eq_some.mp he) hd hl

theorem proper_noWrap {step : FreeInstallStep} (hok : step.Proper c) : step.NoWrap c.installs := by
  cases step with
  | startRemoteFreeInstall => exact hok
  | _ => exact trivial

theorem Inv.step (h : c.Inv) (hids : c.installs.Ids) {c' : ContinueInstalls}
    {step : FreeInstallStep} (hok : step.Proper c) (hs : step.applyTo c = some c') : c'.Inv := by
  obtain ⟨installs, happly, rfl⟩ := Option.map_eq_some_iff.mp hs
  have hidle : ∀ {i : Nat}, c.installs.calls[i]? = none →
      ∀ call, c.installs.calls[i]? = some call → call.completing = none := by
    intro i hn call hc
    rw [hn] at hc
    cases hc
  cases step with
  | startRemoteFreeInstall i env want callerUid requestCode accessToken callback =>
      simp only [FreeInstallStep.stores, FreeInstallStep.notifies, FreeInstallStep.fails,
        List.append_nil]
      rcases FreeInstallStep.apply_start happly with rfl | ⟨hn, request, rfl⟩
      · exact h
      · exact h.start (hidle hn) request
  | notifyCompleteFreeInstallFromRemote i taskId resultCode =>
      simp only [FreeInstallStep.stores, FreeInstallStep.notifies, FreeInstallStep.fails,
        List.append_nil]
      obtain ⟨hn, rfl⟩ := FreeInstallStep.apply_notify happly
      exact h.put_plain i _ (hidle hn) (fun _ _ hn => by cases hn) fun _ hn => by cases hn; rfl
  | timeout i k resultCode =>
      simp only [FreeInstallStep.stores, FreeInstallStep.notifies, FreeInstallStep.fails,
        List.append_nil]
      obtain ⟨hn, task, rfl⟩ := FreeInstallStep.apply_timeout happly
      refine (h.put_plain i _ (hidle hn) (fun _ _ hn => ?_) fun call hn => ?_).same_tables rfl rfl
      · obtain ⟨taskId, -, hn⟩ := Option.map_eq_some_iff.mp hn
        cases hn
      · obtain ⟨taskId, -, rfl⟩ := Option.map_eq_some_iff.mp hn
        rfl
  | deviceOffline env deviceId =>
      simp only [FreeInstallStep.stores, FreeInstallStep.notifies, fails_offline hok,
        List.append_nil]
      cases happly
      exact (h.offline hids hok).counters c.installs.generated _
  | block i env =>
      obtain ⟨call, hi, rfl⟩ := FreeInstallStep.apply_block happly
      exact (h.block hids hi (hok call hi) env).counters c.installs.generated _
  | other service =>
      simp only [FreeInstallStep.stores, FreeInstallStep.notifies, FreeInstallStep.fails,
        List.append_nil]
      cases happly
      exact h.same_tables rfl rfl

end ContinueInstalls

/-! ### Every run -/

/-- What is asked of the system: `stored`, a continuation is told about a mission that was stored
for its task; `once`, one that failed is told once, when no call is to tell it any more; `keys`, a
mission is kept for a task that is in the table or being completed. -/
structure ContinueInstalls.Ended (c : ContinueInstalls) : Prop where
  stored : ∀ p ∈ c.notified, p ∈ c.stored
  single : (c.stored.map Prod.fst).Nodup
  once : ∀ taskId ∈ c.failed,
    (∀ (i : Nat) (call : FreeInstallCall), c.installs.calls[i]? = some call →
      call.ending ≠ some taskId) →
    ∃ missionId, (taskId, missionId) ∈ c.stored ∧
      c.notified.filter (fun p => p.1 = taskId) = [(taskId, missionId)]
  keys : ∀ taskId : Int, c.installs.task.continuationMissionMap[taskId]? ≠ none →
    c.installs.task.callbackMap[taskId]? ≠ none ∨ c.installs.Completing taskId

theorem ContinueInstalls.Inv.ended {c : ContinueInstalls} (h : c.Inv) : c.Ended where
  stored p hp := (h.notified p hp).1
  single := h.single
  once taskId hf hdone := by
    have hnone : c.installs.endings taskId = 0 := by
      refine ExtTreeMap.count_eq_zero.mpr fun i call hi => Bool.eq_false_iff.mpr fun he => ?_
      exact hdone i call hi (ends_eq_true.mp he)
    have hone := (h.failed taskId hf).2
    rw [hnone, Nat.add_zero, notifications, List.countP_eq_length_filter] at hone
    obtain ⟨p, hp⟩ := List.length_eq_one_iff.mp hone
    obtain ⟨hm, he⟩ := List.mem_filter.mp (hp ▸ List.mem_singleton_self p)
    obtain rfl := of_decide_eq_true he
    exact ⟨p.2, (h.notified p hm).1, hp⟩
  keys := h.keys

/-- **A failed free install ends its continuation.**  In a run of proper steps what is told was
stored for that task, each continuation that failed is told its mission once, and a mission is kept
only for a task that is in the table or being completed. -/
theorem failed_install_ends_continuation {c : ContinueInstalls}
    (h : Runs.Reach FreeInstallStep.applyTo (fun c step => step.Proper c) {} c) : c.Ended := by
  have hinv : c.installs.Ids ∧ c.Inv := by
    refine h.invariant (P := fun c => c.installs.Ids ∧ c.Inv)
      ⟨FreeInstalls.init_ids, ContinueInstalls.init_inv⟩ fun c step c' hi hok hs => ?_
    refine ⟨?_, hi.2.step hi.1 hok hs⟩
    obtain ⟨installs, happly, rfl⟩ := Option.map_eq_some_iff.mp hs
    exact hi.1.apply (ContinueInstalls.proper_noWrap hok) happly
  exact hinv.2.ended

/-- The continuation of mission 7 on device "B". -/
def continueOnB : FreeInstallStep :=
  .startRemoteFreeInstall 0 (callerEnv true)
    { element := { deviceId := "B" }, flags := Want.flagAbilityContinuation
      params := (∅ : Map String WantParam).insert "sessionId" (.int 7) } 10000 0 0 none

/-- The remote device answers that the install has failed, and mission 7 is told. -/
theorem failed_install_ends_continuation_seven : ∃ c : ContinueInstalls,
    c.failed = [1] ∧ c.notified = [(1, 7)] ∧ c.Ended := by
  refine ⟨_, rfl, rfl, failed_install_ends_continuation (.next (.next (.next (.next (.next (.next
    (.next (.next (.next (.next .init
    (l := continueOnB) (show (1 : Int) + 1 < 2 ^ 63 by decide) rfl)
    (l := .block 0 (callerEnv true)) (ExtTreeMap.forall_getElem? rfl trivial) rfl)
    (l := .block 0 (callerEnv true)) (ExtTreeMap.forall_getElem? rfl fun _ =>
      .inl (Option.some_ne_none _)) rfl)
    (l := .block 0 (callerEnv true)) (ExtTreeMap.forall_getElem? rfl trivial) rfl)
    (l := .notifyCompleteFreeInstallFromRemote 1 1 5) trivial rfl)
    (l := .block 1 (callerEnv true)) (ExtTreeMap.forall_getElem? rfl trivial) rfl)
    (l := .block 1 (callerEnv true)) (ExtTreeMap.forall_getElem? rfl fun _ =>
      List.not_mem_nil) rfl)
    (l := .block 1 (callerEnv true)) (ExtTreeMap.forall_getElem? rfl
      (Option.some_ne_none _)) rfl)
    (l := .block 1 (callerEnv true)) (ExtTreeMap.forall_getElem? rfl trivial) rfl)
    (l := .block 1 (callerEnv true)) (ExtTreeMap.forall_getElem? rfl trivial) rfl)⟩

/-- **A continuation that is not ended.**  The request to the remote device fails: the task is
popped, nobody tells mission 7, and the mission stays.  And a result comes between the push and the
block that stores the mission: an error code is told in its place. -/
theorem failed_request_tells_nothing :
    (∃ c : ContinueInstalls, Runs.exec FreeInstallStep.applyTo {}
      (continueOnB :: List.replicate 2 (.block 0 (callerEnv true)) ++ List.replicate 3 (.block 0
        { callerEnv true with remoteResult := fun _ => invalidRemoteParametersErr })) = some c ∧
      c.installs.calls.isEmpty = true ∧ c.failed = [1] ∧ c.notified = [] ∧
      c.installs.task.continuationMissionMap[(1 : Int)]? = some 7 ∧ ¬ c.Ended) ∧
    ∃ c : ContinueInstalls, Runs.exec FreeInstallStep.applyTo {}
      (continueOnB :: .block 0 (callerEnv true) ::
        .notifyCompleteFreeInstallFromRemote 1 1 5 ::
        List.replicate 4 (.block 1 (callerEnv true))) = some c ∧
      c.notified = [(1, invalidParametersErr)] ∧ c.stored = [] ∧ ¬ c.Ended := by
  refine ⟨⟨_, rfl, rfl, rfl, rfl, rfl, fun h => ?_⟩, _, rfl, rfl, rfl, fun h => ?_⟩
  · obtain hin | ⟨i, call, hi, -⟩ := h.keys 1 (Option.some_ne_none 7)
    · exact hin rfl
    · cases hi
  · cases h.stored (1, invalidParametersErr) List.mem_cons_self

end DistributedSched

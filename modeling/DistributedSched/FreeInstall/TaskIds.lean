import DistributedSched.FreeInstall.Answers

/-!
# FreeInstall — the ids of the tasks

A task id is generated for one `StartRemoteFreeInstall`, which pushes it and, for a continuation,
stores its mission.  This holds as long as `currTaskId_` does not wrap.

* `Ids`: no two calls write one id, and an item is found under the id it was pushed with.
* `Ids.apply`: every step keeps it.
-/

namespace DistributedSched

open Std (ExtTreeMap)
open Custody
open DistributedSchedService

namespace FreeInstallCall

/-- The id of a task that a `StartRemoteFreeInstall` still writes. -/
def starting : FreeInstallCall → Option Int
  | push taskId _ | setMission taskId _ => some taskId
  | _ => none

end FreeInstallCall

namespace FreeInstalls

variable (s : FreeInstalls)

def starting (i : Nat) : Option Int := s.calls[i]?.bind FreeInstallCall.starting

/-- The task is in the table, for a continuation. -/
def Continuing (taskId : Int) : Prop :=
  s.task.callbackMap[taskId]?.any (fun item => item.launchType = .freeInstallContinue) = true

instance (taskId : Int) : Decidable (s.Continuing taskId) :=
  inferInstanceAs (Decidable (_ = true))

/-- The task was pushed, for a continuation. -/
def Pushed (taskId : Int) : Prop :=
  ∃ item ∈ s.pushed, item.taskId = taskId ∧ item.launchType = .freeInstallContinue

end FreeInstalls

/-- `++currTaskId_` does not wrap. -/
def FreeInstallStep.NoWrap (s : FreeInstalls) : FreeInstallStep → Prop
  | startRemoteFreeInstall .. => s.task.currTaskId + 1 < 2 ^ 63
  | _ => True

namespace FreeInstalls

/-- A task id is given out once, and an item is found under its own. -/
structure Ids (s : FreeInstalls) : Prop where
  currTaskId : s.task.currTaskId = s.generated + 1
  exclusive : Exclusive s.starting
  issued : ∀ taskId, Held s.starting taskId → taskId ≤ s.generated
  unpushed : ∀ (i : Nat) (taskId : Int) (request : FreeInstallRequest),
    s.calls[i]? = some (.push taskId request) → ∀ item ∈ s.pushed, item.taskId ≠ taskId
  pushed : ∀ item ∈ s.pushed, 0 < item.taskId ∧ item.taskId ≤ s.generated
  unique : (s.pushed.map CallbackTaskItem.taskId).Nodup
  table : ∀ (taskId : Int) (item : CallbackTaskItem), s.task.callbackMap[taskId]? = some item →
    item.taskId = taskId ∧ item ∈ s.pushed
  setting : ∀ (i : Nat) (taskId : Int) (request : FreeInstallRequest),
    s.calls[i]? = some (.setMission taskId request) → s.Pushed taskId
  continues : ∀ (i : Nat) (taskId resultCode : Int),
    s.calls[i]? = some (.pop taskId resultCode .freeInstallContinue) → s.Pushed taskId

variable {s : FreeInstalls}

theorem continuing_iff {taskId : Int} :
    s.Continuing taskId ↔ ∃ item, s.task.callbackMap[taskId]? = some item ∧
      item.launchType = .freeInstallContinue := by
  unfold Continuing
  cases s.task.callbackMap[taskId]? <;> simp

theorem Continuing.ne_none {taskId : Int} (h : s.Continuing taskId) :
    s.task.callbackMap[taskId]? ≠ none := by
  obtain ⟨item, hi, -⟩ := continuing_iff.mp h
  exact hi ▸ Option.some_ne_none item

/-- A continuation that was pushed and is in the table is there as a continuation. -/
theorem Ids.continuing (h : s.Ids) {taskId : Int} (hp : s.Pushed taskId)
    (ht : s.task.callbackMap[taskId]? ≠ none) : s.Continuing taskId := by
  obtain ⟨item, hi⟩ := Option.ne_none_iff_exists'.mp ht
  obtain ⟨pushed, hm, hid, hl⟩ := hp
  obtain ⟨hid', hm'⟩ := h.table taskId item hi
  obtain rfl := List.inj_on_of_nodup_map h.unique hm hm' (hid.trans hid'.symm)
  exact continuing_iff.mpr ⟨pushed, hi, hl⟩

theorem starting_put (i : Nat) (next : Option FreeInstallCall) :
    starting { s with calls := s.calls.put i next } =
      Function.update s.starting i (next.bind (·.starting)) := by
  funext j
  by_cases hj : j = i
  · subst hj
    rw [Function.update_self, starting, ExtTreeMap.getElem?_put_self]
  · rw [Function.update_of_ne hj, starting, starting, ExtTreeMap.getElem?_put_of_ne _ (Ne.symm hj)]

theorem init_ids : Ids {} where
  currTaskId := rfl
  exclusive i j a hi := by simp [starting] at hi
  issued taskId ht := by
    obtain ⟨i, hi⟩ := ht
    simp [starting] at hi
  unpushed i taskId request hi := by simp at hi
  pushed _ hi := absurd hi List.not_mem_nil
  unique := List.nodup_nil
  table taskId item hi := by simp at hi
  setting i taskId request hi := by simp at hi
  continues i taskId resultCode hi := by simp at hi

/-- A call begins, goes on or ends: it keeps the id it writes, or gives it up. -/
theorem Ids.put (h : s.Ids) {i : Nat} {next : Option FreeInstallCall}
    (hstarting : ∀ taskId, next.bind (·.starting) = some taskId → s.starting i = some taskId)
    (hpush : ∀ taskId request, next ≠ some (.push taskId request))
    (hsetting : ∀ taskId request, next = some (.setMission taskId request) → s.Pushed taskId)
    (hcontinues : ∀ taskId resultCode,
      next = some (.pop taskId resultCode .freeInstallContinue) → s.Pushed taskId) :
    Ids { s with calls := s.calls.put i next } := by
  have hmono : ∀ j taskId, starting { s with calls := s.calls.put i next } j = some taskId →
      s.starting j = some taskId := by
    intro j taskId hj
    rw [starting_put] at hj
    by_cases he : j = i
    · subst he
      rw [Function.update_self] at hj
      exact hstarting taskId hj
    · rwa [Function.update_of_ne he] at hj
  refine { h with
    exclusive := fun j k a hj hk => h.exclusive j k a (hmono j a hj) (hmono k a hk)
    issued := fun taskId ht => ?_
    unpushed := fun j taskId request hj => ?_
    setting := fun j taskId request hj => ?_
    continues := fun j taskId resultCode hj => ?_ }
  · obtain ⟨j, hj⟩ := ht
    exact h.issued taskId ⟨j, hmono j taskId hj⟩
  · obtain ⟨-, hn⟩ | ⟨-, hj⟩ := ExtTreeMap.getElem?_put_eq_some.mp hj
    · exact absurd hn (hpush taskId request)
    · exact h.unpushed j taskId request hj
  · obtain ⟨-, hn⟩ | ⟨-, hj⟩ := ExtTreeMap.getElem?_put_eq_some.mp hj
    · exact hsetting taskId request hn
    · exact h.setting j taskId request hj
  · obtain ⟨-, hn⟩ | ⟨-, hj⟩ := ExtTreeMap.getElem?_put_eq_some.mp hj
    · exact hcontinues taskId resultCode hn
    · exact h.continues j taskId resultCode hj

/-- A call that writes no id, and knows no launch type. -/
theorem Ids.put_plain (h : s.Ids) (i : Nat) (next : Option FreeInstallCall)
    (hstarting : next.bind (·.starting) = none)
    (hcontinues : ∀ taskId resultCode,
      next = some (.pop taskId resultCode .freeInstallContinue) → s.Pushed taskId) :
    Ids { s with calls := s.calls.put i next } := by
  refine h.put (fun taskId ht => ?_) (fun taskId request hn => ?_) (fun taskId request hn => ?_)
    hcontinues
  · rw [hstarting] at ht
    cases ht
  · rw [hn] at hstarting
    cases hstarting
  · rw [hn] at hstarting
    cases hstarting

/-- The table loses entries at most. -/
theorem Ids.shrink (h : s.Ids) {service : DistributedSchedService}
    (hc : service.dmsCallbackTask.currTaskId = s.task.currTaskId)
    (hm : ∀ (taskId : Int) (item : CallbackTaskItem),
      service.dmsCallbackTask.callbackMap[taskId]? = some item →
        s.task.callbackMap[taskId]? = some item) :
    Ids { s with service := service } :=
  { h with
    currTaskId := hc.trans h.currTaskId
    table := fun taskId item hi => h.table taskId item (hm taskId item hi) }

/-- A call gets a new id. -/
theorem Ids.start (h : s.Ids) {i : Nat} (hi : s.calls[i]? = none)
    (hw : s.task.currTaskId + 1 < 2 ^ 63) (request : FreeInstallRequest) :
    Ids { s with
      service := { s.service with dmsCallbackTask := s.task.generateTaskId.2 }
      calls := s.calls.put i (some (.push s.task.generateTaskId.1 request))
      generated := s.generated + 1 } := by
  have hid := h.currTaskId
  rw [DmsCallbackTask.generateTaskId_eq (by omega) (by omega)]
  have hfree : s.starting i = none := by rw [starting, hi]; rfl
  have hnew : ¬ Held s.starting s.task.currTaskId := by
    intro ht
    have := h.issued _ ht
    omega
  have hput := starting_put (s := s) i (some (.push s.task.currTaskId request))
  exact {
    currTaskId := by push_cast; omega
    exclusive := hput ▸ h.exclusive.acquire hnew
    issued := fun taskId ht => by
      obtain ⟨j, hj⟩ := ht
      have hheld : Held (acquire s.starting i s.task.currTaskId) taskId :=
        ⟨j, (congrFun hput j).symm.trans hj⟩
      obtain rfl | ht := (held_acquire hfree).mp hheld
      · push_cast; omega
      · have := h.issued taskId ht
        push_cast; omega
    unpushed := fun j taskId request' hj item hm => by
      obtain ⟨-, hn⟩ | ⟨-, hj⟩ := ExtTreeMap.getElem?_put_eq_some.mp hj
      · obtain ⟨rfl, -⟩ := FreeInstallCall.push.inj (Option.some.inj hn)
        have := (h.pushed item hm).2
        omega
      · exact h.unpushed j taskId request' hj item hm
    pushed := fun item hm => by
      obtain ⟨h₀, h₁⟩ := h.pushed item hm
      exact ⟨h₀, by push_cast; omega⟩
    unique := h.unique
    table := h.table
    setting := fun j taskId request' hj => by
      obtain ⟨-, hn⟩ | ⟨-, hj⟩ := ExtTreeMap.getElem?_put_eq_some.mp hj
      · cases hn
      · exact h.setting j taskId request' hj
    continues := fun j taskId resultCode hj => by
      obtain ⟨-, hn⟩ | ⟨-, hj⟩ := ExtTreeMap.getElem?_put_eq_some.mp hj
      · cases hn
      · exact h.continues j taskId resultCode hj }

theorem Pushed.append {taskId : Int} (h : s.Pushed taskId) {items : List CallbackTaskItem}
    {s' : FreeInstalls} (hs : s'.pushed = s.pushed ++ items) : s'.Pushed taskId := by
  obtain ⟨item, hm, hr⟩ := h
  exact ⟨item, hs ▸ List.mem_append_left _ hm, hr⟩

/-- A push that succeeds; the call goes on with the id, or gives it up. -/
theorem Ids.push (h : s.Ids) {i : Nat} {request : FreeInstallRequest} {item : CallbackTaskItem}
    (hi : s.calls[i]? = some (.push item.taskId request)) (h₀ : 0 < item.taskId)
    {next : Option FreeInstallCall}
    (hnext : next = some (.setMission item.taskId request) ∧
      item.launchType = .freeInstallContinue ∨ next = some (.send item.taskId request))
    {service : DistributedSchedService}
    (hc : service.dmsCallbackTask.currTaskId = s.task.currTaskId)
    (hm : service.dmsCallbackTask.callbackMap = s.task.callbackMap.insert item.taskId item) :
    Ids { s with
      service := service, calls := s.calls.put i next, pushed := s.pushed ++ [item] } := by
  have hown : s.starting i = some item.taskId := by rw [starting, hi]; rfl
  have hnew := h.unpushed i item.taskId request hi
  have hstarting : ∀ j taskId, Function.update s.starting i (next.bind (·.starting)) j =
      some taskId → s.starting j = some taskId := by
    intro j taskId hj
    by_cases he : j = i
    · subst he
      rw [Function.update_self] at hj
      obtain ⟨rfl, -⟩ | rfl := hnext
      · exact hown.trans hj
      · cases hj
    · rwa [Function.update_of_ne he] at hj
  have hput := starting_put (s := s) i next
  have hmono : ∀ j taskId, starting { s with calls := s.calls.put i next } j = some taskId →
      s.starting j = some taskId :=
    fun j taskId hj => hstarting j taskId ((congrFun hput j).symm.trans hj)
  have hpushed : ∀ taskId, s.Pushed taskId →
      Pushed { s with pushed := s.pushed ++ [item] } taskId :=
    fun _ hp => hp.append rfl
  exact {
    currTaskId := hc.trans h.currTaskId
    exclusive := fun j k a hj hk => h.exclusive j k a (hmono j a hj) (hmono k a hk)
    issued := fun taskId ht => by
      obtain ⟨j, hj⟩ := ht
      exact h.issued taskId ⟨j, hmono j taskId hj⟩
    unpushed := fun j taskId request' hj => by
      obtain ⟨-, hn⟩ | ⟨hne, hj⟩ := ExtTreeMap.getElem?_put_eq_some.mp hj
      · obtain ⟨rfl, -⟩ | rfl := hnext <;> cases hn
      refine List.forall_mem_append.mpr ⟨h.unpushed j taskId request' hj, ?_⟩
      refine List.forall_mem_singleton.mpr ?_
      rintro rfl
      -- two calls would have the same id
      refine hne (h.exclusive i j item.taskId hown ?_)
      rw [starting, hj]
      rfl
    pushed := List.forall_mem_append.mpr ⟨h.pushed, List.forall_mem_singleton.mpr
      ⟨h₀, h.issued item.taskId ⟨i, hown⟩⟩⟩
    unique := by
      rw [← List.concat_eq_append, List.map_concat, List.nodup_concat]
      refine ⟨fun hmem => ?_, h.unique⟩
      obtain ⟨x, hx, hid⟩ := List.mem_map.mp hmem
      exact hnew x hx hid
    table := fun taskId x hx => by
      rw [task, hm, ExtTreeMap.getElem?_insert] at hx
      split at hx
      · rename_i he
        cases hx
        exact ⟨Std.LawfulEqCmp.eq_of_compare he, List.mem_append_right _ (.head _)⟩
      · exact (h.table taskId x hx).imp id (List.mem_append_left _)
    setting := fun j taskId request' hj => by
      obtain ⟨-, hn⟩ | ⟨-, hj⟩ := ExtTreeMap.getElem?_put_eq_some.mp hj
      · obtain ⟨rfl, hl⟩ | rfl := hnext
        · cases hn
          exact ⟨item, List.mem_append_right _ (.head _), rfl, hl⟩
        · cases hn
      · exact hpushed taskId (h.setting j taskId request' hj)
    continues := fun j taskId resultCode hj => by
      obtain ⟨-, hn⟩ | ⟨-, hj⟩ := ExtTreeMap.getElem?_put_eq_some.mp hj
      · obtain ⟨rfl, -⟩ | rfl := hnext <;> cases hn
      · exact hpushed taskId (h.continues j taskId resultCode hj) }

/-! ### Every step -/

theorem Ids.pushBlock (h : s.Ids) {i : Nat} {taskId : Int} {request : FreeInstallRequest}
    (hi : s.calls[i]? = some (.push taskId request)) (env : Env) :
    let b := (FreeInstallCall.push taskId request).block env s.service
    Ids { s with
      service := b.service, calls := s.calls.put i b.next
      pushed := s.pushed ++ b.pushed.toList } := by
  simp only [FreeInstallCall.block]
  rcases s.task.pushCallback_cases env.sendEvent taskId request.callback
    request.want.element.deviceId (launchTypeOf request.want) request.want with
    hp | ⟨h₀, -, -, hp⟩
  · rw [hp, if_pos (show invalidParametersErr ≠ errOk by decide)]
    simp only [Option.toList_none, List.append_nil]
    exact h.put_plain i _ rfl fun _ _ hn => by cases hn
  · rw [hp, if_neg (show ¬ errOk ≠ errOk by decide)]
    simp only [ExtTreeMap.getElem?_insert_self, Option.toList_some]
    refine @Ids.push s h i request ⟨request.callback, taskId, launchTypeOf request.want,
      request.want.element.deviceId, request.want⟩ hi h₀ _ ?_ _ rfl rfl
    split
    · rename_i hl
      exact .inl ⟨rfl, hl⟩
    · exact .inr rfl

theorem Ids.pop (h : s.Ids) (taskId : Int) :
    Ids { s with service := { s.service with
      dmsCallbackTask := (s.task.popCallback taskId).2 } } := by
  refine h.shrink (DmsCallbackTask.popCallback_currTaskId ..) fun k item hk => ?_
  rw [DmsCallbackTask.popCallback_getElem?] at hk
  split at hk
  · cases hk
  · exact hk

theorem Ids.block (h : s.Ids) {i : Nat} {call : FreeInstallCall} (hi : s.calls[i]? = some call)
    (env : Env) :
    let b := call.block env s.service
    Ids { s with
      service := b.service, calls := s.calls.put i b.next
      pushed := s.pushed ++ b.pushed.toList } := by
  cases call with
  | push taskId request => exact h.pushBlock hi env
  | setMission taskId request =>
      simp only [FreeInstallCall.block, Option.toList_none, List.append_nil]
      refine (h.put_plain i (some (.send taskId request)) rfl fun _ _ hn => ?_).shrink ?_
        fun k item hk => ?_
      · cases hn
      · unfold DmsCallbackTask.setContinuationMissionMap
        split <;> rfl
      · unfold DmsCallbackTask.setContinuationMissionMap at hk
        split at hk <;> exact hk
  | send taskId request =>
      simp only [FreeInstallCall.block]
      split
      · simp only [Option.toList_none, List.append_nil]
        exact h.put_plain i _ rfl fun _ _ hn => by cases hn
      · simp only [Option.toList_none, List.append_nil]
        split
        · exact h.put_plain i _ rfl fun _ _ hn => by cases hn
        · exact h.put_plain i _ rfl fun _ _ hn => by cases hn
  | fail taskId result =>
      simp only [FreeInstallCall.block, Option.toList_none, List.append_nil]
      exact (h.pop taskId).put_plain i _ rfl fun _ _ hn => by cases hn
  | getLaunchType taskId resultCode =>
      simp only [FreeInstallCall.block, Option.toList_none, List.append_nil]
      refine h.put_plain i _ rfl fun t code hn => ?_
      obtain ⟨rfl, -, hl⟩ := FreeInstallCall.pop.inj (Option.some.inj hn)
      obtain ⟨item, hitem, hl⟩ := DmsCallbackTask.getLaunchType_continue hl
      obtain ⟨hid, hm⟩ := h.table taskId item hitem
      exact ⟨item, hm, hid, hl⟩
  | pop taskId resultCode launchType =>
      simp only [FreeInstallCall.block, Option.toList_none, List.append_nil]
      refine (h.pop taskId).put_plain i _ ?_ fun t code hn => ?_
      · cases launchType with
        | freeInstallStart => rfl
        | freeInstallContinue => simp only; split <;> rfl
      · cases launchType with
        | freeInstallStart => cases hn
        | freeInstallContinue => simp only at hn; split at hn <;> cases hn
  | deliver item resultCode =>
      simp only [FreeInstallCall.block, Option.toList_none, List.append_nil]
      exact h.put_plain i _ rfl fun _ _ hn => by cases hn
  | getMission taskId =>
      simp only [FreeInstallCall.block, Option.toList_none, List.append_nil]
      exact h.put_plain i _ rfl fun _ _ hn => by cases hn
  | notifyContinuation taskId missionId =>
      simp only [FreeInstallCall.block, Option.toList_none, List.append_nil]
      refine (h.put_plain i (some (.popMission taskId)) rfl fun _ _ hn => ?_).shrink rfl
        fun _ _ hk => hk
      cases hn
  | popMission taskId =>
      simp only [FreeInstallCall.block, Option.toList_none, List.append_nil]
      refine (h.put_plain i none rfl fun _ _ hn => ?_).shrink rfl fun _ _ hk => hk
      cases hn

/-- Two states with the same tables, calls and pushes have the same ids. -/
theorem Ids.answers (h : s.Ids) (answers : List (Int × Effect)) :
    Ids { s with answers := answers } :=
  { h with }

theorem Ids.apply (h : s.Ids) {s' : FreeInstalls} {step : FreeInstallStep}
    (hw : step.NoWrap s) (hs : step.apply s = some s') : s'.Ids := by
  cases step with
  | startRemoteFreeInstall i env want callerUid requestCode accessToken callback =>
      rcases FreeInstallStep.apply_start hs with rfl | ⟨hn, request, rfl⟩
      · exact h
      · exact h.start hn hw request
  | notifyCompleteFreeInstallFromRemote i taskId resultCode =>
      obtain ⟨-, rfl⟩ := FreeInstallStep.apply_notify hs
      exact h.put_plain i _ rfl fun _ _ hn => by cases hn
  | timeout i k resultCode =>
      obtain ⟨-, task, rfl⟩ := FreeInstallStep.apply_timeout hs
      refine (h.put_plain i _ ?_ fun taskId code hn => ?_).shrink rfl fun _ _ hk => hk
      · cases task <;> rfl
      · obtain ⟨taskId, -, hn⟩ := Option.map_eq_some_iff.mp hn
        cases hn
  | deviceOffline env deviceId =>
      cases hs
      have hshrink : Ids { s with
          service := (s.service.processFreeInstallOffline env deviceId).1 } := by
        refine h.shrink rfl fun k item hk => ?_
        have hmap := DmsCallbackTask.notifyDeviceOffline_getElem? env s.task deviceId k
        exact (Option.filter_eq_some_iff.mp (hmap.symm.trans hk)).1
      exact hshrink.answers _
  | block i env =>
      obtain ⟨call, hi, rfl⟩ := FreeInstallStep.apply_block hs
      exact (h.block hi env).answers _
  | other service =>
      cases hs
      exact h.shrink rfl fun _ _ hk => hk

end FreeInstalls

end DistributedSched

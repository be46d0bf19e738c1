import Mathlib.Logic.Function.Basic
import DistributedSched.FreeInstall.Answers
import DistributedSched.Network.Results

/-!
# Network — free installs between devices

A device asks another one to install and start an ability, under a task id of its own; the ability
manager there finishes, and the code crosses back and ends the task.  On every device the calls of
the service run side by side, as in `FreeInstalls`; a request and a completion are under way between
two devices, and may be lost.

* `InstallStep`: the steps of any number of devices.
* `FreeInstalls.Sound`: where the result codes of the calls on one device come from.
* `install_answers_come_home`: over every run, an application is answered with the code with which
  the device that it asked ended this very task, or with one of its own device's: the timeout of
  the task fired, the device it was to be done on went offline, or the request failed.

`FREE_INSTALL_TIMEOUT` is a constant of the ability manager, and a parameter here.
-/

namespace DistributedSched

open Std (ExtTreeMap)
open DistributedSchedService

/-- A request for a free install. -/
structure InstallAsk where
  device : String
  destination : String
  info : FreeInstallInfo
  taskId : Int

/-- A free install that the ability manager of the destination was asked for. -/
structure PendingInstall where
  ask : InstallAsk
  callback : DmsFreeInstallCallback

/-- A completion, with the request that it ends. -/
structure InstallAnswer where
  ask : InstallAsk
  destination : String
  taskId : Int
  resultCode : Int

structure InstallNetwork where
  device : String → FreeInstalls := fun _ => {}
  asks : List InstallAsk := []
  /-- the requests under way -/
  asking : List InstallAsk := []
  installing : List PendingInstall := []
  answered : List InstallAnswer := []
  /-- the completions under way -/
  answering : List InstallAnswer := []
  /-- the codes of requests that failed, with the task of the device -/
  failed : List (String × Int × Int) := []
  /-- the tasks that the timeouts of a device called for -/
  timedOut : List (String × Int) := []
  /-- the devices that a device was told are offline -/
  offline : List (String × String) := []

namespace Effect

def installAsk : Effect → Option (String × FreeInstallInfo × Int)
  | .rpc deviceId (.startFreeInstallFromRemote info taskId) => some (deviceId, info, taskId)
  | _ => none

def installAnswer : Effect → Option (String × Int × Int)
  | .rpc deviceId (.notifyCompleteFreeInstallFromRemote taskId resultCode) =>
    some (deviceId, taskId, resultCode)
  | _ => none

end Effect

inductive InstallStep where
  /-- a device takes a step of its own -/
  | own (device : String) (step : FreeInstallStep)
  /-- the request under way at `k` arrives -/
  | request (k : Nat) (env : Env)
  | installFinished (k : Nat) (env : Env) (want : Want) (requestCode resultCode : Int)
  /-- the completion under way at `k` arrives, and becomes call `i` -/
  | answer (k i : Nat) (env : Env)
  | loseRequest (k : Nat)
  | loseAnswer (k : Nat)

/-- The block that a step of a device is. -/
def FreeInstallStep.executes (s : FreeInstalls) : FreeInstallStep → Option FreeInstallBlock
  | .block i env => s.calls[i]?.map fun call => call.block env s.service
  | _ => none

/-- The task that a timeout calls for. -/
def FreeInstallStep.timedOut (s : FreeInstalls) : FreeInstallStep → Option Int
  | .timeout _ k _ => s.service.dmsCallbackTask.dmsCallbackHandler.pending[k]?.bind fun event =>
    DmsCallbackTask.processEvent event.innerEventId
  | _ => none

def FreeInstallStep.offline : FreeInstallStep → Option String
  | .deviceOffline _ deviceId => some deviceId
  | _ => none

namespace FreeInstallBlock

/-- The requests that a block of `device` sends. -/
def asks (device : String) (b : FreeInstallBlock) : List InstallAsk :=
  (b.effects.filterMap Effect.installAsk).map fun r => ⟨device, r.1, r.2.1, r.2.2⟩

/-- The request of the block has failed. -/
def failed (device : String) (b : FreeInstallBlock) : List (String × Int × Int) :=
  match b.next with
  | some (.fail taskId result) => [(device, taskId, result)]
  | _ => []

end FreeInstallBlock

namespace InstallNetwork

variable (w : InstallNetwork)

def set (d : String) (s : FreeInstalls) : InstallNetwork :=
  { w with device := Function.update w.device d s }

end InstallNetwork

namespace InstallStep

def apply (w : InstallNetwork) : InstallStep → Option InstallNetwork
  | own d step =>
    match step.apply (w.device d) with
    | none => none
    | some s =>
      let b := (step.executes (w.device d)).getD { service := s.service }
      some { w.set d s with
        asks := w.asks ++ b.asks d
        asking := w.asking ++ b.asks d
        failed := w.failed ++ b.failed d
        timedOut := w.timedOut ++ ((step.timedOut (w.device d)).map (d, ·)).toList
        offline := w.offline ++ (step.offline.map (d, ·)).toList }
  | request k env =>
    match w.asking[k]? with
    | none => none
    | some ask =>
      let s := w.device ask.destination
      let r := s.service.onRemoteRequest env (.startFreeInstallFromRemote ask.info ask.taskId)
      some { w.set ask.destination { s with service := r.1.service } with
        asking := w.asking.eraseIdx k
        installing := w.installing ++ (r.2.map fun callback => ⟨ask, callback⟩).toList }
  | installFinished k env want requestCode resultCode =>
    match w.installing[k]? with
    | none => none
    | some i =>
      let s := w.device i.ask.destination
      let o := s.service.onInstallFinished env i.callback want requestCode resultCode
      let answers := (o.effects.filterMap Effect.installAnswer).map fun r =>
        ⟨i.ask, r.1, r.2.1, r.2.2⟩
      some { w.set i.ask.destination { s with service := o.service } with
        answered := w.answered ++ answers, answering := w.answering ++ answers }
  | answer k i env =>
    match w.answering[k]? with
    | none => none
    | some a =>
      -- the stub refuses a caller that is not of the system
      if hidHap ≤ env.callingUid then some { w with answering := w.answering.eraseIdx k }
      else
        ((FreeInstallStep.notifyCompleteFreeInstallFromRemote i a.taskId a.resultCode).apply
          (w.device a.destination)).map fun s =>
            { w.set a.destination s with answering := w.answering.eraseIdx k }
  | loseRequest k => some { w with asking := w.asking.eraseIdx k }
  | loseAnswer k => some { w with answering := w.answering.eraseIdx k }

/-- A step that is a device's own. -/
def IsOwn (freeInstallTimeout : Int) (d : String) : FreeInstallStep → Prop
  | .startRemoteFreeInstall _ env .. => ∀ localDeviceId ∈ env.localDeviceId, localDeviceId = d
  | .timeout _ _ resultCode => resultCode = freeInstallTimeout
  -- completions arrive by `answer`
  | .notifyCompleteFreeInstallFromRemote .. => False
  | _ => True

/-- A device knows its own id, and what `FreeInstallStep.Assumed` says of it. -/
def Assumed (freeInstallTimeout : Int) (w : InstallNetwork) : InstallStep → Prop
  | own d step => IsOwn freeInstallTimeout d step ∧ step.Assumed (w.device d)
  | _ => True

end InstallStep

/-! ### One device -/

/-- What is known of a call of device `d` in which `J` says which result codes a task may end
with. -/
def FreeInstallCall.Sound (pushed : List CallbackTaskItem) (d : String) (J : Int → Int → Prop) :
    FreeInstallCall → Prop
  | push _ request => request.localDeviceId = d
  | setMission taskId request | send taskId request => request.localDeviceId = d ∧
    ∃ item ∈ pushed, item.taskId = taskId ∧ item.want = request.want ∧
      item.deviceId = request.want.element.deviceId
  | fail taskId resultCode | getLaunchType taskId resultCode | pop taskId resultCode _ =>
    J taskId resultCode
  | deliver item resultCode => item.callback ≠ none → J item.taskId resultCode
  | _ => True

theorem FreeInstallCall.Sound.mono {pushed pushed' : List CallbackTaskItem} {d : String}
    {J J' : Int → Int → Prop} {call : FreeInstallCall} (h : call.Sound pushed d J)
    (hpushed : ∀ item ∈ pushed, item ∈ pushed') (hJ : ∀ t code, J t code → J' t code) :
    call.Sound pushed' d J' := by
  cases call with
  | push taskId request => exact h
  | setMission taskId request | send taskId request =>
      obtain ⟨hl, item, hi, hrest⟩ := h
      exact ⟨hl, item, hpushed item hi, hrest⟩
  | fail taskId resultCode | getLaunchType taskId resultCode | pop taskId resultCode _ =>
      exact hJ _ _ h
  | deliver item resultCode => exact fun hc => hJ _ _ (h hc)
  | _ => trivial

/-- What was sent to an application, for a reason. -/
def AnswerSound (J : Int → Int → Prop) (answer : Int × Effect) : Prop :=
  ∃ callback resultCode want, answer.2 = .freeInstallDone callback resultCode want ∧
    J answer.1 resultCode

namespace FreeInstalls

variable {s s' : FreeInstalls} {d : String} {J J' : Int → Int → Prop}

structure Sound (s : FreeInstalls) (d : String) (J : Int → Int → Prop) : Prop where
  inv : s.Inv
  calls : ∀ (i : Nat) call, s.calls[i]? = some call → call.Sound s.pushed d J
  answers : ∀ answer ∈ s.answers, AnswerSound J answer

theorem Sound.mono (h : s.Sound d J) (hJ : ∀ t code, J t code → J' t code) : s.Sound d J' where
  inv := h.inv
  calls i call hc := (h.calls i call hc).mono (fun _ => id) hJ
  answers answer ha := by
    obtain ⟨callback, resultCode, want, he, hj⟩ := h.answers answer ha
    exact ⟨callback, resultCode, want, he, hJ _ _ hj⟩

theorem answerSound_notify {env : Env} {item : CallbackTaskItem} {resultCode : Int}
    (hJ : item.callback ≠ none → J item.taskId resultCode) :
    ∀ answer ∈ (notifyFreeInstallResult env item resultCode).2.map fun e => (item.taskId, e),
      AnswerSound J answer := by
  intro answer ha
  obtain ⟨e, he, rfl⟩ := List.mem_map.mp ha
  obtain ⟨callback, hc, rfl⟩ := mem_notifyFreeInstallResult he
  exact ⟨callback, resultCode, item.want, rfl, hJ (hc ▸ Option.some_ne_none _)⟩

/-- A popped item has the id that it was popped under. -/
theorem Inv.popCallback_taskId (h : s.Inv) (taskId : Int) :
    (s.task.popCallback taskId).1.callback ≠ none →
      (s.task.popCallback taskId).1.taskId = taskId := by
  unfold DmsCallbackTask.popCallback
  cases ht : s.task.callbackMap[taskId]? with
  | none => exact fun hc => absurd rfl hc
  | some item => exact fun _ => (h.table taskId item ht).1

/-- The next block of a call is sound. -/
theorem Sound.next (h : s.Sound d J) {i : Nat} {call : FreeInstallCall}
    (hi : s.calls[i]? = some call) (env : Env)
    (hfail : ∀ taskId result, (call.block env s.service).next = some (.fail taskId result) →
      J taskId result) :
    (∀ next, (call.block env s.service).next = some next →
      next.Sound (s.pushed ++ (call.block env s.service).pushed.toList) d J) ∧
    ∀ answer ∈ (call.block env s.service).answers, AnswerSound J answer := by
  have hcall := h.calls i call hi
  have hpop : ∀ taskId resultCode, J taskId resultCode →
      (FreeInstallCall.deliver (s.service.dmsCallbackTask.popCallback taskId).1 resultCode).Sound
        s.pushed d J := by
    intro taskId resultCode hj hc
    rw [h.inv.popCallback_taskId taskId hc]
    exact hj
  cases call with
  | push taskId request =>
      simp only [FreeInstallCall.block]
      rcases s.task.pushCallback_cases env.sendEvent taskId request.callback
        request.want.element.deviceId (launchTypeOf request.want) request.want with
        hp | ⟨-, -, -, hp⟩
      · rw [hp, if_pos (show invalidParametersErr ≠ errOk by decide)]
        exact ⟨fun _ hn => (by cases hn), fun _ ha => (by cases ha)⟩
      · rw [hp, if_neg (show ¬ errOk ≠ errOk by decide)]
        simp only [ExtTreeMap.getElem?_insert_self, Option.toList_some]
        refine ⟨fun next hn => ?_, fun _ ha => (by cases ha)⟩
        split at hn <;> cases hn
        all_goals exact ⟨hcall, _, List.mem_append_right _ (List.mem_singleton_self _), rfl, rfl,
          rfl⟩
  | setMission taskId request =>
      simp only [FreeInstallCall.block, Option.toList_none, List.append_nil]
      exact ⟨fun next hn => (by cases hn; exact hcall), fun _ ha => (by cases ha)⟩
  | send taskId request =>
      refine ⟨fun next hn => ?_, fun answer ha => ?_⟩
      · obtain ⟨result, rfl⟩ : ∃ result, next = .fail taskId result := by
          simp only [FreeInstallCall.block] at hn
          split at hn
          · cases hn
          · split at hn
            · exact ⟨_, (Option.some.inj hn).symm⟩
            · cases hn
        exact hfail taskId result hn
      · simp only [FreeInstallCall.block] at ha
        split at ha <;> cases ha
  | fail taskId result =>
      simp only [FreeInstallCall.block, Option.toList_none, List.append_nil]
      exact ⟨fun next hn => (by cases hn; exact hpop taskId result hcall),
        fun _ ha => (by cases ha)⟩
  | getLaunchType taskId resultCode =>
      simp only [FreeInstallCall.block, Option.toList_none, List.append_nil]
      exact ⟨fun next hn => (by cases hn; exact hcall), fun _ ha => (by cases ha)⟩
  | pop taskId resultCode launchType =>
      simp only [FreeInstallCall.block, Option.toList_none, List.append_nil]
      refine ⟨fun next hn => ?_, fun _ ha => (by cases ha)⟩
      cases launchType with
      | freeInstallStart =>
          cases hn
          exact hpop taskId resultCode hcall
      | freeInstallContinue =>
          dsimp only at hn
          split at hn <;> cases hn
          all_goals trivial
  | deliver item resultCode => exact ⟨fun next hn => (by cases hn), answerSound_notify hcall⟩
  | getMission taskId | notifyContinuation taskId missionId =>
      exact ⟨fun next hn => (by cases hn; trivial), fun _ ha => (by cases ha)⟩
  | popMission taskId => exact ⟨fun next hn => (by cases hn), fun _ ha => (by cases ha)⟩

/-- A timeout begins a call for its task. -/
theorem apply_timedOut {i k : Nat} {resultCode : Int}
    (hs : (FreeInstallStep.timeout i k resultCode).apply s = some s') :
    s'.calls = s.calls.put i (((FreeInstallStep.timeout i k resultCode).timedOut s).map
        fun taskId => .getLaunchType taskId resultCode) ∧
      s'.pushed = s.pushed ∧ s'.answers = s.answers := by
  simp only [FreeInstallStep.apply] at hs
  split at hs
  · cases hs
  split at hs
  · cases hs
  rename_i event hk
  cases hs
  refine ⟨?_, rfl, rfl⟩
  rw [FreeInstallStep.timedOut, hk, Option.bind_some]

/-- A step of the device's own. -/
theorem Sound.apply {freeInstallTimeout : Int} (h : s.Sound d J) {step : FreeInstallStep}
    (hown : InstallStep.IsOwn freeInstallTimeout d step) (hassumed : step.Assumed s)
    (hs : step.apply s = some s')
    (htimeout : ∀ taskId, step.timedOut s = some taskId → J taskId freeInstallTimeout)
    (hoffline : ∀ deviceId, step.offline = some deviceId → ∀ item ∈ s.pushed,
      item.deviceId = deviceId → J item.taskId deviceOfflineErr)
    (hfail : ∀ b t result, step.executes s = some b → b.next = some (.fail t result) →
      J t result) : s'.Sound d J := by
  have hinv : s'.Inv := h.inv.apply_inv hassumed hs
  cases step with
  | startRemoteFreeInstall i env want callerUid requestCode accessToken callback =>
      rw [FreeInstallStep.apply] at hs
      obtain ⟨-, hs⟩ := Option.ite_none_left_eq_some.mp hs
      cases hstart : freeInstallStart env s.service want callerUid requestCode accessToken
        callback with
      | none =>
          rw [hstart] at hs
          cases hs
          exact h
      | some r =>
          rw [hstart] at hs
          cases hs
          refine ⟨hinv, fun j call hc => ?_, h.answers⟩
          rcases ExtTreeMap.getElem?_put_eq_some.mp hc with ⟨rfl, hput⟩ | ⟨-, hput⟩
          · cases hput
            simp only [freeInstallStart] at hstart
            split at hstart
            · cases hstart
            rename_i localDeviceId hl
            obtain ⟨-, hstart⟩ := Option.ite_none_left_eq_some.mp hstart
            cases hstart
            exact hown localDeviceId (Env.checkedLocalId_eq_some.mp hl).1
          · exact h.calls j call hput
  | notifyCompleteFreeInstallFromRemote i taskId resultCode => exact hown.elim
  | timeout i k resultCode =>
      obtain ⟨hcalls, hpushed, hanswers⟩ := apply_timedOut hs
      refine ⟨hinv, fun j call hc => ?_, hanswers ▸ h.answers⟩
      rw [hpushed]
      rw [hcalls] at hc
      rcases ExtTreeMap.getElem?_put_eq_some.mp hc with ⟨rfl, hput⟩ | ⟨-, hput⟩
      · obtain ⟨t, ht, rfl⟩ := Option.map_eq_some_iff.mp hput
        obtain rfl : resultCode = freeInstallTimeout := hown
        exact htimeout t ht
      · exact h.calls j call hput
  | deviceOffline env deviceId =>
      cases hs
      refine ⟨hinv, h.calls, fun answer ha => ?_⟩
      rcases List.mem_append.mp ha with ha | ha
      · exact h.answers answer ha
      · obtain ⟨e, he, ha⟩ := List.mem_flatMap.mp ha
        have hitem := (h.inv.table e.1 e.2 (ExtTreeMap.mem_toList_iff_getElem?_eq_some.mp he)).2
        split at ha
        · rename_i hd
          exact answerSound_notify (fun _ => hoffline deviceId rfl e.2 hitem hd) answer ha
        · cases ha
  | block i env =>
      obtain ⟨call, hi, rfl⟩ := FreeInstallStep.apply_block hs
      obtain ⟨hnext, hanswers⟩ := h.next hi env fun t result hn =>
        hfail _ t result (congrArg (Option.map _) hi) hn
      refine ⟨hinv, fun j c hc => ?_, fun answer ha => ?_⟩
      · rcases ExtTreeMap.getElem?_put_eq_some.mp hc with ⟨rfl, hput⟩ | ⟨-, hput⟩
        · exact hnext c hput
        · exact (h.calls j c hput).mono (fun _ => List.mem_append_left _) fun _ _ => id
      · exact (List.mem_append.mp ha).elim (h.answers answer) (hanswers answer)
  | other service =>
      cases hs
      exact ⟨hinv, h.calls, h.answers⟩

/-- A completion becomes a call. -/
theorem Sound.notify (h : s.Sound d J) {i : Nat} {taskId resultCode : Int}
    (hs : (FreeInstallStep.notifyCompleteFreeInstallFromRemote i taskId resultCode).apply s =
      some s') (hJ : J taskId resultCode) : s'.Sound d J := by
  have hassumed : (FreeInstallStep.notifyCompleteFreeInstallFromRemote i taskId resultCode).Assumed
      s := trivial
  have hinv : s'.Inv := h.inv.apply_inv hassumed hs
  obtain ⟨-, rfl⟩ := FreeInstallStep.apply_notify hs
  refine ⟨hinv, fun j call hc => ?_, h.answers⟩
  rcases ExtTreeMap.getElem?_put_eq_some.mp hc with ⟨rfl, hput⟩ | ⟨-, hput⟩
  · cases hput
    exact hJ
  · exact h.calls j call hput

end FreeInstalls

/-! ### What crosses -/

/-- The items of a device stay. -/
theorem FreeInstallStep.apply_pushed {s s' : FreeInstalls} {step : FreeInstallStep}
    (hs : step.apply s = some s') {item : CallbackTaskItem} (hi : item ∈ s.pushed) :
    item ∈ s'.pushed := by
  cases step with
  | startRemoteFreeInstall i env want callerUid requestCode accessToken callback =>
      rcases FreeInstallStep.apply_start hs with rfl | ⟨-, request, rfl⟩
      · exact hi
      · exact hi
  | notifyCompleteFreeInstallFromRemote i taskId resultCode =>
      obtain ⟨-, rfl⟩ := FreeInstallStep.apply_notify hs
      exact hi
  | timeout i k resultCode =>
      obtain ⟨-, taskId, rfl⟩ := FreeInstallStep.apply_timeout hs
      exact hi
  | deviceOffline env deviceId =>
      cases hs
      exact hi
  | block i env =>
      obtain ⟨call, -, rfl⟩ := FreeInstallStep.apply_block hs
      exact List.mem_append_left _ hi
  | other service =>
      cases hs
      exact hi

/-- A request is for a task that its device has stored. -/
def InstallAsk.Sound (pushed : List CallbackTaskItem) (a : InstallAsk) : Prop :=
  ∃ item ∈ pushed, item.taskId = a.taskId ∧ item.deviceId = a.destination ∧
    a.info.want = item.want.setParam dmsSrcNetworkId (.string a.device) ∧
    a.info.callerInfo.sourceDeviceId = a.device

theorem InstallAsk.Sound.mono {pushed pushed' : List CallbackTaskItem} {a : InstallAsk}
    (h : a.Sound pushed) (hpushed : ∀ item ∈ pushed, item ∈ pushed') : a.Sound pushed' := by
  obtain ⟨item, hi, hrest⟩ := h
  exact ⟨item, hpushed item hi, hrest⟩

theorem notifyContinuationCallbackResult_installAsk (env : Env) (s : DistributedSchedService)
    (missionId isSuccess : Int) :
    (s.notifyContinuationCallbackResult env missionId isSuccess).2.filterMap Effect.installAsk =
      [] := by
  unfold DistributedSchedService.notifyContinuationCallbackResult
    DSchedContinuation.notifyContinuationCallbackResult
  dsimp only
  split
  · dsimp only
    cases (s.dschedContinuation.notifyMissionCenterResult env.parcelWrites missionId).1 <;>
      split <;> rfl
  · rfl

theorem notifyFreeInstallResult_installAsk (env : Env) (item : CallbackTaskItem)
    (resultCode : Int) :
    (notifyFreeInstallResult env item resultCode).2.filterMap Effect.installAsk = [] :=
  List.filterMap_eq_nil_iff.mpr fun e he => by
    obtain ⟨callback, -, rfl⟩ := mem_notifyFreeInstallResult he
    rfl

/-- Only a call that is about to send asks. -/
theorem FreeInstallCall.block_asks {env : Env} {s : DistributedSchedService}
    {call : FreeInstallCall} {d : String} {a : InstallAsk} (ha : a ∈ (call.block env s).asks d) :
    ∃ taskId request, call = .send taskId request ∧ a.device = d ∧ a.taskId = taskId ∧
      a.destination = request.want.element.deviceId ∧
      a.info.want = request.want.setParam dmsSrcNetworkId (.string request.localDeviceId) ∧
      a.info.callerInfo.sourceDeviceId = request.localDeviceId := by
  unfold FreeInstallBlock.asks at ha
  cases call with
  | push taskId request =>
      simp only [FreeInstallCall.block] at ha
      split at ha <;> cases ha
  | send taskId request =>
      simp only [FreeInstallCall.block] at ha
      split at ha
      · cases ha
      rename_i result e hsend
      unfold FreeInstallCall.sendRequest localCallerInfo at hsend
      dsimp only at hsend
      split at hsend
      · cases hsend
      rename_i callerInfo hinfo
      split at hsend
      · cases hsend
      cases hsend
      cases List.mem_singleton.mp ha
      split at hinfo
      · cases hinfo
        exact ⟨taskId, request, rfl, rfl, rfl, rfl, rfl, rfl⟩
      · cases hinfo
  | deliver item resultCode =>
      rw [FreeInstallCall.block, notifyFreeInstallResult_installAsk] at ha
      cases ha
  | notifyContinuation taskId missionId =>
      rw [FreeInstallCall.block, notifyContinuationCallbackResult_installAsk] at ha
      cases ha
  | _ => cases ha

namespace FreeInstalls

variable {s : FreeInstalls} {d : String} {J : Int → Int → Prop}

/-- What a device asks for, it has stored. -/
theorem Sound.asks (h : s.Sound d J) {step : FreeInstallStep} {b : FreeInstallBlock}
    (hb : step.executes s = some b) {a : InstallAsk} (ha : a ∈ b.asks d) :
    a.device = d ∧ a.Sound s.pushed := by
  cases step with
  | block i env =>
      obtain ⟨call, hi, rfl⟩ := Option.map_eq_some_iff.mp hb
      obtain ⟨taskId, request, rfl, hd, htask, hdest, hwant, hsource⟩ :=
        FreeInstallCall.block_asks ha
      obtain ⟨hlocal, item, hitem, hid, hw, hdev⟩ := h.calls i _ hi
      refine ⟨hd, item, hitem, hid.trans htask.symm, hdev.trans hdest.symm, ?_, ?_⟩
      · rw [hwant, hw, hlocal, hd]
      · rw [hsource, hlocal, hd]
  | _ => cases hb

end FreeInstalls

/-- A completion goes to the device of the request, with its task. -/
theorem onInstallFinished_answers (env : Env) (s : DistributedSchedService)
    (callback : DmsFreeInstallCallback) (want : Want) (requestCode resultCode : Int) :
    (s.onInstallFinished env callback want requestCode resultCode).service = s ∧
      ∀ r ∈ (s.onInstallFinished env callback want requestCode resultCode).effects.filterMap
        Effect.installAnswer,
        r.1 = callback.info.callerInfo.sourceDeviceId ∧ r.2.1 = callback.taskId := by
  have hnotify : ∀ (info : FreeInstallInfo) (taskId code : Int), ∀ r ∈ (handleRemoteNotify env info
      taskId code).2.filterMap Effect.installAnswer,
        r.1 = info.callerInfo.sourceDeviceId ∧ r.2.1 = taskId := by
    intro info taskId code r hr
    unfold handleRemoteNotify at hr
    dsimp only at hr
    split at hr
    · cases hr
    split at hr
    · cases hr
    · cases List.mem_singleton.mp hr
      exact ⟨rfl, rfl⟩
  have hlocal : ∀ info, (startLocalAbility env info).2.filterMap Effect.installAnswer = [] := by
    intro info
    unfold startLocalAbility
    split
    · rfl
    dsimp only
    split
    · rfl
    · unfold startAbility
      split
      · rfl
      · split <;> rfl
  unfold onInstallFinished notifyCompleteFreeInstall
  split
  · exact ⟨rfl, fun r hr => (by cases hr)⟩
  split
  · exact ⟨rfl, hnotify _ _ _⟩
  · refine ⟨rfl, fun r hr => ?_⟩
    rw [List.filterMap_append, hlocal, List.nil_append] at hr
    exact hnotify _ _ _ r hr

theorem startFreeInstallFromRemote_service (env : Env) (s : DistributedSchedService)
    (info : FreeInstallInfo) (taskId : Int) :
    (s.startFreeInstallFromRemote env info taskId).1.service = s := by
  unfold startFreeInstallFromRemote
  split
  · rfl
  split
  · rfl
  · split <;> rfl

/-- A request leaves the service as it was, and its callback keeps the task and the device. -/
theorem onRemoteRequest_install (env : Env) (s : DistributedSchedService) (info : FreeInstallInfo)
    (taskId : Int) :
    (s.onRemoteRequest env (.startFreeInstallFromRemote info taskId)).1.service = s ∧
      ∀ callback, (s.onRemoteRequest env (.startFreeInstallFromRemote info taskId)).2 =
        some callback → callback.taskId = taskId ∧
          callback.info.callerInfo.sourceDeviceId = info.callerInfo.sourceDeviceId := by
  rw [onRemoteRequest]
  by_cases hu : hidHap ≤ env.callingUid
  · rw [if_pos hu]
    exact ⟨rfl, fun callback hc => (by cases hc)⟩
  · rw [if_neg hu]
    refine ⟨startFreeInstallFromRemote_service env s _ taskId, fun callback hc => ?_⟩
    obtain rfl := startFreeInstallFromRemote_callback hc
    exact ⟨rfl, rfl⟩

/-! ### The network -/

namespace InstallNetwork

variable {w w' : InstallNetwork} {freeInstallTimeout : Int}

/-- The codes that a task of device `d` may end with. -/
def Justified (freeInstallTimeout : Int) (w : InstallNetwork) (d : String)
    (taskId resultCode : Int) : Prop :=
  resultCode = freeInstallTimeout ∧ (d, taskId) ∈ w.timedOut ∨
    resultCode = deviceOfflineErr ∧ (∃ item ∈ (w.device d).pushed, item.taskId = taskId ∧
      (d, item.deviceId) ∈ w.offline) ∨
    (d, taskId, resultCode) ∈ w.failed ∨
    ∃ a ∈ w.answered, a.ask.device = d ∧ a.ask.taskId = taskId ∧ a.resultCode = resultCode

structure Inv (freeInstallTimeout : Int) (w : InstallNetwork) : Prop where
  devices : ∀ d, (w.device d).Sound d (w.Justified freeInstallTimeout d)
  asks : ∀ a ∈ w.asks, a.Sound (w.device a.device).pushed
  asking : ∀ a ∈ w.asking, a ∈ w.asks
  installing : ∀ i ∈ w.installing, i.ask ∈ w.asks ∧ i.callback.taskId = i.ask.taskId ∧
    i.callback.info.callerInfo.sourceDeviceId = i.ask.device
  answered : ∀ a ∈ w.answered, a.ask ∈ w.asks ∧ a.destination = a.ask.device ∧
    a.taskId = a.ask.taskId
  answering : ∀ a ∈ w.answering, a ∈ w.answered

theorem Justified.mono {d : String} {taskId resultCode : Int}
    (h : w.Justified freeInstallTimeout d taskId resultCode)
    (hpushed : ∀ item ∈ (w.device d).pushed, item ∈ (w'.device d).pushed)
    (htimedOut : ∀ x ∈ w.timedOut, x ∈ w'.timedOut) (hoffline : ∀ x ∈ w.offline, x ∈ w'.offline)
    (hfailed : ∀ x ∈ w.failed, x ∈ w'.failed) (hanswered : ∀ a ∈ w.answered, a ∈ w'.answered) :
    w'.Justified freeInstallTimeout d taskId resultCode := by
  rcases h with ⟨hcode, h⟩ | ⟨hcode, item, hi, hid, h⟩ | h | ⟨a, ha, hrest⟩
  · exact .inl ⟨hcode, htimedOut _ h⟩
  · exact .inr (.inl ⟨hcode, item, hpushed item hi, hid, hoffline _ h⟩)
  · exact .inr (.inr (.inl (hfailed _ h)))
  · exact .inr (.inr (.inr ⟨a, hanswered a ha, hrest⟩))

theorem set_device (w : InstallNetwork) (d : String) (s : FreeInstalls) (e : String) :
    (w.set d s).device e = if e = d then s else w.device e :=
  Function.update_apply _ _ _ _

/-- A device keeps its items. -/
theorem set_pushed {d : String} {step : FreeInstallStep} {s : FreeInstalls}
    (hstep : step.apply (w.device d) = some s) (e : String) {item : CallbackTaskItem}
    (hi : item ∈ (w.device e).pushed) : item ∈ ((w.set d s).device e).pushed := by
  rw [set_device]
  by_cases he : e = d
  · rw [if_pos he]
    exact FreeInstallStep.apply_pushed hstep (he ▸ hi)
  · rwa [if_neg he]

/-- A device that stays as it is. -/
theorem set_self (w : InstallNetwork) (d : String) : w.set d (w.device d) = w := by
  unfold InstallNetwork.set
  rw [Function.update_eq_self]

theorem Inv.init : Inv freeInstallTimeout {} where
  devices d := by
    refine ⟨FreeInstalls.init_inv, fun i call hc => ?_, fun answer ha => ?_⟩
    · cases ExtTreeMap.getElem?_empty.symm.trans hc
    · cases ha
  asks a ha := by cases ha
  asking a ha := by cases ha
  installing i hi := by cases hi
  answered a ha := by cases ha
  answering a ha := by cases ha

/-- A device takes a step of its own. -/
theorem Inv.own (h : w.Inv freeInstallTimeout) {d : String} {step : FreeInstallStep}
    (hok : (InstallStep.own d step).Assumed freeInstallTimeout w)
    (hs : (InstallStep.own d step).apply w = some w') : w'.Inv freeInstallTimeout := by
  obtain ⟨hown, hassumed⟩ := hok
  rw [InstallStep.apply] at hs
  cases hstep : step.apply (w.device d) with
  | none =>
      rw [hstep] at hs
      cases hs
  | some s =>
      rw [hstep] at hs
      have hpushed : ∀ e, ∀ item ∈ (w.device e).pushed,
          item ∈ ((w.set d s).device e).pushed := fun e _ => set_pushed hstep e
      have hgrows : ∀ e t code, w.Justified freeInstallTimeout e t code →
          w'.Justified freeInstallTimeout e t code := by
        cases hs
        exact fun e t code hj => hj.mono (hpushed e) (fun _ => List.mem_append_left _)
          (fun _ => List.mem_append_left _) (fun _ => List.mem_append_left _) fun _ => id
      cases hs
      refine {
        devices := fun e => ?_
        asks := fun a ha => ?_
        asking := fun a ha => ?_
        installing := fun i hi => ?_
        answered := fun a ha => ?_
        answering := h.answering }
      · have hsound := (h.devices e).mono (hgrows e)
        show ((w.set d s).device e).Sound e _
        rw [set_device]
        by_cases he : e = d
        · subst he
          rw [if_pos rfl]
          refine hsound.apply hown hassumed hstep (fun t ht => .inl ⟨rfl, ?_⟩)
            (fun deviceId hoff item hi hd => .inr (.inl ⟨rfl, item, hpushed e item hi, rfl, ?_⟩))
            fun b t result hb hn => .inr (.inr (.inl ?_))
          · refine List.mem_append_right _ ?_
            rw [ht]
            exact List.mem_singleton_self _
          · refine List.mem_append_right _ ?_
            rw [hoff, hd]
            exact List.mem_singleton_self _
          · refine List.mem_append_right _ ?_
            rw [hb, Option.getD_some, FreeInstallBlock.failed, hn]
            exact List.mem_singleton_self _
        · rw [if_neg he]
          exact hsound
      · rcases List.mem_append.mp ha with ha | ha
        · exact (h.asks a ha).mono (hpushed _)
        · cases hb : step.executes (w.device d) with
          | none =>
              rw [hb] at ha
              cases ha
          | some b =>
              rw [hb] at ha
              obtain ⟨rfl, hask⟩ := (h.devices d).asks hb ha
              exact hask.mono (hpushed a.device)
      · rcases List.mem_append.mp ha with ha | ha
        · exact List.mem_append_left _ (h.asking a ha)
        · exact List.mem_append_right _ ha
      · exact ⟨List.mem_append_left _ (h.installing i hi).1, (h.installing i hi).2⟩
      · exact ⟨List.mem_append_left _ (h.answered a ha).1, (h.answered a ha).2⟩

/-- One step. -/
theorem Inv.step (h : w.Inv freeInstallTimeout) {step : InstallStep}
    (hok : step.Assumed freeInstallTimeout w) (hs : step.apply w = some w') :
    w'.Inv freeInstallTimeout := by
  cases step with
  | own d step => exact h.own hok hs
  | request k env =>
      rw [InstallStep.apply] at hs
      cases hk : w.asking[k]? with
      | none =>
          rw [hk] at hs
          cases hs
      | some a =>
          rw [hk] at hs
          cases hs
          have ha := h.asking a (List.mem_of_getElem? hk)
          obtain ⟨item, -, -, -, -, hsource⟩ := h.asks a ha
          obtain ⟨hservice, hcallback⟩ := onRemoteRequest_install env
            (w.device a.destination).service a.info a.taskId
          rw [hservice, set_self]
          refine ⟨h.devices, h.asks, fun a ha => h.asking a (List.mem_of_mem_eraseIdx ha),
            fun i hi => ?_, h.answered, h.answering⟩
          rcases List.mem_append.mp hi with hi | hi
          · exact h.installing i hi
          · obtain ⟨callback, hc, rfl⟩ := Option.map_eq_some_iff.mp (Option.mem_toList.mp hi)
            obtain ⟨htask, hdevice⟩ := hcallback callback hc
            exact ⟨ha, htask, hdevice.trans hsource⟩
  | installFinished k env want requestCode resultCode =>
      rw [InstallStep.apply] at hs
      cases hk : w.installing[k]? with
      | none =>
          rw [hk] at hs
          cases hs
      | some i =>
          rw [hk] at hs
          cases hs
          obtain ⟨ha, htask, hsource⟩ := h.installing i (List.mem_of_getElem? hk)
          obtain ⟨hservice, hanswers⟩ := onInstallFinished_answers env
            (w.device i.ask.destination).service i.callback want requestCode resultCode
          rw [hservice, set_self]
          refine ⟨fun d => (h.devices d).mono fun t code hj =>
              hj.mono (fun _ => id) (fun _ => id) (fun _ => id) (fun _ => id) fun _ =>
                List.mem_append_left _,
            h.asks, h.asking, h.installing, fun a ha' => ?_, fun a ha' => ?_⟩
          · rcases List.mem_append.mp ha' with ha' | ha'
            · exact h.answered a ha'
            · obtain ⟨r, hr, rfl⟩ := List.mem_map.mp ha'
              obtain ⟨hd, ht⟩ := hanswers r hr
              exact ⟨ha, hd.trans hsource, ht.trans htask⟩
          · rcases List.mem_append.mp ha' with ha' | ha'
            · exact List.mem_append_left _ (h.answering a ha')
            · exact List.mem_append_right _ ha'
  | answer k i env =>
      rw [InstallStep.apply] at hs
      cases hk : w.answering[k]? with
      | none =>
          rw [hk] at hs
          cases hs
      | some a =>
          rw [hk] at hs
          dsimp only at hs
          have ha := h.answering a (List.mem_of_getElem? hk)
          obtain ⟨-, hd, ht⟩ := h.answered a ha
          have herase : ∀ x ∈ w.answering.eraseIdx k, x ∈ w.answered := fun x hx =>
            h.answering x (List.mem_of_mem_eraseIdx hx)
          split at hs
          · cases hs
            exact ⟨h.devices, h.asks, h.asking, h.installing, h.answered, herase⟩
          · obtain ⟨s, hstep, rfl⟩ := Option.map_eq_some_iff.mp hs
            have hpushed : ∀ e, ∀ item ∈ (w.device e).pushed,
                item ∈ ((w.set a.destination s).device e).pushed := fun e _ => set_pushed hstep e
            have hgrows : ∀ e t code, w.Justified freeInstallTimeout e t code →
                Justified freeInstallTimeout
                  { w.set a.destination s with answering := w.answering.eraseIdx k } e t code :=
              fun e t code hj => hj.mono (hpushed e) (fun _ => id) (fun _ => id) (fun _ => id)
                fun _ => id
            refine ⟨fun e => ?_, fun x hx => (h.asks x hx).mono (hpushed x.device), h.asking,
              h.installing, h.answered, herase⟩
            have hsound := (h.devices e).mono (hgrows e)
            show ((w.set a.destination s).device e).Sound e _
            rw [set_device]
            by_cases he : e = a.destination
            · subst he
              rw [if_pos rfl]
              exact hsound.notify hstep (.inr (.inr (.inr ⟨a, ha, hd.symm, ht.symm, rfl⟩)))
            · rw [if_neg he]
              exact hsound
  | loseRequest k =>
      cases hs
      exact ⟨h.devices, h.asks, fun a ha => h.asking a (List.mem_of_mem_eraseIdx ha), h.installing,
        h.answered, h.answering⟩
  | loseAnswer k =>
      cases hs
      exact ⟨h.devices, h.asks, h.asking, h.installing, h.answered,
        fun a ha => h.answering a (List.mem_of_mem_eraseIdx ha)⟩

end InstallNetwork

/-- **The answer of a free install comes from the device that was asked.**  Over every run of any
number of devices, in which the calls of each service run side by side: an application is answered
for an item that its device stored under the task, and the code is the one with which the device
that was asked for this item, with its want, ended this very task; or a timeout for the task fired,
the device of the item went offline, or the request of the task failed with this code. -/
theorem install_answers_come_home {freeInstallTimeout : Int} {w : InstallNetwork}
    (h : Runs.Reach InstallStep.apply (fun w step => step.Assumed freeInstallTimeout w) {} w)
    (d : String) :
    ∀ answer ∈ (w.device d).answers, ∃ item ∈ (w.device d).pushed, item.taskId = answer.1 ∧
      ∃ callback resultCode, item.callback = some callback ∧
        answer.2 = .freeInstallDone callback resultCode item.want ∧
        (resultCode = freeInstallTimeout ∧ (d, item.taskId) ∈ w.timedOut ∨
          resultCode = deviceOfflineErr ∧ (d, item.deviceId) ∈ w.offline ∨
          (d, item.taskId, resultCode) ∈ w.failed ∨ ∃ a ∈ w.answered, a.ask ∈ w.asks ∧
            a.ask.device = d ∧ a.ask.destination = item.deviceId ∧ a.ask.taskId = item.taskId ∧
            a.resultCode = resultCode ∧
            a.ask.info.want = item.want.setParam dmsSrcNetworkId (.string d)) := by
  have hinv : w.Inv freeInstallTimeout :=
    h.invariant InstallNetwork.Inv.init fun _ _ _ hw hok hs => hw.step hok hs
  intro answer ha
  have hsound := hinv.devices d
  obtain ⟨item, hitem, hid, callback, code, hcallback, he⟩ := hsound.inv.answers answer ha
  obtain ⟨callback', code', want', he', hj⟩ := hsound.answers answer ha
  cases he.symm.trans he'
  refine ⟨item, hitem, hid, callback, code, hcallback, he, ?_⟩
  rcases hj with ⟨hcode, hj⟩ | ⟨hcode, item', hitem', hid', hj⟩ | hj | ⟨a, ha, hd, htask, hcode⟩
  · exact .inl ⟨hcode, hid ▸ hj⟩
  · obtain rfl := hsound.inv.eq_of_taskId hitem hitem' (hid.trans hid'.symm)
    exact .inr (.inl ⟨hcode, hj⟩)
  · exact .inr (.inr (.inl (hid ▸ hj)))
  · obtain ⟨hask, -, -⟩ := hinv.answered a ha
    obtain ⟨item', hitem', hid', hdest, hwant, -⟩ := hinv.asks a.ask hask
    rw [hd] at hitem' hwant
    obtain rfl := hsound.inv.eq_of_taskId hitem hitem' (hid.trans (hid'.trans htask).symm)
    exact .inr (.inr (.inr ⟨a, ha, hask, hd, hdest.symm, hid'.symm, hcode, hwant⟩))

instance (freeInstallTimeout : Int) (d : String) :
    DecidablePred (InstallStep.IsOwn freeInstallTimeout d)
  | .startRemoteFreeInstall .. => inferInstanceAs (Decidable (∀ l ∈ _, l = d))
  | .timeout .. => inferInstanceAs (Decidable (_ = freeInstallTimeout))
  | .notifyCompleteFreeInstallFromRemote .. => .isFalse id
  | .deviceOffline .. | .block .. | .other _ => .isTrue trivial

instance (freeInstallTimeout : Int) (w : InstallNetwork) :
    DecidablePred (InstallStep.Assumed freeInstallTimeout w)
  | .own .. => inferInstanceAs (Decidable (_ ∧ _))
  | .request .. | .installFinished .. | .answer .. | .loseRequest _ | .loseAnswer _ =>
    .isTrue trivial

/-- "A" asks "B" for an ability, which cannot be installed there, and is answered. -/
def refusedInstall : List InstallStep :=
  let block : InstallStep := .own "A" (.block 0 (peerEnv "A"))
  [.own "A" (.startRemoteFreeInstall 0 (peerEnv "A") { element := { deviceId := "B" } } 20010 4 0
      (some 7)), block, block, .request 0 (peerEnv "B"),
    .installFinished 0 (peerEnv "B") { element := { deviceId := "B" } } 4 5,
    .answer 0 0 (peerEnv "A"), block, block, block]

/-- "A" asks "B", and is told that "B" went offline. -/
def offlineInstall : List InstallStep :=
  let block : InstallStep := .own "A" (.block 0 (peerEnv "A"))
  [.own "A" (.startRemoteFreeInstall 0 (peerEnv "A") { element := { deviceId := "B" } } 20010 4 0
      (some 7)), block, block, .own "A" (.deviceOffline (peerEnv "A") "B")]

/-- "B" cannot install the ability and ends the task with code 5, which is what the application
on "A" is told; in the other run it is told that "B" is offline. -/
theorem install_answers_come_home_refused :
    (∃ w : InstallNetwork, (w.device "A").answers.map (fun answer => answer.2.doneCode) = [some 5] ∧
      ∃ a ∈ w.answered, a.ask.device = "A" ∧ a.ask.destination = "B" ∧ a.resultCode = 5) ∧
    ∃ w : InstallNetwork,
      (w.device "A").answers.map (fun answer => answer.2.doneCode) = [some deviceOfflineErr] ∧
      ∃ item ∈ (w.device "A").pushed, item.deviceId = "B" ∧ ("A", item.deviceId) ∈ w.offline := by
  have hrefused : (Runs.exec (fun w step => if step.Assumed (-1) w then step.apply w else none) {}
      refusedInstall).any (fun w =>
        (w.device "A").answers.map (fun answer => answer.2.doneCode) = [some 5] ∧
        w.timedOut = [] ∧ w.offline = [] ∧ w.failed = [] ∧
        ∀ item ∈ (w.device "A").pushed, item.deviceId = "B") = true := by decide +kernel
  have hoffline : (Runs.exec (fun w step => if step.Assumed (-1) w then step.apply w else none) {}
      offlineInstall).any (fun w =>
        (w.device "A").answers.map (fun answer => answer.2.doneCode) = [some deviceOfflineErr] ∧
        w.timedOut = [] ∧ w.failed = [] ∧ w.answered.length = 0 ∧
        ∀ item ∈ (w.device "A").pushed, item.deviceId = "B") = true := by decide +kernel
  constructor
  · obtain ⟨w, hw, hcheck⟩ := (Option.any_eq_true _ _).mp hrefused
    obtain ⟨hcode, htimedOut, hnone, hfailed, hdevice⟩ := of_decide_eq_true hcheck
    refine ⟨w, hcode, ?_⟩
    obtain ⟨answer, ha, hcode⟩ := List.map_eq_singleton_iff.mp hcode
    obtain ⟨item, hitem, -, callback, code, -, he, hwhy⟩ := install_answers_come_home
      (Runs.Reach.of_exec_checked hw) "A" answer (ha ▸ List.mem_singleton_self answer)
    rw [he] at hcode
    cases hcode
    rw [htimedOut, hnone, hfailed] at hwhy
    simp only [List.not_mem_nil, and_false, false_or] at hwhy
    obtain ⟨a, ha, -, hd, hdest, -, hcode, -⟩ := hwhy
    exact ⟨a, ha, hd, hdest.trans (hdevice item hitem), hcode⟩
  · obtain ⟨w, hw, hcheck⟩ := (Option.any_eq_true _ _).mp hoffline
    obtain ⟨hcode, htimedOut, hfailed, hanswered, hdevice⟩ := of_decide_eq_true hcheck
    refine ⟨w, hcode, ?_⟩
    obtain ⟨answer, ha, hcode⟩ := List.map_eq_singleton_iff.mp hcode
    obtain ⟨item, hitem, -, callback, code, -, he, hwhy⟩ := install_answers_come_home
      (Runs.Reach.of_exec_checked hw) "A" answer (ha ▸ List.mem_singleton_self answer)
    rw [htimedOut, hfailed, List.length_eq_zero_iff.mp hanswered] at hwhy
    simp only [List.not_mem_nil, and_false, false_and, exists_false, false_or, or_false] at hwhy
    exact ⟨item, hitem, hdevice item hitem, hwhy.2⟩

end DistributedSched

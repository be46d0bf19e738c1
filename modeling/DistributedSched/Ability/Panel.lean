import DistributedSched.Library.Debts
import DistributedSched.Library.Runs
import DistributedSched.Ability.CheckThenAct

/-!
# Ability — the panel

`StartDeviceManager` shows the panel, the application that selects devices.  `appProxy_` is the
panel, once it is connected, and `connect_` the object on which the ability manager calls back.
The tasks that write to the panel are posted with `appProxy_` there, and read it again when they
run; `connect_` is made for the token of one call, and kept for the next.

* `PanelCall.block`: the block that a call executes next; `PanelTask.block`: of a task.
* `PanelStep`: a step is a new call, a block of one, a callback of the ability manager, a task
  posted or taken up, or a block of the one that runs.
* `PanelStep.Safe`: the ability manager is given a connection of the call's own, and a panel goes
  away when no task that writes to it is left; a task to start it is posted, and written.
* `panel_tells_token`: in a run of such steps the panel is there for every task, and each call
  that was accepted is told to the panel once all is done.
* `second_start_untold`: two calls while the panel connects.
-/

namespace DistributedSched

open Std (ExtTreeMap)
open DistributedAbilityManagerService

structure ContinuationExtraParams where
  deviceTypeVec : List String := []
  targetBundle : String := ""
  description : String := ""
  filter : String := ""
  continuationMode : Int := 0
  authInfo : String := ""
deriving DecidableEq

/-- `AppConnectionStub`, whose `dmsNotifier_` is the service. -/
structure AppConnectionStub where
  token : Int
  continuationExtraParams : Option ContinuationExtraParams
deriving DecidableEq

/-- A call that has found its token registered. -/
inductive PanelRequest where
  | startDeviceManager (stub : AppConnectionStub)
  | updateConnectStatus (token : Int) (connectStatusInfo : ConnectStatusInfo)
deriving DecidableEq

/-- A call in progress, by the block it executes next.  The connection of `StartDeviceManager` is
named by the token and the parameters that it is called with. -/
inductive PanelCall where
  | checkStart (stub : AppConnectionStub)
  | startOrConnect (stub : AppConnectionStub)
  /-- `ConnectAbility`, up to the test of `connect_` -/
  | connectAbility (stub : AppConnectionStub)
  | newConnection (stub : AppConnectionStub) (bundleName abilityName : String)
  | readConnection (stub : AppConnectionStub) (bundleName abilityName : String)
  | adapterConnect (stub : AppConnectionStub) (bundleName abilityName : String)
      (connect : Option AppConnectionStub)
  | dropConnection (stub : AppConnectionStub)
  | checkUpdate (token : Int) (connectStatusInfo : ConnectStatusInfo)
  | setConnectStatusInfo (token : Int) (connectStatusInfo : ConnectStatusInfo)
  | tellPanel (token : Int) (connectStatusInfo : ConnectStatusInfo)

/-- A task of `continuationHandler_`, by the block it executes next. -/
inductive PanelTask where
  /-- `HandleStartDeviceManager` -/
  | startDeviceManager (stub : AppConnectionStub)
  | sendStart (stub : AppConnectionStub) (connectStatusInfo : Option ConnectStatusInfo)
  /-- `HandleUpdateConnectStatus` -/
  | updateConnectStatus (token : Int) (connectStatusInfo : ConnectStatusInfo)
  /-- `HandleDisconnectAbility` -/
  | disconnectAbility
  | clearConnection

inductive PanelEvent where
  | returned (request : PanelRequest) (result : Int)
  /-- `START_DEVICE_MANAGER_CODE` -/
  | startDeviceManager (panel : RemoteObject) (stub : AppConnectionStub)
      (connectStatusInfo : Option ConnectStatusInfo)
  /-- `UPDATE_CONNECT_STATUS_CODE` -/
  | updateConnectStatus (panel : RemoteObject) (token : Int)
      (connectStatusInfo : ConnectStatusInfo)

/-- What the rest of the system answers. -/
structure PanelEnv where
  initDmsImplFunc : Bool := true
  /-- the parameter `PANEL_NAME_KEY`, or its default -/
  panelName : String := ""
  /-- `SplitStr` at "_" -/
  splitStr : String → List String := fun panelName => [panelName]
  /-- `DistributedSchedAdapter::ConnectAbility` of the element with these names -/
  connectAbility : String → String → Option AppConnectionStub → Int
  /-- whether `continuationHandler_` takes a task -/
  postTask : Bool := true
  /-- whether what a task writes fits in its parcel -/
  parcelWrites : Bool := true

structure DeviceManagerPanel where
  /-- `tokenMap_` and `callbackMap_` -/
  service : DistributedAbilityManagerService := {}
  appProxy : Option RemoteObject := none
  connect : Option AppConnectionStub := none
  calls : Map Nat PanelCall := ∅
  /-- the number of calls so far -/
  started : Nat := 0
  queue : List PanelTask := []
  running : Option PanelTask := none
  /-- what the ability manager has taken to connect and not called back since -/
  connecting : List AppConnectionStub := []
  log : List PanelEvent := []
  /-- a null pointer was dereferenced -/
  crashed : Bool := false

namespace DeviceManagerPanel

variable (s : DeviceManagerPanel)

/-- The tasks that are left, in the order in which they run. -/
def tasks : List PanelTask := s.running.toList ++ s.queue

def postTask (taken : Bool) (task : PanelTask) : DeviceManagerPanel :=
  if taken then { s with queue := s.queue ++ [task] } else s

/-- Call `i` goes on. -/
def goOn (i : Nat) (call : PanelCall) : DeviceManagerPanel :=
  { s with calls := s.calls.put i (some call) }

/-- Call `i` returns. -/
def finish (i : Nat) (request : PanelRequest) (result : Int) : DeviceManagerPanel :=
  { s with calls := s.calls.put i none, log := s.log ++ [.returned request result] }

/-- A call whose first checks have passed. -/
def begin (call : PanelCall) : DeviceManagerPanel :=
  { s with calls := s.calls.put s.started (some call), started := s.started + 1 }

/-- `StartDeviceManager`, up to `IsTokenRegistered`. -/
def startDeviceManager (accessToken : Nat) (stub : AppConnectionStub) : DeviceManagerPanel :=
  if stub.continuationExtraParams.any fun params =>
      !isContinuationModeValid params.continuationMode then
    { s with log := s.log ++ [.returned (.startDeviceManager stub) invalidContinuationMode] }
  else if !s.service.isTokenRegistered accessToken stub.token then
    { s with log := s.log ++ [.returned (.startDeviceManager stub) tokenHasNotRegistered] }
  else s.begin (.checkStart stub)

/-- `UpdateConnectStatus`, up to `IsTokenRegistered`. -/
def updateConnectStatus (errNullObject : Int) (accessToken : Nat) (token : Int)
    (info : ConnectStatusInfo) : DeviceManagerPanel :=
  if info.deviceId = "" then
    { s with log := s.log ++ [.returned (.updateConnectStatus token info) errNullObject] }
  else if !isConnectStatusValid info.deviceConnectStatus then
    { s with log := s.log ++ [.returned (.updateConnectStatus token info) invalidConnectStatus] }
  else if !s.service.isTokenRegistered accessToken token then
    { s with log := s.log ++ [.returned (.updateConnectStatus token info) tokenHasNotRegistered] }
  else s.begin (.checkUpdate token info)

/-- `ScheduleStartDeviceManager`, for the connection `stub`. -/
def scheduleStartDeviceManager (taken : Bool) (appProxy : Option RemoteObject)
    (stub : AppConnectionStub) : DeviceManagerPanel :=
  let s := { s with appProxy := appProxy }
  if s.appProxy.isNone then s else s.postTask taken (.startDeviceManager stub)

end DeviceManagerPanel

open DeviceManagerPanel

/-- The next block of call `i`. -/
def PanelCall.block (env : PanelEnv) (s : DeviceManagerPanel) (i : Nat) :
    PanelCall → DeviceManagerPanel
  | checkStart stub =>
    if !s.service.isNotifierRegistered stub.token then
      s.finish i (.startDeviceManager stub) callbackHasNotRegistered
    else s.goOn i (startOrConnect stub)
  | startOrConnect stub =>
    if s.appProxy.isSome then
      (s.postTask env.postTask (.startDeviceManager stub)).finish i (.startDeviceManager stub) errOk
    else s.goOn i (connectAbility stub)
  | connectAbility stub =>
    if !env.initDmsImplFunc || env.panelName = "" then
      s.finish i (.startDeviceManager stub) connectAbilityFailed
    else match env.splitStr env.panelName with
      | [bundleName, abilityName] =>
        if s.connect.isNone then s.goOn i (newConnection stub bundleName abilityName)
        else s.goOn i (readConnection stub bundleName abilityName)
      | _ => s.finish i (.startDeviceManager stub) connectAbilityFailed
  | newConnection stub bundleName abilityName =>
    { s with connect := some stub }.goOn i (readConnection stub bundleName abilityName)
  | readConnection stub bundleName abilityName =>
    s.goOn i (adapterConnect stub bundleName abilityName s.connect)
  | adapterConnect stub bundleName abilityName connect =>
    if env.connectAbility bundleName abilityName connect = errOk then
      -- nothing but the return is left, so the callback comes after it
      { s with connecting := s.connecting ++ connect.toList }.finish i
        (.startDeviceManager stub) errOk
    else s.goOn i (dropConnection stub)
  | dropConnection stub =>
    { s with connect := none }.finish i (.startDeviceManager stub) connectAbilityFailed
  | checkUpdate token info =>
    if !s.service.isNotifierRegistered token then
      s.finish i (.updateConnectStatus token info) callbackHasNotRegistered
    else s.goOn i (setConnectStatusInfo token info)
  | setConnectStatusInfo token info =>
    let r := s.service.setConnectStatusInfo token info
    { s with service := r.1, crashed := r.2.isNone }.goOn i (tellPanel token info)
  | tellPanel token info =>
    if s.appProxy.isSome then
      (s.postTask env.postTask (.updateConnectStatus token info)).finish i
        (.updateConnectStatus token info) errOk
    else s.finish i (.updateConnectStatus token info) errOk

/-- `appProxy_->SendRequest`. -/
def DeviceManagerPanel.sendRequest (s : DeviceManagerPanel) (event : RemoteObject → PanelEvent) :
    DeviceManagerPanel :=
  match s.appProxy with
  | none => { s with crashed := true }
  | some panel => { s with running := none, log := s.log ++ [event panel] }

/-- The next block of the task that runs. -/
def PanelTask.block (env : PanelEnv) (s : DeviceManagerPanel) : PanelTask → DeviceManagerPanel
  | startDeviceManager stub =>
    if !env.parcelWrites then { s with running := none }
    else
      let r := s.service.getConnectStatusInfo stub.token
      match r.2 with
      | none => { s with service := r.1, crashed := true }
      | some info => { s with service := r.1, running := some (sendStart stub info) }
  | sendStart stub info => s.sendRequest fun panel => .startDeviceManager panel stub info
  | updateConnectStatus token info =>
    if !env.parcelWrites then { s with running := none }
    else s.sendRequest fun panel => .updateConnectStatus panel token info
  | disconnectAbility =>
    if !env.initDmsImplFunc || s.connect.isNone then { s with running := none }
    else { s with running := some clearConnection }
  | clearConnection => { s with connect := none, running := none }

inductive PanelStep where
  | startDeviceManager (accessToken : Nat) (stub : AppConnectionStub)
  | updateConnectStatus (errNullObject : Int) (accessToken : Nat) (token : Int)
      (info : ConnectStatusInfo)
  /-- the next block of call `i` -/
  | block (env : PanelEnv) (i : Nat)
  /-- `OnAbilityConnectDone`, and whether the task is taken -/
  | connectDone (taken : Bool) (stub : AppConnectionStub) (remoteObject : RemoteObject)
  /-- `OnAbilityDisconnectDone` -/
  | disconnectDone (taken : Bool) (stub : AppConnectionStub)
  /-- `HandleDisconnectAbility` -/
  | handleDisconnectAbility (taken : Bool)
  /-- the handler takes up the first task -/
  | takeUp
  /-- the next block of the task that runs -/
  | runTask (env : PanelEnv)
  /-- another call, or another task, changes the maps -/
  | others (service : DistributedAbilityManagerService)

/-- After a crash there are no more steps. -/
def PanelStep.apply (s : DeviceManagerPanel) (step : PanelStep) : Option DeviceManagerPanel :=
  if s.crashed then none
  else match step with
    | startDeviceManager accessToken stub => some (s.startDeviceManager accessToken stub)
    | updateConnectStatus errNullObject accessToken token info =>
      some (s.updateConnectStatus errNullObject accessToken token info)
    | block env i =>
      match s.calls[i]? with
      | none => none
      | some call => some (call.block env s i)
    | connectDone taken stub remoteObject =>
      some ({ s with connecting := s.connecting.filter fun other => other ≠ stub
        }.scheduleStartDeviceManager taken (some remoteObject) stub)
    | disconnectDone taken stub => some (s.scheduleStartDeviceManager taken none stub)
    | handleDisconnectAbility taken => some (s.postTask taken .disconnectAbility)
    | takeUp =>
      match s.running, s.queue with
      | none, task :: queue => some { s with running := some task, queue := queue }
      | _, _ => none
    | runTask env =>
      match s.running with
      | none => none
      | some task => some (task.block env s)
    | others service => some { s with service := service }

/-! ### What may go wrong -/

/-- The connection that a task starts the panel for. -/
def PanelTask.starts : PanelTask → Option AppConnectionStub
  | startDeviceManager stub | sendStart stub _ => some stub
  | _ => none

/-- The task writes to the panel. -/
def PanelTask.writes : PanelTask → Bool
  | startDeviceManager _ | sendStart _ _ | updateConnectStatus _ _ => true
  | disconnectAbility | clearConnection => false

/-- What an accepted call promises. -/
def PanelEvent.owes : PanelEvent → Option AppConnectionStub
  | returned (.startDeviceManager stub) result => if result = errOk then some stub else none
  | _ => none

/-- What the panel is told. -/
def PanelEvent.pays : PanelEvent → Option AppConnectionStub
  | startDeviceManager _ stub _ => some stub
  | _ => none

/-- The condition on a block of a call: the ability manager takes the connection of this call, and
the handler takes the task. -/
def PanelCall.Safe (env : PanelEnv) (s : DeviceManagerPanel) : PanelCall → Prop
  | startOrConnect _ => s.appProxy.isSome = true → env.postTask = true
  | adapterConnect stub bundleName abilityName connect =>
    env.connectAbility bundleName abilityName connect = errOk → connect = some stub
  | _ => True

def PanelStep.Safe (s : DeviceManagerPanel) : PanelStep → Prop
  | block env i => ∀ call, s.calls[i]? = some call → call.Safe env s
  | connectDone taken _ _ => taken = true
  | disconnectDone _ _ => ∀ task ∈ s.tasks, task.writes = false
  | runTask env => ∀ task, s.running = some task → task.starts ≠ none → env.parcelWrites = true
  | _ => True

namespace DeviceManagerPanel

/-- Something is still to happen for `stub`: a task is left that starts the panel for it, or its
connection has not called back. -/
def InHand (s : DeviceManagerPanel) (stub : AppConnectionStub) : Prop :=
  (∃ task ∈ s.tasks, task.starts = some stub) ∨ stub ∈ s.connecting

structure Inv (s : DeviceManagerPanel) : Prop where
  panel : ∀ task ∈ s.tasks, task.writes = true → s.appProxy ≠ none
  owed : ∀ stub, Debts.Owed PanelEvent.owes PanelEvent.pays s.log stub → s.InHand stub

variable {s : DeviceManagerPanel}

theorem init_inv : Inv {} where
  panel _ h := absurd h List.not_mem_nil
  owed _ h := absurd h Debts.not_owed_nil

theorem mem_tasks {task : PanelTask} :
    task ∈ s.tasks ↔ s.running = some task ∨ task ∈ s.queue := by
  rw [tasks, List.mem_append, Option.mem_toList]

/-! ### The tasks -/

theorem mem_tasks_postTask {taken : Bool} {task other : PanelTask} :
    other ∈ (s.postTask taken task).tasks ↔ other ∈ s.tasks ∨ taken = true ∧ other = task := by
  cases taken with
  | false => simp [postTask]
  | true =>
      have hq : (s.postTask true task).tasks = s.tasks ++ [task] :=
        (List.append_assoc _ _ _).symm
      simp [hq]

/-- Posting leaves what is in hand. -/
theorem InHand.postTask {stub : AppConnectionStub} (h : s.InHand stub) (taken : Bool)
    (task : PanelTask) : (s.postTask taken task).InHand stub := by
  obtain ⟨other, hm, hs⟩ | hc := h
  · exact .inl ⟨other, mem_tasks_postTask.mpr (.inl hm), hs⟩
  · refine .inr ?_
    cases taken <;> exact hc

theorem Inv.postTask (h : s.Inv) (taken : Bool) {task : PanelTask}
    (hw : task.writes = true → s.appProxy ≠ none) : (s.postTask taken task).Inv := by
  have hsame : (s.postTask taken task).appProxy = s.appProxy ∧
      (s.postTask taken task).log = s.log := by
    cases taken <;> exact ⟨rfl, rfl⟩
  refine ⟨fun other hm ho => ?_, fun stub ho => ?_⟩
  · rw [hsame.1]
    obtain hm | ⟨-, rfl⟩ := mem_tasks_postTask.mp hm
    · exact h.panel other hm ho
    · exact hw ho
  · rw [hsame.2] at ho
    exact (h.owed stub ho).postTask taken task

/-- The task that runs has come to its next block, or to its end. -/
theorem Inv.ran (h : s.Inv) {task : PanelTask} (hr : s.running = some task)
    {next : Option PanelTask} (hs : ∀ stub, task.starts = some stub →
      ∃ task', next = some task' ∧ task'.starts = some stub)
    (hw : ∀ task', next = some task' → task'.writes = true → task.writes = true) :
    Inv { s with running := next } := by
  refine ⟨fun other hm ho => ?_, fun stub ho => ?_⟩
  · obtain hn | hq := mem_tasks.mp hm
    · exact h.panel task (mem_tasks.mpr (.inl hr)) (hw other hn ho)
    · exact h.panel other (mem_tasks.mpr (.inr hq)) ho
  · obtain ⟨other, hm, hst⟩ | hc := h.owed stub ho
    · obtain hrun | hq := mem_tasks.mp hm
      · obtain rfl : task = other := Option.some.inj (hr.symm.trans hrun)
        obtain ⟨task', hn, hst'⟩ := hs stub hst
        exact .inl ⟨task', mem_tasks.mpr (.inl hn), hst'⟩
      · exact .inl ⟨other, mem_tasks.mpr (.inr hq), hst⟩
    · exact .inr hc

/-- A task that starts nothing comes to its end. -/
theorem Inv.ended (h : s.Inv) {task : PanelTask} (hr : s.running = some task)
    (hs : task.starts = none) : Inv { s with running := none } := by
  refine h.ran hr (fun stub hst => ?_) fun task' hn => ?_
  · rw [hs] at hst
    cases hst
  · cases hn

theorem Inv.sendRequest (h : s.Inv) {task : PanelTask} (hr : s.running = some task)
    (hw : task.writes = true) {event : RemoteObject → PanelEvent}
    (howes : ∀ panel, (event panel).owes = none)
    (hpays : ∀ panel, (event panel).pays = task.starts) : (s.sendRequest event).Inv := by
  have hthere : s.appProxy ≠ none := h.panel task (mem_tasks.mpr (.inl hr)) hw
  unfold DeviceManagerPanel.sendRequest
  cases ha : s.appProxy with
  | none => exact absurd ha hthere
  | some panel =>
      refine ⟨fun _ _ _ => Option.some_ne_none panel, fun stub ho => ?_⟩
      obtain ⟨hold, hne⟩ := ho.of_concat (by simp [howes panel])
      rw [hpays panel] at hne
      -- what is still owed is not what this task has told
      obtain ⟨other, hm, hst⟩ | hc := h.owed stub hold
      · obtain hrun | hq := mem_tasks.mp hm
        · obtain rfl : task = other := Option.some.inj (hr.symm.trans hrun)
          exact absurd hst hne
        · exact .inl ⟨other, mem_tasks.mpr (.inr hq), hst⟩
      · exact .inr hc

theorem Inv.task_inv (h : s.Inv) {env : PanelEnv} {task : PanelTask} (hr : s.running = some task)
    (hok : task.starts ≠ none → env.parcelWrites = true) : (task.block env s).Inv := by
  cases task with
  | startDeviceManager stub =>
      obtain ⟨info, hinfo⟩ := getConnectStatusInfo_eq s.service stub.token
      simp only [PanelTask.block, hok (Option.some_ne_none stub), hinfo, Bool.not_true,
        Bool.false_eq_true, if_false]
      exact h.ran hr (fun _ hst => ⟨_, rfl, hst⟩) fun _ _ _ => rfl
  | sendStart stub info => exact h.sendRequest hr rfl (fun _ => rfl) fun _ => rfl
  | updateConnectStatus token info =>
      rw [PanelTask.block]
      split
      · exact h.ended hr rfl
      · exact h.sendRequest hr rfl (fun _ => rfl) fun _ => rfl
  | disconnectAbility =>
      rw [PanelTask.block]
      split
      · exact h.ended hr rfl
      · refine h.ran hr (fun stub hst => ?_) fun task' hn hw => ?_
        · cases hst
        · cases hn
          exact hw
  | clearConnection =>
      have hended := h.ended hr rfl
      exact ⟨hended.panel, hended.owed⟩

/-! ### The calls -/

/-- A call returns; if it is accepted, something is in hand. -/
theorem Inv.finish (h : s.Inv) (i : Nat) {request : PanelRequest} {result : Int}
    (hin : ∀ stub, (PanelEvent.returned request result).owes = some stub → s.InHand stub) :
    (s.finish i request result).Inv := by
  refine ⟨h.panel, fun stub ho => ?_⟩
  obtain ho | ⟨ho, -⟩ := Debts.owed_concat.mp ho
  · exact hin stub ho
  · exact h.owed stub ho

/-- A call that is refused, or that is not a start, promises nothing. -/
theorem Inv.finish_refused (h : s.Inv) (i : Nat) {request : PanelRequest} {result : Int}
    (hnone : (PanelEvent.returned request result).owes = none) :
    (s.finish i request result).Inv := by
  refine h.finish i fun stub ho => ?_
  rw [hnone] at ho
  cases ho

theorem owes_refused {stub : AppConnectionStub} {result : Int} (h : result ≠ errOk) :
    (PanelEvent.returned (.startDeviceManager stub) result).owes = none := if_neg h

theorem owes_errOk (stub : AppConnectionStub) :
    (PanelEvent.returned (.startDeviceManager stub) errOk).owes = some stub := by
  rw [PanelEvent.owes, if_pos rfl]

theorem owes_accepted {stub other : AppConnectionStub}
    (h : (PanelEvent.returned (.startDeviceManager stub) errOk).owes = some other) :
    stub = other := Option.some.inj ((owes_errOk stub).symm.trans h)

theorem Inv.goOn (h : s.Inv) (i : Nat) (call : PanelCall) : (s.goOn i call).Inv :=
  ⟨h.panel, h.owed⟩

theorem Inv.block_inv (h : s.Inv) {env : PanelEnv} {call : PanelCall} (i : Nat)
    (hok : call.Safe env s) : (call.block env s i).Inv := by
  cases call with
  | checkStart stub =>
      rw [PanelCall.block]
      split
      · exact h.finish_refused i (owes_refused (by decide))
      · exact h.goOn i _
  | startOrConnect stub =>
      rw [PanelCall.block]
      split
      · rename_i ha
        have htaken : env.postTask = true := hok ha
        refine (h.postTask env.postTask fun _ => Option.isSome_iff_ne_none.mp ha).finish i ?_
        intro other ho
        cases owes_accepted ho
        exact .inl ⟨_, mem_tasks_postTask.mpr (.inr ⟨htaken, rfl⟩), rfl⟩
      · exact h.goOn i _
  | connectAbility stub =>
      rw [PanelCall.block]
      split
      · exact h.finish_refused i (owes_refused (by decide))
      split
      · split <;> exact h.goOn i _
      · exact h.finish_refused i (owes_refused (by decide))
  | newConnection stub bundleName abilityName => exact ⟨h.panel, h.owed⟩
  | readConnection stub bundleName abilityName => exact h.goOn i _
  | adapterConnect stub bundleName abilityName connect =>
      rw [PanelCall.block]
      split
      · rename_i htaken
        obtain rfl : connect = some stub := hok htaken
        have hmore : Inv { s with connecting := s.connecting ++ (some stub).toList } :=
          ⟨h.panel, fun other ho => (h.owed other ho).imp_right (List.mem_append_left _)⟩
        refine hmore.finish i fun other ho => ?_
        cases owes_accepted ho
        exact .inr (List.mem_append_right _ (List.mem_singleton_self stub))
      · exact h.goOn i _
  | dropConnection stub =>
      have hdrop : Inv { s with connect := none } := ⟨h.panel, h.owed⟩
      exact hdrop.finish_refused i (owes_refused (by decide))
  | checkUpdate token info =>
      rw [PanelCall.block]
      split
      · exact h.finish_refused i rfl
      · exact h.goOn i _
  | setConnectStatusInfo token info => exact ⟨h.panel, h.owed⟩
  | tellPanel token info =>
      rw [PanelCall.block]
      split
      · rename_i ha
        have hposted : (s.postTask env.postTask (.updateConnectStatus token info)).Inv :=
          h.postTask env.postTask fun _ => Option.isSome_iff_ne_none.mp ha
        exact hposted.finish_refused i rfl
      · exact h.finish_refused i rfl

/-! ### One step -/

theorem Inv.start_inv (h : s.Inv) (accessToken : Nat) (stub : AppConnectionStub) :
    (s.startDeviceManager accessToken stub).Inv := by
  have hrefused : ∀ result : Int, result ≠ errOk →
      Inv { s with log := s.log ++ [.returned (.startDeviceManager stub) result] } :=
    fun result hr => ⟨h.panel, (h.finish_refused 0 (owes_refused hr)).owed⟩
  unfold DeviceManagerPanel.startDeviceManager
  split
  · exact hrefused _ (by decide)
  split
  · exact hrefused _ (by decide)
  · exact ⟨h.panel, h.owed⟩

theorem Inv.update_inv (h : s.Inv) (errNullObject : Int) (accessToken : Nat) (token : Int)
    (info : ConnectStatusInfo) :
    (s.updateConnectStatus errNullObject accessToken token info).Inv := by
  have hnoted : ∀ result : Int,
      Inv { s with log := s.log ++ [.returned (.updateConnectStatus token info) result] } :=
    fun result => ⟨h.panel, (h.finish_refused 0 rfl).owed⟩
  unfold DeviceManagerPanel.updateConnectStatus
  split
  · exact hnoted _
  split
  · exact hnoted _
  split
  · exact hnoted _
  · exact ⟨h.panel, h.owed⟩

/-- The task that a callback posts is for what the connection was made for. -/
theorem Inv.connectDone_inv (h : s.Inv) (stub : AppConnectionStub) (remoteObject : RemoteObject) :
    ({ s with connecting := s.connecting.filter fun other => other ≠ stub
      }.scheduleStartDeviceManager true (some remoteObject) stub).Inv := by
  have hthere : some remoteObject ≠ none := Option.some_ne_none remoteObject
  have htasks : ∀ task, task ∈ s.tasks ∨ task = .startDeviceManager stub →
      task ∈ ({ s with
        appProxy := some remoteObject
        connecting := s.connecting.filter fun other => other ≠ stub
      }.postTask true (.startDeviceManager stub)).tasks :=
    fun task hm => mem_tasks_postTask.mpr (hm.imp_right fun heq => ⟨rfl, heq⟩)
  refine ⟨fun _ _ _ => hthere, fun other ho => ?_⟩
  obtain ⟨task, hm, hst⟩ | hc := h.owed other ho
  · exact .inl ⟨task, htasks task (.inl hm), hst⟩
  · by_cases hs : stub = other
    · exact .inl ⟨.startDeviceManager stub, htasks _ (.inr rfl), congrArg some hs⟩
    · exact .inr (List.mem_filter.mpr ⟨hc, decide_eq_true (Ne.symm hs)⟩)

theorem Inv.step (h : s.Inv) {step : PanelStep} {s' : DeviceManagerPanel} (hok : step.Safe s)
    (hs : step.apply s = some s') : s'.Inv := by
  unfold PanelStep.apply at hs
  split at hs
  · cases hs
  cases step with
  | startDeviceManager accessToken stub =>
      cases hs
      exact h.start_inv accessToken stub
  | updateConnectStatus errNullObject accessToken token info =>
      cases hs
      exact h.update_inv errNullObject accessToken token info
  | block env i =>
      dsimp only at hs
      split at hs
      · cases hs
      · rename_i call hc
        cases hs
        exact h.block_inv i (hok call hc)
  | connectDone taken stub remoteObject =>
      cases hs
      obtain rfl : taken = true := hok
      exact h.connectDone_inv stub remoteObject
  | disconnectDone taken stub =>
      cases hs
      refine ⟨fun task hm hw => ?_, h.owed⟩
      rw [hok task hm] at hw
      cases hw
  | handleDisconnectAbility taken =>
      cases hs
      refine h.postTask taken fun hw => ?_
      cases hw
  | takeUp =>
      dsimp only at hs
      split at hs
      · rename_i task queue hr hq
        cases hs
        -- the tasks that are left are the same
        have htasks : tasks { s with running := some task, queue := queue } = s.tasks := by
          rw [tasks, tasks, hr, hq]
          rfl
        refine ⟨fun other hm => h.panel other (htasks ▸ hm), fun stub ho => ?_⟩
        obtain ⟨other, hm, hst⟩ | hc := h.owed stub ho
        · exact .inl ⟨other, htasks ▸ hm, hst⟩
        · exact .inr hc
      · cases hs
  | runTask env =>
      dsimp only at hs
      split at hs
      · cases hs
      · rename_i task hr
        cases hs
        exact h.task_inv hr (hok task hr)
  | others service =>
      cases hs
      exact ⟨h.panel, h.owed⟩

/-! ### Every run -/

/-- The panel is there for every task that writes to it, those that run and those that wait. -/
def PanelThere (s : DeviceManagerPanel) : Prop :=
  ∀ task ∈ s.tasks, task.writes = true → s.appProxy ≠ none

/-- No task is left, and every connection that was started has called back. -/
def Settled (s : DeviceManagerPanel) : Prop := s.tasks = [] ∧ s.connecting = []

/-- Behind every call that was accepted the panel was told its token and its parameters. -/
def Told (s : DeviceManagerPanel) : Prop :=
  ∀ pre stub post, s.log = pre ++ .returned (.startDeviceManager stub) errOk :: post →
    ∃ panel info, .startDeviceManager panel stub info ∈ post

theorem Inv.told (h : s.Inv) (hs : s.Settled) : s.Told := by
  intro pre stub post hlog
  have hnot : ¬ Debts.Owed PanelEvent.owes PanelEvent.pays s.log stub := by
    intro ho
    obtain ⟨task, hm, -⟩ | hc := h.owed stub ho
    · rw [hs.1] at hm
      cases hm
    · rw [hs.2] at hc
      cases hc
  obtain ⟨e, hm, hp⟩ := Debts.delivered_of_not_owed hnot hlog (owes_errOk stub)
  cases e with
  | startDeviceManager panel other info =>
      obtain rfl : other = stub := Option.some.inj hp
      exact ⟨panel, info, hm⟩
  | returned request result => cases hp
  | updateConnectStatus panel token info => cases hp

end DeviceManagerPanel

/-- **The panel is told each token.**  In a run of safe steps, whatever the order of calls,
callbacks and tasks, the panel is there for every task that writes to it; and when no task is left
and every connection has called back, each call that was accepted is told. -/
theorem panel_tells_token {s : DeviceManagerPanel}
    (h : Runs.Reach PanelStep.apply (fun s step => step.Safe s) {} s) :
    s.PanelThere ∧ (s.Settled → s.Told) := by
  have hinv : s.Inv := by
    refine h.invariant (P := Inv) init_inv fun s step s' hi hok hs => ?_
    exact hi.step hok hs
  exact ⟨hinv.panel, hinv.told⟩

/-- Two applications, with tokens 1 and 2, that have each registered a notifier. -/
def twoTokens : DistributedAbilityManagerService :=
  let s := (({} : DistributedAbilityManagerService).register none 7).2
  let s := (s.register none 8).2
  let s := (s.registerDeviceSelectionCallback 0 7 1 eventConnect 11).service
  (s.registerDeviceSelectionCallback 0 8 2 eventConnect 12).service

/-- The panel is configured, and the ability manager connects whatever it is given. -/
def panelEnv : PanelEnv :=
  { panelName := "panel_main", splitStr := fun _ => ["panel", "main"]
    connectAbility := fun _ _ _ => errOk }

/-- The first call makes the connection, and the second comes when it has called back: both are
accepted and told. -/
theorem panel_tells_token_once : ∃ s : DeviceManagerPanel, s.Settled ∧ s.Told ∧
    s.calls.isEmpty = true ∧ s.log =
      [.returned (.startDeviceManager ⟨1, none⟩) errOk,
        .returned (.startDeviceManager ⟨2, none⟩) errOk,
        .startDeviceManager 100 ⟨1, none⟩ none, .startDeviceManager 100 ⟨2, none⟩ none] := by
  have hok : ∀ (s : DeviceManagerPanel) (task : PanelTask), s.running = some task →
      task.starts ≠ none → panelEnv.parcelWrites = true := fun _ _ _ _ => rfl
  have hconnect : Runs.Reach PanelStep.apply (fun s step => step.Safe s) {} _ :=
    .next (.next (.next (.next (.next (.next (.next (.next (.next .init
      (l := .others twoTokens) trivial rfl)
      (l := .startDeviceManager 7 ⟨1, none⟩) trivial rfl)
      (l := .block panelEnv 0) (ExtTreeMap.forall_getElem? rfl trivial) rfl)
      (l := .block panelEnv 0) (ExtTreeMap.forall_getElem? rfl fun h => by cases h) rfl)
      (l := .block panelEnv 0) (ExtTreeMap.forall_getElem? rfl trivial) rfl)
      (l := .block panelEnv 0) (ExtTreeMap.forall_getElem? rfl trivial) rfl)
      (l := .block panelEnv 0) (ExtTreeMap.forall_getElem? rfl trivial) rfl)
      (l := .block panelEnv 0) (ExtTreeMap.forall_getElem? rfl fun _ => rfl) rfl)
      (l := .connectDone true ⟨1, none⟩ 100) rfl rfl
  have hr : Runs.Reach PanelStep.apply (fun s step => step.Safe s) {} _ :=
    .next (.next (.next (.next (.next (.next (.next (.next (.next hconnect
      (l := .startDeviceManager 8 ⟨2, none⟩) trivial rfl)
      (l := .block panelEnv 1) (ExtTreeMap.forall_getElem? rfl trivial) rfl)
      (l := .block panelEnv 1) (ExtTreeMap.forall_getElem? rfl fun _ => rfl) rfl)
      (l := .takeUp) trivial rfl)
      (l := .runTask panelEnv) (hok _) rfl) (l := .runTask panelEnv) (hok _) rfl)
      (l := .takeUp) trivial rfl)
      (l := .runTask panelEnv) (hok _) rfl) (l := .runTask panelEnv) (hok _) rfl
  exact ⟨_, ⟨rfl, rfl⟩, (panel_tells_token hr).2 ⟨rfl, rfl⟩, rfl, rfl⟩

/-- **A token that is not told.**  The call with token 2 comes while the panel connects for token
1: it is accepted with the connection of the other, and the panel is told token 1 twice.  And a
panel goes away before the task that was posted for it runs. -/
theorem second_start_untold :
    (∃ s : DeviceManagerPanel, Runs.exec PanelStep.apply {}
      (.others twoTokens ::
        .startDeviceManager 7 ⟨1, none⟩ :: List.replicate 6 (.block panelEnv 0) ++
        .startDeviceManager 8 ⟨2, none⟩ :: List.replicate 5 (.block panelEnv 1) ++
        [.connectDone true ⟨1, none⟩ 100, .connectDone true ⟨1, none⟩ 100,
          .takeUp, .runTask panelEnv, .runTask panelEnv,
          .takeUp, .runTask panelEnv, .runTask panelEnv]) = some s ∧
      s.calls.isEmpty = true ∧ s.Settled ∧ ¬ s.Told) ∧
    ∃ s : DeviceManagerPanel, Runs.exec PanelStep.apply {}
      (.others twoTokens ::
        .startDeviceManager 7 ⟨1, none⟩ :: List.replicate 6 (.block panelEnv 0) ++
        [.connectDone true ⟨1, none⟩ 100, .disconnectDone true ⟨1, none⟩,
          .takeUp, .runTask panelEnv, .runTask panelEnv]) = some s ∧
      s.crashed = true ∧ ¬ s.PanelThere := by
  refine ⟨⟨_, rfl, rfl, ⟨rfl, rfl⟩, fun h => ?_⟩, ⟨_, rfl, rfl, fun h => ?_⟩⟩
  · obtain ⟨panel, info, hm⟩ := h
      [.returned (.startDeviceManager ⟨1, none⟩) errOk] ⟨2, none⟩ _ rfl
    simp at hm
  · exact h (.sendStart ⟨1, none⟩ none) List.mem_cons_self rfl rfl

end DistributedSched

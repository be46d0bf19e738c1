import DistributedSched.Ability.CheckThenAct
import DistributedSched.Wire.Ability

/-!
# Ability — what is selected reaches the application

The panel tells the service which devices were selected for a token, the service tells the
notifier of the token in a task, and the notifier, an object in the process of the application,
schedules a call of a JavaScript function on the thread of its engine.  `on` and `off` run on that
thread: each is a call of the service between two parts of its own.

* `JsContinuationManager`, `JsDeviceSelectionListener`: the two tables of an application.
* `SelectionStep`: calls of the service by their blocks, its tasks, and the threads of engines.
* `selection_delivered`: over every run, what the panel says of a token is told at most once, to
  the function that was given to `on` for that token; and what an engine crashes on.
* `off_then_call`: an application turns a callback off while a call of it is scheduled.
-/

namespace DistributedSched

open Std (ExtTreeMap)
open Coding (concat)
open DistributedAbilityManagerService

/-- A function of the application. -/
abbrev JsFunction := Nat

/-- A `JsDeviceSelectionListener`, with what `on` made it for, and whether it was given its
function and lost it again. -/
structure JsDeviceSelectionListener where
  engine : Nat
  token : Int
  cbType : String
  jsListenerObj : JsFunction
  jsCallBackMap : Map String JsFunction := ∅
  added : Bool := false
  removed : Bool := false

namespace JsDeviceSelectionListener

def addCallback (l : JsDeviceSelectionListener) (cbType : String) (jsListenerObj : JsFunction) :
    JsDeviceSelectionListener :=
  { l with jsCallBackMap := l.jsCallBackMap.insert cbType jsListenerObj, added := true }

def removeCallback (l : JsDeviceSelectionListener) (cbType : String) : JsDeviceSelectionListener :=
  { l with jsCallBackMap := l.jsCallBackMap.erase cbType, removed := true }

/-- It has its function. -/
def Active (l : JsDeviceSelectionListener) : Prop := l.added = true ∧ l.removed = false

instance (l : JsDeviceSelectionListener) : Decidable l.Active :=
  inferInstanceAs (Decidable (_ ∧ _))

end JsDeviceSelectionListener

/-- The part of `on` or of `off` that is to follow the call of the service. -/
inductive JsCall where
  | on (cbType : String) (token : Int) (jsListenerObj : JsFunction)
      (deviceSelectionListener : RemoteObject)
  | off (cbType : String) (token : Int) (listener : RemoteObject)

/-- An engine, with the `JsContinuationManager` that its module made. -/
structure JsContinuationManager where
  accessToken : Nat
  jsCbMap : Map Int (Map String (JsFunction × RemoteObject)) := ∅
  /-- what its thread is at, and the call of the service that it waits for -/
  waiting : Option (Nat × JsCall) := none
  crashed : Bool := false

namespace JsContinuationManager

variable (m : JsContinuationManager)

def callback (token : Int) (cbType : String) : Option (JsFunction × RemoteObject) :=
  m.jsCbMap[token]?.bind fun callbacks => callbacks[cbType]?

def isCallbackRegistered (token : Int) (cbType : String) : Bool := (m.callback token cbType).isSome

/-- `jsCbMap_[token][cbType] = callbackPair`. -/
def setCallback (token : Int) (cbType : String) (callbackPair : JsFunction × RemoteObject) :
    JsContinuationManager :=
  { m with jsCbMap :=
      m.jsCbMap.insert token ((m.jsCbMap[token]?.getD ∅).insert cbType callbackPair) }

/-- The end of `off`. -/
def eraseCallback (token : Int) (cbType : String) : JsContinuationManager :=
  let callbacks := (m.jsCbMap[token]?.getD ∅).erase cbType
  { m with jsCbMap :=
      if callbacks.isEmpty then m.jsCbMap.erase token else m.jsCbMap.insert token callbacks }

end JsContinuationManager

/-- What the panel said in one message, on its way to a notifier. -/
structure Notice where
  /-- the call of the service that the message was -/
  message : Nat
  notifier : RemoteObject
  selected : Selected
deriving DecidableEq

structure DeviceSelection where
  /-- the calls of the service -/
  calls : AbilityCalls := {}
  /-- what a call of `OnDeviceConnect` or `OnDeviceDisconnect` carries -/
  answers : Map Nat (Int × Selected) := ∅
  /-- what a call returned -/
  returned : Map Nat Int := ∅
  /-- the tasks of `HandleDeviceConnect` and `HandleDeviceDisconnect`; `none` is a null notifier -/
  tasks : List (Option Notice) := []
  listeners : List JsDeviceSelectionListener := []
  engines : List JsContinuationManager := []
  /-- the calls that listeners have scheduled -/
  scheduled : List Notice := []
  /-- the calls of JavaScript functions -/
  called : List (Notice × JsFunction) := []
  /-- what tasks were posted for -/
  posted : List Notice := []
  /-- what was not sent, or not taken -/
  lost : List Notice := []
  /-- scheduled calls that found no function -/
  crashes : List Notice := []

/-- The notifier that a block of `OnDeviceConnect` or `OnDeviceDisconnect` posts a task for. -/
def AbilityCall.posts (s : DistributedAbilityManagerService) :
    AbilityCall → Option (Option RemoteObject)
  | getNotifier true token cbType => (s.getNotifier token cbType).2
  | _ => none

/-- Requests that neither `on` nor the panel makes. -/
def AbilityRequest.isOther : AbilityRequest → Bool
  | registerDeviceSelectionCallback .. | onDeviceConnect .. | onDeviceDisconnect .. => false
  | _ => true

/-- The call of the service when the panel has spoken, and what it carries. -/
def PanelAnswer.request (postDisconnect postNotify : Bool) :
    PanelAnswer → Option (AbilityRequest × Int × Selected)
  | onDeviceConnect token continuationResults =>
    some (.onDeviceConnect postDisconnect postNotify token, token, .connected continuationResults)
  | onDeviceDisconnect token deviceIds =>
    some (.onDeviceDisconnect postDisconnect postNotify token, token, .disconnected deviceIds)
  -- it posts a task that leaves the maps and the notifiers alone
  | onDeviceCancel => none

/-- A step, with what the rest of the system answers. -/
inductive SelectionStep where
  /-- an application loads the module -/
  | newEngine (accessToken : Nat)
  | call (request : AbilityRequest)
  /-- a message of the panel -/
  | panel (code : EventCode) (data : List UInt8) (postDisconnect postNotify : Bool)
  /-- the next block of call `i` -/
  | block (i : Nat)
  /-- the first task; whether its message is sent -/
  | notify (sent : Bool)
  /-- the first part of `on`; whether its request is sent -/
  | on (engine : Nat) (sent : Bool) (cbType : String) (token : Int) (jsListenerObj : JsFunction)
  | off (engine : Nat) (sent : Bool) (cbType : String) (token : Int)
  /-- the second part of either; whether the reply is received -/
  | resume (engine : Nat) (received : Bool)
  /-- a scheduled call -/
  | complete (k : Nat)

section steps

variable (p : AbilityPrimitives) (lib : ListLibrary) (env : AbilityEnv)

/-- The message of a task, as it is told on the side of the application. -/
def Selected.transmit (selected : Selected) : Option Selected :=
  match DeviceSelectionNotifierProxy.write p lib selected with
  | none => none
  | some (code, data) =>
    match DeviceSelectionNotifierStub.onRemoteRequest p lib env code data with
    | .ok (selected, _) => some selected
    | .error _ => none

namespace DeviceSelection

variable (w : DeviceSelection)

/-- The service is called. -/
def start (request : AbilityRequest) (answer : Option (Int × Selected)) : DeviceSelection :=
  { w with
    calls := w.calls.start request, answers := w.answers.put w.calls.started answer }

/-- A block of call `i`, and the task that it posts. -/
def block (i : Nat) (call : AbilityCall) : DeviceSelection :=
  let b := call.block w.calls.service
  let w' := { w with
    calls := w.calls.after i b, returned := w.returned.put i (b.returned.or w.returned[i]?) }
  match call.posts w.calls.service, w.answers[i]? with
  | some (some n), some (_, selected) =>
    let notice := ⟨i, n, selected⟩
    { w' with tasks := w.tasks ++ [some notice], posted := w.posted ++ [notice] }
  | some none, some _ => { w' with tasks := w.tasks ++ [none] }
  | _, _ => w'

/-- The first task; a null notifier is dereferenced. -/
def notify (sent : Bool) : Option DeviceSelection :=
  if w.calls.crashed then none
  else match w.tasks with
    | [] => none
    | none :: tasks => some { w with tasks, calls := { w.calls with crashed := true } }
    | some notice :: tasks =>
      match if sent then notice.selected.transmit p lib env else none with
      | some selected =>
        some { w with tasks, scheduled := w.scheduled ++ [{ notice with selected }] }
      | none => some { w with tasks, lost := w.lost ++ [notice] }

/-- `OnRegisterDeviceSelectionCallback`, as far as the call of the service. -/
def on (e : Nat) (sent : Bool) (cbType : String) (token : Int) (jsListenerObj : JsFunction) :
    Option DeviceSelection :=
  match w.engines[e]? with
  | none => none
  | some m =>
    if m.crashed || m.waiting.isSome then none
    else if m.isCallbackRegistered token cbType || !sent then some w
    else if w.calls.crashed then none
    else
      let n := w.listeners.length
      let w' := w.start (.registerDeviceSelectionCallback env.errNullObject.1 m.accessToken token
        cbType n) none
      some { w' with
        listeners := w.listeners ++ [{ engine := e, token, cbType, jsListenerObj }]
        engines := w.engines.set e { m with
          waiting := some (w.calls.started, .on cbType token jsListenerObj n) } }

/-- `OnUnregisterDeviceSelectionCallback`, as far as the call of the service. -/
def off (e : Nat) (sent : Bool) (cbType : String) (token : Int) : Option DeviceSelection :=
  match w.engines[e]? with
  | none => none
  | some m =>
    if m.crashed || m.waiting.isSome then none
    else if !isCallbackType cbType then some w
    else match m.callback token cbType with
      | none => some w
      | some (_, listener) =>
        if !sent then some w
        else if w.calls.crashed then none
        else
          let w' := w.start (.unregisterDeviceSelectionCallback m.accessToken token cbType) none
          some { w' with engines := w.engines.set e { m with
            waiting := some (w.calls.started, .off cbType token listener) } }

/-- What follows the call of the service. -/
def resume (e : Nat) (received : Bool) : Option DeviceSelection :=
  match w.engines[e]? with
  | none => none
  | some m =>
    match m.waiting with
    | none => none
    | some (i, jsCall) =>
      match if received then w.returned[i]? else some env.errDeadObject.1 with
      | none => none
      | some ret =>
        let m := { m with waiting := none }
        if m.crashed then none
        else if ret ≠ errOk then some { w with engines := w.engines.set e m }
        else match jsCall with
          | .on cbType token jsListenerObj n =>
            some { w with
              listeners := w.listeners.modify n fun l => l.addCallback cbType jsListenerObj
              engines := w.engines.set e (m.setCallback token cbType (jsListenerObj, n)) }
          | .off cbType token n =>
            some { w with
              listeners := w.listeners.modify n fun l => l.removeCallback cbType
              engines := w.engines.set e (m.eraseCallback token cbType) }

/-- `CallJsMethodInner`, on the thread of the engine: a type without a function gives a null
pointer, through which it goes. -/
def complete (k : Nat) : Option DeviceSelection :=
  match w.scheduled[k]? with
  | none => none
  | some notice =>
    match w.listeners[notice.notifier]? with
    | none => none
    | some l =>
      match w.engines[l.engine]? with
      | none => none
      | some m =>
        if m.crashed || m.waiting.isSome then none
        else match l.jsCallBackMap[notice.selected.eventType]? with
          | some method =>
            some { w with
              scheduled := w.scheduled.eraseIdx k, called := w.called ++ [(notice, method)] }
          | none =>
            some { w with
              scheduled := w.scheduled.eraseIdx k, crashes := w.crashes ++ [notice]
              engines := w.engines.set l.engine { m with crashed := true } }

end DeviceSelection

def SelectionStep.apply (w : DeviceSelection) : SelectionStep → Option DeviceSelection
  | newEngine accessToken =>
    some { w with engines := w.engines ++ [{ accessToken := accessToken }] }
  | call request =>
    if w.calls.crashed || !request.isOther then none else some (w.start request none)
  | panel code data postDisconnect postNotify =>
    if w.calls.crashed then none
    else match AppDeviceCallbackStub.onRemoteRequest p lib env code data with
      | .error _ => some w
      | .ok (answer, _) =>
        match answer.request postDisconnect postNotify with
        | none => some w
        | some (request, answer) => some (w.start request (some answer))
  | block i =>
    if w.calls.crashed then none
    else match w.calls.calls[i]? with
      | none => none
      | some c => some (w.block i c)
  | notify sent => w.notify p lib env sent
  | on e sent cbType token jsListenerObj => w.on env e sent cbType token jsListenerObj
  | off e sent cbType token => w.off e sent cbType token
  | resume e received => w.resume env e received
  | complete k => w.complete k

/-- What the panel says fits in the messages to notifiers. -/
def SelectionStep.Carried : SelectionStep → Prop
  | panel code data postDisconnect postNotify =>
    match AppDeviceCallbackStub.onRemoteRequest p lib env code data with
    | .ok (answer, _) => ∀ r ∈ answer.request postDisconnect postNotify, r.2.2.Carried p lib
    | .error _ => True
  | _ => True

end steps

/-! ### The service -/

namespace AbilityCall

/-- The notifier that a call is to register. -/
def registers : AbilityCall → Option (Int × String × RemoteObject)
  | requested (.registerDeviceSelectionCallback _ _ token cbType notifier) =>
    some (token, cbType, notifier)
  | checkNotRegistered _ token cbType notifier => some (token, cbType, notifier)
  | setNotifier _ token cbType notifier => some (token, cbType, notifier)
  | _ => none

/-- The notifier that a call asks for. -/
def asks : AbilityCall → Option (Int × String)
  | requested (.onDeviceConnect _ _ token) => some (token, eventConnect)
  | requested (.onDeviceDisconnect _ _ token) => some (token, eventDisconnect)
  | getNotifier _ token cbType => some (token, cbType)
  | _ => none

variable {s : DistributedAbilityManagerService} {call call' : AbilityCall}

/-- A call goes on with what it is about. -/
theorem block_next (h : (call.block s).next = some call') :
    call'.registers = call.registers ∧ call'.asks = call.asks := by
  cases call with
  | requested request =>
      cases request with
      | notifierDied postTask notifier =>
          rw [block, AbilityRequest.check] at h
          cases hq : s.queryTokenByNotifier notifier with
          | none =>
              rw [hq] at h
              cases h
          | some token =>
              rw [hq] at h
              cases h
              exact ⟨rfl, rfl⟩
      | _ =>
          simp only [block, AbilityRequest.check, AbilityRequest.checkNotifier] at h
          split_ifs at h <;> cases h
          all_goals exact ⟨rfl, rfl⟩
  | deleteNotifier token cbType =>
      rw [block] at h
      cases hd : s.deleteNotifier token cbType <;> rw [hd] at h <;> cases h
  | checkNotRegistered | checkRegistered | checkUpdate | checkStart =>
      simp only [block] at h
      split_ifs at h <;> cases h
      all_goals exact ⟨rfl, rfl⟩
  | _ =>
      cases h
      try exact ⟨rfl, rfl⟩

/-- What goes through the pointer of a token leaves the notifiers alone. -/
theorem holds_access {token t : Int} {cbType : String} {n : RemoteObject} :
    (s.access token).1.Holds t cbType n ↔ s.Holds t cbType n := by
  unfold access
  split
  · exact Iff.rfl
  · rename_i hn
    by_cases ht : token = t
    · subst ht
      simp [Holds, hn]
    · exact holds_congr (ExtTreeMap.getElem?_insert_of_ne ht)

/-- After a block, a notifier is held that was held, or that the call registers. -/
theorem holds_block {t : Int} {cbType : String} {n : RemoteObject}
    (h : (call.block s).service.Holds t cbType n) :
    s.Holds t cbType n ∨ call.registers = some (t, cbType, n) := by
  cases call with
  | requested request => exact .inl (by rwa [block, (request.check_reads s).service] at h)
  | storeToken accessToken => exact .inl h
  | emplaceToken accessToken token => exact .inl h
  | eraseCallback token postTask result => exact .inl (holds_removed.mp h).1
  | eraseToken token postTask result => exact .inl h
  | checkNotRegistered errNullObject token c notifier =>
      rw [block] at h
      split at h <;> exact .inl h
  | setNotifier errNullObject token c notifier =>
      change (s.setNotifier token c notifier errNullObject).service.Holds t cbType n at h
      cases hc : s.callbackMap[token]? with
      | none =>
          rw [setNotifier_first hc] at h
          rcases (holds_set_first hc).mp h with h | ⟨rfl, rfl, rfl⟩
          · exact .inl h
          · exact .inr rfl
      | some o =>
          unfold DistributedAbilityManagerService.setNotifier at h
          rw [hc] at h
          cases o with
          | none => exact .inl h
          | some info =>
              replace h := holds_insert.mp h
              split at h
              · rename_i ht
                subst ht
                rw [NotifierInfo.setNotifier, ExtTreeMap.getElem?_insert] at h
                split at h
                · rename_i hcb
                  obtain rfl := Option.some.inj h
                  obtain rfl := Std.LawfulEqCmp.eq_of_compare hcb
                  exact .inr rfl
                · exact .inl ⟨info, hc, h⟩
              · exact .inl h
  | checkRegistered token c =>
      rw [block] at h
      split at h <;> exact .inl h
  | deleteNotifier token c =>
      rw [block] at h
      cases hd : s.deleteNotifier token c with
      | none =>
          rw [hd] at h
          exact .inl h
      | some r =>
          rw [hd] at h
          exact .inl ((holds_delete hd).mp h).1
  | checkUpdate token connectStatusInfo =>
      rw [block] at h
      split at h <;> exact .inl h
  | setConnectStatusInfo token connectStatusInfo =>
      change (s.setConnectStatusInfo token connectStatusInfo).1.Holds t cbType n at h
      unfold DistributedAbilityManagerService.setConnectStatusInfo access at h
      cases hc : s.callbackMap[token]? with
      | none =>
          rw [hc] at h
          have ha : (s.access token).1.Holds t cbType n := by
            unfold access
            rw [hc]
            exact h
          exact .inl (holds_access.mp ha)
      | some o =>
          rw [hc] at h
          cases o with
          | none => exact .inl h
          | some info =>
              replace h := holds_insert.mp h
              split at h
              · rename_i ht
                subst ht
                exact .inl ⟨info, hc, h⟩
              · exact .inl h
  | checkStart panel token =>
      rw [block] at h
      split_ifs at h <;> exact .inl h
  | getConnectStatusInfo token =>
      obtain ⟨connectStatusInfo, he⟩ := getConnectStatusInfo_eq s token
      change (s.getConnectStatusInfo token).1.Holds t cbType n at h
      rw [he] at h
      exact .inl h
  | getNotifier postNotify token c =>
      have hs : (s.getNotifier token c).1 = (s.access token).1 := by
        unfold DistributedAbilityManagerService.getNotifier
        rcases s.access token with ⟨s', _ | info⟩ <;> rfl
      change (s.getNotifier token c).1.Holds t cbType n at h
      rw [hs] at h
      exact .inl (holds_access.mp h)

/-- A task is posted for the notifier that is held. -/
theorem posts_eq_some {n : RemoteObject} (h : call.posts s = some (some n)) :
    ∃ token cbType, call.asks = some (token, cbType) ∧ s.Holds token cbType n ∧
      (call.block s).next = none := by
  cases call with
  | getNotifier postNotify token cbType =>
      cases postNotify with
      | false => cases h
      | true =>
          refine ⟨token, cbType, rfl, ?_, rfl⟩
          change (s.getNotifier token cbType).2 = some (some n) at h
          unfold DistributedAbilityManagerService.getNotifier access at h
          cases hc : s.callbackMap[token]? with
          | none =>
              rw [hc] at h
              cases h
          | some o =>
              rw [hc] at h
              cases o with
              | none => cases h
              | some info => exact ⟨info, hc, Option.some.inj h⟩
  | _ => cases h

end AbilityCall

variable {p : AbilityPrimitives} {lib : ListLibrary} {env : AbilityEnv}

/-- The message of a task is told as it was posted. -/
theorem Selected.transmit_eq (hp : p.Lawful) (hlib : lib.Lawful) {selected d : Selected}
    (hcarried : selected.Carried p lib) (h : selected.transmit p lib env = some d) :
    d = selected := by
  unfold transmit at h
  cases hw : DeviceSelectionNotifierProxy.write p lib selected with
  | none =>
      rw [hw] at h
      cases h
  | some r =>
      have hread : DeviceSelectionNotifierStub.onRemoteRequest p lib env r.1 r.2 =
          .ok (selected, []) := onRemoteRequest_notify hp hlib hw hcarried
      simp only [hw, hread] at h
      exact (Option.some.inj h).symm

namespace DeviceSelection

variable {w w' : DeviceSelection}

/-! ### The way to the notifier -/

/-- The listener was made for the token and the event type. -/
def Made (w : DeviceSelection) (n : RemoteObject) (token : Int) (cbType : String) : Prop :=
  ∃ l, w.listeners[n]? = some l ∧ l.token = token ∧ l.cbType = cbType

variable (p lib) in
/-- What the service holds and is about to hold, and what the panel has said. -/
structure Routed (w : DeviceSelection) : Prop where
  started : ∀ (i : Nat) c, w.calls.calls[i]? = some c → i < w.calls.started
  held : ∀ token cbType n, w.calls.service.Holds token cbType n → w.Made n token cbType
  registers : ∀ (i : Nat) c token cbType n, w.calls.calls[i]? = some c →
    c.registers = some (token, cbType, n) → w.Made n token cbType
  asks : ∀ (i : Nat) c token cbType, w.calls.calls[i]? = some c →
    c.asks = some (token, cbType) → (∃ selected, w.answers[i]? = some (token, selected) ∧
      selected.eventType = cbType) ∧ ∀ x ∈ w.posted, x.message ≠ i
  carried : ∀ (i : Nat) token selected, w.answers[i]? = some (token, selected) →
    selected.Carried p lib
  posted : ∀ x ∈ w.posted, x.message < w.calls.started ∧ ∃ token,
    w.answers[x.message]? = some (token, x.selected) ∧
      w.Made x.notifier token x.selected.eventType
  once : (w.posted.map Notice.message).Nodup

/-- The applications go on. -/
theorem Routed.congr (h : w.Routed p lib) (hcalls : w'.calls.calls = w.calls.calls)
    (hstarted : w'.calls.started = w.calls.started) (hservice : w'.calls.service = w.calls.service)
    (hanswers : w'.answers = w.answers) (hposted : w'.posted = w.posted)
    (hmade : ∀ n token cbType, w.Made n token cbType → w'.Made n token cbType) :
    w'.Routed p lib where
  started i c hc := by
    rw [hstarted]
    exact h.started i c (hcalls ▸ hc)
  held token cbType n hh := hmade _ _ _ (h.held token cbType n (hservice ▸ hh))
  registers i c token cbType n hc hr :=
    hmade _ _ _ (h.registers i c token cbType n (hcalls ▸ hc) hr)
  asks i c token cbType hc ha := by
    rw [hanswers, hposted]
    exact h.asks i c token cbType (hcalls ▸ hc) ha
  carried i token selected ha := h.carried i token selected (hanswers ▸ ha)
  posted x hx := by
    rw [hposted] at hx
    obtain ⟨hlt, token, ha, hm⟩ := h.posted x hx
    rw [hstarted, hanswers]
    exact ⟨hlt, token, ha, hmade _ _ _ hm⟩
  once := by
    rw [hposted]
    exact h.once

/-- A new call of the service. -/
theorem Routed.start (h : w.Routed p lib) {request : AbilityRequest}
    {answer : Option (Int × Selected)}
    (hregisters : ∀ token cbType n, (AbilityCall.requested request).registers =
      some (token, cbType, n) → w.Made n token cbType)
    (hasks : ∀ token cbType, (AbilityCall.requested request).asks = some (token, cbType) →
      ∃ selected, answer = some (token, selected) ∧ selected.eventType = cbType)
    (hcarried : ∀ token selected, answer = some (token, selected) → selected.Carried p lib) :
    (w.start request answer).Routed p lib := by
  have hanswers : ∀ i, i ≠ w.calls.started →
      (w.start request answer).answers[i]? = w.answers[i]? := fun i hi =>
    ExtTreeMap.getElem?_put_of_ne _ (Ne.symm hi) _
  have hfresh : ∀ x ∈ w.posted, x.message ≠ w.calls.started := fun x hx =>
    Nat.ne_of_lt (h.posted x hx).1
  refine ⟨fun i c hc => ?_, h.held, fun i c token cbType n hc hr => ?_,
    fun i c token cbType hc ha => ?_, fun i token selected ha => ?_, fun x hx => ?_, h.once⟩
  · rcases AbilityCalls.calls_start.mp hc with ⟨rfl, -⟩ | ⟨-, hc⟩
    · exact Nat.lt_succ_self _
    · exact Nat.lt_succ_of_lt (h.started i c hc)
  · rcases AbilityCalls.calls_start.mp hc with ⟨-, hc⟩ | ⟨-, hc⟩
    · cases hc
      exact hregisters token cbType n hr
    · exact h.registers i c token cbType n hc hr
  · rcases AbilityCalls.calls_start.mp hc with ⟨rfl, he⟩ | ⟨hi, hc⟩
    · cases he
      obtain ⟨selected, hs, he⟩ := hasks token cbType ha
      exact ⟨⟨selected, (ExtTreeMap.getElem?_put_self _ _ _).trans hs, he⟩, hfresh⟩
    · obtain ⟨⟨selected, hs, he⟩, hx⟩ := h.asks i c token cbType hc ha
      exact ⟨⟨selected, (hanswers i (Ne.symm hi)).trans hs, he⟩, hx⟩
  · by_cases hi : i = w.calls.started
    · subst hi
      exact hcarried token selected ((ExtTreeMap.getElem?_put_self _ _ _).symm.trans ha)
    · exact h.carried i token selected ((hanswers i hi).symm.trans ha)
  · obtain ⟨hlt, token, ha, hm⟩ := h.posted x hx
    exact ⟨Nat.lt_succ_of_lt hlt, token, (hanswers _ (hfresh x hx)).trans ha, hm⟩

/-- What a block posts: one task at most, with what the panel has said. -/
theorem block_eq (i : Nat) (call : AbilityCall) : ∃ tasks posted, w.block i call = { w with
      calls := w.calls.after i (call.block w.calls.service)
      returned := w.returned.put i ((call.block w.calls.service).returned.or w.returned[i]?)
      tasks := w.tasks ++ tasks, posted := w.posted ++ posted } ∧
    tasks.filterMap id = posted ∧
    (posted = [] ∨ ∃ n token selected, posted = [⟨i, n, selected⟩] ∧
      call.posts w.calls.service = some (some n) ∧ w.answers[i]? = some (token, selected)) := by
  unfold block
  cases hp : call.posts w.calls.service with
  | none => exact ⟨[], [], by simp, rfl, .inl rfl⟩
  | some notifier =>
      cases ha : w.answers[i]? with
      | none => exact ⟨[], [], by cases notifier <;> simp, rfl, .inl rfl⟩
      | some answer =>
          cases notifier with
          | none => exact ⟨[none], [], by simp, rfl, .inl rfl⟩
          | some n =>
              exact ⟨[some ⟨i, n, answer.2⟩], [⟨i, n, answer.2⟩], by simp, rfl,
                .inr ⟨n, answer.1, answer.2, rfl, rfl, rfl⟩⟩

/-- A block of the service. -/
theorem Routed.block (h : w.Routed p lib) {i : Nat} {call : AbilityCall}
    (hi : w.calls.calls[i]? = some call) : (w.block i call).Routed p lib := by
  obtain ⟨tasks, posted, heq, -, hposted⟩ := w.block_eq i call
  rw [heq]
  -- what is new in `posted`, and that it is new
  have hnew : ∀ x ∈ posted, x.message = i ∧ (call.block w.calls.service).next = none ∧
      (∀ y ∈ w.posted, y.message ≠ i) ∧ ∃ token,
        w.answers[i]? = some (token, x.selected) ∧
          w.Made x.notifier token x.selected.eventType := by
    intro x hx
    rcases hposted with rfl | ⟨n, token, selected, rfl, hposts, ha⟩
    · cases hx
    obtain rfl := List.mem_singleton.mp hx
    obtain ⟨t, cbType, hasks, hheld, hnext⟩ := AbilityCall.posts_eq_some hposts
    obtain ⟨⟨s, hs, he⟩, hne⟩ := h.asks i call t cbType hi hasks
    cases hs.symm.trans ha
    exact ⟨rfl, hnext, hne, token, hs, he ▸ h.held token cbType n hheld⟩
  refine ⟨fun j c hc => ?_, fun token cbType n hh => ?_, fun j c token cbType n hc hr => ?_,
    fun j c token cbType hc ha => ?_, h.carried, fun x hx => ?_, ?_⟩
  · rcases AbilityCalls.calls_after.mp hc with ⟨rfl, -⟩ | ⟨-, hc⟩
    · exact h.started i call hi
    · exact h.started j c hc
  · rcases AbilityCall.holds_block hh with hh | hr
    · exact h.held token cbType n hh
    · exact h.registers i call token cbType n hi hr
  · rcases AbilityCalls.calls_after.mp hc with ⟨rfl, hnext⟩ | ⟨-, hc⟩
    · exact h.registers i call token cbType n hi ((AbilityCall.block_next hnext).1 ▸ hr)
    · exact h.registers j c token cbType n hc hr
  · rcases AbilityCalls.calls_after.mp hc with ⟨rfl, hnext⟩ | ⟨hij, hc⟩
    · obtain ⟨hs, hx⟩ := h.asks i call token cbType hi ((AbilityCall.block_next hnext).2 ▸ ha)
      refine ⟨hs, fun x hm => ?_⟩
      rcases List.mem_append.mp hm with hm | hm
      · exact hx x hm
      · cases (hnew x hm).2.1.symm.trans hnext
    · obtain ⟨hs, hx⟩ := h.asks j c token cbType hc ha
      refine ⟨hs, fun x hm => ?_⟩
      rcases List.mem_append.mp hm with hm | hm
      · exact hx x hm
      · rw [(hnew x hm).1]
        exact hij
  · rcases List.mem_append.mp hx with hx | hx
    · exact h.posted x hx
    · obtain ⟨hm, -, -, token, ha, hmade⟩ := hnew x hx
      rw [hm]
      exact ⟨h.started i call hi, token, ha, hmade⟩
  · rw [List.map_append, List.nodup_append]
    refine ⟨h.once, ?_, ?_⟩
    · rcases hposted with rfl | ⟨n, token, selected, rfl, -⟩
      · exact List.nodup_nil
      · exact List.nodup_singleton _
    · intro a ha b hb hab
      obtain ⟨y, hy, rfl⟩ := List.mem_map.mp ha
      obtain ⟨x, hx, rfl⟩ := List.mem_map.mp hb
      obtain ⟨hm, -, hne, -⟩ := hnew x hx
      exact hne y hy (hab.trans hm)

/-! ### One place for each message -/

/-- What was posted is, in some order, in a task, scheduled, told, lost, or what an engine crashed
on. -/
def Conserved (w : DeviceSelection) : Prop :=
  w.posted.Perm (w.tasks.filterMap id ++ w.scheduled ++ w.called.map Prod.fst ++ w.lost ++
    w.crashes)

theorem conserved_iff : w.Conserved ↔ ∀ x, w.posted.count x = (w.tasks.filterMap id).count x +
    w.scheduled.count x + (w.called.map Prod.fst).count x + w.lost.count x + w.crashes.count x := by
  rw [Conserved, List.perm_iff_count]
  simp only [List.count_append]

theorem Conserved.block (h : w.Conserved) (i : Nat) (call : AbilityCall) :
    (w.block i call).Conserved := by
  obtain ⟨tasks, posted, heq, hpending, -⟩ := w.block_eq i call
  rw [heq]
  refine conserved_iff.mpr fun x => ?_
  have hx := conserved_iff.mp h x
  simp only [List.filterMap_append, List.count_append, hpending]
  omega

/-- An element is taken out. -/
theorem count_eraseIdx {α : Type} [DecidableEq α] {l : List α} {k : Nat} {a : α}
    (h : l[k]? = some a) (x : α) : l.count x = (l.eraseIdx k).count x + if a = x then 1 else 0 := by
  obtain ⟨hk, rfl⟩ := List.getElem?_eq_some_iff.mp h
  rw [← (List.getElem_cons_eraseIdx_perm hk).count_eq x, List.count_cons]
  simp only [beq_iff_eq]

theorem Conserved.notify (hp : p.Lawful) (hlib : lib.Lawful) (h : w.Conserved)
    (hcarried : ∀ x ∈ w.posted, x.selected.Carried p lib) {sent : Bool}
    (hs : w.notify p lib env sent = some w') : w'.Conserved := by
  unfold DeviceSelection.notify at hs
  obtain ⟨-, hs⟩ := Option.ite_none_left_eq_some.mp hs
  cases ht : w.tasks with
  | nil =>
      rw [ht] at hs
      cases hs
  | cons task tasks =>
      rw [ht] at hs
      refine conserved_iff.mpr fun x => ?_
      have hx := conserved_iff.mp h x
      rw [ht] at hx
      cases task with
      | none =>
          cases hs
          exact hx
      | some notice =>
          have hmem : notice ∈ w.posted := by
            refine h.mem_iff.mpr ?_
            simp [ht]
          have hnext : (some notice :: tasks).filterMap id = notice :: tasks.filterMap id := rfl
          rw [hnext, List.count_cons] at hx
          dsimp only at hs
          cases hd : (if sent then notice.selected.transmit p lib env else none) with
          | none =>
              rw [hd] at hs
              cases hs
              simp only [List.count_append, List.count_singleton]
              omega
          | some selected =>
              rw [hd] at hs
              cases hs
              obtain ⟨-, hd⟩ := Option.ite_none_right_eq_some.mp hd
              obtain rfl := Selected.transmit_eq hp hlib (hcarried notice hmem) hd
              show w.posted.count x = (tasks.filterMap id).count x +
                (w.scheduled ++ [notice]).count x + _ + _ + _
              simp only [List.count_append, List.count_singleton]
              omega

/-! ### The applications -/

/-- What an engine waits for: the end of `on` for a listener that has not had its function, or the
end of `off` for one that was given it. -/
def Waits (w : DeviceSelection) (e : Nat) : JsCall → Prop
  | .on cbType _ jsListenerObj n => ∃ l, w.listeners[n]? = some l ∧ l.engine = e ∧
      l.cbType = cbType ∧ l.jsListenerObj = jsListenerObj ∧ l.added = false ∧ l.removed = false
  | .off cbType _ n => ∃ l, w.listeners[n]? = some l ∧ l.engine = e ∧ l.cbType = cbType ∧
      l.added = true

structure Scripted (w : DeviceSelection) : Prop where
  maps : ∀ (n : Nat) l, w.listeners[n]? = some l → ∀ cbType : String, l.jsCallBackMap[cbType]? =
    if l.Active ∧ cbType = l.cbType then some l.jsListenerObj else none
  waiting : ∀ (e : Nat) m i jsCall, w.engines[e]? = some m → m.waiting = some (i, jsCall) →
    w.Waits e jsCall
  table : ∀ (e : Nat) m token cbType f n, w.engines[e]? = some m →
    m.callback token cbType = some (f, n) →
      ∃ l, w.listeners[n]? = some l ∧ l.engine = e ∧ l.cbType = cbType ∧ l.added = true
  called : ∀ x f, (x, f) ∈ w.called → ∃ l, w.listeners[x.notifier]? = some l ∧
    f = l.jsListenerObj
  crashes : ∀ x ∈ w.crashes, ∃ l m, w.listeners[x.notifier]? = some l ∧ ¬ l.Active ∧
    w.engines[l.engine]? = some m ∧ m.crashed = true

theorem getElem?_set_eq_some {α : Type} {l : List α} {e e' : Nat} {a b c : α}
    (he : l[e]? = some a) :
    (l.set e b)[e']? = some c ↔ e = e' ∧ b = c ∨ e ≠ e' ∧ l[e']? = some c := by
  rw [List.getElem?_set]
  by_cases h : e = e'
  · subst h
    have hlt : e < l.length := (List.getElem?_eq_some_iff.mp he).1
    simp [hlt]
  · simp [h]

/-- One engine goes on, which has not crashed. -/
theorem Scripted.setEngine (h : w.Scripted) {e : Nat} {m m' : JsContinuationManager}
    (he : w.engines[e]? = some m) (hcrashed : m.crashed = true → m'.crashed = true)
    (hwaiting : ∀ i jsCall, m'.waiting = some (i, jsCall) → w.Waits e jsCall)
    (htable : ∀ token cbType f n, m'.callback token cbType = some (f, n) →
      ∃ l, w.listeners[n]? = some l ∧ l.engine = e ∧ l.cbType = cbType ∧ l.added = true) :
    { w with engines := w.engines.set e m' }.Scripted where
  maps := h.maps
  waiting e' m'' i jsCall hm hw := by
    rcases (getElem?_set_eq_some he).mp hm with ⟨rfl, rfl⟩ | ⟨-, hm⟩
    · exact hwaiting i jsCall hw
    · exact h.waiting e' m'' i jsCall hm hw
  table e' m'' token cbType f n hm hc := by
    rcases (getElem?_set_eq_some he).mp hm with ⟨rfl, rfl⟩ | ⟨-, hm⟩
    · exact htable token cbType f n hc
    · exact h.table e' m'' token cbType f n hm hc
  called := h.called
  crashes x hx := by
    obtain ⟨l, m'', hl, hactive, hm, hc⟩ := h.crashes x hx
    by_cases hle : e = l.engine
    · subst hle
      obtain rfl := Option.some.inj (he.symm.trans hm)
      exact ⟨l, m', hl, hactive, (getElem?_set_eq_some he).mpr (.inl ⟨rfl, rfl⟩), hcrashed hc⟩
    · exact ⟨l, m'', hl, hactive, (getElem?_set_eq_some he).mpr (.inr ⟨hle, hm⟩), hc⟩

/-- A new listener. -/
theorem Scripted.newListener (h : w.Scripted) {l₀ : JsDeviceSelectionListener}
    (hmap : l₀.jsCallBackMap = ∅) (hadded : l₀.added = false) :
    { w with listeners := w.listeners ++ [l₀] }.Scripted := by
  have hold : ∀ {n : Nat} {l}, w.listeners[n]? = some l →
      (w.listeners ++ [l₀])[n]? = some l :=
    fun {n l} hl => (List.getElem?_append_left (List.getElem?_eq_some_iff.mp hl).1).trans hl
  refine ⟨fun n l hl c => ?_, fun e' m i jsCall hm hw => ?_, fun e' m t c f n hm hc => ?_,
    fun x f hx => ?_, fun x hx => ?_⟩
  · rw [List.getElem?_append] at hl
    split at hl
    · exact h.maps n l hl c
    · obtain rfl := List.mem_singleton.mp (List.mem_of_getElem? hl)
      rw [if_neg fun ha => Bool.false_ne_true (hadded.symm.trans ha.1.1), hmap]
      exact ExtTreeMap.getElem?_empty
  · have hwaits := h.waiting e' m i jsCall hm hw
    cases jsCall with
    | on c t f n =>
        obtain ⟨l, hl, hrest⟩ := hwaits
        exact ⟨l, hold hl, hrest⟩
    | off c t n =>
        obtain ⟨l, hl, hrest⟩ := hwaits
        exact ⟨l, hold hl, hrest⟩
  · obtain ⟨l, hl, hrest⟩ := h.table e' m t c f n hm hc
    exact ⟨l, hold hl, hrest⟩
  · obtain ⟨l, hl, hf⟩ := h.called x f hx
    exact ⟨l, hold hl, hf⟩
  · obtain ⟨l, m, hl, hrest⟩ := h.crashes x hx
    exact ⟨l, m, hold hl, hrest⟩

theorem getElem?_modify_eq_some {α : Type} {l : List α} {n n' : Nat} {a c : α} {f : α → α}
    (hn : l[n]? = some a) :
    (l.modify n f)[n']? = some c ↔ n = n' ∧ f a = c ∨ n ≠ n' ∧ l[n']? = some c := by
  rw [List.getElem?_modify]
  by_cases h : n = n'
  · subst h
    simp [hn]
  · simp [h]

/-- An engine ends `on` or `off`, with a listener of its own. -/
theorem Scripted.resume (h : w.Scripted) {e : Nat} {m m' : JsContinuationManager} {n : RemoteObject}
    {l : JsDeviceSelectionListener} {f : JsDeviceSelectionListener → JsDeviceSelectionListener}
    (he : w.engines[e]? = some m) (hcrashed : m.crashed = false)
    (hl : w.listeners[n]? = some l) (hle : l.engine = e)
    (hmake : (f l).engine = l.engine ∧ (f l).cbType = l.cbType ∧
      (f l).jsListenerObj = l.jsListenerObj) (hadded : (f l).added = true)
    (hmaps : ∀ cbType : String, (f l).jsCallBackMap[cbType]? =
      if (f l).Active ∧ cbType = l.cbType then some l.jsListenerObj else none)
    (hwaiting : m'.waiting = none) (htable : ∀ token cbType g k,
      m'.callback token cbType = some (g, k) →
        m.callback token cbType = some (g, k) ∨ k = n ∧ cbType = l.cbType) :
    { w with listeners := w.listeners.modify n f, engines := w.engines.set e m' }.Scripted := by
  obtain ⟨hengine, hcbType, hobj⟩ := hmake
  have hnew : (w.listeners.modify n f)[n]? = some (f l) :=
    (getElem?_modify_eq_some hl).mpr (.inl ⟨rfl, rfl⟩)
  -- a listener that was given its function, after the step
  have hkept : ∀ {k : Nat} {e' : Nat} {c : String}, (∃ l, w.listeners[k]? = some l ∧
      l.engine = e' ∧ l.cbType = c ∧ l.added = true) → ∃ l, (w.listeners.modify n f)[k]? = some l ∧
      l.engine = e' ∧ l.cbType = c ∧ l.added = true := by
    rintro k e' c ⟨l₁, hl₁, h₁, h₂, h₃⟩
    by_cases hk : n = k
    · subst hk
      obtain rfl := Option.some.inj (hl.symm.trans hl₁)
      exact ⟨f l, hnew, hengine.trans h₁, hcbType.trans h₂, hadded⟩
    · exact ⟨l₁, (getElem?_modify_eq_some hl).mpr (.inr ⟨hk, hl₁⟩), h₁, h₂, h₃⟩
  refine ⟨fun k l₁ hk c => ?_, fun e' m₁ i jsCall hm hw => ?_, fun e' m₁ t c g k hm hc => ?_,
    fun x g hx => ?_, fun x hx => ?_⟩
  · rcases (getElem?_modify_eq_some hl).mp hk with ⟨rfl, rfl⟩ | ⟨-, hk⟩
    · rw [hcbType, hobj]
      exact hmaps c
    · exact h.maps k l₁ hk c
  · rcases (getElem?_set_eq_some he).mp hm with ⟨rfl, rfl⟩ | ⟨hne, hm⟩
    · cases hwaiting.symm.trans hw
    · have hwaits := h.waiting e' m₁ i jsCall hm hw
      cases jsCall with
      | on c t g k =>
          obtain ⟨l₁, hl₁, h₁, hrest⟩ := hwaits
          refine ⟨l₁, (getElem?_modify_eq_some hl).mpr (.inr ⟨?_, hl₁⟩), h₁, hrest⟩
          rintro rfl
          obtain rfl := Option.some.inj (hl.symm.trans hl₁)
          exact hne (hle.symm.trans h₁)
      | off c t k => exact hkept hwaits
  · rcases (getElem?_set_eq_some he).mp hm with ⟨rfl, rfl⟩ | ⟨-, hm⟩
    · rcases htable t c g k hc with hc | ⟨rfl, rfl⟩
      · exact hkept (h.table e m t c g k he hc)
      · exact ⟨f l, hnew, hengine.trans hle, hcbType, hadded⟩
    · exact hkept (h.table e' m₁ t c g k hm hc)
  · obtain ⟨l₁, hl₁, hf⟩ := h.called x g hx
    by_cases hk : n = x.notifier
    · rw [← hk] at hl₁ ⊢
      obtain rfl := Option.some.inj (hl.symm.trans hl₁)
      exact ⟨f l, hnew, hf.trans hobj.symm⟩
    · exact ⟨l₁, (getElem?_modify_eq_some hl).mpr (.inr ⟨hk, hl₁⟩), hf⟩
  · obtain ⟨l₁, m₁, hl₁, hactive, hm, hc⟩ := h.crashes x hx
    have hne : e ≠ l₁.engine := by
      intro hee
      rw [← hee] at hm
      obtain rfl := Option.some.inj (he.symm.trans hm)
      rw [hcrashed] at hc
      cases hc
    refine ⟨l₁, m₁, (getElem?_modify_eq_some hl).mpr (.inr ⟨?_, hl₁⟩), hactive,
      (getElem?_set_eq_some he).mpr (.inr ⟨hne, hm⟩), hc⟩
    intro hk
    rw [← hk] at hl₁
    obtain rfl := Option.some.inj (hl.symm.trans hl₁)
    exact hne hle.symm

/-- A new engine, which waits for nothing and has no callbacks. -/
theorem Scripted.newEngine (h : w.Scripted) {m₀ : JsContinuationManager}
    (hmap : m₀.jsCbMap = ∅) (hwaiting : m₀.waiting = none) :
    { w with engines := w.engines ++ [m₀] }.Scripted := by
  have hcases : ∀ {e : Nat} {m : JsContinuationManager}, (w.engines ++ [m₀])[e]? = some m →
      w.engines[e]? = some m ∨ m = m₀ := by
    intro e m hm
    rw [List.getElem?_append] at hm
    split at hm
    · exact .inl hm
    · exact .inr (List.mem_singleton.mp (List.mem_of_getElem? hm))
  refine ⟨h.maps, fun e m i jsCall hm hw => ?_, fun e m t c f n hm hc => ?_, h.called,
    fun x hx => ?_⟩
  · rcases hcases hm with hm | rfl
    · exact h.waiting e m i jsCall hm hw
    · cases hwaiting.symm.trans hw
  · rcases hcases hm with hm | rfl
    · exact h.table e m t c f n hm hc
    · simp [JsContinuationManager.callback, hmap] at hc
  · obtain ⟨l, m, hl, hactive, hm, hc⟩ := h.crashes x hx
    exact ⟨l, m, hl, hactive,
      (List.getElem?_append_left (List.getElem?_eq_some_iff.mp hm).1).trans hm, hc⟩

variable (p lib) in
structure Inv (w : DeviceSelection) : Prop where
  routed : w.Routed p lib
  conserved : w.Conserved
  scripted : w.Scripted

/-- A call of the service that no application waits for. -/
theorem Inv.start (h : w.Inv p lib) {request : AbilityRequest} {answer : Option (Int × Selected)}
    (hregisters : (AbilityCall.requested request).registers = none)
    (hasks : ∀ token cbType, (AbilityCall.requested request).asks = some (token, cbType) →
      ∃ selected, answer = some (token, selected) ∧ selected.eventType = cbType)
    (hcarried : ∀ token selected, answer = some (token, selected) → selected.Carried p lib) :
    (w.start request answer).Inv p lib where
  routed := h.routed.start (fun _ _ _ hr => by rw [hregisters] at hr; cases hr) hasks hcarried
  conserved := h.conserved
  scripted := ⟨h.scripted.maps, h.scripted.waiting, h.scripted.table, h.scripted.called,
    h.scripted.crashes⟩

theorem Inv.panel (h : w.Inv p lib) {code : EventCode} {data : List UInt8}
    {postDisconnect postNotify : Bool}
    (hok : SelectionStep.Carried p lib env (.panel code data postDisconnect postNotify))
    (hs : SelectionStep.apply p lib env w (.panel code data postDisconnect postNotify) = some w') :
    w'.Inv p lib := by
  unfold SelectionStep.apply at hs
  obtain ⟨-, hs⟩ := Option.ite_none_left_eq_some.mp hs
  cases hr : AppDeviceCallbackStub.onRemoteRequest p lib env code data with
  | error e =>
      rw [hr] at hs
      cases hs
      exact h
  | ok r =>
      rw [hr] at hs
      dsimp only at hs
      cases ha : r.1.request postDisconnect postNotify with
      | none =>
          rw [ha] at hs
          cases hs
          exact h
      | some request =>
          rw [ha] at hs
          cases hs
          rw [SelectionStep.Carried, hr] at hok
          have hcarried := hok request ha
          cases hanswer : r.1 with
          | onDeviceCancel =>
              rw [hanswer] at ha
              cases ha
          | onDeviceConnect token results =>
              rw [hanswer] at ha
              cases ha
              exact h.start rfl (fun t c hc => by cases hc; exact ⟨_, rfl, rfl⟩)
                fun t d hd => by cases hd; exact hcarried
          | onDeviceDisconnect token deviceIds =>
              rw [hanswer] at ha
              cases ha
              exact h.start rfl (fun t c hc => by cases hc; exact ⟨_, rfl, rfl⟩)
                fun t d hd => by cases hd; exact hcarried

theorem Inv.block (h : w.Inv p lib) {i : Nat} {call : AbilityCall}
    (hi : w.calls.calls[i]? = some call) : (w.block i call).Inv p lib where
  routed := h.routed.block hi
  conserved := h.conserved.block i call
  scripted := by
    obtain ⟨tasks, posted, heq, -, -⟩ := w.block_eq i call
    rw [heq]
    exact ⟨h.scripted.maps, h.scripted.waiting, h.scripted.table, h.scripted.called,
      h.scripted.crashes⟩

/-- The service has posted only what it carries. -/
theorem Routed.posted_carried (h : w.Routed p lib) : ∀ x ∈ w.posted, x.selected.Carried p lib := by
  intro x hx
  obtain ⟨-, token, ha, -⟩ := h.posted x hx
  exact h.carried x.message token x.selected ha

theorem Inv.notify (hp : p.Lawful) (hlib : lib.Lawful) (h : w.Inv p lib) {sent : Bool}
    (hs : w.notify p lib env sent = some w') : w'.Inv p lib := by
  have hconserved := h.conserved.notify hp hlib h.routed.posted_carried hs
  unfold DeviceSelection.notify at hs
  obtain ⟨-, hs⟩ := Option.ite_none_left_eq_some.mp hs
  have hscripted : ∀ tasks calls scheduled lost,
      { w with tasks, calls, scheduled, lost }.Scripted := fun _ _ _ _ =>
    ⟨h.scripted.maps, h.scripted.waiting, h.scripted.table, h.scripted.called, h.scripted.crashes⟩
  cases ht : w.tasks with
  | nil =>
      rw [ht] at hs
      cases hs
  | cons task tasks =>
      rw [ht] at hs
      cases task with
      | none =>
          cases hs
          exact ⟨h.routed.congr rfl rfl rfl rfl rfl fun _ _ _ => id, hconserved, hscripted ..⟩
      | some notice =>
          dsimp only at hs
          split at hs <;> cases hs
          all_goals
            exact ⟨h.routed.congr rfl rfl rfl rfl rfl fun _ _ _ => id, hconserved, hscripted ..⟩

/-- A thread that is free. -/
theorem free_of {m : JsContinuationManager} (h : ¬ (m.crashed || m.waiting.isSome) = true) :
    m.crashed = false ∧ m.waiting = none := by
  rw [Bool.or_eq_true, not_or, Bool.not_eq_true, Bool.not_eq_true] at h
  exact ⟨h.1, Option.isSome_eq_false_iff.mp h.2 |> Option.isNone_iff_eq_none.mp⟩

theorem Routed.newListener (h : w.Routed p lib) (l₀ : JsDeviceSelectionListener) :
    Routed p lib { w with listeners := w.listeners ++ [l₀] } := by
  refine h.congr rfl rfl rfl rfl rfl ?_
  rintro n t c ⟨l, hl, hrest⟩
  exact ⟨l, (List.getElem?_append_left (List.getElem?_eq_some_iff.mp hl).1).trans hl, hrest⟩

/-- `on` calls the service for a new listener. -/
theorem Inv.callOn (h : w.Inv p lib) {e : Nat} {m m' : JsContinuationManager}
    {l₀ : JsDeviceSelectionListener} (he : w.engines[e]? = some m) (hcrashed : m.crashed = false)
    (hmap : l₀.jsCallBackMap = ∅) (hadded : l₀.added = false) (hremoved : l₀.removed = false)
    (hengine : l₀.engine = e) {request : AbilityRequest}
    (hregisters : (AbilityCall.requested request).registers =
      some (l₀.token, l₀.cbType, w.listeners.length))
    (hasks : (AbilityCall.requested request).asks = none)
    (hwaiting : m'.waiting =
      some (w.calls.started, .on l₀.cbType l₀.token l₀.jsListenerObj w.listeners.length))
    (htable : m'.jsCbMap = m.jsCbMap) :
    Inv p lib { w.start request none with
      listeners := w.listeners ++ [l₀], engines := w.engines.set e m' } := by
  have hnew : (w.listeners ++ [l₀])[w.listeners.length]? = some l₀ := by simp
  have hstart : Routed p lib
      (DeviceSelection.start { w with listeners := w.listeners ++ [l₀] } request none) := by
    refine (h.routed.newListener l₀).start (fun t c n hr => ?_) (fun t c ha => ?_)
      fun t d hd => ?_
    · cases hregisters.symm.trans hr
      exact ⟨l₀, hnew, rfl, rfl⟩
    · cases hasks.symm.trans ha
    · cases hd
  have hold := h.scripted.newListener hmap hadded
  have hset : Scripted
      { w with listeners := w.listeners ++ [l₀], engines := w.engines.set e m' } := by
    refine hold.setEngine he (fun hc => ?_) (fun i jsCall hw => ?_) fun t c f n hc => ?_
    · cases hcrashed.symm.trans hc
    · cases hwaiting.symm.trans hw
      exact ⟨l₀, hnew, hengine, rfl, rfl, hadded, hremoved⟩
    · refine hold.table e m t c f n he ?_
      rwa [JsContinuationManager.callback, htable] at hc
  exact ⟨hstart.congr rfl rfl rfl rfl rfl fun _ _ _ => id, h.conserved,
    ⟨hset.maps, hset.waiting, hset.table, hset.called, hset.crashes⟩⟩

theorem Inv.on (h : w.Inv p lib) {e : Nat} {sent : Bool} {cbType : String} {token : Int}
    {jsListenerObj : JsFunction} (hs : w.on env e sent cbType token jsListenerObj = some w') :
    w'.Inv p lib := by
  unfold DeviceSelection.on at hs
  cases he : w.engines[e]? with
  | none =>
      rw [he] at hs
      cases hs
  | some m =>
      rw [he] at hs
      dsimp only at hs
      split_ifs at hs with hbusy hdone hcrashed <;> cases hs
      · exact h
      · let l₀ : JsDeviceSelectionListener := { engine := e, token, cbType, jsListenerObj }
        have hempty : l₀.jsCallBackMap = ∅ := rfl
        exact h.callOn he (free_of hbusy).1 hempty rfl rfl rfl rfl rfl rfl rfl

theorem Inv.off (h : w.Inv p lib) {e : Nat} {sent : Bool} {cbType : String} {token : Int}
    (hs : w.off e sent cbType token = some w') : w'.Inv p lib := by
  unfold DeviceSelection.off at hs
  cases he : w.engines[e]? with
  | none =>
      rw [he] at hs
      cases hs
  | some m =>
      rw [he] at hs
      obtain ⟨hbusy, hs⟩ := Option.ite_none_left_eq_some.mp hs
      cases hc : m.callback token cbType with
      | none =>
          rw [hc] at hs
          split_ifs at hs <;> cases hs
          all_goals exact h
      | some callbackPair =>
          rw [hc] at hs
          dsimp only at hs
          split_ifs at hs with htype hsent hcrashed <;> cases hs
          · exact h
          · exact h
          have hstart : Inv p lib (w.start
              (.unregisterDeviceSelectionCallback m.accessToken token cbType) none) :=
            h.start rfl (fun t c ha => by cases ha) fun t d hd => by cases hd
          refine ⟨hstart.routed.congr rfl rfl rfl rfl rfl fun _ _ _ => id, hstart.conserved,
            hstart.scripted.setEngine he id (fun i jsCall hw => ?_)
              fun t c f n hc => hstart.scripted.table e m t c f n he hc⟩
          cases hw
          exact h.scripted.table e m token cbType callbackPair.1 callbackPair.2 he hc

theorem callback_setCallback {m : JsContinuationManager} {token t : Int} {cbType c : String}
    {callbackPair r : JsFunction × RemoteObject}
    (h : (m.setCallback token cbType callbackPair).callback t c = some r) :
    m.callback t c = some r ∨ c = cbType ∧ r = callbackPair := by
  unfold JsContinuationManager.callback JsContinuationManager.setCallback at h
  by_cases ht : token = t
  · subst ht
    rw [ExtTreeMap.getElem?_insert_self, Option.bind_some, ExtTreeMap.getElem?_insert] at h
    split at h
    · rename_i hc
      exact .inr ⟨(Std.LawfulEqCmp.eq_of_compare hc).symm, (Option.some.inj h).symm⟩
    · left
      unfold JsContinuationManager.callback
      cases hm : m.jsCbMap[token]? with
      | none =>
          rw [hm] at h
          cases ExtTreeMap.getElem?_empty.symm.trans h
      | some callbacks =>
          rw [hm] at h
          exact h
  · rw [ExtTreeMap.getElem?_insert_of_ne ht] at h
    exact .inl h

theorem callback_eraseCallback {m : JsContinuationManager} {token t : Int} {cbType c : String}
    {r : JsFunction × RemoteObject} (h : (m.eraseCallback token cbType).callback t c = some r) :
    m.callback t c = some r := by
  unfold JsContinuationManager.callback JsContinuationManager.eraseCallback at h
  by_cases ht : token = t
  · subst ht
    dsimp only at h
    split at h
    · rw [ExtTreeMap.getElem?_erase_self] at h
      cases h
    · rw [ExtTreeMap.getElem?_insert_self, Option.bind_some, ExtTreeMap.getElem?_erase] at h
      split at h
      · cases h
      · unfold JsContinuationManager.callback
        cases hm : m.jsCbMap[token]? with
        | none =>
            rw [hm] at h
            cases ExtTreeMap.getElem?_empty.symm.trans h
        | some callbacks =>
            rw [hm] at h
            exact h
  · dsimp only at h
    split at h
    · rw [ExtTreeMap.getElem?_erase_of_ne ht] at h
      exact h
    · rw [ExtTreeMap.getElem?_insert_of_ne ht] at h
      exact h

/-- What a listener was made for stays. -/
theorem Routed.modify (h : w.Routed p lib) (n : RemoteObject)
    (f : JsDeviceSelectionListener → JsDeviceSelectionListener)
    (hf : ∀ l, (f l).token = l.token ∧ (f l).cbType = l.cbType)
    (engines : List JsContinuationManager) :
    Routed p lib { w with listeners := w.listeners.modify n f, engines } := by
  refine h.congr rfl rfl rfl rfl rfl ?_
  rintro k t c ⟨l, hl, rfl, rfl⟩
  by_cases hk : n = k
  · subst hk
    exact ⟨f l, (getElem?_modify_eq_some hl).mpr (.inl ⟨rfl, rfl⟩), hf l⟩
  · refine ⟨l, ?_, rfl, rfl⟩
    rw [List.getElem?_modify, hl]
    simp [hk]

theorem Inv.resume (h : w.Inv p lib) {e : Nat} {received : Bool}
    (hs : w.resume env e received = some w') : w'.Inv p lib := by
  unfold DeviceSelection.resume at hs
  cases he : w.engines[e]? with
  | none =>
      rw [he] at hs
      cases hs
  | some m =>
      rw [he] at hs
      dsimp only at hs
      cases hw : m.waiting with
      | none =>
          rw [hw] at hs
          cases hs
      | some waiting =>
          obtain ⟨i, jsCall⟩ := waiting
          rw [hw] at hs
          dsimp only at hs
          cases hret : (if received then w.returned[i]? else some env.errDeadObject.1) with
          | none =>
              rw [hret] at hs
              cases hs
          | some ret =>
              rw [hret] at hs
              obtain ⟨hcrashed, hs⟩ := Option.ite_none_left_eq_some.mp hs
              replace hcrashed : m.crashed = false := Bool.eq_false_iff.mpr hcrashed
              split_ifs at hs with herr
              · cases hs
                exact ⟨h.routed.congr rfl rfl rfl rfl rfl fun _ _ _ => id, h.conserved,
                  h.scripted.setEngine he id (fun i jsCall hw => by cases hw) fun t c f n hc =>
                    h.scripted.table e m t c f n he hc⟩
              have hwaits := h.scripted.waiting e m i jsCall he hw
              cases jsCall with
              | on cbType token jsListenerObj n =>
                  cases hs
                  obtain ⟨l, hl, hle, rfl, rfl, hadded, hremoved⟩ := hwaits
                  refine ⟨h.routed.modify n (fun l => l.addCallback _ _) (fun l => ⟨rfl, rfl⟩) _,
                    h.conserved, h.scripted.resume he hcrashed hl hle ⟨rfl, rfl, rfl⟩ rfl
                      (fun c => ?_) rfl fun t c g k hc => ?_⟩
                  · have hmap := h.scripted.maps n l hl c
                    have hactive : (l.addCallback l.cbType l.jsListenerObj).Active :=
                      ⟨rfl, hremoved⟩
                    rw [if_neg fun ha => Bool.false_ne_true (hadded.symm.trans ha.1.1)] at hmap
                    simp only [hactive, true_and]
                    by_cases hc : c = l.cbType
                    · rw [if_pos hc, hc]
                      exact ExtTreeMap.getElem?_insert_self
                    · rw [if_neg hc, ← hmap]
                      exact ExtTreeMap.getElem?_insert_of_ne (Ne.symm hc)
                  · rcases callback_setCallback hc with hold | ⟨hcb, hpair⟩
                    · exact .inl hold
                    · cases hpair
                      exact .inr ⟨rfl, hcb⟩
              | off cbType token n =>
                  cases hs
                  obtain ⟨l, hl, hle, rfl, hadded⟩ := hwaits
                  refine ⟨h.routed.modify n (fun l => l.removeCallback _) (fun l => ⟨rfl, rfl⟩) _,
                    h.conserved, h.scripted.resume he hcrashed hl hle ⟨rfl, rfl, rfl⟩ hadded
                      (fun c => ?_) rfl fun t c g k hc => .inl (callback_eraseCallback hc)⟩
                  have hmap := h.scripted.maps n l hl c
                  rw [if_neg fun ha => Bool.false_ne_true (ha.1.2.symm)]
                  by_cases hc : c = l.cbType
                  · rw [hc]
                    exact ExtTreeMap.getElem?_erase_self
                  · rw [if_neg fun ha => hc ha.2] at hmap
                    exact (ExtTreeMap.getElem?_erase_of_ne (Ne.symm hc)).trans hmap

/-- A scheduled call has one place to go to. -/
theorem Conserved.complete (h : w.Conserved) {k : Nat} {notice : Notice}
    (hk : w.scheduled[k]? = some notice) {called : List (Notice × JsFunction)}
    {crashes : List Notice} {engines : List JsContinuationManager}
    (hadd : ∀ x, (called.map Prod.fst).count x + crashes.count x =
      (w.called.map Prod.fst).count x + w.crashes.count x + if notice = x then 1 else 0) :
    { w with scheduled := w.scheduled.eraseIdx k, called, crashes, engines }.Conserved := by
  refine conserved_iff.mpr fun x => ?_
  have hx := conserved_iff.mp h x
  have herase := count_eraseIdx hk x
  have hadd := hadd x
  dsimp only
  omega

/-- A function is called. -/
theorem Scripted.call (h : w.Scripted) {notice : Notice} {l : JsDeviceSelectionListener}
    (hl : w.listeners[notice.notifier]? = some l) (scheduled : List Notice) :
    { w with scheduled, called := w.called ++ [(notice, l.jsListenerObj)] }.Scripted := by
  refine ⟨h.maps, h.waiting, h.table, fun x f hx => ?_, h.crashes⟩
  rcases List.mem_append.mp hx with hx | hx
  · exact h.called x f hx
  · cases List.mem_singleton.mp hx
    exact ⟨l, hl, rfl⟩

/-- An engine crashes. -/
theorem Scripted.crash (h : w.Scripted) {notice : Notice} {l : JsDeviceSelectionListener}
    {m m' : JsContinuationManager} (hl : w.listeners[notice.notifier]? = some l)
    (hactive : ¬ l.Active) (he : w.engines[l.engine]? = some m)
    (hm : m' = { m with crashed := true }) (scheduled : List Notice) :
    { w with scheduled, crashes := w.crashes ++ [notice]
             engines := w.engines.set l.engine m' }.Scripted := by
  subst hm
  have hset : Scripted
      { w with engines := w.engines.set l.engine { m with crashed := true } } :=
    h.setEngine he (fun _ => rfl) (fun i jsCall hw => h.waiting _ m i jsCall he hw)
      fun t c f n hc => h.table _ m t c f n he hc
  refine ⟨hset.maps, hset.waiting, hset.table, hset.called, fun x hx => ?_⟩
  rcases List.mem_append.mp hx with hx | hx
  · exact hset.crashes x hx
  · obtain rfl := List.mem_singleton.mp hx
    exact ⟨l, _, hl, hactive, (getElem?_set_eq_some he).mpr (.inl ⟨rfl, rfl⟩), rfl⟩

theorem Inv.complete (h : w.Inv p lib) {k : Nat} (hs : w.complete k = some w') : w'.Inv p lib := by
  unfold DeviceSelection.complete at hs
  cases hk : w.scheduled[k]? with
  | none =>
      rw [hk] at hs
      cases hs
  | some notice =>
      rw [hk] at hs
      dsimp only at hs
      cases hl : w.listeners[notice.notifier]? with
      | none =>
          rw [hl] at hs
          cases hs
      | some l =>
          rw [hl] at hs
          dsimp only at hs
          cases he : w.engines[l.engine]? with
          | none =>
              rw [he] at hs
              cases hs
          | some m =>
              rw [he] at hs
              obtain ⟨hbusy, hs⟩ := Option.ite_none_left_eq_some.mp hs
              have hmap := h.scripted.maps notice.notifier l hl notice.selected.eventType
              cases hc : l.jsCallBackMap[notice.selected.eventType]? with
              | some method =>
                  rw [hc] at hs hmap
                  cases hs
                  obtain ⟨-, hmethod⟩ := Option.ite_none_right_eq_some.mp hmap.symm
                  obtain rfl := Option.some.inj hmethod
                  refine ⟨h.routed.congr rfl rfl rfl rfl rfl fun _ _ _ => id,
                    h.conserved.complete hk fun x => ?_, h.scripted.call hl _⟩
                  simp only [List.map_append, List.count_append, List.map_singleton,
                    List.count_singleton, beq_iff_eq]
                  omega
              | none =>
                  rw [hc] at hs hmap
                  cases hs
                  -- the listener was made for this type, so it has no function at all
                  have hmem : notice ∈ w.posted := h.conserved.mem_iff.mpr (by
                    simp [List.mem_of_getElem? hk])
                  obtain ⟨-, token, -, l', hl', -, htype⟩ := h.routed.posted notice hmem
                  obtain rfl := Option.some.inj (hl.symm.trans hl')
                  have hactive : ¬ l.Active := fun ha => by
                    rw [if_pos ⟨ha, htype.symm⟩] at hmap
                    cases hmap
                  refine ⟨h.routed.congr rfl rfl rfl rfl rfl fun _ _ _ => id,
                    h.conserved.complete hk fun x => ?_, h.scripted.crash hl hactive he rfl _⟩
                  simp only [List.count_append, List.count_singleton, beq_iff_eq]
                  omega

variable (p lib) in
/-- Before anything happens. -/
theorem Inv.init (token : Int) : Inv p lib { calls := { service := { token } } } where
  routed := by
    refine ⟨fun i c hc => ?_, fun t c n hh => ?_, fun i c t n k hc => ?_, fun i c t n hc => ?_,
      fun i t d ha => ?_, fun x hx => ?_, List.nodup_nil⟩
    · cases ExtTreeMap.getElem?_empty.symm.trans hc
    · obtain ⟨info, hi, -⟩ := hh
      cases ExtTreeMap.getElem?_empty.symm.trans hi
    · cases ExtTreeMap.getElem?_empty.symm.trans hc
    · cases ExtTreeMap.getElem?_empty.symm.trans hc
    · cases ExtTreeMap.getElem?_empty.symm.trans ha
    · cases hx
  conserved := List.Perm.nil
  scripted := by
    refine ⟨fun n l hl => ?_, fun e m i c hm => ?_, fun e m t c f n hm => ?_, fun x f hx => ?_,
      fun x hx => ?_⟩
    · cases hl
    · cases hm
    · cases hm
    · cases hx
    · cases hx

/-- One step. -/
theorem Inv.step (hp : p.Lawful) (hlib : lib.Lawful) (h : w.Inv p lib) {l : SelectionStep}
    (hok : l.Carried p lib env) (hs : l.apply p lib env w = some w') : w'.Inv p lib := by
  cases l with
  | newEngine accessToken =>
      cases hs
      exact ⟨h.routed.congr rfl rfl rfl rfl rfl fun _ _ _ => id, h.conserved,
        h.scripted.newEngine rfl rfl⟩
  | call request =>
      obtain ⟨hother, hs⟩ := Option.ite_none_left_eq_some.mp hs
      cases hs
      rw [Bool.or_eq_true, not_or, Bool.not_eq_true', Bool.not_eq_false] at hother
      obtain ⟨-, hother⟩ := hother
      refine h.start ?_ (fun t c ha => ?_) fun t d hd => (by cases hd)
      · cases request <;> first | rfl | cases hother
      · cases request <;> first | (cases ha; done) | cases hother
  | panel code data postDisconnect postNotify => exact h.panel hok hs
  | block i =>
      obtain ⟨-, hs⟩ := Option.ite_none_left_eq_some.mp hs
      cases hi : w.calls.calls[i]? with
      | none =>
          rw [hi] at hs
          cases hs
      | some call =>
          rw [hi] at hs
          cases hs
          exact h.block hi
  | notify sent => exact h.notify hp hlib hs
  | on e sent cbType token jsListenerObj => exact h.on hs
  | off e sent cbType token => exact h.off hs
  | resume e received => exact h.resume hs
  | complete k => exact h.complete hs

end DeviceSelection

open DeviceSelection in
/-- Over every run, what a JavaScript function is called with is what the panel said in one message
of a token, the function was given to `on` for that token and event, and no message is told twice.
Each message that a task was posted for is in its task, scheduled, told, lost on the way, or one
that an engine crashed on: the listener of such a message had been turned off, or `on` had not
given it its function. -/
theorem selection_delivered (hp : p.Lawful) (hlib : lib.Lawful) {token₀ : Int}
    {w : DeviceSelection} (h : Runs.Reach (SelectionStep.apply p lib env)
      (fun _ l => l.Carried p lib env) { calls := { service := { token := token₀ } } } w) :
    (∀ x f, (x, f) ∈ w.called → ∃ token l, w.answers[x.message]? = some (token, x.selected) ∧
      w.listeners[x.notifier]? = some l ∧ l.token = token ∧ l.cbType = x.selected.eventType ∧
      f = l.jsListenerObj) ∧
    (w.called.map fun x => x.1.message).Nodup ∧
    w.posted.Perm (w.tasks.filterMap id ++ w.scheduled ++ w.called.map Prod.fst ++ w.lost ++
      w.crashes) ∧
    ∀ x ∈ w.crashes, ∃ l m, w.listeners[x.notifier]? = some l ∧ ¬ l.Active ∧
      w.engines[l.engine]? = some m ∧ m.crashed = true := by
  have hinv : w.Inv p lib :=
    h.invariant (Inv.init p lib token₀) fun _ _ _ hw hok hs => hw.step hp hlib hok hs
  refine ⟨fun x f hx => ?_, ?_, hinv.conserved, hinv.scripted.crashes⟩
  · have hposted : x ∈ w.posted := hinv.conserved.mem_iff.mpr (by
      simp [List.mem_map.mpr ⟨(x, f), hx, rfl⟩])
    obtain ⟨-, token, ha, l, hl, htoken, htype⟩ := hinv.routed.posted x hposted
    obtain ⟨l', hl', hf⟩ := hinv.scripted.called x f hx
    obtain rfl := Option.some.inj (hl.symm.trans hl')
    exact ⟨token, l, ha, hl, htoken, htype, hf⟩
  · have hall := (hinv.conserved.map Notice.message).nodup_iff.mp hinv.routed.once
    simp only [List.map_append, List.map_map] at hall
    exact (List.nodup_append.mp (List.nodup_append.mp (List.nodup_append.mp hall).1).1).2.1

instance (s : String) : Decidable (Carries p.toParcelPrimitives lib s) :=
  decidable_of_iff (p.string16.write (lib.str8ToStr16 s) ≠ none ∧ lib.Inverse s)
    ⟨fun h => ⟨h.1, h.2⟩, fun h => ⟨h.1, h.2⟩⟩

instance : DecidablePred (Selected.Carried p lib)
  | .connected _ => inferInstanceAs (Decidable (_ ∧ ∀ _ ∈ _, _ ∧ _ ∧ _))
  | .disconnected _ => .isTrue trivial

instance : DecidablePred (SelectionStep.Carried p lib env)
  | .panel code data postDisconnect postNotify =>
    match h : AppDeviceCallbackStub.onRemoteRequest p lib env code data with
    | .ok (answer, _) =>
      decidable_of_iff (∀ r ∈ answer.request postDisconnect postNotify, r.2.2.Carried p lib)
        (by rw [SelectionStep.Carried, h])
    | .error _ => .isTrue (by rw [SelectionStep.Carried, h]; trivial)
  | .newEngine _ | .call _ | .block _ | .notify _ | .on .. | .off .. | .resume .. | .complete _ =>
    .isTrue trivial

/-- A run with one parcel. -/
def selectionRun (steps : List SelectionStep) : Option DeviceSelection :=
  Runs.exec (fun w l => if l.Carried plainAbility plainLibrary {} then
    l.apply plainAbility plainLibrary {} w else none) { calls := { service := { token := 0 } } }
    steps

def tablet : ContinuationResult := { deviceId := "u", deviceType := "tablet", deviceName := "n" }

/-- A function is given to `on` for token 1, the panel says that a tablet was selected, and the
listener schedules a call. -/
def tabletSelected : List SelectionStep :=
  [.newEngine 5, .call (.register none 5), .block 0, .block 0, .block 0,
    .on 0 true eventConnect 1 3, .block 1, .block 1, .block 1, .resume 0 true,
    .panel .deviceConnect ((concat [plainAbility.interfaceToken.write appCallbackInterfaceToken,
      plainAbility.int32.write 1, writeContinuationResultsToParcel plainAbility.toParcelPrimitives
        plainLibrary [tablet]]).getD []) true true, .block 2, .block 2, .notify true]

/-- The function is called with the tablet. -/
theorem selection_delivered_tablet : ∃ w : DeviceSelection, ∃ x,
    (x, 3) ∈ w.called ∧ x.selected = .connected [tablet] ∧ ∃ token l,
      w.answers[x.message]? = some (token, x.selected) ∧ w.listeners[x.notifier]? = some l ∧
      l.token = token ∧ l.cbType = x.selected.eventType ∧ 3 = l.jsListenerObj := by
  have hrun : (selectionRun (tabletSelected ++ [.complete 0])).any
      (fun w => w.called = [(⟨2, 0, .connected [tablet]⟩, 3)]) = true := by decide +kernel
  obtain ⟨w, hw, hcalled⟩ := (Option.any_eq_true _ _).mp hrun
  have hmem : ((⟨2, 0, .connected [tablet]⟩ : Notice), (3 : JsFunction)) ∈ w.called := by
    rw [of_decide_eq_true hcalled]
    exact List.mem_singleton_self _
  have htold := selection_delivered plainAbility_lawful plainLibrary_lawful
    (Runs.Reach.of_exec_checked hw)
  exact ⟨w, _, hmem, rfl, htold.1 _ 3 hmem⟩

/-- **A callback that is turned off in between**: `off` returns while the call is scheduled, and
the engine goes through the null pointer of an event type that has no function any more. -/
theorem off_then_call : ∃ w : DeviceSelection,
    Runs.Reach (SelectionStep.apply plainAbility plainLibrary {})
      (fun _ l => l.Carried plainAbility plainLibrary {})
      { calls := { service := { token := 0 } } } w ∧ w.crashes ≠ [] := by
  have hrun : (selectionRun (tabletSelected ++ [.off 0 true eventConnect 1, .block 3, .block 3,
      .block 3, .resume 0 true, .complete 0])).any (fun w => w.crashes ≠ []) = true := by
    decide +kernel
  obtain ⟨w, hw, hcrashes⟩ := (Option.any_eq_true _ _).mp hrun
  exact ⟨w, Runs.Reach.of_exec_checked hw, of_decide_eq_true hcrashes⟩

end DistributedSched

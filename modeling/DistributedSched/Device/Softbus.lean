import Std.Data.ExtTreeSet
import DistributedSched.Library.Runs

/-!
# Device — listeners of softbus

`DnetworkAdapter` registers with softbus in a task, which it posts for the first listener; a set
with more than one listener counts as registered.  `DtbschedmgrDeviceInfoStorage` connects in a
task of its own, round after round, and each round brings a new listener.

A listener is in the set before the task is posted, and it stays there when that fails.  The next
round then finds two, and reports success.

* `SoftbusOp.Meets`: an add that fails leaves the set alone, and one that succeeds has a register
  task behind it (`DeviceListeners.posted`).
* `SoftbusOp.Safe`: the first listener gets its task.
* `add_meets_iff_safe`: in runs of safe steps an add does what it should exactly when it is safe.
* `retry_skips_register`: a round after one that could not post.
-/

namespace DistributedSched

open Std (ExtTreeSet)
open Runs (Reach)

/-- `CONNECT_SOFTBUS_RETRY_TIMES`. -/
def connectSoftbusRetryTimes : Nat := 60

/-- A `shared_ptr<DeviceListener>`. -/
abbrev DeviceListener := Nat

inductive SoftbusEffect where
  | postRegisterTask
  | unregNodeDeviceStateCb
deriving DecidableEq

structure DnetworkAdapter where
  /-- whether it is there -/
  dnetworkHandler : Bool := false
  listenerSet : ExtTreeSet DeviceListener compare := ∅

namespace DnetworkAdapter

variable (a : DnetworkAdapter)

def insert (listener : DeviceListener) : DnetworkAdapter :=
  if a.listenerSet.contains listener then a
  else { a with listenerSet := a.listenerSet.insert listener }

/-- `AddDeviceChangeListener`; `postTask` says whether `PostTask` succeeds. -/
def addDeviceChangeListener (postTask : Bool) (listener : DeviceListener) :
    Bool × DnetworkAdapter × List SoftbusEffect :=
  if !a.dnetworkHandler then (false, a, [])
  else if 1 < (a.insert listener).listenerSet.size then (true, a.insert listener, [])
  else if !postTask then (false, a.insert listener, [])
  else (true, a.insert listener, [.postRegisterTask])

def removeDeviceChangeListener (listener : DeviceListener) :
    DnetworkAdapter × List SoftbusEffect :=
  let a := { a with listenerSet := a.listenerSet.erase listener }
  if 0 < a.listenerSet.size then (a, []) else (a, [.unregNodeDeviceStateCb])

end DnetworkAdapter

/-! ### The system -/

structure DeviceListeners where
  adapter : DnetworkAdapter := {}
  /-- of the storage -/
  deviceNodeListener : Option DeviceListener := none
  /-- the tasks of `initHandler_`, by the rounds that each has behind it; the first one runs -/
  initTasks : List Nat := []
  /-- a register task has been posted since the set last became non-empty -/
  posted : Bool := false

namespace DeviceListeners

variable (s : DeviceListeners)

/-- `AddDeviceChangeListener` on the system. -/
def add (postTask : Bool) (listener : DeviceListener) : Bool × DeviceListeners :=
  let r := s.adapter.addDeviceChangeListener postTask listener
  (r.1, { s with
    adapter := r.2.1
    posted :=
      if .postRegisterTask ∈ r.2.2 then true
      else if s.adapter.listenerSet.isEmpty && !r.2.1.listenerSet.isEmpty then false
      else s.posted })

def remove (listener : DeviceListener) : DeviceListeners :=
  { s with adapter := (s.adapter.removeDeviceChangeListener listener).1 }

/-- `InitNetworkIdManager`, for which `make_shared` gives `listener`. -/
def initNetworkIdManager (postTask : Bool) (listener : DeviceListener) : Bool × DeviceListeners :=
  let r := s.add postTask listener
  (r.1, { r.2 with deviceNodeListener := if r.1 then some listener else none })

/-- `ConnectSoftbus`; `ready` is what `WaitForDnetworkReady` answers. -/
def connectSoftbus (ready postTask : Bool) (listener : DeviceListener) : Bool × DeviceListeners :=
  if !ready then (false, s) else s.initNetworkIdManager postTask listener

/-- The task goes to its next round, unless it has connected or was the last one. -/
def endRound (connected : Bool) : DeviceListeners :=
  { s with initTasks :=
      match s.initTasks with
      | [] => []
      | retryTimes :: tasks =>
        if connected || connectSoftbusRetryTimes ≤ retryTimes then tasks
        else (retryTimes + 1) :: tasks }

/-- `Stop`. -/
def stop : DeviceListeners :=
  match s.deviceNodeListener with
  | none => s
  | some listener => { s.remove listener with deviceNodeListener := none }

end DeviceListeners

inductive SoftbusOp where
  /-- `DnetworkAdapter::Init` -/
  | init
  | addDeviceChangeListener (postTask : Bool) (listener : DeviceListener)
  | removeDeviceChangeListener (listener : DeviceListener)
  /-- `DtbschedmgrDeviceInfoStorage::Init`; `postTask` is of `initHandler_` -/
  | initStorage (postTask : Bool)
  /-- a round of the task that connects, with a new listener -/
  | connectSoftbus (ready postTask : Bool) (listener : DeviceListener)
  | stop

namespace SoftbusOp

/-- The operation, and what its `AddDeviceChangeListener` returns, if it calls it. -/
def run (s : DeviceListeners) : SoftbusOp → Option (Option Bool × DeviceListeners)
  | init => some (none, { s with adapter := { s.adapter with dnetworkHandler := true } })
  | addDeviceChangeListener postTask listener =>
    let r := s.add postTask listener
    some (some r.1, r.2)
  | removeDeviceChangeListener listener => some (none, s.remove listener)
  | initStorage postTask =>
    some (none, if postTask then { s with initTasks := s.initTasks ++ [0] } else s)
  | connectSoftbus ready postTask listener =>
    if s.initTasks = [] ∨ s.adapter.listenerSet.contains listener then none
    else
      let r := s.connectSoftbus ready postTask listener
      some (if ready then some r.1 else none, r.2.endRound r.1)
  | stop => some (none, s.stop)

def apply (s : DeviceListeners) (op : SoftbusOp) : Option DeviceListeners :=
  (op.run s).map Prod.snd

/-- Whether `PostTask` succeeds in the add of the operation, if it has one. -/
def postTask : SoftbusOp → Option Bool
  | addDeviceChangeListener postTask _ | connectSoftbus true postTask _ => some postTask
  | _ => none

/-- The first listener gets its task. -/
def Safe (s : DeviceListeners) (op : SoftbusOp) : Prop :=
  op.postTask = some false → s.adapter.dnetworkHandler = true → s.adapter.listenerSet ≠ ∅

instance (s : DeviceListeners) (op : SoftbusOp) : Decidable (op.Safe s) := by
  unfold Safe
  infer_instance

/-- An add that returns false leaves the set as it was, and one that returns true has a register
task behind it. -/
def Meets (s : DeviceListeners) (op : SoftbusOp) : Prop :=
  ∀ result s', op.run s = some (some result, s') →
    if result then s'.posted = true else s'.adapter.listenerSet = s.adapter.listenerSet

end SoftbusOp

/-! ### One add -/

namespace DeviceListeners

variable {s : DeviceListeners} {postTask : Bool} {listener : DeviceListener}

/-- Listeners have a register task behind them. -/
def Registered (s : DeviceListeners) : Prop :=
  s.adapter.listenerSet ≠ ∅ → s.posted = true

/-- Without a handler nothing is done. -/
theorem add_unhandled (hh : s.adapter.dnetworkHandler = false) :
    s.add postTask listener = (false, s) := by
  have hadd : s.adapter.addDeviceChangeListener postTask listener = (false, s.adapter, []) := by
    rw [DnetworkAdapter.addDeviceChangeListener, hh]
    rfl
  simp only [add, hadd, List.not_mem_nil, if_false, Bool.and_not_self, Bool.false_eq_true]

/-- The first listener stays in the set, also when its task is not posted. -/
theorem add_first (postTask : Bool) (listener : DeviceListener)
    (hh : s.adapter.dnetworkHandler = true) (he : s.adapter.listenerSet = ∅) :
    (s.add postTask listener).1 = postTask ∧ (s.add postTask listener).2.posted = postTask ∧
      (s.add postTask listener).2.adapter.listenerSet ≠ ∅ := by
  have hset : (s.adapter.insert listener).listenerSet = (∅ : ExtTreeSet _ _).insert listener := by
    rw [DnetworkAdapter.insert, he, if_neg (by simp)]
  have hsize : ¬ 1 < (s.adapter.insert listener).listenerSet.size := by
    rw [hset, ExtTreeSet.size_insert]
    simp
  have hne : (s.adapter.insert listener).listenerSet ≠ ∅ := hset ▸ ExtTreeSet.insert_ne_empty
  have hadd : s.adapter.addDeviceChangeListener postTask listener =
      (postTask, s.adapter.insert listener, if postTask then [.postRegisterTask] else []) := by
    rw [DnetworkAdapter.addDeviceChangeListener, hh, if_neg (by simp), if_neg hsize]
    cases postTask <;> rfl
  simp only [add, hadd]
  cases postTask with
  | false => simp [he, hne]
  | true => simp [hne]

/-- Behind other listeners nothing is missing: a second add of the only one changes nothing when
its task is not posted. -/
theorem add_later (postTask : Bool) (listener : DeviceListener) (h : s.Registered)
    (hne : s.adapter.listenerSet ≠ ∅) :
    (s.add postTask listener).2.posted = true ∧
      ((s.add postTask listener).1 = false →
        (s.add postTask listener).2.adapter.listenerSet = s.adapter.listenerSet) := by
  have hempty : s.adapter.listenerSet.isEmpty = false := ExtTreeSet.isEmpty_eq_false_iff.mpr hne
  refine ⟨?_, fun hfalse => ?_⟩
  · simp only [add, hempty, Bool.false_and, Bool.false_eq_true, if_false, h hne, ite_self]
  · simp only [add, DnetworkAdapter.addDeviceChangeListener] at hfalse ⊢
    split
    · rfl
    rename_i hh
    rw [if_neg hh] at hfalse
    by_cases hin : s.adapter.listenerSet.contains listener = true
    · have hinsert : s.adapter.insert listener = s.adapter := if_pos hin
      simp only [hinsert]
      split
      · rfl
      split <;> rfl
    · -- a new listener makes two
      have hset : (s.adapter.insert listener).listenerSet =
          s.adapter.listenerSet.insert listener := by
        rw [DnetworkAdapter.insert, if_neg hin]
      have hpos : s.adapter.listenerSet.size ≠ 0 := fun hz =>
        hne (ExtTreeSet.eq_empty_iff_size_eq_zero.mpr hz)
      have hsize : 1 < (s.adapter.insert listener).listenerSet.size := by
        rw [hset, ExtTreeSet.size_insert, if_neg hin]
        omega
      rw [if_pos hsize] at hfalse
      cases hfalse

/-- An add does what it should exactly when the first listener gets its task. -/
theorem add_meets_iff (postTask : Bool) (listener : DeviceListener) (h : s.Registered) :
    (if (s.add postTask listener).1 then (s.add postTask listener).2.posted = true
      else (s.add postTask listener).2.adapter.listenerSet = s.adapter.listenerSet) ↔
      (postTask = false → s.adapter.dnetworkHandler = true → s.adapter.listenerSet ≠ ∅) := by
  cases hh : s.adapter.dnetworkHandler with
  | false => simp [add_unhandled hh]
  | true =>
      by_cases hne : s.adapter.listenerSet = ∅
      · obtain ⟨hresult, hposted, hset⟩ := add_first postTask listener hh hne
        cases postTask with
        | false => simpa [hresult, hne] using hset
        | true => simpa [hresult] using hposted
      · obtain ⟨hposted, hsame⟩ := add_later postTask listener h hne
        refine iff_of_true ?_ fun _ _ => hne
        split
        · exact hposted
        · rename_i hfalse
          exact hsame (Bool.eq_false_iff.mpr hfalse)

theorem Registered.add (h : s.Registered)
    (hsafe : postTask = false → s.adapter.dnetworkHandler = true → s.adapter.listenerSet ≠ ∅) :
    (s.add postTask listener).2.Registered := by
  intro hne
  cases hh : s.adapter.dnetworkHandler with
  | false =>
      rw [add_unhandled hh] at hne ⊢
      exact h hne
  | true =>
      by_cases he : s.adapter.listenerSet = ∅
      · rw [(add_first postTask listener hh he).2.1]
        cases hp : postTask with
        | false => exact absurd he (hsafe hp hh)
        | true => rfl
      · exact (add_later postTask listener h he).1

theorem Registered.remove (h : s.Registered) (listener : DeviceListener) :
    (s.remove listener).Registered := by
  intro hne
  refine h fun he => hne ?_
  have herase : (s.remove listener).adapter.listenerSet = s.adapter.listenerSet.erase listener := by
    unfold DeviceListeners.remove DnetworkAdapter.removeDeviceChangeListener
    dsimp only
    split <;> rfl
  rw [herase, he]
  exact ExtTreeSet.erase_empty

end DeviceListeners

/-! ### Every run -/

namespace SoftbusOp

open DeviceListeners

variable {s s' : DeviceListeners} {op : SoftbusOp}

/-- What an operation can do: an add, or nothing that needs one. -/
theorem run_cases {result : Option Bool} (hs : op.run s = some (result, s')) :
    (∃ postTask listener, op.postTask = some postTask ∧
      result = some (s.add postTask listener).1 ∧
      s'.adapter = (s.add postTask listener).2.adapter ∧
      s'.posted = (s.add postTask listener).2.posted) ∨
    (op.postTask = none ∧ result = none ∧ (s.Registered → s'.Registered)) := by
  cases op with
  | init | initStorage postTask =>
      cases hs
      refine .inr ⟨rfl, rfl, fun h => ?_⟩
      first
        | exact h
        | split <;> exact h
  | addDeviceChangeListener postTask listener =>
      cases hs
      exact .inl ⟨postTask, listener, rfl, rfl, rfl, rfl⟩
  | removeDeviceChangeListener listener =>
      cases hs
      exact .inr ⟨rfl, rfl, fun h => h.remove listener⟩
  | connectSoftbus ready postTask listener =>
      obtain ⟨-, hs⟩ := Option.ite_none_left_eq_some.mp hs
      cases hs
      cases ready with
      | false => exact .inr ⟨rfl, rfl, fun h => h⟩
      | true => exact .inl ⟨postTask, listener, rfl, rfl, rfl, rfl⟩
  | stop =>
      cases hs
      refine .inr ⟨rfl, rfl, fun h => ?_⟩
      unfold DeviceListeners.stop
      split
      · exact h
      · exact h.remove _

theorem Registered.apply (h : s.Registered) (hsafe : op.Safe s) (hs : op.apply s = some s') :
    s'.Registered := by
  obtain ⟨⟨result, _⟩, hrun, rfl⟩ := Option.map_eq_some_iff.mp hs
  obtain ⟨postTask, listener, hpost, -, hadapter, hposted⟩ | ⟨-, -, hkeep⟩ := run_cases hrun
  · have hadd : (s.add postTask listener).2.Registered := by
      refine DeviceListeners.Registered.add h fun hp => hsafe ?_
      rw [hpost, hp]
    unfold DeviceListeners.Registered at hadd ⊢
    rwa [hadapter, hposted]
  · exact hkeep h

/-- An operation does what its add should exactly when it is safe. -/
theorem meets_iff_safe (h : s.Registered) (hs : op.apply s = some s') :
    op.Meets s ↔ op.Safe s := by
  obtain ⟨⟨result, s''⟩, hrun, -⟩ := Option.map_eq_some_iff.mp hs
  obtain ⟨postTask, listener, hpost, hresult, hadapter, hposted⟩ | ⟨hpost, hresult, -⟩ :=
    run_cases hrun
  · have hsafe : op.Safe s ↔
        (postTask = false → s.adapter.dnetworkHandler = true → s.adapter.listenerSet ≠ ∅) := by
      rw [Safe, hpost, Option.some.injEq]
    rw [hsafe, ← add_meets_iff postTask listener h, ← hadapter, ← hposted]
    subst hresult
    constructor
    · intro hm
      exact hm _ _ hrun
    · intro hm r t hrun'
      cases hrun.symm.trans hrun'
      exact hm
  · refine iff_of_true (fun r t hrun' => ?_) fun hp => ?_
    · cases hresult
      cases hrun.symm.trans hrun'
    · cases hpost.symm.trans hp

end SoftbusOp

open DeviceListeners

/-- **The adds of listeners.**  In a run in which every first listener gets its task, listeners
have a register task behind them, and an operation does what its add should exactly when it is
safe. -/
theorem add_meets_iff_safe {s : DeviceListeners}
    (hr : Reach SoftbusOp.apply (fun s op => op.Safe s) {} s) :
    s.Registered ∧ ∀ op s', SoftbusOp.apply s op = some s' → (op.Meets s ↔ op.Safe s) := by
  have hregistered : s.Registered := by
    refine hr.invariant (P := Registered) (fun hne => absurd rfl hne) fun s op s' h hsafe hs => ?_
    exact SoftbusOp.Registered.apply h hsafe hs
  exact ⟨hregistered, fun op s' hs => SoftbusOp.meets_iff_safe hregistered hs⟩

/-- The first round finds no softbus; the second one connects, and the listener of somebody else
is not posted for. -/
theorem add_meets_iff_safe_rounds : ∃ s : DeviceListeners,
    s.adapter.listenerSet.size = 2 ∧ s.initTasks = [] ∧ s.Registered ∧
    ∀ op s', SoftbusOp.apply s op = some s' → (op.Meets s ↔ op.Safe s) := by
  obtain ⟨s, hrun, hsize, htasks⟩ : ∃ s, Runs.exec
      (fun s op => if SoftbusOp.Safe s op then SoftbusOp.apply s op else none) {}
      [.init, .initStorage true, .connectSoftbus false true 1, .connectSoftbus true true 2,
        .addDeviceChangeListener false 3] = some s ∧
      s.adapter.listenerSet.size = 2 ∧ s.initTasks = [] := ⟨_, rfl, rfl, rfl⟩
  exact ⟨s, hsize, htasks, add_meets_iff_safe (Reach.of_exec_checked hrun)⟩

/-- **A retry that skips the registration.**  The first round puts its listener into the set and
cannot post the task: the add returns false, and the listener stays.  The second round brings
another listener: the add returns true, the task has connected, and nothing was posted. -/
theorem retry_skips_register : ∃ s s' : DeviceListeners,
    Runs.exec SoftbusOp.apply {} [.init, .initStorage true] = some s ∧
    ¬ (SoftbusOp.connectSoftbus true false 1).Meets s ∧
    Runs.exec SoftbusOp.apply s [.connectSoftbus true false 1] = some s' ∧
    s'.adapter.listenerSet.size = 1 ∧ s'.deviceNodeListener = none ∧
    ¬ (SoftbusOp.connectSoftbus true true 2).Meets s' ∧
    ∃ s'', (SoftbusOp.connectSoftbus true true 2).run s' = some (some true, s'') ∧
      s''.initTasks = [] ∧ s''.posted = false := by
  refine ⟨_, _, rfl, fun h => ?_, rfl, rfl, rfl, fun h => ?_, _, rfl, rfl, rfl⟩
  · exact absurd (congrArg ExtTreeSet.size (h false _ rfl)) (by decide)
  · exact absurd (h true _ rfl) (by decide)

end DistributedSched

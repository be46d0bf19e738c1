import DistributedSched.Component.DSchedContinuation
import DistributedSched.Library.Runs

/-!
# Continuation — the maps of callbacks stay in step

`callbackMap_`, `continuationDevices_` and `freeInstall_` are one table: what they hold for a
mission is its `Entry`, the callback, the target device and the free-install flag of one call of
`PushCallback`.  Calls of `PushCallback` and `PopCallback`, each of which is one block, come in any
order, also before `Init`.

The table copies callbacks and does not look at them.  A callback can be passed more than once, so
each one goes through the table with the number of the call that passed it (`PassedCallback`).

* `InStep`: each mission with a callback has a device, and no other mission has a device or a flag.
  `InStep.entry_pushCallback`: what is stored then is the entry of the call, whatever the mission
  had before.
* `CallbackTable`: the table, with the calls so far and what they returned.
* `CallbackStep.exec_forget`: without the numbers, a run is a run of the code's own table.
* `maps_stay_in_step`: over any list of calls, the maps are in step, what is answered for a
  mission was given in the call whose callback is stored, and no callback is returned twice or
  lost.
-/

namespace DistributedSched

open Std (ExtTreeMap)

namespace DSchedContinuation

variable {κ κ' π : Type}

/-! ### The three maps as one -/

/-- What the maps hold for a mission. -/
structure Entry (κ : Type) where
  callback : κ
  deviceId : String
  isFreeInstall : Bool

def entry (c : DSchedContinuation κ π) (missionId : Int) : Option (Entry κ) :=
  c.callbackMap[missionId]?.map fun callback =>
    ⟨callback, c.getTargetDevice missionId, c.isFreeInstall missionId⟩

structure InStep (c : DSchedContinuation κ π) : Prop where
  devices : ∀ missionId, missionId ∈ c.continuationDevices ↔ missionId ∈ c.callbackMap
  flags : ∀ missionId, missionId ∈ c.freeInstall → missionId ∈ c.callbackMap

variable {c : DSchedContinuation κ π} {missionId : Int}

theorem entry_of_callback {callback : κ} (h : c.callbackMap[missionId]? = some callback) :
    c.entry missionId =
      some ⟨callback, c.getTargetDevice missionId, c.isFreeInstall missionId⟩ := by
  rw [entry, h]
  rfl

theorem init_inStep : InStep ({} : DSchedContinuation κ π) where
  devices missionId := by simp
  flags missionId h := by simp at h

/-- A call of `PushCallback` that is refused changes nothing; the mission of one that is accepted
has no callback before it. -/
theorem pushCallback_cases (c : DSchedContinuation κ π) (missionId : Int) (callback : Option κ)
    (deviceId : String) (isFreeInstall : Bool) :
    c.pushCallback missionId callback deviceId isFreeInstall = (false, c) ∨
      ∃ passed, callback = some passed ∧ c.callbackMap[missionId]? = none := by
  cases callback with
  | none => exact .inl rfl
  | some passed =>
      by_cases hm : c.callbackMap.contains missionId = true
      · exact .inl (if_pos hm)
      · exact .inr ⟨passed, rfl, ExtTreeMap.not_contains_iff.mp hm⟩

theorem InStep.pushCallback (h : c.InStep) (callback : Option κ) (deviceId : String)
    (isFreeInstall : Bool) :
    (c.pushCallback missionId callback deviceId isFreeInstall).2.InStep := by
  obtain hr | ⟨passed, rfl, hn⟩ := pushCallback_cases c missionId callback deviceId isFreeInstall
  · rw [hr]
    exact h
  · rw [pushCallback_of_none hn]
    refine ⟨fun k => ?_, fun k hk => ?_⟩
    · simp only [ExtTreeMap.mem_insertIfNew, ExtTreeMap.mem_insert, h.devices]
    · rw [ExtTreeMap.mem_insert]
      split at hk
      · exact (ExtTreeMap.mem_insert.mp hk).imp_right (h.flags k)
      · exact .inr (h.flags k hk)

theorem InStep.popCallback (h : c.InStep) : (c.popCallback missionId).2.InStep := by
  unfold DSchedContinuation.popCallback
  split
  · exact h
  · refine ⟨fun k => ?_, fun k hk => ?_⟩
    · simp only [ExtTreeMap.mem_erase, h.devices]
    · obtain ⟨hne, hk⟩ := ExtTreeMap.mem_erase.mp hk
      exact ExtTreeMap.mem_erase.mpr ⟨hne, h.flags k hk⟩

/-- **An accepted call stores its own entry.**  Of an earlier attempt nothing is left. -/
theorem InStep.entry_pushCallback (h : c.InStep) (hn : c.callbackMap[missionId]? = none)
    (callback : κ) (deviceId : String) (isFreeInstall : Bool) (k : Int) :
    (c.pushCallback missionId (some callback) deviceId isFreeInstall).2.entry k =
      if missionId = k then some ⟨callback, deviceId, isFreeInstall⟩ else c.entry k := by
  have hcallback : missionId ∉ c.callbackMap := ExtTreeMap.getElem?_eq_none_iff.mp hn
  have hdevice : c.continuationDevices[missionId]? = none :=
    ExtTreeMap.getElem?_eq_none fun hm => hcallback ((h.devices missionId).mp hm)
  have hflag : c.freeInstall[missionId]? = none :=
    ExtTreeMap.getElem?_eq_none fun hm => hcallback (h.flags missionId hm)
  rw [pushCallback_of_none hn, ExtTreeMap.insertIfNew_eq_insert hdevice]
  by_cases hk : missionId = k
  · subst hk
    rw [if_pos rfl]
    cases isFreeInstall with
    | false => simp [entry, getTargetDevice, DSchedContinuation.isFreeInstall, hflag]
    | true => simp [entry, getTargetDevice, DSchedContinuation.isFreeInstall]
  · have hother : (if isFreeInstall = true then c.freeInstall.insert missionId isFreeInstall
        else c.freeInstall)[k]? = c.freeInstall[k]? := by
      split
      · exact ExtTreeMap.getElem?_insert_of_ne hk
      · rfl
    simp [entry, getTargetDevice, DSchedContinuation.isFreeInstall, hother, hk,
      ExtTreeMap.getElem?_insert_of_ne hk]

theorem popCallback_of_none (hn : c.callbackMap[missionId]? = none) :
    c.popCallback missionId = (none, c) := by
  rw [DSchedContinuation.popCallback, hn]

theorem entry_popCallback (k : Int) :
    (c.popCallback missionId).2.entry k = if missionId = k then none else c.entry k := by
  unfold DSchedContinuation.popCallback
  split
  · rename_i hn
    split
    · rename_i hk
      rw [entry, ← hk, hn]
      rfl
    · rfl
  · split
    · rename_i hk
      subst hk
      simp [entry]
    · rename_i hk
      simp [entry, getTargetDevice, DSchedContinuation.isFreeInstall,
        ExtTreeMap.getElem?_erase_of_ne hk]

/-! ### The table does not look at callbacks -/

def mapCallbacks (f : κ → κ') (c : DSchedContinuation κ π) : DSchedContinuation κ' π where
  callbackMap := c.callbackMap.map fun _ => f
  continuationDevices := c.continuationDevices
  freeInstall := c.freeInstall
  continuationHandler := c.continuationHandler

theorem pushCallback_mapCallbacks (f : κ → κ') (callback : Option κ) (deviceId : String)
    (isFreeInstall : Bool) :
    (c.mapCallbacks f).pushCallback missionId (callback.map f) deviceId isFreeInstall =
      Prod.map id (mapCallbacks f)
        (c.pushCallback missionId callback deviceId isFreeInstall) := by
  cases callback with
  | none => rfl
  | some callback =>
      simp only [pushCallback, Option.map_some, mapCallbacks, ExtTreeMap.contains_map]
      split
      · rfl
      · rw [← ExtTreeMap.map_insertIfNew]
        rfl

theorem popCallback_mapCallbacks (f : κ → κ') :
    (c.mapCallbacks f).popCallback missionId =
      Prod.map (Option.map f) (mapCallbacks f) (c.popCallback missionId) := by
  simp only [popCallback, mapCallbacks, ExtTreeMap.getElem?_map]
  cases c.callbackMap[missionId]? with
  | none => rfl
  | some callback =>
      simp only [Option.map_some, ← ExtTreeMap.map_erase]
      rfl

end DSchedContinuation

open DSchedContinuation

/-! ### The calls -/

/-- A callback on its way through the table, with the number of the call that passed it. -/
structure PassedCallback (κ : Type) where
  call : Nat
  callback : κ

/-- A call of `PushCallback`, with what it returned. -/
structure PushCall (κ : Type) where
  missionId : Int
  callback : Option κ
  deviceId : String
  isFreeInstall : Bool
  returned : Bool

/-- A call of `PopCallback`, with what it returned. -/
structure PopCall (τ : Type) where
  missionId : Int
  returned : Option τ

/-- The table and the calls so far.  The calls pass callbacks of type `κ`, and the table holds
values of type `τ` for them. -/
structure CallbackTable (κ τ π : Type) where
  /-- whether `continuationHandler_` is there -/
  initialized : Bool := false
  continuation : DSchedContinuation τ π := {}
  pushes : List (PushCall κ) := []
  pops : List (PopCall τ) := []

inductive CallbackStep (κ π : Type) where
  | init
  | pushCallback (missionId : Int) (callback : Option κ) (deviceId : String) (isFreeInstall : Bool)
  | popCallback (missionId : Int)
  /-- `SetTimeOut`, `RemoveTimeOut` or a timeout event, by what it leaves of the handler -/
  | handler (continuationHandler : EventHandler π)

variable {κ τ π : Type}

/-- `pass` makes what the table holds of the number of the call and the callback. -/
def CallbackStep.apply (pass : Nat → κ → τ) (s : CallbackTable κ τ π) :
    CallbackStep κ π → Option (CallbackTable κ τ π)
  | init =>
    some { s with
      initialized := true
      continuation := { s.continuation with continuationHandler := {} } }
  | pushCallback missionId callback deviceId isFreeInstall =>
    let (returned, continuation) :=
      if s.initialized then
        s.continuation.pushCallback missionId (callback.map (pass s.pushes.length)) deviceId
          isFreeInstall
      else (false, s.continuation)
    some { s with
      continuation := continuation
      pushes := s.pushes ++ [⟨missionId, callback, deviceId, isFreeInstall, returned⟩] }
  | popCallback missionId =>
    let (returned, continuation) := s.continuation.popCallback missionId
    some { s with continuation := continuation, pops := s.pops ++ [⟨missionId, returned⟩] }
  | handler continuationHandler =>
    some { s with
      continuation := { s.continuation with continuationHandler := continuationHandler } }

/-- The code's own step: the table holds the callback. -/
abbrev CallbackStep.code : CallbackTable κ κ π → CallbackStep κ π → Option (CallbackTable κ κ π) :=
  apply fun _ callback => callback

/-- The step with numbered calls. -/
abbrev CallbackStep.numbered : CallbackTable κ (PassedCallback κ) π → CallbackStep κ π →
    Option (CallbackTable κ (PassedCallback κ) π) :=
  apply PassedCallback.mk

theorem CallbackStep.numbered_total (s : CallbackTable κ (PassedCallback κ) π)
    (step : CallbackStep κ π) : ∃ s', numbered s step = some s' := by
  cases step <;> exact ⟨_, rfl⟩

namespace CallbackTable

/-- The table without the numbers of the calls. -/
def forget (s : CallbackTable κ (PassedCallback κ) π) : CallbackTable κ κ π where
  initialized := s.initialized
  continuation := s.continuation.mapCallbacks PassedCallback.callback
  pushes := s.pushes
  pops := s.pops.map fun pop => ⟨pop.missionId, pop.returned.map PassedCallback.callback⟩

/-- The numbers of the calls whose callbacks were returned. -/
def popped (s : CallbackTable κ (PassedCallback κ) π) : List Nat :=
  s.pops.filterMap fun pop => pop.returned.map PassedCallback.call

end CallbackTable

theorem CallbackStep.code_forget (s : CallbackTable κ (PassedCallback κ) π)
    (step : CallbackStep κ π) :
    code s.forget step = (numbered s step).map CallbackTable.forget := by
  cases step with
  | init => rfl
  | pushCallback missionId callback deviceId isFreeInstall =>
      have hcallback : callback.map (fun callback => callback) =
          (callback.map (PassedCallback.mk s.pushes.length)).map PassedCallback.callback := by
        cases callback <;> rfl
      simp only [apply, CallbackTable.forget, hcallback, pushCallback_mapCallbacks]
      cases s.initialized <;> rfl
  | popCallback missionId =>
      simp only [apply, CallbackTable.forget, popCallback_mapCallbacks, Option.map_some,
        List.map_append]
      rfl
  | handler continuationHandler => rfl

/-- Without the numbers, a run is a run of the code's own table. -/
theorem CallbackStep.exec_forget {steps : List (CallbackStep κ π)}
    {s : CallbackTable κ (PassedCallback κ) π} (h : Runs.exec numbered {} steps = some s) :
    Runs.exec code {} steps = some s.forget := by
  have hforget : Runs.exec code (CallbackTable.forget {}) steps =
      (Runs.exec numbered {} steps).map CallbackTable.forget :=
    Runs.exec_map code_forget steps {}
  rw [h] at hforget
  exact hforget

/-! ### The invariant -/

namespace CallbackTable

/-- Call number `passed.call` has passed the callback for the mission, and has stored it. -/
def PassedFor (pushes : List (PushCall κ)) (missionId : Int) (passed : PassedCallback κ) : Prop :=
  ∃ push, pushes[passed.call]? = some push ∧ push.returned = true ∧
    push.missionId = missionId ∧ push.callback = some passed.callback

structure Inv (s : CallbackTable κ (PassedCallback κ) π) : Prop where
  inStep : s.continuation.InStep
  /-- the entry of a mission is what the call of its number gave -/
  stored : ∀ missionId e, s.continuation.entry missionId = some e →
    s.pushes[e.callback.call]? =
      some ⟨missionId, some e.callback.callback, e.deviceId, e.isFreeInstall, true⟩
  returned : ∀ pop ∈ s.pops, ∀ passed, pop.returned = some passed →
    PassedFor s.pushes pop.missionId passed
  /-- what is stored was not returned -/
  kept : ∀ missionId e, s.continuation.entry missionId = some e → e.callback.call ∉ s.popped
  /-- what was stored is there or was returned -/
  found : ∀ (i : Nat) push, s.pushes[i]? = some push → push.returned = true →
    i ∈ s.popped ∨ ∃ e, s.continuation.entry push.missionId = some e ∧ e.callback.call = i
  nodup : s.popped.Nodup

variable {s : CallbackTable κ (PassedCallback κ) π}

theorem init_inv : Inv ({} : CallbackTable κ (PassedCallback κ) π) where
  inStep := init_inStep
  stored missionId e h := by simp [entry] at h
  returned _ h := absurd h List.not_mem_nil
  kept missionId e h := by simp [entry] at h
  found i push h := by simp at h
  nodup := List.nodup_nil

theorem mem_popped {call : Nat} :
    call ∈ s.popped ↔
      ∃ pop ∈ s.pops, ∃ passed, pop.returned = some passed ∧ passed.call = call := by
  simp only [popped, List.mem_filterMap, Option.map_eq_some_iff]

/-- The calls so far stay where they are. -/
theorem getElem?_concat_of_some {α : Type} {l : List α} {i : Nat} {a : α} (h : l[i]? = some a)
    (b : α) : (l ++ [b])[i]? = some a := by
  obtain ⟨hi, -⟩ := List.getElem?_eq_some_iff.mp h
  rw [List.getElem?_append_left hi, h]

/-- A call is one of those before the last, or the last. -/
theorem getElem?_concat_eq_some {α : Type} {l : List α} {i : Nat} {a b : α}
    (h : (l ++ [b])[i]? = some a) : l[i]? = some a ∨ i = l.length ∧ a = b := by
  rw [List.getElem?_append] at h
  split at h
  · exact .inl h
  · obtain ⟨hi, ha⟩ := List.getElem?_eq_some_iff.mp h
    rw [List.length_singleton] at hi
    exact .inr ⟨by omega, ha.symm.trans (List.getElem_singleton ..)⟩

theorem PassedFor.concat {pushes : List (PushCall κ)} {missionId : Int}
    {passed : PassedCallback κ} (h : PassedFor pushes missionId passed) (push : PushCall κ) :
    PassedFor (pushes ++ [push]) missionId passed := by
  obtain ⟨old, hold, hrest⟩ := h
  exact ⟨old, getElem?_concat_of_some hold push, hrest⟩

/-- The number of the next call was not returned. -/
theorem Inv.length_not_mem_popped (h : s.Inv) : s.pushes.length ∉ s.popped := by
  intro hm
  obtain ⟨pop, hpop, passed, hr, hcall⟩ := mem_popped.mp hm
  obtain ⟨push, hpush, -⟩ := h.returned pop hpop passed hr
  obtain ⟨hlt, -⟩ := List.getElem?_eq_some_iff.mp hpush
  omega

/-- A call that is refused. -/
theorem Inv.refused (h : s.Inv) {push : PushCall κ} (hfalse : push.returned = false) :
    Inv { s with pushes := s.pushes ++ [push] } where
  inStep := h.inStep
  stored missionId e he := getElem?_concat_of_some (h.stored missionId e he) push
  returned pop hpop passed hr := (h.returned pop hpop passed hr).concat push
  kept := h.kept
  found i old hold hr := by
    rcases getElem?_concat_eq_some hold with hold | ⟨-, rfl⟩
    · exact h.found i old hold hr
    · rw [hfalse] at hr
      cases hr
  nodup := h.nodup

/-- A call that is accepted. -/
theorem Inv.accepted (h : s.Inv) {missionId : Int}
    (hn : s.continuation.callbackMap[missionId]? = none) (callback : κ) (deviceId : String)
    (isFreeInstall : Bool) :
    Inv { s with
      continuation := (s.continuation.pushCallback missionId (some ⟨s.pushes.length, callback⟩)
        deviceId isFreeInstall).2
      pushes := s.pushes ++ [⟨missionId, some callback, deviceId, isFreeInstall, true⟩] } := by
  have hentry := h.inStep.entry_pushCallback hn ⟨s.pushes.length, callback⟩ deviceId isFreeInstall
  refine
    { inStep := h.inStep.pushCallback ..
      stored := fun k e he => ?_
      returned := fun pop hpop passed hr => (h.returned pop hpop passed hr).concat _
      kept := fun k e he => ?_
      found := fun i push hpush hr => ?_
      nodup := h.nodup }
  · rw [hentry] at he
    split at he
    · rename_i hk
      obtain rfl := Option.some.inj he
      subst hk
      exact List.getElem?_concat_length
    · exact getElem?_concat_of_some (h.stored k e he) _
  · rw [hentry] at he
    split at he
    · obtain rfl := Option.some.inj he
      exact h.length_not_mem_popped
    · exact h.kept k e he
  · rcases getElem?_concat_eq_some hpush with hpush | ⟨rfl, rfl⟩
    · refine (h.found i push hpush hr).imp_right fun ⟨e, he, hcall⟩ => ⟨e, ?_, hcall⟩
      rw [hentry, if_neg, he]
      rintro rfl
      rw [entry, hn] at he
      cases he
    · exact .inr ⟨_, (hentry _).trans (if_pos rfl), rfl⟩

/-- A mission without a callback. -/
theorem Inv.popNothing (h : s.Inv) (missionId : Int) :
    Inv { s with pops := s.pops ++ [⟨missionId, none⟩] } := by
  have hpopped : popped { s with pops := s.pops ++ [⟨missionId, none⟩] } = s.popped := by
    simp [popped]
  refine
    { inStep := h.inStep
      stored := h.stored
      returned := List.forall_mem_append.mpr
        ⟨h.returned, List.forall_mem_singleton.mpr fun passed hr => by cases hr⟩
      kept := fun k e he => ?_
      found := fun i push hpush hr => ?_
      nodup := ?_ }
  · rw [hpopped]
    exact h.kept k e he
  · rw [hpopped]
    exact h.found i push hpush hr
  · rw [hpopped]
    exact h.nodup

/-- A callback that is returned. -/
theorem Inv.popStored (h : s.Inv) {missionId : Int} {passed : PassedCallback κ}
    (hc : s.continuation.callbackMap[missionId]? = some passed) :
    Inv { s with
      continuation := (s.continuation.popCallback missionId).2
      pops := s.pops ++ [⟨missionId, some passed⟩] } := by
  have hentry := entry_of_callback hc
  have hpush := h.stored missionId _ hentry
  have hother : ∀ k e, (s.continuation.popCallback missionId).2.entry k = some e →
      missionId ≠ k ∧ s.continuation.entry k = some e := by
    intro k e he
    rw [entry_popCallback] at he
    split at he
    · cases he
    · exact ⟨‹_›, he⟩
  have hpopped : popped { s with
      continuation := (s.continuation.popCallback missionId).2
      pops := s.pops ++ [⟨missionId, some passed⟩] } = s.popped ++ [passed.call] := by
    simp [popped]
  refine
    { inStep := h.inStep.popCallback
      stored := fun k e he => h.stored k e (hother k e he).2
      returned := List.forall_mem_append.mpr
        ⟨h.returned, List.forall_mem_singleton.mpr fun passed' hr => ?_⟩
      kept := fun k e he => ?_
      found := fun i push hi hr => ?_
      nodup := ?_ }
  · obtain rfl := Option.some.inj hr
    exact ⟨_, hpush, rfl, rfl, rfl⟩
  · -- a call stores its callback for one mission only
    obtain ⟨hne, he⟩ := hother k e he
    rw [hpopped, List.mem_append, List.mem_singleton]
    rintro (hm | hcall)
    · exact h.kept k e he hm
    · have hpush' := h.stored k e he
      rw [hcall, hpush] at hpush'
      exact hne (congrArg PushCall.missionId (Option.some.inj hpush'))
  · rw [hpopped, List.mem_append, List.mem_singleton]
    rcases h.found i push hi hr with hm | ⟨e, he, rfl⟩
    · exact .inl (.inl hm)
    · by_cases hm : missionId = push.missionId
      · rw [← hm, hentry] at he
        cases he
        exact .inl (.inr rfl)
      · exact .inr ⟨e, (entry_popCallback _).trans ((if_neg hm).trans he), rfl⟩
  · rw [hpopped, List.nodup_append]
    refine ⟨h.nodup, List.nodup_singleton _, ?_⟩
    rintro call hcall _ hm rfl
    rw [List.mem_singleton.mp hm] at hcall
    exact h.kept missionId _ hentry hcall

/-- The handler is not looked at. -/
theorem Inv.setHandler (h : s.Inv) (initialized : Bool) (continuationHandler : EventHandler π) :
    Inv { s with
      initialized := initialized
      continuation := { s.continuation with continuationHandler := continuationHandler } } :=
  { h with inStep := ⟨h.inStep.devices, h.inStep.flags⟩ }

theorem Inv.step (h : s.Inv) {step : CallbackStep κ π} {s' : CallbackTable κ (PassedCallback κ) π}
    (hs : CallbackStep.numbered s step = some s') : s'.Inv := by
  cases step with
  | init =>
      cases hs
      exact h.setHandler true {}
  | pushCallback missionId callback deviceId isFreeInstall =>
      by_cases hi : s.initialized = true
      · simp only [CallbackStep.apply, if_pos hi] at hs
        obtain hr | ⟨passed, hp, hn⟩ := pushCallback_cases s.continuation missionId
          (callback.map (PassedCallback.mk s.pushes.length)) deviceId isFreeInstall
        · rw [hr] at hs
          cases hs
          exact h.refused rfl
        · obtain ⟨callback, rfl, rfl⟩ := Option.map_eq_some_iff.mp hp
          have haccepted := h.accepted hn callback deviceId isFreeInstall
          rw [pushCallback_of_none hn] at haccepted
          rw [Option.map_some, pushCallback_of_none hn] at hs
          cases hs
          exact haccepted
      · simp only [CallbackStep.apply, if_neg hi] at hs
        cases hs
        exact h.refused rfl
  | popCallback missionId =>
      simp only [CallbackStep.apply, popCallback_fst] at hs
      cases hs
      cases hc : s.continuation.callbackMap[missionId]? with
      | none =>
          rw [popCallback_of_none hc]
          exact h.popNothing missionId
      | some passed => exact h.popStored hc
  | handler continuationHandler =>
      cases hs
      exact h.setHandler s.initialized continuationHandler

end CallbackTable

/-! ### Every run -/

open CallbackTable

/-- **The maps stay in step.**  Whatever the calls, the missions with a device are those with a
callback, and only these have a flag.  What `GetTargetDevice` and `IsFreeInstall` answer for a
mission with a callback was given in the call that has stored the callback.  No call's callback is
returned twice, and what is returned for a mission was stored for it.  The callback of a call that
was accepted is in the table or was returned: the next accepted call stores its callback, and the
next `PopCallback` of a mission that has one returns it. -/
theorem maps_stay_in_step (steps : List (CallbackStep κ π)) :
    ∃ s : CallbackTable κ (PassedCallback κ) π,
      Runs.exec CallbackStep.numbered {} steps = some s ∧
      Runs.exec CallbackStep.code {} steps = some s.forget ∧
      (∀ missionId, missionId ∈ s.continuation.continuationDevices ↔
        missionId ∈ s.continuation.callbackMap) ∧
      (∀ missionId, missionId ∈ s.continuation.freeInstall →
        missionId ∈ s.continuation.callbackMap) ∧
      (∀ (missionId : Int) (passed : PassedCallback κ),
        s.continuation.callbackMap[missionId]? = some passed →
          s.pushes[passed.call]? =
            some ⟨missionId, some passed.callback, s.continuation.getTargetDevice missionId,
              s.continuation.isFreeInstall missionId, true⟩) ∧
      s.popped.Nodup ∧
      (∀ pop ∈ s.pops, ∀ passed, pop.returned = some passed →
        PassedFor s.pushes pop.missionId passed) ∧
      (∀ (i : Nat) push, s.pushes[i]? = some push → push.returned = true → i ∈ s.popped ∨
        ∃ passed, s.continuation.callbackMap[push.missionId]? = some passed ∧ passed.call = i) ∧
      (∀ missionId passed deviceId isFreeInstall,
        (s.continuation.pushCallback missionId (some passed) deviceId isFreeInstall).1 = true →
        (s.continuation.pushCallback missionId (some passed) deviceId
          isFreeInstall).2.callbackMap[missionId]? = some passed) ∧
      ∀ missionId, missionId ∈ s.continuation.callbackMap →
        (s.continuation.popCallback missionId).1 = s.continuation.callbackMap[missionId]? ∧
          missionId ∉ (s.continuation.popCallback missionId).2.callbackMap := by
  obtain ⟨s, hs⟩ := Runs.exec_total CallbackStep.numbered_total steps {}
  have hinv : s.Inv :=
    (Runs.Reach.of_exec hs).invariant (P := Inv) init_inv fun s step s' hi _ hstep => hi.step hstep
  refine ⟨s, hs, CallbackStep.exec_forget hs, hinv.inStep.devices, hinv.inStep.flags, ?_,
    hinv.nodup, hinv.returned, fun i push hi hr => ?_,
    fun missionId passed deviceId isFreeInstall hr => ?_, fun missionId _ => ⟨popCallback_fst, ?_⟩⟩
  · intro missionId passed hc
    exact hinv.stored missionId _ (entry_of_callback hc)
  · refine (hinv.found i push hi hr).imp_right ?_
    rintro ⟨e, he, hcall⟩
    obtain ⟨passed, hpassed, rfl⟩ := Option.map_eq_some_iff.mp he
    exact ⟨passed, hpassed, hcall⟩
  · obtain hcase | ⟨-, -, hn⟩ :=
      pushCallback_cases s.continuation missionId (some passed) deviceId isFreeInstall
    · rw [hcase] at hr
      cases hr
    · rw [pushCallback_of_none hn, ExtTreeMap.getElem?_insert_self]
  · rw [← ExtTreeMap.getElem?_eq_none_iff, popCallback_getElem?, if_pos rfl]

-- a mission that is continued again, to another device and without a free install
example : (Runs.exec CallbackStep.code ({} : CallbackTable Nat Nat Unit)
    [.init, .pushCallback 3 (some 7) "A" true, .popCallback 3,
      .pushCallback 3 (some 7) "B" false]).map (fun s =>
    (s.continuation.getTargetDevice 3, s.continuation.isFreeInstall 3)) = some ("B", false) := rfl

end DistributedSched

import DistributedSched.Library.Custody
import DistributedSched.Library.Runs
import DistributedSched.Service.ConnectFromRemote

/-!
# Connect — the callback wrappers of remote callers

The callee connects an ability through a wrapper of the remote connect object.  A call of
`ConnectAbilityFromRemote` is three steps: the lookup that finds or makes the wrapper, the call
of the ability manager, and the record; a call of `DisconnectAbilityFromRemote` is two.  Calls
run side by side (`RemoteConnects`).

* `owned`: a wrapper belongs to the entry that records it, to the call that made it and has not
  recorded it, or to the disconnect that has taken it out of the table.  No wrapper has two
  owners, and the wrappers that are connected are those of owners that have connected them
  (`Inv`).
* `wrappers_recorded`: when each record of a new wrapper finds the table without its connect,
  each connect of a wrapper that was found in the table finds it still owned, and each
  disconnect reaches the ability manager, then the wrappers that stay connected are the ones
  recorded, each for one connect.
* `wrapper_forgotten`: two first connects of one object leave a wrapper connected that nothing
  records.
-/

namespace DistributedSched

open Std (ExtTreeMap)
open Custody
open DistributedSchedService

/-! ### Calls side by side -/

/-- A call of `ConnectAbilityFromRemote` after its lookup. -/
structure RemoteConnect where
  want : Want
  connect : RemoteObject
  callerInfo : CallerInfo
  callbackWrapper : RemoteObject
  /-- the lookup found the connect in the table -/
  found : Bool
  /-- the ability manager has connected the wrapper -/
  connected : Bool := false

structure RemoteConnects where
  service : DistributedSchedService := {}
  calls : Map Nat RemoteConnect := ∅
  /-- the calls of `DisconnectAbilityFromRemote` that have an object to disconnect -/
  disconnects : Map Nat RemoteObject := ∅
  /-- the objects that the ability manager has connected and not disconnected -/
  connected : List RemoteObject := []

/-- What the ability manager keeps of a call that succeeds. -/
def amsDeliver (connected : List RemoteObject) : Effect → List RemoteObject
  | .ams (.connectAbility _ connect _) => connect :: connected
  | .ams (.disconnectAbility connect) => connected.filter fun c => c ≠ connect
  | _ => connected

/-- The test of `NotifyProcessDiedFromRemote`. -/
def processGone (callerInfo : CallerInfo) (connectInfo : ConnectInfo) : Bool :=
  callerInfo.sourceDeviceId = connectInfo.callerInfo.sourceDeviceId &&
    callerInfo.uid = connectInfo.callerInfo.uid &&
    callerInfo.pid = connectInfo.callerInfo.pid &&
    callerInfo.callerType = connectInfo.callerInfo.callerType

/-- The test of `ProcessDeviceOffline`. -/
def deviceGone (deviceId : String) (connectInfo : ConnectInfo) : Bool :=
  deviceId = connectInfo.callerInfo.sourceDeviceId

inductive WrapperStep where
  /-- a new call checks its arguments and looks the connect up -/
  | lookup (i : Nat) (env : Env) (want : Want) (connect : Option RemoteObject)
      (callerInfo : CallerInfo) (accountInfo : AccountInfo)
  | amsConnect (i : Nat) (env : Env)
  | record (i : Nat) (env : Env)
  /-- a new disconnect takes the connect out of the table -/
  | erase (j : Nat) (env : Env) (connect : Option RemoteObject) (uid : Int)
      (sourceDeviceId : String)
  | amsDisconnect (j : Nat) (env : Env)
  | notifyProcessDied (env : Env) (callerInfo : CallerInfo)
  | deviceOffline (env : Env) (deviceId : String)

/-- The block of a walk that disconnects entries. -/
def RemoteConnects.disconnectEntries (s : RemoteConnects) (env : Env)
    (gone : ConnectInfo → Bool) : RemoteConnects :=
  let o := s.service.disconnectEntries env gone
  { s with service := o.service, connected := o.effects.foldl amsDeliver s.connected }

namespace WrapperStep

def apply (s : RemoteConnects) : WrapperStep → Option RemoteConnects
  | lookup i env want connect callerInfo accountInfo =>
    if s.calls.contains i ∨ callerInfo.callerType ≠ callerTypeHarmony then none
    else match connectFromRemotePermitted env want connect callerInfo accountInfo with
      | .error _ => some s
      | .ok connect =>
        let (callbackWrapper, found, service) := s.service.lookupConnect connect
        some { s with
          service := service
          calls := s.calls.insert i ⟨want, connect, callerInfo, callbackWrapper, found, false⟩ }
  | amsConnect i env =>
    match s.calls[i]? with
    | none => none
    | some call =>
      if call.connected then none
      else
        let a := DistributedSchedAdapter.connectAbility env call.want call.callbackWrapper
        if a.1 ≠ errOk then some { s with calls := s.calls.erase i }
        else some { s with
          calls := s.calls.insert i { call with connected := true }
          connected := a.2.foldl amsDeliver s.connected }
  | record i env =>
    match s.calls[i]? with
    | none => none
    | some call =>
      if call.connected then
        let r := s.service.recordConnect env call.connect call.found
          ⟨call.callerInfo, call.callbackWrapper, call.want.element⟩
        some { s with service := r.1, calls := s.calls.erase i }
      else none
  | erase j env connect _ sourceDeviceId =>
    -- the stub takes this request from other devices only
    if s.disconnects.contains j ∨ env.isLocalCalling then none
    else match connect, env.checkedLocalIdForRelease sourceDeviceId with
      | some connect, some _ =>
        match s.service.eraseConnect env connect with
        | (none, service, _) => some { s with service := service }
        | (some callbackWrapper, service, _) =>
          some { s with
            service := service
            disconnects := s.disconnects.insert j callbackWrapper }
      | _, _ => some s
  | amsDisconnect j env =>
    match s.disconnects[j]? with
    | none => none
    | some callbackWrapper =>
      let a := DistributedSchedAdapter.disconnectAbility env callbackWrapper
      some { s with
        disconnects := s.disconnects.erase j
        connected := a.2.foldl amsDeliver s.connected }
  | notifyProcessDied env callerInfo => some (s.disconnectEntries env (processGone callerInfo))
  | deviceOffline env deviceId =>
    match env.checkedLocalId deviceId with
    | none => some s
    | some _ => some (s.disconnectEntries env (deviceGone deviceId))

/-- The walk reaches the ability manager, or has nothing to disconnect. -/
def Reaches (s : RemoteConnects) (env : Env) (gone : ConnectInfo → Bool) : Prop :=
  env.amsConnect = errOk ∨ ∀ (connect : RemoteObject) (connectInfo : ConnectInfo),
    s.service.connectAbilityMap[connect]? = some connectInfo → gone connectInfo = false

/-- The steps that keep track of the wrappers.  A wrapper that was found is still recorded, or
about to be disconnected, when it is connected; a wrapper that is new is recorded for a connect
that has none; and a disconnect reaches the ability manager. -/
def Tracked (s : RemoteConnects) : WrapperStep → Prop
  | amsConnect i env => ∀ call, s.calls[i]? = some call → call.found = true →
      (DistributedSchedAdapter.connectAbility env call.want call.callbackWrapper).1 = errOk →
    (s.service.connectAbilityMap[call.connect]?.map (·.callbackWrapper)) =
        some call.callbackWrapper ∨
      ∃ j : Nat, s.disconnects[j]? = some call.callbackWrapper
  | record i _ => ∀ call, s.calls[i]? = some call → call.found = false →
    s.service.connectAbilityMap[call.connect]? = none
  | amsDisconnect _ env => env.amsConnect = errOk
  | notifyProcessDied env callerInfo => Reaches s env (processGone callerInfo)
  | deviceOffline env deviceId => Reaches s env (deviceGone deviceId)
  | _ => True

end WrapperStep

/-! ### The ability manager's side -/

theorem mem_foldl_amsDeliver {es : List Effect} {connected : List RemoteObject}
    (h : ∀ e ∈ es, ∀ want connect userId, e ≠ .ams (.connectAbility want connect userId))
    {w : RemoteObject} :
    w ∈ es.foldl amsDeliver connected ↔
      w ∈ connected ∧ Effect.ams (.disconnectAbility w) ∉ es := by
  induction es generalizing connected with
  | nil => simp
  | cons e es ih =>
      rw [List.foldl_cons, ih fun e he => h e (List.mem_cons_of_mem _ he), List.mem_cons, not_or,
        ← and_assoc]
      refine and_congr_left fun _ => ?_
      unfold amsDeliver
      split
      · exact absurd rfl (h _ List.mem_cons_self _ _ _)
      · simp
      · rename_i hne
        exact (and_iff_left fun he => hne _ he.symm).symm

theorem disconnectAbility_mem {env : Env} {object w : RemoteObject} (h : env.amsConnect = errOk) :
    Effect.ams (.disconnectAbility w) ∈
      (DistributedSchedAdapter.disconnectAbility env object).2 ↔ w = object := by
  rw [DistributedSchedAdapter.disconnectAbility, if_neg (not_not_intro h)]
  simp

theorem connectAbility_effects {env : Env} {want : Want} {object : RemoteObject}
    (h : (DistributedSchedAdapter.connectAbility env want object).1 = errOk) :
    ∃ userId, (DistributedSchedAdapter.connectAbility env want object).2 =
      [.ams (.connectAbility want object userId)] := by
  unfold DistributedSchedAdapter.connectAbility at h ⊢
  split at h
  · rename_i hne
    exact absurd h hne
  · rename_i hc
    rw [if_neg hc]
    split at h
    · exact absurd h (by decide)
    · exact ⟨_, rfl⟩

/-- What the ability manager keeps when entries are disconnected. -/
theorem mem_connected_disconnectEntries {s : RemoteConnects} {env : Env}
    {gone : ConnectInfo → Bool} (h : WrapperStep.Reaches s env gone) {w : RemoteObject} :
    w ∈ (s.disconnectEntries env gone).connected ↔ w ∈ s.connected ∧
      ∀ (connect : RemoteObject) (connectInfo : ConnectInfo),
        s.service.connectAbilityMap[connect]? = some connectInfo → gone connectInfo = true →
          connectInfo.callbackWrapper ≠ w := by
  refine (mem_foldl_amsDeliver fun e he want connect userId => ?_).trans
    (and_congr_right fun _ => ?_)
  · rcases mem_disconnectEntries env s.service gone e he with ⟨_, rfl⟩ | ⟨_, _, rfl, -⟩ <;> simp
  rw [disconnectEntries_effects, List.mem_flatMap]
  simp only [not_exists, not_and, Prod.forall, ExtTreeMap.mem_toList_iff_getElem?_eq_some]
  refine forall₃_congr fun connect connectInfo hk => ?_
  cases hg : gone connectInfo with
  | false => simp
  | true =>
      have ha : env.amsConnect = errOk := by
        refine h.resolve_right fun hn => ?_
        rw [hn connect connectInfo hk] at hg
        cases hg
      simp [disconnectAbility_mem ha, eq_comm]

/-! ### Owners of wrappers -/

inductive WrapperOwner where
  | entry (connect : RemoteObject)
  | call (i : Nat)
  | disconnect (j : Nat)
deriving DecidableEq

namespace RemoteConnects

variable (s : RemoteConnects)

/-- A call owns the wrapper that it made. -/
def owned : WrapperOwner → Option RemoteObject
  | .entry connect => s.service.connectAbilityMap[connect]?.map (·.callbackWrapper)
  | .call i => s.calls[i]?.bind fun call => if call.found then none else some call.callbackWrapper
  | .disconnect j => s.disconnects[j]?

/-- The owners that have connected their wrapper. -/
def hasConnected : WrapperOwner → Bool
  | .call i => s.calls[i]?.any (·.connected)
  | _ => true

/-- What owners have connected. -/
def ownedConnected : WrapperOwner → Option RemoteObject := keep s.hasConnected s.owned

/-- Every wrapper has one owner, wrappers are made fresh, and the ones that are connected are
those that owners have connected. -/
structure Inv : Prop where
  exclusive : Exclusive s.owned
  fresh : ∀ w, Held s.owned w → w < s.service.newObject
  connected : ∀ w, w ∈ s.connected ↔ Held s.ownedConnected w

variable {s}

/-- A state with the same owners and the same connected objects. -/
theorem Inv.same {s' : RemoteConnects} (h : s.Inv) (ho : s'.owned = s.owned)
    (hc : s'.ownedConnected = s.ownedConnected)
    (hn : s.service.newObject ≤ s'.service.newObject)
    (hm : ∀ w, w ∈ s'.connected ↔ w ∈ s.connected) : s'.Inv where
  exclusive := ho ▸ h.exclusive
  fresh w hw := Nat.lt_of_lt_of_le (h.fresh w (ho ▸ hw)) hn
  connected w := by rw [hm, hc, h.connected]

/-- A state where some owners gave up their wrappers, which are disconnected. -/
theorem Inv.giveUp {s' : RemoteConnects} (h : s.Inv) (p : WrapperOwner → Bool)
    (ho : s'.owned = keep p s.owned) (hc : s'.ownedConnected = keep p s.ownedConnected)
    (hn : s'.service.newObject = s.service.newObject)
    (hm : ∀ w, w ∈ s'.connected ↔
      w ∈ s.connected ∧ ∀ o, p o = false → s.ownedConnected o ≠ some w) : s'.Inv where
  exclusive := ho ▸ h.exclusive.keep p
  fresh w hw := by
    rw [hn]
    rw [ho] at hw
    exact h.fresh w (h.exclusive.held_keep.mp hw).1
  connected w := by
    rw [hm, hc, h.connected]
    exact ((h.exclusive.keep _).held_keep).symm

/-- A state where an owner passed on a wrapper that it has connected. -/
theorem Inv.pass (h : s.Inv) {s' : RemoteConnects} (o o' : WrapperOwner) (hne : o ≠ o')
    (hfree : s.owned o' = none) (ho : s'.owned o = none) (ho' : s'.owned o' = s.owned o)
    (hc : s.hasConnected o = true) (hc' : s'.hasConnected o' = true)
    (hother : ∀ x, x ≠ o → x ≠ o' →
      s'.owned x = s.owned x ∧ s'.hasConnected x = s.hasConnected x)
    (hn : s'.service.newObject = s.service.newObject) (hm : s'.connected = s.connected) :
    s'.Inv := by
  have hfree' : s.ownedConnected o' = none := by rw [ownedConnected, keep, hfree, ite_self]
  have h₁ : s'.owned = Custody.pass s.owned o o' :=
    eq_pass ho ho' fun x hx hx' => (hother x hx hx').1
  have h₂ : s'.ownedConnected = Custody.pass s.ownedConnected o o' := by
    refine eq_pass ?_ ?_ fun x hx hx' => ?_
    · rw [ownedConnected, keep, ho, ite_self]
    · rw [ownedConnected, ownedConnected, keep, keep, ho', if_pos hc, if_pos hc']
    · unfold ownedConnected keep
      rw [(hother x hx hx').1, (hother x hx hx').2]
  refine ⟨h₁ ▸ h.exclusive.pass hne, fun w hw => ?_, fun w => ?_⟩
  · rw [h₁] at hw
    exact hn ▸ h.fresh w ((held_pass hne hfree).mp hw)
  · rw [hm, h₂, h.connected, held_pass hne hfree']

/-! #### The steps of a connect -/

/-- A state that differs in one call differs in what that call owns. -/
theorem owned_of_calls {s' : RemoteConnects} {i : Nat}
    (hm : s'.service.connectAbilityMap = s.service.connectAbilityMap)
    (hd : s'.disconnects = s.disconnects) (hc : ∀ k, k ≠ i → s'.calls[k]? = s.calls[k]?) :
    s'.owned = Function.update s.owned (.call i) (s'.owned (.call i)) ∧
      s'.ownedConnected =
        Function.update s.ownedConnected (.call i) (s'.ownedConnected (.call i)) := by
  have hother : ∀ o, o ≠ .call i →
      s'.owned o = s.owned o ∧ s'.hasConnected o = s.hasConnected o := by
    intro o ho
    cases o with
    | call k =>
        have hk : k ≠ i := fun hk => ho (congrArg _ hk)
        simp only [owned, hasConnected, hc k hk, and_self]
    | entry c => simp only [owned, hasConnected, hm, and_self]
    | disconnect j => simp only [owned, hasConnected, hd, and_self]
  refine ⟨funext fun o => ?_, funext fun o => ?_⟩
  · by_cases ho : o = .call i
    · rw [ho, Function.update_self]
    · rw [Function.update_of_ne ho, (hother o ho).1]
  · by_cases ho : o = .call i
    · rw [ho, Function.update_self]
    · rw [Function.update_of_ne ho]
      unfold ownedConnected keep
      rw [(hother o ho).1, (hother o ho).2]

/-- A call comes or goes that owns as much, and has connected as much, as before. -/
theorem Inv.call_same (h : s.Inv) {s' : RemoteConnects} {i : Nat}
    (hm : s'.service.connectAbilityMap = s.service.connectAbilityMap)
    (hn : s'.service.newObject = s.service.newObject)
    (hd : s'.disconnects = s.disconnects) (hc : ∀ k, k ≠ i → s'.calls[k]? = s.calls[k]?)
    (ho : s'.owned (.call i) = s.owned (.call i))
    (hoc : s'.ownedConnected (.call i) = s.ownedConnected (.call i))
    (hw : ∀ w, w ∈ s'.connected ↔ w ∈ s.connected) : s'.Inv := by
  obtain ⟨h₁, h₂⟩ := owned_of_calls hm hd hc
  rw [ho, Function.update_eq_self] at h₁
  rw [hoc, Function.update_eq_self] at h₂
  exact h.same h₁ h₂ (Nat.le_of_eq hn.symm) hw

/-- A call comes that makes a wrapper. -/
theorem Inv.call_makes (h : s.Inv) {s' : RemoteConnects} {i : Nat}
    (hm : s'.service.connectAbilityMap = s.service.connectAbilityMap)
    (hn : s'.service.newObject = s.service.newObject + 1)
    (hd : s'.disconnects = s.disconnects) (hc : ∀ k, k ≠ i → s'.calls[k]? = s.calls[k]?)
    (hi : s.owned (.call i) = none) (ho : s'.owned (.call i) = some s.service.newObject)
    (hoc : s'.ownedConnected (.call i) = none) (hw : s'.connected = s.connected) : s'.Inv := by
  obtain ⟨h₁, h₂⟩ := owned_of_calls hm hd hc
  have hic : s.ownedConnected (.call i) = none := by rw [ownedConnected, keep, hi, ite_self]
  have hnew : ¬ Held s.owned s.service.newObject := fun hw => Nat.lt_irrefl _ (h.fresh _ hw)
  rw [ho] at h₁
  rw [hoc, ← hic, Function.update_eq_self] at h₂
  refine ⟨h₁ ▸ h.exclusive.acquire hnew, fun w hw => ?_, fun w => by rw [hw, h₂, h.connected]⟩
  rw [h₁] at hw
  rw [hn]
  rcases (held_acquire hi).mp hw with rfl | hw
  · exact Nat.lt_succ_self _
  · exact Nat.lt_succ_of_lt (h.fresh w hw)

/-- A call connects the wrapper that it owns. -/
theorem Inv.call_connects (h : s.Inv) {s' : RemoteConnects} {i : Nat} {w : RemoteObject}
    (hm : s'.service.connectAbilityMap = s.service.connectAbilityMap)
    (hn : s'.service.newObject = s.service.newObject)
    (hd : s'.disconnects = s.disconnects) (hc : ∀ k, k ≠ i → s'.calls[k]? = s.calls[k]?)
    (ho : s'.owned (.call i) = s.owned (.call i)) (hi : s.ownedConnected (.call i) = none)
    (hoc : s'.ownedConnected (.call i) = some w) (hw : s'.connected = w :: s.connected) :
    s'.Inv := by
  obtain ⟨h₁, h₂⟩ := owned_of_calls hm hd hc
  rw [ho, Function.update_eq_self] at h₁
  rw [hoc] at h₂
  refine ⟨h₁ ▸ h.exclusive, fun w hw => hn ▸ h.fresh w (h₁ ▸ hw), fun x => ?_⟩
  rw [hw, List.mem_cons, h.connected, h₂]
  exact (held_acquire hi).symm

/-- A call that has connected nothing gives its wrapper up. -/
theorem Inv.call_fails (h : s.Inv) {s' : RemoteConnects} {i : Nat}
    (hm : s'.service.connectAbilityMap = s.service.connectAbilityMap)
    (hn : s'.service.newObject = s.service.newObject)
    (hd : s'.disconnects = s.disconnects) (hc : ∀ k, k ≠ i → s'.calls[k]? = s.calls[k]?)
    (ho : s'.owned (.call i) = none) (hi : s.ownedConnected (.call i) = none)
    (hoc : s'.ownedConnected (.call i) = none) (hw : s'.connected = s.connected) : s'.Inv := by
  obtain ⟨h₁, h₂⟩ := owned_of_calls hm hd hc
  rw [ho, ← keep_ne] at h₁
  rw [hoc, ← hi, Function.update_eq_self] at h₂
  refine ⟨h₁ ▸ h.exclusive.keep _, fun w hw => ?_, fun w => by rw [hw, h₂, h.connected]⟩
  rw [h₁] at hw
  exact hn ▸ h.fresh w (h.exclusive.held_keep.mp hw).1

theorem Inv.lookup_inv (h : s.Inv) {i : Nat} (hi : s.calls[i]? = none) (want : Want)
    (connect : RemoteObject) (callerInfo : CallerInfo) :
    Inv { s with
      service := (s.service.lookupConnect connect).2.2
      calls := s.calls.insert i ⟨want, connect, callerInfo, (s.service.lookupConnect connect).1,
        (s.service.lookupConnect connect).2.1, false⟩ } := by
  unfold lookupConnect
  cases hk : s.service.connectAbilityMap[connect]? with
  | some connectInfo =>
      -- the call uses the wrapper of the entry, and owns nothing
      refine h.call_same rfl rfl rfl
        (fun k hk => ExtTreeMap.getElem?_insert_of_ne (Ne.symm hk)) ?_ ?_
        fun w => Iff.rfl
      · simp [owned, hi]
      · simp [ownedConnected, keep, owned, hi]
  | none =>
      refine h.call_makes rfl rfl rfl
        (fun k hk => ExtTreeMap.getElem?_insert_of_ne (Ne.symm hk)) ?_ ?_ ?_ rfl
      · simp [owned, hi]
      · simp [owned]
      · simp [ownedConnected, keep, hasConnected]

/-- The wrapper of a call that has not connected it is connected, when the call made it, or
when an owner of it is there that has. -/
theorem Inv.amsConnect_inv (h : s.Inv) {i : Nat} {call : RemoteConnect}
    (hi : s.calls[i]? = some call)
    (hc : call.connected = false)
    (ht : call.found = true →
      (s.service.connectAbilityMap[call.connect]?.map (·.callbackWrapper)) =
          some call.callbackWrapper ∨
        ∃ j : Nat, s.disconnects[j]? = some call.callbackWrapper) :
    Inv { s with
      calls := s.calls.insert i { call with connected := true }
      connected := call.callbackWrapper :: s.connected } := by
  have hnot : s.ownedConnected (.call i) = none := by
    simp [ownedConnected, keep, hasConnected, hi, hc]
  cases hf : call.found with
  | false =>
      refine h.call_connects rfl rfl rfl
        (fun k hk => ExtTreeMap.getElem?_insert_of_ne (Ne.symm hk)) ?_ hnot ?_ rfl
      · simp [owned, hi, hf]
      · simp [ownedConnected, keep, hasConnected, owned]
  | true =>
      have hheld : call.callbackWrapper ∈ s.connected := by
        rw [h.connected]
        rcases ht hf with hm | ⟨j, hj⟩
        · exact ⟨.entry call.connect, keep_eq_some.mpr ⟨rfl, hm⟩⟩
        · exact ⟨.disconnect j, keep_eq_some.mpr ⟨rfl, hj⟩⟩
      refine h.call_same rfl rfl rfl
        (fun k hk => ExtTreeMap.getElem?_insert_of_ne (Ne.symm hk)) ?_ ?_ fun w => ?_
      · simp [owned, hi, hf]
      · simp [ownedConnected, keep, owned, hi, hf]
      · rw [List.mem_cons]
        exact ⟨fun hw => hw.elim (fun he => he ▸ hheld) id, .inr⟩

theorem Inv.amsConnect_fails_inv (h : s.Inv) {i : Nat} {call : RemoteConnect}
    (hi : s.calls[i]? = some call) (hc : call.connected = false) :
    Inv { s with calls := s.calls.erase i } := by
  refine h.call_fails rfl rfl rfl
    (fun k hk => ExtTreeMap.getElem?_erase_of_ne (Ne.symm hk)) ?_ ?_ ?_ rfl
  · simp [owned]
  · simp [ownedConnected, keep, hasConnected, hi, hc]
  · simp [ownedConnected, keep, hasConnected]

/-- A call that made its wrapper passes it on to a new entry. -/
theorem Inv.record_inv (h : s.Inv) {i : Nat} {call : RemoteConnect} (hi : s.calls[i]? = some call)
    (hc : call.connected = true) (env : Env)
    (ht : call.found = false → s.service.connectAbilityMap[call.connect]? = none) :
    Inv { s with
      service := (s.service.recordConnect env call.connect call.found
        ⟨call.callerInfo, call.callbackWrapper, call.want.element⟩).1
      calls := s.calls.erase i } := by
  cases hf : call.found with
  | true =>
      refine h.call_same rfl rfl rfl
        (fun k hk => ExtTreeMap.getElem?_erase_of_ne (Ne.symm hk)) ?_ ?_ fun w => Iff.rfl
      · simp [owned, hi, hf]
      · simp [ownedConnected, keep, owned, hi, hf]
  | false =>
      have hk := ht hf
      have hins : ∀ v, (s.service.connectAbilityMap.insertIfNew call.connect v)[call.connect]? =
          some v := fun v => by
        rw [ExtTreeMap.insertIfNew_eq_insert hk, ExtTreeMap.getElem?_insert_self]
      refine h.pass (.call i) (.entry call.connect) (fun he => by cases he) ?_ ?_ ?_ ?_ rfl
        (fun x hx hx' => ?_) rfl rfl
      · simp [owned, hk]
      · simp [owned]
      · simp only [owned, recordConnect, hf, Bool.false_eq_true, if_false, hins, hi,
          Option.map_some, Option.bind_some]
      · simp [hasConnected, hi, hc]
      · cases x with
        | call k =>
            have hki : k ≠ i := fun hki => hx (congrArg _ hki)
            simp only [owned, hasConnected, ExtTreeMap.getElem?_erase_of_ne (Ne.symm hki), and_self]
        | entry c =>
            have hne : call.connect ≠ c := fun he => hx' (congrArg _ he.symm)
            refine ⟨?_, rfl⟩
            simp [owned, recordConnect, ExtTreeMap.getElem?_insertIfNew_of_ne hne]
        | disconnect j => exact ⟨rfl, rfl⟩

/-! #### The steps of a disconnect -/

/-- An entry passes its wrapper on to the disconnect that erases it. -/
theorem Inv.erase_inv (h : s.Inv) {j : Nat} (hj : s.disconnects[j]? = none) {connect : RemoteObject}
    {connectInfo : ConnectInfo} (hk : s.service.connectAbilityMap[connect]? = some connectInfo) :
    Inv { s with
      service := { s.service with
        connectAbilityMap := s.service.connectAbilityMap.erase connect }
      disconnects := s.disconnects.insert j connectInfo.callbackWrapper } := by
  refine h.pass (.entry connect) (.disconnect j) nofun hj ?_ ?_ rfl rfl
    (fun x hx hx' => ?_) rfl rfl
  · simp [owned]
  · simp [owned, hk]
  · cases x with
    | call k => exact ⟨rfl, rfl⟩
    | entry c =>
        have hne : connect ≠ c := fun he => hx (congrArg _ he.symm)
        refine ⟨?_, rfl⟩
        simp only [owned, ExtTreeMap.getElem?_erase_of_ne hne]
    | disconnect k =>
        have hkj : k ≠ j := fun hkj => hx' (congrArg _ hkj)
        exact ⟨ExtTreeMap.getElem?_insert_of_ne (Ne.symm hkj), rfl⟩

/-- A disconnect gives its wrapper up. -/
theorem Inv.amsDisconnect_inv (h : s.Inv) {j : Nat} {callbackWrapper : RemoteObject}
    (hj : s.disconnects[j]? = some callbackWrapper) {env : Env} (hr : env.amsConnect = errOk) :
    Inv { s with
      disconnects := s.disconnects.erase j
      connected := (DistributedSchedAdapter.disconnectAbility env callbackWrapper).2.foldl
        amsDeliver s.connected } := by
  have hown : ∀ (c : List RemoteObject) (o : WrapperOwner), o ≠ .disconnect j →
      owned { s with disconnects := s.disconnects.erase j, connected := c } o = s.owned o := by
    intro c o ho
    cases o with
    | call k => rfl
    | entry connect => rfl
    | disconnect k => exact ExtTreeMap.getElem?_erase_of_ne fun hjk => ho (congrArg _ hjk.symm)
  refine h.giveUp (fun o => o ≠ .disconnect j) (funext fun o => ?_) (funext fun o => ?_) rfl
    fun w => ?_
  · by_cases ho : o = .disconnect j
    · subst ho; simp [owned, keep]
    · simpa [keep, ho] using hown _ o ho
  · by_cases ho : o = .disconnect j
    · subst ho; simp [ownedConnected, owned, keep]
    · simp only [ownedConnected, keep, ho, ne_eq, not_false_eq_true, decide_true, if_true]
      exact congrArg (fun x => if s.hasConnected o = true then x else none) (hown _ o ho)
  · rw [mem_foldl_amsDeliver fun e he want connect userId => ?_, disconnectAbility_mem hr]
    · have hoc : s.ownedConnected (.disconnect j) = some callbackWrapper := hj
      refine and_congr_right fun _ => ⟨fun hne o ho he => ?_, fun hall he => ?_⟩
      · rw [Decidable.not_not.mp (of_decide_eq_false ho), hoc] at he
        exact hne (Option.some.inj he).symm
      · exact hall _ (decide_eq_false (not_not_intro rfl)) (he ▸ hoc)
    · rw [DistributedSchedAdapter.disconnectAbility, if_neg (not_not_intro hr)] at he
      obtain rfl := List.mem_singleton.mp he
      simp

/-- The entries that a walk takes out give their wrappers up. -/
theorem Inv.disconnectEntries_inv (h : s.Inv) {env : Env} {gone : ConnectInfo → Bool}
    (hr : WrapperStep.Reaches s env gone) : (s.disconnectEntries env gone).Inv := by
  have hmap : ∀ connect, (s.disconnectEntries env gone).service.connectAbilityMap[connect]? =
      s.service.connectAbilityMap[connect]?.filter fun connectInfo => !gone connectInfo :=
    disconnectEntries_getElem? env s.service gone
  let stays : WrapperOwner → Bool
    | .entry connect => !s.service.connectAbilityMap[connect]?.any gone
    | _ => true
  have hown : (s.disconnectEntries env gone).owned = keep stays s.owned := by
    funext o
    cases o with
    | call k => rfl
    | disconnect j => rfl
    | entry connect =>
        simp only [owned, hmap, keep, stays]
        obtain hk | ⟨connectInfo, hk⟩ := (s.service.connectAbilityMap[connect]?).eq_none_or_eq_some
        · simp [hk]
        · cases hg : gone connectInfo <;> simp [hk, Option.filter, hg]
  refine h.giveUp stays hown ?_ rfl fun w => ?_
  · funext o
    have hc : (s.disconnectEntries env gone).hasConnected o = s.hasConnected o := by
      cases o <;> rfl
    simp only [ownedConnected, hown, keep, hc]
    split <;> split <;> rfl
  · rw [mem_connected_disconnectEntries hr]
    refine and_congr_right fun _ => ⟨fun hw o ho => ?_, fun hw connect connectInfo hk hg => ?_⟩
    · cases o with
      | call k => cases ho
      | disconnect j => cases ho
      | entry connect =>
          simp only [stays, Bool.not_eq_false', Option.any_eq_true] at ho
          obtain ⟨connectInfo, hk, hg⟩ := ho
          simpa [ownedConnected, keep, hasConnected, owned, hk] using hw connect connectInfo hk hg
    · have := hw (.entry connect) (by simp [stays, hk, hg])
      simpa [ownedConnected, keep, hasConnected, owned, hk] using this

theorem Inv.apply_inv {s' : RemoteConnects} {step : WrapperStep} (h : s.Inv) (ht : step.Tracked s)
    (hs : step.apply s = some s') : s'.Inv := by
  cases step with
  | lookup i env want connect callerInfo accountInfo =>
      simp only [WrapperStep.apply] at hs
      split at hs
      · cases hs
      rename_i hne
      have hi : s.calls[i]? = none := ExtTreeMap.not_contains_iff.mp (not_or.mp hne).1
      split at hs
      · cases hs; exact h
      · cases hs; exact h.lookup_inv hi want _ callerInfo
  | amsConnect i env =>
      simp only [WrapperStep.apply] at hs
      split at hs
      · cases hs
      rename_i call hi
      split at hs
      · cases hs
      rename_i hc
      split at hs
      · cases hs
        exact h.amsConnect_fails_inv hi (Bool.eq_false_iff.mpr hc)
      · rename_i ha
        have ha := Decidable.not_not.mp ha
        obtain ⟨userId, he⟩ := connectAbility_effects ha
        rw [he] at hs
        cases hs
        exact h.amsConnect_inv hi (Bool.eq_false_iff.mpr hc) fun hf => ht call hi hf ha
  | record i env =>
      simp only [WrapperStep.apply] at hs
      split at hs
      · cases hs
      rename_i call hi
      split at hs
      · rename_i hc
        cases hs
        exact h.record_inv hi hc env (ht call hi)
      · cases hs
  | erase j env connect uid sourceDeviceId =>
      simp only [WrapperStep.apply] at hs
      split at hs
      · cases hs
      rename_i hne
      obtain ⟨hj, hlocal⟩ := not_or.mp hne
      have hj : s.disconnects[j]? = none := ExtTreeMap.not_contains_iff.mp hj
      split at hs
      case h_2 => cases hs; exact h
      rename_i c _ _
      unfold eraseConnect at hs
      cases hk : s.service.connectAbilityMap[c]? with
      | some connectInfo =>
          rw [hk] at hs
          cases hs
          exact h.erase_inv hj hk
      | none =>
          rw [hk, if_neg hlocal] at hs
          cases hs
          exact h
  | amsDisconnect j env =>
      simp only [WrapperStep.apply] at hs
      split at hs
      · cases hs
      · rename_i callbackWrapper hj
        cases hs
        exact h.amsDisconnect_inv hj ht
  | notifyProcessDied env callerInfo =>
      cases hs
      exact h.disconnectEntries_inv ht
  | deviceOffline env deviceId =>
      simp only [WrapperStep.apply] at hs
      split at hs
      · cases hs; exact h
      · cases hs; exact h.disconnectEntries_inv ht

end RemoteConnects

/-- **Every connected wrapper is recorded.**  In a run whose steps keep track of the wrappers,
whenever no call is in progress, the objects that stay connected are the wrappers of the table,
and each is there for one connect. -/
theorem wrappers_recorded {service : DistributedSchedService} {s : RemoteConnects}
    (h₀ : service.connectAbilityMap = ∅)
    (h : Runs.Reach WrapperStep.apply WrapperStep.Tracked { service := service } s)
    (hcalls : s.calls = ∅) (hdisconnects : s.disconnects = ∅) :
    (∀ w, w ∈ s.connected ↔ ∃ (connect : RemoteObject) (connectInfo : ConnectInfo),
      s.service.connectAbilityMap[connect]? = some connectInfo ∧
        connectInfo.callbackWrapper = w) ∧
    ∀ (connect connect' : RemoteObject) (connectInfo connectInfo' : ConnectInfo),
      s.service.connectAbilityMap[connect]? = some connectInfo →
      s.service.connectAbilityMap[connect']? = some connectInfo' →
      connectInfo.callbackWrapper = connectInfo'.callbackWrapper → connect = connect' := by
  -- at the start no one owns a wrapper
  have hempty : ∀ o, RemoteConnects.owned { service := service } o = none := by
    intro o
    cases o <;> simp [RemoteConnects.owned, h₀]
  have hinv : s.Inv := by
    refine h.invariant ⟨fun o o' a ho => ?_, fun w hw => ?_, fun w => ?_⟩
      fun s step s' hi ht hs => hi.apply_inv ht hs
    · rw [hempty] at ho; cases ho
    · obtain ⟨o, ho⟩ := hw
      rw [hempty] at ho
      cases ho
    · refine iff_of_false List.not_mem_nil fun ⟨o, ho⟩ => ?_
      obtain ⟨-, ho⟩ := keep_eq_some.mp ho
      rw [hempty] at ho
      cases ho
  refine ⟨fun w => ?_, fun c c' info info' hc hc' he => ?_⟩
  · rw [hinv.connected]
    constructor
    · rintro ⟨o, ho⟩
      obtain ⟨-, ho⟩ := keep_eq_some.mp ho
      cases o with
      | entry connect => exact ⟨connect, Option.map_eq_some_iff.mp ho⟩
      -- no call is in progress: what is connected is an entry's
      | call i => simp [RemoteConnects.owned, hcalls] at ho
      | disconnect j => simp [RemoteConnects.owned, hdisconnects] at ho
    · rintro ⟨connect, connectInfo, hk, rfl⟩
      exact ⟨.entry connect, keep_eq_some.mpr ⟨rfl, Option.map_eq_some_iff.mpr ⟨_, hk, rfl⟩⟩⟩
  · have heq := hinv.exclusive (.entry c) (.entry c') info.callbackWrapper
      (Option.map_eq_some_iff.mpr ⟨_, hc, rfl⟩) (Option.map_eq_some_iff.mpr ⟨_, hc', he.symm⟩)
    cases heq
    rfl

/-! ### One call by itself -/

/-- The steps of one connect, with nothing in between, are `connectAbilityFromRemote`. -/
theorem connectAbilityFromRemote_steps (env : Env) (s : DistributedSchedService) (want : Want)
    (connect : Option RemoteObject) {callerInfo : CallerInfo} (accountInfo : AccountInfo)
    (ht : callerInfo.callerType = callerTypeHarmony) (connected : List RemoteObject) :
    ∃ steps, (Runs.exec WrapperStep.apply ⟨s, ∅, ∅, connected⟩ steps).map (·.service) =
      some (s.connectAbilityFromRemote env want connect callerInfo accountInfo).service := by
  have hcontains : (∅ : Map Nat RemoteConnect).contains 0 = false := by simp
  rw [connectAbilityFromRemote_eq]
  cases hp : connectFromRemotePermitted env want connect callerInfo accountInfo with
  | error code =>
      refine ⟨[.lookup 0 env want connect callerInfo accountInfo], ?_⟩
      simp only [Runs.exec, WrapperStep.apply, hcontains, ht, hp]
      rfl
  | ok c =>
      by_cases ha : (DistributedSchedAdapter.connectAbility env want
          (s.lookupConnect c).1).1 = errOk
      · refine ⟨[.lookup 0 env want connect callerInfo accountInfo, .amsConnect 0 env,
          .record 0 env], ?_⟩
        simp only [Runs.exec, WrapperStep.apply, hcontains, ht, hp, ne_eq, not_true_eq_false,
          Bool.false_eq_true, or_self, if_false, Option.bind_some,
          ExtTreeMap.getElem?_insert_self, ha, if_true, connectChecked]
        rfl
      · refine ⟨[.lookup 0 env want connect callerInfo accountInfo, .amsConnect 0 env], ?_⟩
        simp only [Runs.exec, WrapperStep.apply, hcontains, ht, hp, ne_eq, not_true_eq_false,
          Bool.false_eq_true, or_self, if_false, Option.bind_some,
          ExtTreeMap.getElem?_insert_self, ha, not_false_eq_true, if_true, connectChecked]
        rfl

/-! ### Two first connects of one object -/

/-- A lookup of an object for the remote caller of uid 20010. -/
def lookupObject (i : Nat) (connect : RemoteObject) : WrapperStep :=
  .lookup i calleeEnv { element := { deviceId := "B", bundleName := "app" } } (some connect)
    { uid := 20010, pid := 77, callerType := callerTypeHarmony, sourceDeviceId := "A" }
    { accountType := sameAccountType }

/-- Two objects are connected side by side, and object 7 is disconnected after that. -/
def connectTwo : List WrapperStep :=
  [lookupObject 0 7, lookupObject 1 8, .amsConnect 1 calleeEnv, .amsConnect 0 calleeEnv,
    .record 0 calleeEnv, .record 1 calleeEnv, .erase 0 calleeEnv (some 7) 20010 "A",
    .amsDisconnect 0 calleeEnv]

/-- The wrapper of object 8 stays connected, and is the one that is recorded. -/
theorem wrappers_recorded_once : ∃ s, Runs.exec WrapperStep.apply {} connectTwo = some s ∧
    s.connected = [1] ∧ s.service.connectAbilityMap.toList.map Prod.fst = [8] ∧
    ∃ (connect : RemoteObject) (connectInfo : ConnectInfo),
      s.service.connectAbilityMap[connect]? = some connectInfo ∧
        connectInfo.callbackWrapper = 1 := by
  refine ⟨_, rfl, by decide, rfl, ?_⟩
  refine ((@wrappers_recorded {} _ rfl (.next (.next (.next (.next (.next (.next (.next (.next .init
    (l := lookupObject 0 7) trivial rfl) (l := lookupObject 1 8) trivial rfl)
    (l := .amsConnect 1 calleeEnv) (fun call hc hf => ?_) rfl)
    (l := .amsConnect 0 calleeEnv) (fun call hc hf => ?_) rfl)
    (l := .record 0 calleeEnv) (fun call hc _ => ?_) rfl)
    (l := .record 1 calleeEnv) (fun call hc _ => ?_) rfl)
    (l := .erase 0 calleeEnv (some 7) 20010 "A") trivial rfl)
    (l := .amsDisconnect 0 calleeEnv) rfl rfl) rfl rfl).1 1).mp (by decide)
  -- both wrappers are new, and neither object has an entry before its record
  · obtain rfl := Option.some.inj hc
    cases hf
  · obtain rfl := Option.some.inj hc
    cases hf
  · obtain rfl := Option.some.inj hc
    rfl
  · obtain rfl := Option.some.inj hc
    rfl

/-- **Two first connects of one object run side by side**: each makes a wrapper and connects
it, and the second record takes no effect.  When both calls are over, the wrapper of the second
is connected, and no entry records it. -/
theorem wrapper_forgotten : ∃ s,
    Runs.exec WrapperStep.apply {} [lookupObject 0 7, lookupObject 1 7, .amsConnect 0 calleeEnv,
        .record 0 calleeEnv, .amsConnect 1 calleeEnv, .record 1 calleeEnv] = some s ∧
      s.calls = ∅ ∧ s.disconnects = ∅ ∧ 1 ∈ s.connected ∧
      s.service.connectAbilityMap.toList.map (fun e => e.2.callbackWrapper) = [0] := by
  refine ⟨_, rfl, rfl, rfl, ?_, rfl⟩
  decide

end DistributedSched

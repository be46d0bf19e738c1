import DistributedSched.Library.Notices
import DistributedSched.Library.Runs
import DistributedSched.Mission.Manager

/-!
# Mission — the services of other devices

`remoteDmsMap_` holds the service of each device that was asked.  `GetRemoteDms` looks there
first; otherwise it asks for the service, adds `remoteDmsRecipient_` to it, and puts it into the
map, each a step of its own, so that calls interleave with one another, with devices that go
offline and with services that die.  A recipient that was added fires once; its notice posts the
task of `OnRemoteDmsDied`, which takes the service out of the map.

The service that `CheckSystemAbility` gives is a proxy, so `iface_cast` makes an object of it, and
`missionHandler_` takes every task.

* `Inv`: what the steps keep.
* `remote_dms_watched`: a live service has one recipient for each device that it is stored for and
  for each call that is about to store it; a dead one is stored no more often than tasks are left
  to take it out, but for what was stored after it died; and a call returns only what was found
  for its own device.
* `dead_service_kept`: a service that dies between the two blocks of a call stays in the map.
-/

namespace DistributedSched

open Std (ExtTreeMap)
open Runs (Reach Reachable)

/-- A call of `GetRemoteDms` between its two `remoteDmsLock_` blocks. -/
inductive RemoteDmsCall where
  /-- the device is not in the map -/
  | looked (deviceId : String)
  /-- `CheckSystemAbility` has given the service -/
  | checked (deviceId : String) (object : RemoteObject)
  /-- `AddDeathRecipient` has been called, whatever it answered -/
  | added (deviceId : String) (object : RemoteObject)
deriving DecidableEq

namespace RemoteDmsCall

/-- The call holds the service with a recipient. -/
def holds (o : RemoteObject) : RemoteDmsCall → Bool
  | added _ object => object = o
  | _ => false

/-- The device with the service that the call has for it. -/
def service : RemoteDmsCall → Option (String × RemoteObject)
  | looked _ => none
  | checked deviceId object | added deviceId object => some (deviceId, object)

variable {deviceId : String} {object o : RemoteObject}

@[simp] theorem holds_looked : (looked deviceId).holds o = false := rfl

@[simp] theorem holds_checked : (checked deviceId object).holds o = false := rfl

@[simp] theorem holds_added : (added deviceId object).holds o = decide (object = o) := rfl

end RemoteDmsCall

structure RemoteDmsWorld where
  manager : DistributedSchedMissionManager := {}
  remoteDmsMap : Map String RemoteObject := ∅
  /-- the services with `remoteDmsRecipient_`, and the tasks that are posted -/
  objects : Watched RemoteObject := {}
  calls : List RemoteDmsCall := []
  effects : List MissionEffect := []
  /-- what `CheckSystemAbility` has given for each device -/
  found : List (String × RemoteObject) := []
  /-- what the calls have returned -/
  returned : List (String × RemoteObject) := []
  /-- what was put into the map after it had died -/
  late : List RemoteObject := []

namespace RemoteDmsWorld

variable (w : RemoteDmsWorld)

/-- The first block of `GetRemoteDms`. -/
def lookup (deviceId : String) : RemoteDmsWorld :=
  if deviceId = "" then w
  else match w.remoteDmsMap[deviceId]? with
    | some object => { w with returned := (deviceId, object) :: w.returned }
    | none => { w with calls := .looked deviceId :: w.calls }

/-- `CheckSystemAbility(DISTRIBUTED_SCHED_SA_ID, deviceId)`; the call ends when it gives none. -/
def check (deviceId : String) : Option RemoteObject → RemoteDmsWorld
  | none => { w with calls := w.calls.erase (.looked deviceId) }
  | some object =>
    { w with
      calls := .checked deviceId object :: w.calls.erase (.looked deviceId)
      found := (deviceId, object) :: w.found }

/-- `object->AddDeathRecipient(remoteDmsRecipient_)`. -/
def addDeathRecipient (deviceId : String) (object : RemoteObject) : RemoteDmsWorld :=
  { w with
    calls := .added deviceId object :: w.calls.erase (.checked deviceId object)
    objects := w.objects.add object }

/-- The second block. -/
def store (deviceId : String) (object : RemoteObject) : RemoteDmsWorld :=
  { w with
    calls := w.calls.erase (.added deviceId object)
    objects :=
      match w.remoteDmsMap[deviceId]? with
      | some old => w.objects.remove old
      | none => w.objects
    remoteDmsMap := w.remoteDmsMap.insert deviceId object
    returned := (deviceId, object) :: w.returned
    late := if object ∈ w.objects.dead then object :: w.late else w.late }

/-- The block of `DeviceOfflineNotify`. -/
def offline (deviceId : String) : RemoteDmsWorld :=
  if deviceId = "" then w
  else match w.remoteDmsMap[deviceId]? with
    | none => w
    | some object =>
      { w with
        objects := w.objects.remove object
        remoteDmsMap := w.remoteDmsMap.erase deviceId }

/-- The device that the loop of `OnRemoteDmsDied` finds. -/
def deviceOf (remote : RemoteObject) : Option String :=
  (w.remoteDmsMap.toList.find? fun e => e.2 = remote).map Prod.fst

/-- The task of `OnRemoteDmsDied`. -/
def onRemoteDmsDied (env : MissionEnv) (remote : RemoteObject) : RemoteDmsWorld :=
  let objects := w.objects.take remote
  match w.deviceOf remote with
  | none => { w with objects := objects }
  | some devId =>
    { w with
      objects := objects.remove remote
      remoteDmsMap := w.remoteDmsMap.erase devId
      effects := w.effects ++
        if devId ≠ "" && w.manager.hasSyncListener devId && env.localDeviceId.isSome then
          DistributedSchedMissionManager.retryStartSync devId 0
        else [] }

end RemoteDmsWorld

inductive RemoteDmsStep where
  | lookup (deviceId : String)
  | check (deviceId : String) (object : Option RemoteObject)
  | addDeathRecipient (deviceId : String) (object : RemoteObject)
  | store (deviceId : String) (object : RemoteObject)
  | offline (deviceId : String)
  /-- the service's device or process is gone -/
  | die (object : RemoteObject)
  | onRemoteDmsDied (env : MissionEnv) (remote : RemoteObject)
  /-- whatever else the manager does -/
  | manage (manager : DistributedSchedMissionManager)

def RemoteDmsStep.apply (w : RemoteDmsWorld) : RemoteDmsStep → Option RemoteDmsWorld
  | lookup deviceId => some (w.lookup deviceId)
  | check deviceId object =>
    if .looked deviceId ∈ w.calls then some (w.check deviceId object) else none
  | addDeathRecipient deviceId object =>
    if .checked deviceId object ∈ w.calls then some (w.addDeathRecipient deviceId object)
    else none
  | store deviceId object =>
    if .added deviceId object ∈ w.calls then some (w.store deviceId object) else none
  | offline deviceId => some (w.offline deviceId)
  | die object =>
    if object ∈ w.objects.dead then none else some { w with objects := w.objects.die object }
  | onRemoteDmsDied env remote =>
    if remote ∈ w.objects.notices then some (w.onRemoteDmsDied env remote) else none
  | manage manager => some { w with manager := manager }

namespace RemoteDmsWorld

/-! ### The invariant -/

/-- How many devices the service is stored for. -/
def entries (w : RemoteDmsWorld) (o : RemoteObject) : Nat :=
  ExtTreeMap.count (fun _ object => object = o) w.remoteDmsMap

/-- How many calls are about to store it. -/
def holding (w : RemoteDmsWorld) (o : RemoteObject) : Nat := w.calls.countP (·.holds o)

structure Inv (w : RemoteDmsWorld) : Prop where
  watches : w.objects.Watches fun o => w.entries o + w.holding o
  covers : w.objects.Covers fun o => w.entries o - w.late.count o
  stored : ∀ (deviceId : String) (object : RemoteObject),
    w.remoteDmsMap[deviceId]? = some object → (deviceId, object) ∈ w.found
  called : ∀ call ∈ w.calls, ∀ e, call.service = some e → e ∈ w.found
  returned : ∀ e ∈ w.returned, e ∈ w.found

variable {w : RemoteDmsWorld} {deviceId : String} {object : RemoteObject}

theorem entries_erase (h : w.remoteDmsMap[deviceId]? = some object) (o : RemoteObject) :
    w.entries o = ExtTreeMap.count (fun _ x => x = o) (w.remoteDmsMap.erase deviceId) +
      if object = o then 1 else 0 := by
  rw [entries, ExtTreeMap.count_erase h]
  simp only [decide_eq_true_eq]

theorem count_stored (o : RemoteObject) :
    ExtTreeMap.count (fun _ x => x = o) (w.remoteDmsMap.insert deviceId object) =
      ExtTreeMap.count (fun _ x => x = o) (w.remoteDmsMap.erase deviceId) +
        if object = o then 1 else 0 := by
  rw [ExtTreeMap.count_insert_eq]
  simp only [decide_eq_true_eq]

/-- A call that ends gives up what it held. -/
theorem holding_erase {call : RemoteDmsCall} (h : call ∈ w.calls) (o : RemoteObject) :
    w.holding o = (w.calls.erase call).countP (·.holds o) + if call.holds o then 1 else 0 := by
  rw [holding, (List.perm_cons_erase h).countP_eq, List.countP_cons]

theorem deviceOf_eq_some {remote : RemoteObject} (h : w.deviceOf remote = some deviceId) :
    w.remoteDmsMap[deviceId]? = some remote := by
  obtain ⟨⟨devId, object⟩, hfind, rfl⟩ := Option.map_eq_some_iff.mp h
  obtain rfl : object = remote := by simpa using List.find?_some hfind
  exact ExtTreeMap.mem_toList_iff_getElem?_eq_some.mp (List.mem_of_find?_eq_some hfind)

/-- The loop finds none when the service is stored for no device. -/
theorem entries_of_deviceOf_eq_none {remote : RemoteObject} (h : w.deviceOf remote = none) :
    w.entries remote = 0 := by
  have hfind := List.find?_eq_none.mp (Option.map_eq_none_iff.mp h)
  refine ExtTreeMap.count_eq_zero.mpr fun k v hk => decide_eq_false fun hv => ?_
  exact hfind (k, v) (ExtTreeMap.mem_toList_iff_getElem?_eq_some.mpr hk) (decide_eq_true hv)

namespace Inv

theorem init : Inv {} where
  watches := Watched.Watches.empty.congr fun o => by
    rw [entries, ExtTreeMap.count_empty]
    rfl
  covers := Watched.Covers.empty
  stored deviceId object h := by simp at h
  called call h := absurd h List.not_mem_nil
  returned e h := absurd h List.not_mem_nil

theorem lookup (h : Inv w) (deviceId : String) : Inv (w.lookup deviceId) := by
  unfold RemoteDmsWorld.lookup
  split
  · exact h
  split
  · rename_i object hk
    refine { h with returned := fun e he => ?_ }
    rcases List.mem_cons.mp he with rfl | he
    · exact h.stored deviceId object hk
    · exact h.returned e he
  · refine { h with watches := h.watches.congr fun o => ?_, called := fun call hc e he => ?_ }
    · rw [holding, holding, List.countP_cons, RemoteDmsCall.holds_looked]
      rfl
    · rcases List.mem_cons.mp hc with rfl | hc
      · cases he
      · exact h.called call hc e he

theorem check (h : Inv w) (hcall : .looked deviceId ∈ w.calls) (object : Option RemoteObject) :
    Inv (w.check deviceId object) := by
  have hholding := fun o => holding_erase hcall o
  have hcalled : ∀ call ∈ w.calls.erase (.looked deviceId), ∀ e, call.service = some e →
      e ∈ w.found := fun call hc => h.called call (List.mem_of_mem_erase hc)
  cases object with
  | none =>
      exact { h with watches := h.watches.congr fun o => congrArg (_ + ·) (hholding o),
                     called := hcalled }
  | some object =>
      refine ⟨h.watches.congr fun o => ?_, h.covers, fun d o hk => ?_, fun call hc e he => ?_,
        fun e he => ?_⟩
      · refine congrArg (_ + ·) ((hholding o).trans ?_)
        rw [holding, RemoteDmsWorld.check, List.countP_cons]
        rfl
      · exact List.mem_cons_of_mem _ (h.stored d o hk)
      · rcases List.mem_cons.mp hc with rfl | hc
        · cases he
          exact List.mem_cons_self
        · exact List.mem_cons_of_mem _ (hcalled call hc e he)
      · exact List.mem_cons_of_mem _ (h.returned e he)

theorem addDeathRecipient (h : Inv w) (hcall : .checked deviceId object ∈ w.calls) :
    Inv (w.addDeathRecipient deviceId object) := by
  refine { h with watches := h.watches.add fun o => ?_, covers := h.covers.add,
                  called := fun call hc e he => ?_ }
  · have hholding := holding_erase hcall o
    rw [RemoteDmsCall.holds_checked, if_neg Bool.false_ne_true, Nat.add_zero] at hholding
    show w.entries o + List.countP (·.holds o) (.added deviceId object :: w.calls.erase _) = _
    rw [hholding, List.countP_cons, RemoteDmsCall.holds_added]
    simp only [decide_eq_true_eq, Nat.add_assoc]
  · rcases List.mem_cons.mp hc with rfl | hc
    · exact h.called _ hcall e he
    · exact h.called call (List.mem_of_mem_erase hc) e he

/-- Storing a service puts the recipient of the call in the place of the one that the entry had. -/
theorem store (h : Inv w) (hcall : .added deviceId object ∈ w.calls) :
    Inv (w.store deviceId object) := by
  have hholding : ∀ o, w.holding o = (w.calls.erase (.added deviceId object)).countP (·.holds o) +
      if object = o then 1 else 0 := by
    intro o
    rw [holding_erase hcall, RemoteDmsCall.holds_added]
    simp only [decide_eq_true_eq]
  have hlate : ∀ o ∈ w.objects.dead, (w.store deviceId object).late.count o =
      w.late.count o + if object = o then 1 else 0 := by
    intro o ho
    by_cases hd : object ∈ w.objects.dead
    · simp only [RemoteDmsWorld.store, if_pos hd, List.count_cons, beq_iff_eq]
    · have hne : object ≠ o := fun he => hd (he ▸ ho)
      simp only [RemoteDmsWorld.store, if_neg hd, if_neg hne, Nat.add_zero]
  have hstored : ∀ (d : String) (o : RemoteObject),
      (w.remoteDmsMap.insert deviceId object)[d]? = some o → (d, o) ∈ w.found := by
    intro d o hk
    rw [ExtTreeMap.getElem?_insert] at hk
    split at hk
    · rename_i hd
      obtain rfl : deviceId = d := Std.LawfulEqCmp.eq_of_compare hd
      obtain rfl := Option.some.inj hk
      exact h.called _ hcall _ rfl
    · exact h.stored d o hk
  have hcalled : ∀ call ∈ w.calls.erase (.added deviceId object), ∀ e, call.service = some e →
      e ∈ w.found := fun call hc => h.called call (List.mem_of_mem_erase hc)
  have hreturned : ∀ e ∈ (deviceId, object) :: w.returned, e ∈ w.found := by
    intro e he
    rcases List.mem_cons.mp he with rfl | he
    · exact h.called _ hcall _ rfl
    · exact h.returned e he
  cases hk : w.remoteDmsMap[deviceId]? with
  | none =>
      have hentries : ∀ o, (w.store deviceId object).entries o =
          w.entries o + if object = o then 1 else 0 := by
        intro o
        rw [entries, RemoteDmsWorld.store, count_stored, ExtTreeMap.erase_eq_self hk]
        rfl
      have hobjects : (w.store deviceId object).objects = w.objects := by
        rw [RemoteDmsWorld.store, hk]
      refine ⟨?_, ?_, hstored, hcalled, hreturned⟩
      · rw [hobjects]
        refine h.watches.congr fun o => ?_
        rw [hentries, hholding, Nat.add_assoc, Nat.add_comm (List.countP _ _)]
        rfl
      · rw [hobjects]
        refine h.covers.mono fun o ho => ?_
        rw [hentries, hlate o ho]
        omega
  | some old =>
      have hentries : ∀ o, (w.store deviceId object).entries o + (if old = o then 1 else 0) =
          w.entries o + if object = o then 1 else 0 := by
        intro o
        rw [entries, RemoteDmsWorld.store, count_stored, entries_erase hk]
        omega
      have hobjects : (w.store deviceId object).objects = w.objects.remove old := by
        rw [RemoteDmsWorld.store, hk]
      refine ⟨?_, ?_, hstored, hcalled, hreturned⟩
      · rw [hobjects]
        refine h.watches.remove fun o => ?_
        have hstore : (w.store deviceId object).holding o =
          (w.calls.erase (.added deviceId object)).countP (·.holds o) := rfl
        have hentries := hentries o
        rw [hholding, hstore]
        omega
      · rw [hobjects]
        refine h.covers.remove.mono fun o ho => ?_
        have hentries := hentries o
        rw [hlate o ho]
        omega

/-- An entry goes, and its recipient with it. -/
theorem erase (h : Inv w) (hk : w.remoteDmsMap[deviceId]? = some object) :
    w.objects.remove object |>.Watches fun o =>
      ExtTreeMap.count (fun _ x => x = o) (w.remoteDmsMap.erase deviceId) + w.holding o := by
  refine h.watches.remove fun o => ?_
  rw [entries_erase hk]
  omega

theorem stored_erase (h : Inv w) (d : String) (o : RemoteObject)
    (hk : (w.remoteDmsMap.erase deviceId)[d]? = some o) : (d, o) ∈ w.found := by
  rw [ExtTreeMap.getElem?_erase] at hk
  split at hk
  · cases hk
  · exact h.stored d o hk

theorem offline (h : Inv w) (deviceId : String) : Inv (w.offline deviceId) := by
  unfold RemoteDmsWorld.offline
  split
  · exact h
  split
  · exact h
  · rename_i object hk
    refine ⟨h.erase hk, h.covers.remove.mono fun o _ => ?_, h.stored_erase, h.called, h.returned⟩
    refine Nat.sub_le_sub_right ?_ _
    rw [entries_erase hk]
    exact Nat.le_add_right ..

/-- Every recipient becomes a task, and there is one for every device that the service is stored
for. -/
theorem die (h : Inv w) (hlive : object ∉ w.objects.dead) :
    Inv { w with objects := w.objects.die object } := by
  refine { h with watches := h.watches.die, covers := h.covers.die ?_ }
  rw [h.watches object, if_neg hlive]
  show w.entries object - w.late.count object ≤ w.entries object + w.holding object
  omega

theorem onRemoteDmsDied (h : Inv w) (env : MissionEnv) (remote : RemoteObject) :
    Inv (w.onRemoteDmsDied env remote) := by
  unfold RemoteDmsWorld.onRemoteDmsDied
  split
  · rename_i hd
    refine { h with watches := h.watches.take, covers := h.covers.take fun o _ => ?_ }
    by_cases ho : remote = o
    · subst ho
      show w.entries remote - _ ≤ _
      rw [entries_of_deviceOf_eq_none hd, Nat.zero_sub]
      exact Nat.zero_le _
    · rw [if_neg ho]
      exact Nat.le_refl _
  · rename_i devId hd
    have hk := deviceOf_eq_some hd
    refine ⟨h.erase hk, (h.covers.take fun o _ => ?_).remove, h.stored_erase, h.called,
      h.returned⟩
    show ExtTreeMap.count (fun _ x => x = o) (w.remoteDmsMap.erase devId) - w.late.count o ≤ _
    rw [entries_erase hk]
    omega

end Inv

/-- **The step lemma.** -/
theorem Inv.step {w w' : RemoteDmsWorld} {step : RemoteDmsStep} (h : Inv w)
    (hs : step.apply w = some w') : Inv w' := by
  cases step with
  | lookup deviceId =>
      cases hs
      exact h.lookup deviceId
  | check deviceId object =>
      obtain ⟨hcall, hs⟩ := Option.ite_none_right_eq_some.mp hs
      cases hs
      exact h.check hcall object
  | addDeathRecipient deviceId object =>
      obtain ⟨hcall, hs⟩ := Option.ite_none_right_eq_some.mp hs
      cases hs
      exact h.addDeathRecipient hcall
  | store deviceId object =>
      obtain ⟨hcall, hs⟩ := Option.ite_none_right_eq_some.mp hs
      cases hs
      exact h.store hcall
  | offline deviceId =>
      cases hs
      exact h.offline deviceId
  | die object =>
      obtain ⟨hlive, hs⟩ := Option.ite_none_left_eq_some.mp hs
      cases hs
      exact h.die hlive
  | onRemoteDmsDied env remote =>
      obtain ⟨-, hs⟩ := Option.ite_none_right_eq_some.mp hs
      cases hs
      exact h.onRemoteDmsDied env remote
  | manage manager =>
      cases hs
      exact { h with }

end RemoteDmsWorld

/-- **Services are watched.**  In every state of every interleaving, a live service has one
recipient for each device that it is stored for and each call about to store it; a dead one has
none, and is stored no more often than tasks are posted for it, and than it was stored after its
death; and a call for a device has returned only what was found for that device. -/
theorem remote_dms_watched {w : RemoteDmsWorld} (h : Reachable RemoteDmsStep.apply {} w) :
    (∀ o ∉ w.objects.dead, w.objects.registered o = w.entries o + w.holding o) ∧
      (∀ o ∈ w.objects.dead, w.objects.registered o = 0 ∧
        w.entries o ≤ w.objects.notices.count o + w.late.count o) ∧
      ∀ e ∈ w.returned, e ∈ w.found := by
  have hinv : w.Inv := h.invariant .init fun w step w' hw _ hs => hw.step hs
  refine ⟨fun o ho => ?_, fun o ho => ⟨?_, ?_⟩, hinv.returned⟩
  · rw [hinv.watches o, if_neg ho]
  · rw [hinv.watches o, if_pos ho]
  · exact Nat.sub_le_iff_le_add.mp (hinv.covers o ho)

/-- Two calls store the same service, which then dies. -/
theorem remote_dms_watched_twice : ∃ w : RemoteDmsWorld, w.objects.dead = [7] ∧
    w.objects.notices = [7] ∧ w.late = [] ∧ w.objects.registered 7 = 0 ∧ w.entries 7 ≤ 1 := by
  have hw := Runs.Reach.of_exec (show Runs.exec RemoteDmsStep.apply {}
    [.lookup "b", .lookup "b", .check "b" (some 7), .check "b" (some 7),
      .addDeathRecipient "b" 7, .addDeathRecipient "b" 7, .store "b" 7, .store "b" 7, .die 7] =
    some _ from rfl)
  have h := (remote_dms_watched hw).2.1 7 List.mem_cons_self
  exact ⟨_, rfl, rfl, rfl, h.1, h.2⟩

/-- **A dead service that is kept.**  It dies between the two blocks of a call, after its recipient
was added; its task finds nothing to take out, and then the call stores it. -/
theorem dead_service_kept : ∃ w : RemoteDmsWorld, Reachable RemoteDmsStep.apply {} w ∧
    w.calls = [] ∧ w.objects.notices = [] ∧ 7 ∈ w.objects.dead ∧
      w.remoteDmsMap["b"]? = some 7 := by
  have hw := Runs.Reach.of_exec (show Runs.exec RemoteDmsStep.apply {}
    [.lookup "b", .check "b" (some 7), .addDeathRecipient "b" 7, .die 7, .onRemoteDmsDied {} 7,
      .store "b" 7] = some _ from rfl)
  exact ⟨_, hw, rfl, rfl, List.mem_cons_self, rfl⟩

end DistributedSched

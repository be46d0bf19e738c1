import DistributedSched.Connect.Calls

/-!
# Connect — the death of a connect object

A connect object dies with the process of its application.  The service adds a death recipient
when it records a connect, and `ProcessConnectDied` runs for every recipient that fires.  IPC
fires a recipient once, and only when it was added before the object died; the answer of
`AddDeathRecipient` is not looked at.

* `processConnectDied_getElem?`, `processConnectDied_tells`: a run takes out the connects of one
  calling process, and tells every device they have a session with.
* `no_dead_connect`: when every mapping of a new connect finds the object alive, or a fired
  recipient that will still clean it, no dead connect is kept once every fired recipient has
  run.
* `dead_connect_kept`: an object that dies between the request and the mapping stays in the
  table, with no recipient that could fire.
-/

namespace DistributedSched

open Std (ExtTreeMap)
open DistributedSchedService ConnectAbilitySession

/-! ### Death recipients -/

/-- The connect objects, as IPC sees them. -/
structure DeathRecipients where
  /-- the objects whose process has died -/
  dead : List RemoteObject := []
  /-- the objects with a recipient that has not fired -/
  added : List RemoteObject := []
  /-- the objects whose recipient has fired and has not run -/
  fired : List RemoteObject := []

namespace DeathRecipients

/-- `AddDeathRecipient` and `RemoveDeathRecipient` of the connect death recipient. -/
def deliver (r : DeathRecipients) : Effect → DeathRecipients
  | .addDeathRecipient object .connect =>
    if object ∈ r.dead then r else { r with added := object :: r.added }
  | .removeDeathRecipient object .connect =>
    { r with added := r.added.filter fun o => o ≠ object }
  | _ => r

def die (r : DeathRecipients) (object : RemoteObject) : Option DeathRecipients :=
  if object ∈ r.dead then none
  else some
    { dead := object :: r.dead
      added := r.added.filter fun o => o ≠ object
      fired := if object ∈ r.added then object :: r.fired else r.fired }

variable (r : DeathRecipients) (es : List Effect)

@[simp] theorem deliver_dead (e : Effect) : (r.deliver e).dead = r.dead := by
  unfold deliver
  split
  · split <;> rfl
  · rfl
  · rfl

@[simp] theorem deliver_fired (e : Effect) : (r.deliver e).fired = r.fired := by
  unfold deliver
  split
  · split <;> rfl
  · rfl
  · rfl

@[simp] theorem foldl_deliver_dead : (es.foldl deliver r).dead = r.dead := by
  induction es generalizing r with
  | nil => rfl
  | cons e es ih => rw [List.foldl_cons, ih, deliver_dead]

@[simp] theorem foldl_deliver_fired : (es.foldl deliver r).fired = r.fired := by
  induction es generalizing r with
  | nil => rfl
  | cons e es ih => rw [List.foldl_cons, ih, deliver_fired]

variable {r es} {object : RemoteObject}

theorem mem_added_deliver {e : Effect} (h : object ∈ r.added)
    (he : e ≠ .removeDeathRecipient object .connect) : object ∈ (r.deliver e).added := by
  unfold deliver
  split
  · split
    · exact h
    · exact List.mem_cons_of_mem _ h
  · rename_i o
    refine List.mem_filter.mpr ⟨h, decide_eq_true fun ho => he ?_⟩
    rw [ho]
  · exact h

/-- A recipient stays until it is removed. -/
theorem mem_added_foldl_deliver (h : object ∈ r.added)
    (hes : Effect.removeDeathRecipient object .connect ∉ es) :
    object ∈ (es.foldl deliver r).added := by
  induction es generalizing r with
  | nil => exact h
  | cons e es ih =>
      obtain ⟨he, hes⟩ := not_or.mp (mt List.mem_cons.mpr hes)
      exact ih (mem_added_deliver h (Ne.symm he)) hes

/-- A recipient is added to an object that is alive. -/
theorem mem_added_addDeathRecipient (h : object ∉ r.dead)
    (hes : Effect.removeDeathRecipient object .connect ∉ es) :
    object ∈ ((Effect.addDeathRecipient object .connect :: es).foldl deliver r).added := by
  rw [List.foldl_cons]
  refine mem_added_foldl_deliver ?_ hes
  simp only [deliver, if_neg h]
  exact List.mem_cons_self

end DeathRecipients

/-! ### The process of the first session -/

/-- What `IsSameCaller` compares. -/
def CallerInfo.process (callerInfo : CallerInfo) : Int × Int × String × Int :=
  (callerInfo.uid, callerInfo.pid, callerInfo.sourceDeviceId, callerInfo.callerType)

/-- The process that the first session of a connect belongs to. -/
def frontProcess (l : List ConnectAbilitySession) : Option (Int × Int × String × Int) :=
  l.head?.map fun session => session.callerInfo.process

theorem isSameCaller_iff {session : ConnectAbilitySession} {callerInfo : CallerInfo} :
    session.isSameCaller callerInfo = true ↔ session.callerInfo.process = callerInfo.process := by
  rw [eq_comm (a := session.callerInfo.process)]
  simp only [isSameCaller, CallerInfo.process, Bool.and_eq_true, decide_eq_true_eq, Prod.mk.injEq,
    and_assoc]

/-- Adding an element leaves the caller of the first session. -/
theorem head?_addToSessions {localDeviceId remoteDeviceId : String} {element : ElementName}
    {callerInfo : CallerInfo} {targetComponent : TargetComponent} {l : List ConnectAbilitySession}
    (hl : l ≠ []) :
    (addToSessions localDeviceId remoteDeviceId element callerInfo targetComponent l).head?.map
      (·.callerInfo) = l.head?.map (·.callerInfo) := by
  cases l with
  | nil => exact absurd rfl hl
  | cons session l =>
      rw [addToSessions]
      split
      · exact congrArg some callerInfo_addElement
      · rfl

theorem getUidLocked_eq (l : List ConnectAbilitySession) :
    getUidLocked l = ((l.head?.map (·.callerInfo)).map (·.uid)).getD invalidCallerUid := by
  cases l <;> rfl

theorem frontProcess_eq (l : List ConnectAbilitySession) :
    frontProcess l = (l.head?.map (·.callerInfo)).map (·.process) := by
  cases l <;> rfl

/-! ### A run of ProcessConnectDied -/

variable {s : DistributedSchedService} {env : Env} {connect : RemoteObject}
  {l : List ConnectAbilitySession}

/-- A run for a connect that is not in the table does nothing. -/
theorem processConnectDied_none (h : s.distributedConnectAbilityMap[connect]? = none) :
    s.processConnectDied env (some connect) = (s, []) := by
  rw [processConnectDied, Option.bind_some, h]

/-- A run for a connect takes out the connects of its process, and no other. -/
theorem processConnectDied_getElem? {session : ConnectAbilitySession}
    (h : s.distributedConnectAbilityMap[connect]? = some (session :: l)) (c : RemoteObject) :
    (s.processConnectDied env (some connect)).1.distributedConnectAbilityMap[c]? =
      s.distributedConnectAbilityMap[c]?.filter fun x =>
        frontProcess x ≠ some session.callerInfo.process := by
  simp only [processConnectDied, Option.bind_some, h, walk_connectDied_getElem?]
  congr 1
  funext x
  cases x with
  | nil => rfl
  | cons first x =>
      simp only [List.head?_cons, Option.any_some, frontProcess, Option.map_some, ne_eq,
        Option.some.injEq, ← isSameCaller_iff, Bool.not_eq_true, Bool.decide_eq_false]

/-- A run removes the recipients of the connects of its process only, and adds none. -/
theorem mem_removeDeathRecipient {session : ConnectAbilitySession} {c : RemoteObject}
    (h : s.distributedConnectAbilityMap[connect]? = some (session :: l))
    (hc : Effect.removeDeathRecipient c .connect ∈
      (s.processConnectDied env (some connect)).2) :
    ∃ x, s.distributedConnectAbilityMap[c]? = some x ∧
      frontProcess x = some session.callerInfo.process := by
  simp only [processConnectDied, Option.bind_some, h, List.mem_append] at hc
  have hnotify : ∀ list,
      Effect.removeDeathRecipient c .connect ∉ notifyProcessDiedAll env list := by
    intro list hm
    obtain ⟨info, -, hi⟩ := List.mem_flatMap.mp hm
    unfold notifyProcessDied at hi
    split at hi
    · cases List.mem_singleton.mp hi
    · cases hi
  refine ExtTreeMap.walk_acc (m := s.distributedConnectAbilityMap)
    (f := connectDied s.distributedComponentListener session.callerInfo)
    (s := { trackingUidMap := s.trackingUidMap })
    (Q := fun acc : ConnectDiedAcc => Effect.removeDeathRecipient c .connect ∈ acc.effects →
      ∃ x, s.distributedConnectAbilityMap[c]? = some x ∧
        frontProcess x = some session.callerInfo.process)
    nofun (fun acc k x hk ih hm => ?_) (hc.resolve_right (hnotify _))
  cases x with
  | nil => exact ih hm
  | cons first x =>
      simp only [connectDied] at hm
      split at hm
      · rename_i hsame
        simp only [decreaseConnectLocked_effects, (foldl_addProcessDiedNotify _ _ acc).2,
          List.mem_append, List.mem_singleton, reduceCtorEq, or_false,
          CallerInfo.mem_reportDistributedComponentChange, and_false] at hm
        rcases hm with hm | hm
        · exact ih hm
        · obtain rfl : c = k := by cases hm; rfl
          exact ⟨_, hk, congrArg some (isSameCaller_iff.mp hsame)⟩
      · exact ih hm

/-- A run keeps the counter of connections in step with the table. -/
theorem processConnectDied_counted
    (h : Counted s.distributedConnectAbilityMap s.trackingUidMap) (connect : Option RemoteObject) :
    Counted (s.processConnectDied env connect).1.distributedConnectAbilityMap
      (s.processConnectDied env connect).1.trackingUidMap := by
  unfold processConnectDied
  split
  · exact h
  · exact h
  · refine ExtTreeMap.walk_induction
      (P := fun (acc : ConnectDiedAcc) m => Counted m acc.trackingUidMap) h
      fun acc m k x _ hk h => ?_
    cases x with
    | nil => exact absurd rfl (h.front k [] hk).1
    | cons first x =>
        simp only [connectDied]
        split
        · rename_i hsame
          simp only [(foldl_addProcessDiedNotify _ _ acc).1]
          exact (h.erase hk (congrArg Prod.fst (isSameCaller_iff.mp hsame)).symm).1
        · exact h.replace hk (by simp) rfl

/-! ### The devices that are told -/

/-- What the notifications are for: each device that a session in `told` is with has one, for the
caller that died; the keys are those of the notifications. -/
structure DistributedSchedService.ConnectDiedAcc.Tells (callerInfo : CallerInfo)
    (told : ConnectAbilitySession → Prop) (acc : ConnectDiedAcc) : Prop where
  nodup : (acc.notifyList.map (·.remoteDeviceId)).Nodup
  devices : ∀ deviceId, deviceId ∈ acc.notifyList.map (·.remoteDeviceId) ↔
    ∃ session, told session ∧ session.destinationDeviceId = deviceId
  caller : ∀ info ∈ acc.notifyList, info.callerInfo = callerInfo
  keys : ∀ key, key ∈ acc.processedDeviceSet ↔ ∃ info ∈ acc.notifyList,
    key = info.remoteDeviceId ++ targetComponentKey info.targetComponent

namespace DistributedSchedService.ConnectDiedAcc.Tells

variable {callerInfo : CallerInfo} {told told' : ConnectAbilitySession → Prop}
  {acc : ConnectDiedAcc}

theorem congr (h : acc.Tells callerInfo told) (ht : ∀ session, told session ↔ told' session) :
    acc.Tells callerInfo told' := by
  obtain rfl : told = told' := funext fun session => propext (ht session)
  exact h

theorem add (h : acc.Tells callerInfo told) (session : ConnectAbilitySession) :
    (addProcessDiedNotify callerInfo acc session).Tells callerInfo
      fun x => told x ∨ x = session := by
  simp only [addProcessDiedNotify]
  split
  · rename_i hm
    obtain ⟨info, hi, he⟩ := (h.keys _).mp hm
    have hdev : session.destinationDeviceId = info.remoteDeviceId :=
      (String.append_left_inj (targetComponentKey info.targetComponent)).mp he
    refine ⟨h.nodup, fun deviceId => (h.devices deviceId).trans ⟨?_, ?_⟩, h.caller, h.keys⟩
    · rintro ⟨x, hx, hd⟩
      exact ⟨x, .inl hx, hd⟩
    · rintro ⟨x, hx | rfl, hd⟩
      · exact ⟨x, hx, hd⟩
      · refine (h.devices deviceId).mp ?_
        rw [← hd, hdev]
        exact List.mem_map_of_mem hi
  · rename_i hm
    have hnew : session.destinationDeviceId ∉ acc.notifyList.map (·.remoteDeviceId) := by
      intro hd
      obtain ⟨info, hi, hd⟩ := List.mem_map.mp hd
      exact hm ((h.keys _).mpr ⟨info, hi, by rw [hd]⟩)
    refine ⟨?_, fun deviceId => ?_, fun info hi => ?_, fun key => ?_⟩
    · rw [List.map_append]
      exact List.nodup_append'.mpr
        ⟨h.nodup, List.nodup_singleton _, List.disjoint_singleton.mpr hnew⟩
    · rw [List.map_append, List.mem_append, h.devices, List.map_singleton, List.mem_singleton]
      constructor
      · rintro (⟨x, hx, hd⟩ | hd)
        · exact ⟨x, .inl hx, hd⟩
        · exact ⟨session, .inr rfl, hd.symm⟩
      · rintro ⟨x, hx | rfl, hd⟩
        · exact .inl ⟨x, hx, hd⟩
        · exact .inr hd.symm
    · rcases List.mem_append.mp hi with hi | hi
      · exact h.caller info hi
      · rw [List.mem_singleton.mp hi]
    · rw [List.mem_cons, h.keys]
      constructor
      · rintro (rfl | ⟨info, hi, he⟩)
        · exact ⟨_, List.mem_append_right _ List.mem_cons_self, rfl⟩
        · exact ⟨info, List.mem_append_left _ hi, he⟩
      · rintro ⟨info, hi, he⟩
        rcases List.mem_append.mp hi with hi | hi
        · exact .inr ⟨info, hi, he⟩
        · rw [List.mem_singleton.mp hi] at he
          exact .inl he

theorem foldl (h : acc.Tells callerInfo told) (l : List ConnectAbilitySession) :
    (l.foldl (addProcessDiedNotify callerInfo) acc).Tells callerInfo
      fun x => told x ∨ x ∈ l := by
  induction l generalizing acc told with
  | nil => exact h.congr fun x => by simp
  | cons session l ih =>
      refine (ih (h.add session)).congr fun x => ?_
      rw [List.mem_cons, or_assoc]

end DistributedSchedService.ConnectDiedAcc.Tells

/-- The session belongs to a connect that is taken out. -/
def TakenOut (m m' : Map RemoteObject (List ConnectAbilitySession))
    (session : ConnectAbilitySession) : Prop :=
  ∃ (c : RemoteObject) (l : List ConnectAbilitySession),
    m[c]? = some l ∧ m'[c]? = none ∧ session ∈ l

/-- A run notifies the devices of the connects that it takes out. -/
theorem walk_connectDied_tells (listener : Option RemoteObject) (callerInfo : CallerInfo)
    (m : Map RemoteObject (List ConnectAbilitySession)) (t : Map Int Nat) :
    let r := m.walk (connectDied listener callerInfo) { trackingUidMap := t }
    r.1.Tells callerInfo (TakenOut m r.2) := by
  refine ExtTreeMap.walk_induction
    (P := fun (acc : ConnectDiedAcc) m' => acc.Tells callerInfo (TakenOut m m'))
    ⟨List.nodup_nil, fun deviceId => ⟨fun h => by simp at h, ?_⟩, fun _ h => by simp at h,
      fun key => by simp⟩ fun acc m' k x hk hk' ih => ?_
  · rintro ⟨session, ⟨c, l, hl, hn, -⟩, -⟩
    rw [hl] at hn
    cases hn
  -- an entry that stays, stays out of `TakenOut`
  have hstay : acc.Tells callerInfo (TakenOut m (m'.put k (some x))) := by
    have hself : m'.put k (some x) = m' := by
      refine ExtTreeMap.ext_getElem? fun c => ?_
      rw [ExtTreeMap.getElem?_put]
      split
      · rename_i hc
        rw [← Std.LawfulEqOrd.eq_of_compare hc, hk']
      · rfl
    rw [hself]
    exact ih
  cases x with
  | nil => exact hstay
  | cons first x =>
      simp only [connectDied]
      split
      · have hout : ∀ session, (TakenOut m m' session ∨ session ∈ first :: x) ↔
            TakenOut m (m'.put k none) session := by
          intro session
          constructor
          · rintro (⟨c, l, hl, hn, hs⟩ | hs)
            · refine ⟨c, l, hl, ?_, hs⟩
              rw [ExtTreeMap.getElem?_put]
              split
              · rfl
              · exact hn
            · exact ⟨k, _, hk, ExtTreeMap.getElem?_put_self .., hs⟩
          · rintro ⟨c, l, hl, hn, hs⟩
            rw [ExtTreeMap.getElem?_put] at hn
            split at hn
            · rename_i hc
              obtain rfl := Std.LawfulEqOrd.eq_of_compare hc
              obtain rfl := Option.some.inj (hk.symm.trans hl)
              exact .inr hs
            · exact .inl ⟨c, l, hl, hn, hs⟩
        obtain ⟨hnodup, hdevices, hcaller, hkeys⟩ := (ih.foldl (first :: x)).congr hout
        exact ⟨hnodup, hdevices, hcaller, hkeys⟩
      · exact hstay

/-- A run tells every device that a connect it takes out has a session with, when the service
of that device is found. -/
theorem processConnectDied_tells {c : RemoteObject}
    (h : s.distributedConnectAbilityMap[c]? = some l)
    (hn : (s.processConnectDied env (some connect)).1.distributedConnectAbilityMap[c]? = none) :
    ∃ callerInfo : CallerInfo, frontProcess l = some callerInfo.process ∧
      ∀ x ∈ l, env.getRemoteDms x.destinationDeviceId = true →
        Effect.rpc x.destinationDeviceId (.notifyProcessDiedFromRemote callerInfo) ∈
          (s.processConnectDied env (some connect)).2 := by
  cases hk : s.distributedConnectAbilityMap[connect]? with
  | none =>
      rw [processConnectDied_none hk, h] at hn
      cases hn
  | some own =>
      cases own with
      | nil =>
          simp only [processConnectDied, Option.bind_some, hk] at hn
          rw [h] at hn
          cases hn
      | cons session own =>
          refine ⟨session.callerInfo, ?_, fun x hx hd => ?_⟩
          · rw [processConnectDied_getElem? hk, h, Option.filter_some_eq_none] at hn
            simpa using hn
          · simp only [processConnectDied, Option.bind_some, hk] at hn ⊢
            have htells := walk_connectDied_tells s.distributedComponentListener
              session.callerInfo s.distributedConnectAbilityMap s.trackingUidMap
            obtain ⟨info, hi, hdev⟩ := List.mem_map.mp
              ((htells.devices x.destinationDeviceId).mpr ⟨x, ⟨c, l, h, hn, hx⟩, rfl⟩)
            refine List.mem_append_right _ (List.mem_flatMap.mpr ⟨info, hi, ?_⟩)
            rw [notifyProcessDied, if_pos (hdev ▸ hd), htells.caller info hi, hdev]
            exact List.mem_cons_self

/-! ### Calls, deaths, and runs of the recipient -/

/-- The calls of `ConnectRemoteAbility`, with the objects they connect. -/
structure ConnectObjects where
  calls : ConnectCalls := {}
  recipients : DeathRecipients := {}

inductive DeathStep where
  | call (step : CallStep)
  | die (object : RemoteObject)
  /-- the recipient of an object, which has fired, runs `ProcessConnectDied` -/
  | died (env : Env) (object : RemoteObject)

namespace DeathStep

def apply (s : ConnectObjects) : DeathStep → Option (ConnectObjects × List Effect)
  | call step =>
    (step.apply s.calls).map fun r => (⟨r.1, r.2.foldl DeathRecipients.deliver s.recipients⟩, r.2)
  | die object => (s.recipients.die object).map fun r => (⟨s.calls, r⟩, [])
  | died env object =>
    if object ∈ s.recipients.fired then
      let r := s.calls.service.processConnectDied env (some object)
      let recipients := { s.recipients with fired := s.recipients.fired.erase object }
      some (⟨{ s.calls with service := r.1 }, r.2.foldl DeathRecipients.deliver recipients⟩, r.2)
    else none

/-- A mapping of a new connect finds the object alive, or a fired recipient that has not run
and will take the connect out: its own, or that of a connect of the same process. -/
def Watched (s : ConnectObjects) : DeathStep → Prop
  | call (.mapping i) => ∀ call, s.calls.calls[i]? = some call →
    s.calls.service.distributedConnectAbilityMap[call.connect]? = none →
      call.connect ∉ s.recipients.dead ∨ ∃ object ∈ s.recipients.fired,
        object = call.connect ∨
          ∃ l, s.calls.service.distributedConnectAbilityMap[object]? = some l ∧
            frontProcess l = some call.callerInfo.process
  | _ => True

/-- A connect is alive and has its recipient, or a recipient of its process has fired and has
not run. -/
def Covered (r : DeathRecipients) (m : Map RemoteObject (List ConnectAbilitySession))
    (connect : RemoteObject) (l : List ConnectAbilitySession) : Prop :=
  (connect ∉ r.dead ∧ connect ∈ r.added) ∨
    ∃ object ∈ r.fired, ∃ l', m[object]? = some l' ∧ frontProcess l' = frontProcess l

structure Inv (s : ConnectObjects) : Prop where
  counted : Counted s.calls.service.distributedConnectAbilityMap s.calls.service.trackingUidMap
  uids : s.calls.UidsChecked
  covered : ∀ (connect : RemoteObject) (l : List ConnectAbilitySession),
    s.calls.service.distributedConnectAbilityMap[connect]? = some l →
      Covered s.recipients s.calls.service.distributedConnectAbilityMap connect l

/-! #### A mapping -/

variable {r : DeathRecipients} {call : ConnectCall}

theorem map_counted
    (h : Counted s.distributedConnectAbilityMap s.trackingUidMap) (hu : 0 ≤ call.callerInfo.uid) :
    Counted (call.map s).1.distributedConnectAbilityMap (call.map s).1.trackingUidMap := by
  simp only [ConnectCall.map, remoteConnectAbilityMappingLocked]
  cases hk : s.distributedConnectAbilityMap[call.connect]? with
  | none =>
      have hg : ∀ element, getUidLocked (addToSessions call.callerInfo.sourceDeviceId
          call.want.element.deviceId element call.callerInfo .harmonyComponent []) =
            call.callerInfo.uid :=
        fun element => congrArg CallerInfo.uid callerInfo_addElement
      have hi := h.insert_new hk (l := addToSessions call.callerInfo.sourceDeviceId
        call.want.element.deviceId call.want.element call.callerInfo .harmonyComponent [])
        addToSessions_ne_nil (by rw [hg]; exact hu)
      rwa [hg] at hi
  | some l =>
      refine h.replace hk addToSessions_ne_nil ?_
      rw [getUidLocked_eq, getUidLocked_eq, head?_addToSessions (h.front _ _ hk).1]

/-- A mapping leaves the process of every connect that is there. -/
theorem map_frontProcess (call : ConnectCall)
    (h : Counted s.distributedConnectAbilityMap s.trackingUidMap)
    {object : RemoteObject} (ho : s.distributedConnectAbilityMap[object]? = some l) :
    ∃ l', (call.map s).1.distributedConnectAbilityMap[object]? = some l' ∧
      frontProcess l' = frontProcess l := by
  simp only [ConnectCall.map, remoteConnectAbilityMappingLocked_map, ExtTreeMap.getElem?_insert]
  split
  · rename_i hc
    obtain rfl := Std.LawfulEqOrd.eq_of_compare hc
    refine ⟨_, rfl, ?_⟩
    rw [ho, Option.getD_some, frontProcess_eq, frontProcess_eq,
      head?_addToSessions (h.front _ _ ho).1]
  · exact ⟨l, ho, rfl⟩

/-- A covered connect stays covered. -/
theorem Covered.map (h : Counted s.distributedConnectAbilityMap s.trackingUidMap)
    {l' : List ConnectAbilitySession} (hl : frontProcess l' = frontProcess l)
    (hc : Covered r s.distributedConnectAbilityMap connect l)
    (hr : Effect.removeDeathRecipient connect .connect ∉ (call.map s).2) :
    Covered ((call.map s).2.foldl DeathRecipients.deliver r)
      (call.map s).1.distributedConnectAbilityMap connect l' := by
  rcases hc with ⟨hd, ha⟩ | ⟨object, hf, x, hx, hp⟩
  · refine .inl ⟨?_, DeathRecipients.mem_added_foldl_deliver ha hr⟩
    rwa [DeathRecipients.foldl_deliver_dead]
  · obtain ⟨y, hy, hyx⟩ := map_frontProcess call h hx
    refine .inr ⟨object, ?_, y, hy, (hyx.trans hp).trans hl.symm⟩
    rwa [DeathRecipients.foldl_deliver_fired]

theorem removeDeathRecipient_not_mem_map (connect : RemoteObject) :
    Effect.removeDeathRecipient connect .connect ∉ (call.map s).2 := by
  simp only [ConnectCall.map, remoteConnectAbilityMappingLocked]
  cases s.distributedConnectAbilityMap[call.connect]? with
  | none => simp
  | some l => simp

theorem map_covered (h : Counted s.distributedConnectAbilityMap s.trackingUidMap)
    (hc : ∀ (connect : RemoteObject) (l : List ConnectAbilitySession),
      s.distributedConnectAbilityMap[connect]? = some l →
        Covered r s.distributedConnectAbilityMap connect l)
    (hw : s.distributedConnectAbilityMap[call.connect]? = none →
      call.connect ∉ r.dead ∨ ∃ object ∈ r.fired, object = call.connect ∨
        ∃ l, s.distributedConnectAbilityMap[object]? = some l ∧
          frontProcess l = some call.callerInfo.process)
    {connect : RemoteObject} {l : List ConnectAbilitySession}
    (hl : (call.map s).1.distributedConnectAbilityMap[connect]? = some l) :
    Covered ((call.map s).2.foldl DeathRecipients.deliver r)
      (call.map s).1.distributedConnectAbilityMap connect l := by
  cases hk : s.distributedConnectAbilityMap[connect]? with
  | some old =>
      obtain ⟨l', hl', hp⟩ := map_frontProcess call h hk
      obtain rfl := Option.some.inj (hl.symm.trans hl')
      exact (hc connect old hk).map h hp (removeDeathRecipient_not_mem_map connect)
  | none =>
      -- a connect that was not there is the one of the call
      have hnew : call.connect = connect ∧ frontProcess l = some call.callerInfo.process := by
        simp only [ConnectCall.map, remoteConnectAbilityMappingLocked_map,
          ExtTreeMap.getElem?_insert] at hl
        split at hl
        · rename_i heq
          obtain rfl := Std.LawfulEqOrd.eq_of_compare heq
          refine ⟨rfl, ?_⟩
          rw [hk, Option.getD_none, addToSessions] at hl
          obtain rfl := Option.some.inj hl
          exact congrArg (fun c => some (CallerInfo.process c)) callerInfo_addElement
        · rw [hk] at hl; cases hl
      obtain ⟨rfl, hp⟩ := hnew
      rcases hw hk with hd | ⟨object, hf, rfl | ⟨x, hx, hxp⟩⟩
      · refine .inl ⟨by rwa [DeathRecipients.foldl_deliver_dead], ?_⟩
        simp only [ConnectCall.map, remoteConnectAbilityMappingLocked, hk]
        exact DeathRecipients.mem_added_addDeathRecipient hd (by simp)
      · refine .inr ⟨call.connect, ?_, l, hl, rfl⟩
        rwa [DeathRecipients.foldl_deliver_fired]
      · obtain ⟨y, hy, hyx⟩ := map_frontProcess call h hx
        refine .inr ⟨object, ?_, y, hy, (hyx.trans hxp).trans hp.symm⟩
        rwa [DeathRecipients.foldl_deliver_fired]

/-! #### A death, and the run it triggers -/

/-- A connect that dies is covered by its own recipient. -/
theorem die_covered {r' : DeathRecipients} {object : RemoteObject}
    {m : Map RemoteObject (List ConnectAbilitySession)} (hr : r.die object = some r')
    (hl : m[connect]? = some l) (hc : Covered r m connect l) : Covered r' m connect l := by
  unfold DeathRecipients.die at hr
  split at hr
  · cases hr
  obtain rfl := Option.some.inj hr
  rcases hc with ⟨hd, ha⟩ | ⟨o, hf, x, hx, hp⟩
  · -- its recipient leaves the added ones for the fired ones
    by_cases ho : connect = object
    · subst ho
      exact .inr ⟨connect, by rw [if_pos ha]; exact List.mem_cons_self, l, hl, rfl⟩
    · exact .inl ⟨List.not_mem_cons_of_ne_of_not_mem ho hd,
        List.mem_filter.mpr ⟨ha, decide_eq_true ho⟩⟩
  · refine .inr ⟨o, ?_, x, hx, hp⟩
    show o ∈ if object ∈ r.added then object :: r.fired else r.fired
    split
    · exact List.mem_cons_of_mem _ hf
    · exact hf

/-- What a run leaves is covered without the recipient that has run. -/
theorem died_covered (h : Counted s.distributedConnectAbilityMap s.trackingUidMap)
    {object : RemoteObject}
    (hl : (s.processConnectDied env (some object)).1.distributedConnectAbilityMap[connect]? =
      some l)
    (hc : ∀ (connect : RemoteObject) (l : List ConnectAbilitySession),
      s.distributedConnectAbilityMap[connect]? = some l →
        Covered r s.distributedConnectAbilityMap connect l) :
    Covered ((s.processConnectDied env (some object)).2.foldl DeathRecipients.deliver
        { r with fired := r.fired.erase object })
      (s.processConnectDied env (some object)).1.distributedConnectAbilityMap connect l := by
  cases hk : s.distributedConnectAbilityMap[object]? with
  | none =>
      rw [processConnectDied_none hk] at hl ⊢
      rcases hc connect l hl with ha | ⟨o, hf, x, hx, hp⟩
      · exact .inl ha
      · -- the recipient that has run found nothing, so it did not cover the connect
        have hne : o ≠ object := fun ho => by
          rw [ho, hk] at hx
          cases hx
        exact .inr ⟨o, (List.mem_erase_of_ne hne).mpr hf, x, hx, hp⟩
  | some own =>
      cases own with
      | nil => exact absurd rfl (h.front object [] hk).1
      | cons session own =>
          -- the run takes the connects of its process, all others keep what covers them
          have hget : ∀ c,
              (s.processConnectDied env (some object)).1.distributedConnectAbilityMap[c]? =
              _ := processConnectDied_getElem? hk
          rw [hget, Option.filter_eq_some_iff] at hl
          obtain ⟨hl, hne⟩ := hl
          have hne : frontProcess l ≠ some session.callerInfo.process := of_decide_eq_true hne
          rcases hc connect l hl with ⟨hd, ha⟩ | ⟨o, hf, x, hx, hp⟩
          · refine .inl ⟨by rwa [DeathRecipients.foldl_deliver_dead],
              DeathRecipients.mem_added_foldl_deliver ha fun hm => ?_⟩
            obtain ⟨y, hy, hyp⟩ := mem_removeDeathRecipient hk hm
            obtain rfl := Option.some.inj (hl.symm.trans hy)
            exact hne hyp
          · have ho : o ≠ object := fun ho => by
              rw [ho, hk] at hx
              obtain rfl := Option.some.inj hx
              exact hne hp.symm
            refine .inr ⟨o, ?_, x, ?_, hp⟩
            · rw [DeathRecipients.foldl_deliver_fired]
              exact (List.mem_erase_of_ne ho).mpr hf
            · rw [hget, hx]
              exact Option.filter_eq_some_iff.mpr ⟨rfl, decide_eq_true (hp ▸ hne)⟩

/-! #### The invariant -/

theorem apply_inv {s s' : ConnectObjects} {step : DeathStep} {es : List Effect} (h : Inv s)
    (hw : step.Watched s) (hs : step.apply s = some (s', es)) : Inv s' := by
  obtain ⟨hcount, huids, hcov⟩ := h
  cases step with
  | call step =>
      obtain ⟨⟨calls, es'⟩, happly, he⟩ := Option.map_eq_some_iff.mp hs
      cases he
      have hu := huids.apply happly
      rcases (CallStep.apply_cases happly).2 with ⟨hservice, rfl, -⟩ | ⟨i, call, rfl, hk, -, he⟩
      · exact ⟨hservice ▸ hcount, hu, hservice ▸ hcov⟩
      · obtain ⟨hservice, rfl⟩ := Prod.ext_iff.mp he
        simp only at hservice
        exact ⟨hservice ▸ map_counted hcount (huids i call hk), hu, fun connect l hl =>
          hservice ▸ map_covered hcount hcov (hw call hk) (hservice ▸ hl)⟩
  | die object =>
      obtain ⟨r, hr, he⟩ := Option.map_eq_some_iff.mp hs
      cases he
      exact ⟨hcount, huids, fun connect l hl => die_covered hr hl (hcov connect l hl)⟩
  | died env object =>
      simp only [apply] at hs
      split at hs
      · cases hs
        exact ⟨processConnectDied_counted hcount _, huids, fun connect l hl =>
          died_covered hcount hl hcov⟩
      · cases hs

/-- Only a run of the recipient takes a connect out. -/
theorem apply_out {s s' : ConnectObjects} {step : DeathStep} {es : List Effect}
    (h : step.apply s = some (s', es)) {connect : RemoteObject} {l : List ConnectAbilitySession}
    (hl : s.calls.service.distributedConnectAbilityMap[connect]? = some l)
    (hn : s'.calls.service.distributedConnectAbilityMap[connect]? = none) :
    ∃ env object, step = .died env object := by
  cases step with
  | call step =>
      obtain ⟨⟨calls, es'⟩, happly, he⟩ := Option.map_eq_some_iff.mp h
      cases he
      rcases (CallStep.apply_cases happly).2 with ⟨hservice, -⟩ | ⟨i, call, -, -, -, he⟩
      · rw [hservice, hl] at hn
        cases hn
      · obtain ⟨hservice, -⟩ := Prod.ext_iff.mp he
        simp only [ConnectCall.map] at hservice
        rw [hservice, remoteConnectAbilityMappingLocked_map, ExtTreeMap.getElem?_insert] at hn
        split at hn
        · cases hn
        · rw [hl] at hn; cases hn
  | die object =>
      obtain ⟨r, -, he⟩ := Option.map_eq_some_iff.mp h
      cases he
      rw [hl] at hn
      cases hn
  | died env object => exact ⟨env, object, rfl⟩

/-- The step, without its effects. -/
def run (s : ConnectObjects) (step : DeathStep) : Option ConnectObjects :=
  (step.apply s).map Prod.fst

end DeathStep

/-- **No dead connect is kept** in a run in which every mapping of a new connect finds the
object alive, or a fired recipient that will clean it.  Once every fired recipient has run, the
connects in the table are alive, and the counter of a uid counts live connects only.  A step
that takes a connect out tells every device the connect has a session with. -/
theorem no_dead_connect {s : ConnectObjects}
    (h : Runs.Reach DeathStep.run DeathStep.Watched {} s) :
    (s.recipients.fired = [] →
      (∀ (connect : RemoteObject) (l : List ConnectAbilitySession),
        s.calls.service.distributedConnectAbilityMap[connect]? = some l →
          connect ∉ s.recipients.dead) ∧
      ∀ uid, s.calls.service.trackingUidMap.tally uid =
        s.calls.service.distributedConnectAbilityMap.count fun connect l =>
          connect ∉ s.recipients.dead && getUidLocked l = uid) ∧
    ∀ step s' es, DeathStep.apply s step = some (s', es) →
      ∀ (connect : RemoteObject) (l : List ConnectAbilitySession),
        s.calls.service.distributedConnectAbilityMap[connect]? = some l →
        s'.calls.service.distributedConnectAbilityMap[connect]? = none →
        ∃ env object callerInfo, step = .died env object ∧
          frontProcess l = some callerInfo.process ∧
          ∀ session ∈ l, env.getRemoteDms session.destinationDeviceId = true →
            Effect.rpc session.destinationDeviceId (.notifyProcessDiedFromRemote callerInfo) ∈
              es := by
  have hinv : DeathStep.Inv s := by
    refine h.invariant ⟨.empty, fun i call hk => ?_, fun c l hk => ?_⟩ fun s step s' hi hok hs => ?_
    · simp at hk
    · simp at hk
    · obtain ⟨⟨s₁, es⟩, happly, rfl⟩ := Option.map_eq_some_iff.mp hs
      exact DeathStep.apply_inv hi hok happly
  refine ⟨fun hf => ?_, fun step s' es happly connect l hl hn => ?_⟩
  · have halive : ∀ (connect : RemoteObject) (l : List ConnectAbilitySession),
        s.calls.service.distributedConnectAbilityMap[connect]? = some l →
          connect ∉ s.recipients.dead := by
      intro connect l hl
      rcases hinv.covered connect l hl with ⟨hd, -⟩ | ⟨object, ho, -⟩
      · exact hd
      · rw [hf] at ho
        cases ho
    refine ⟨halive, fun uid => ?_⟩
    rw [hinv.counted.tallies.agree]
    refine ExtTreeMap.count_congr fun connect l hl => ?_
    simp only [halive connect l hl, not_false_eq_true, decide_true, Bool.true_and]
  · obtain ⟨env, object, rfl⟩ := DeathStep.apply_out happly hl hn
    simp only [DeathStep.apply] at happly
    split at happly
    · cases happly
      obtain ⟨callerInfo, hp, htold⟩ := processConnectDied_tells hl hn
      exact ⟨env, object, callerInfo, rfl, hp, htold⟩
    · cases happly

/-- A connect of the first object of a service, up to its mapping. -/
def connectFirst : List DeathStep :=
  [.call (.check (callerEnv true) { element := { deviceId := "B", bundleName := "app" } } (some 1)
    20010 77 9), .call (.answer 0 errOk)]

/-- An object that dies after the mapping is cleaned. -/
theorem no_dead_connect_died : ∃ s, Runs.exec DeathStep.run {}
    (connectFirst ++ [.call (.mapping 0), .die 1, .died (callerEnv true) 1]) = some s ∧
      ∀ uid, s.calls.service.trackingUidMap.tally uid =
        s.calls.service.distributedConnectAbilityMap.count fun connect l =>
          connect ∉ s.recipients.dead && getUidLocked l = uid :=
  ⟨_, rfl, ((no_dead_connect (.next (.next (.next (.next (.next .init
    (l := connectFirst[0]) trivial rfl) (l := connectFirst[1]) trivial rfl)
    (l := .call (.mapping 0)) (fun _ _ _ => .inl List.not_mem_nil) rfl) (l := .die 1) trivial rfl)
    (l := .died (callerEnv true) 1) trivial rfl)).1 rfl).2⟩

/-- **The object dies between the request and the mapping**: no call is in progress and no
recipient has fired, and the connect is in the table and counted. -/
theorem dead_connect_kept : ∃ s, Runs.exec DeathStep.run {}
    (connectFirst ++ [.die 1, .call (.mapping 0)]) = some s ∧
      s.calls.calls = ∅ ∧ s.recipients.fired = [] ∧ 1 ∈ s.recipients.dead ∧
      s.calls.service.distributedConnectAbilityMap.contains 1 = true ∧
      s.calls.service.trackingUidMap.tally 20010 = 1 :=
  ⟨_, rfl, rfl, rfl, by decide, rfl, rfl⟩

end DistributedSched

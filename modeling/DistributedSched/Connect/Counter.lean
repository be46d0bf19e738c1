import DistributedSched.Connect.Sessions
import DistributedSched.Library.Runs
import DistributedSched.Service.Offline

/-!
# Connect — the counter of connections of a uid

`trackingUidMap_` and `distributedConnectAbilityMap_` are changed together by four operations:
a mapping, a disconnect, a device that goes offline and a calling process that dies.  When
every connect object is presented with one `CallerInfo`, whose uid is not negative, the counter
of a uid is the number of connect objects of that uid (`counter_exact`).

* `Counted`: the relation between the two tables, by the first session of each connect.  It is
  kept by inserting a new connect with one more for its uid, by changing the sessions of a
  connect, and by erasing a connect with `DecreaseConnectLocked` of its uid.  `CountedOf` adds
  that the sessions of a connect are its owner's, so that any of them may come first.
* `ConnectOp.apply_counted`: each operation keeps it, and calls `DecreaseConnectLocked` on
  tracked uids only (`NoUntracked`).  The two operations that go through the table do so in
  every round.
-/

namespace DistributedSched

open Std (ExtTreeMap)
open Std.ExtTreeMap (Tallies)
open DistributedSchedService ConnectAbilitySession

/-! ### Calls of DecreaseConnectLocked -/

/-- `DecreaseConnectLocked` was called on uids with an entry only. -/
def NoUntracked (es : List Effect) : Prop := ∀ uid, Effect.decreaseConnect uid false ∉ es

@[simp] theorem noUntracked_nil : NoUntracked [] := fun _ h => nomatch h

@[simp] theorem noUntracked_append {es es' : List Effect} :
    NoUntracked (es ++ es') ↔ NoUntracked es ∧ NoUntracked es' := by
  simp only [NoUntracked, List.mem_append, not_or, forall_and]

@[simp] theorem noUntracked_cons {e : Effect} {es : List Effect} :
    NoUntracked (e :: es) ↔ (∀ uid, e ≠ .decreaseConnect uid false) ∧ NoUntracked es := by
  simp only [NoUntracked, List.mem_cons, not_or, forall_and, ne_comm, ne_eq]

theorem noUntracked_flatMap {α : Type} {l : List α} {f : α → List Effect}
    (h : ∀ a ∈ l, NoUntracked (f a)) : NoUntracked (l.flatMap f) := fun uid hu => by
  obtain ⟨a, ha, hu⟩ := List.mem_flatMap.mp hu
  exact h a ha uid hu

@[simp] theorem noUntracked_report {callerInfo : CallerInfo} {listener : Option RemoteObject}
    {connect : RemoteObject} {changeType : ChangeType} {componentType : ComponentType}
    {deviceType : DeviceType} :
    NoUntracked (callerInfo.reportDistributedComponentChange listener connect changeType
      componentType deviceType) := by
  simp [NoUntracked]

theorem decreaseConnectLocked_of_tracked {t : Map Int Nat} {uid : Int} {n : Nat} (hu : 0 ≤ uid)
    (ht : t[uid]? = some n) (hn : n ≠ 0) :
    decreaseConnectLocked t uid = (t.drop uid, [.decreaseConnect uid true]) := by
  have hc : t.contains uid = true := ExtTreeMap.contains_of_getElem? ht
  have hy : t.tally uid = n := by rw [ExtTreeMap.tally, ht, Option.getD_some]
  simp only [decreaseConnectLocked, hc, ht, if_neg (Int.not_lt.mpr hu),
    if_pos (Nat.pos_of_ne_zero hn), ExtTreeMap.drop, hy]
  by_cases h1 : n - 1 = 0
  · rw [if_pos h1, if_pos (by omega)]
  · rw [if_neg h1, if_neg (by omega)]

/-! ### The counter and the first sessions -/

/-- `t` counts the connect objects of `m` by the uid of their first session. -/
structure Counted (m : Map RemoteObject (List ConnectAbilitySession)) (t : Map Int Nat) :
    Prop where
  front : ∀ (connect : RemoteObject) (l : List ConnectAbilitySession),
    m[connect]? = some l → l ≠ [] ∧ 0 ≤ getUidLocked l
  tallies : Tallies getUidLocked m t

namespace Counted

variable {m : Map RemoteObject (List ConnectAbilitySession)} {t : Map Int Nat}
  {connect : RemoteObject} {l l' : List ConnectAbilitySession}

theorem empty : Counted ∅ ∅ where
  front _ _ h := by simp at h
  tallies := .empty

theorem insert_new (h : Counted m t) (hk : m[connect]? = none) (hl : l ≠ [])
    (hu : 0 ≤ getUidLocked l) : Counted (m.insert connect l) (t.bump (getUidLocked l)) where
  front c x hx := by
    rw [ExtTreeMap.getElem?_insert] at hx
    split at hx
    · obtain rfl := Option.some.inj hx
      exact ⟨hl, hu⟩
    · exact h.front c x hx
  tallies := h.tallies.insert_new hk

theorem replace (h : Counted m t) (hk : m[connect]? = some l') (hl : l ≠ [])
    (hu : getUidLocked l = getUidLocked l') : Counted (m.insert connect l) t where
  front c x hx := by
    rw [ExtTreeMap.getElem?_insert] at hx
    split at hx
    · obtain rfl := Option.some.inj hx
      exact ⟨hl, hu ▸ (h.front connect l' hk).2⟩
    · exact h.front c x hx
  tallies := h.tallies.replace hk hu

/-- Erasing a connect goes with `DecreaseConnectLocked` of its uid, which is tracked. -/
theorem erase (h : Counted m t) (hk : m[connect]? = some l) {uid : Int}
    (hu : uid = getUidLocked l) :
    Counted (m.erase connect) (decreaseConnectLocked t uid).1 ∧
      (decreaseConnectLocked t uid).2 = [.decreaseConnect uid true] := by
  subst hu
  obtain ⟨n, hn, hn0⟩ := h.tallies.tracked hk
  rw [decreaseConnectLocked_of_tracked (h.front connect l hk).2 hn hn0]
  refine ⟨⟨fun c x hx => ?_, h.tallies.erase hk⟩, rfl⟩
  rw [ExtTreeMap.getElem?_erase] at hx
  split at hx
  · cases hx
  · exact h.front c x hx

end Counted

/-! ### The invariant -/

/-- The connect objects of `m` have the sessions of their owners, and `t` counts them. -/
structure CountedOf (caller : RemoteObject → CallerInfo)
    (m : Map RemoteObject (List ConnectAbilitySession)) (t : Map Int Nat) : Prop where
  counted : Counted m t
  sessions : ∀ (connect : RemoteObject) (l : List ConnectAbilitySession),
    m[connect]? = some l → SessionsOf (caller connect) l

namespace CountedOf

variable {caller : RemoteObject → CallerInfo} {m : Map RemoteObject (List ConnectAbilitySession)}
  {t : Map Int Nat} {connect : RemoteObject} {l l' : List ConnectAbilitySession}

/-- Writing sessions of the owner at a connect. -/
theorem sessions_insert (h : CountedOf caller m t) (hl : SessionsOf (caller connect) l)
    (c : RemoteObject) (x : List ConnectAbilitySession)
    (hx : (m.insert connect l)[c]? = some x) : SessionsOf (caller c) x := by
  rw [ExtTreeMap.getElem?_insert] at hx
  split at hx
  · rename_i hc
    obtain rfl := Std.LawfulEqOrd.eq_of_compare hc
    obtain rfl := Option.some.inj hx
    exact hl
  · exact h.sessions c x hx

theorem insert_new (h : CountedOf caller m t) (hk : m[connect]? = none)
    (hl : SessionsOf (caller connect) l) (hu : 0 ≤ (caller connect).uid) :
    CountedOf caller (m.insert connect l) (t.bump (caller connect).uid) where
  counted := by
    rw [← hl.getUidLocked_eq] at hu ⊢
    exact h.counted.insert_new hk hl.nonempty hu
  sessions := h.sessions_insert hl

theorem replace (h : CountedOf caller m t) (hk : m[connect]? = some l')
    (hl : SessionsOf (caller connect) l) : CountedOf caller (m.insert connect l) t where
  counted := h.counted.replace hk hl.nonempty
    (hl.getUidLocked_eq.trans (h.sessions connect l' hk).getUidLocked_eq.symm)
  sessions := h.sessions_insert hl

theorem erase (h : CountedOf caller m t) (hk : m[connect]? = some l) {uid : Int}
    (hu : uid = getUidLocked l) :
    CountedOf caller (m.erase connect) (decreaseConnectLocked t uid).1 ∧
      (decreaseConnectLocked t uid).2 = [.decreaseConnect uid true] := by
  obtain ⟨hc, he⟩ := h.counted.erase hk hu
  refine ⟨⟨hc, fun c x hx => ?_⟩, he⟩
  rw [ExtTreeMap.getElem?_erase] at hx
  split at hx
  · cases hx
  · exact h.sessions c x hx

end CountedOf

/-! ### The operations -/

/-- The operations on the caller's side of connections. -/
inductive ConnectOp where
  | mapping (connect : Option RemoteObject) (localDeviceId remoteDeviceId : String)
      (element : ElementName) (callerInfo : CallerInfo) (targetComponent : TargetComponent)
  | disconnect (env : Env) (connect : Option RemoteObject)
  | deviceOffline (env : Env) (deviceId : String)
  | connectDied (env : Env) (connect : Option RemoteObject)

namespace ConnectOp

def apply (s : DistributedSchedService) : ConnectOp → DistributedSchedService × List Effect
  | mapping connect localDeviceId remoteDeviceId element callerInfo targetComponent =>
    s.remoteConnectAbilityMappingLocked connect localDeviceId remoteDeviceId element callerInfo
      targetComponent
  | disconnect env connect =>
    ((s.disconnectRemoteAbility env connect).service,
      (s.disconnectRemoteAbility env connect).effects)
  | deviceOffline env deviceId => s.processDeviceOffline env deviceId
  | connectDied env connect => s.processConnectDied env connect

/-- A connect object is presented with the caller info of its owner, whose uid is not
negative. -/
def Presented (caller : RemoteObject → CallerInfo) : ConnectOp → Prop
  | mapping connect _ _ _ callerInfo _ =>
    0 ≤ callerInfo.uid ∧ ∀ c, connect = some c → callerInfo = caller c
  | _ => True

end ConnectOp

variable {caller : RemoteObject → CallerInfo} {s : DistributedSchedService} {env : Env}

/-- The two tables of a service are in step. -/
abbrev DistributedSchedService.Counts (caller : RemoteObject → CallerInfo)
    (s : DistributedSchedService) : Prop :=
  CountedOf caller s.distributedConnectAbilityMap s.trackingUidMap

theorem mapping_counted (h : s.Counts caller) {connect : Option RemoteObject}
    {localDeviceId remoteDeviceId : String} {element : ElementName} {callerInfo : CallerInfo}
    {targetComponent : TargetComponent} (hu : 0 ≤ callerInfo.uid)
    (hc : ∀ c, connect = some c → callerInfo = caller c) :
    let r := s.remoteConnectAbilityMappingLocked connect localDeviceId remoteDeviceId element
      callerInfo targetComponent
    r.1.Counts caller ∧ NoUntracked r.2 := by
  cases connect with
  | none => exact ⟨h, noUntracked_nil⟩
  | some c =>
      obtain rfl := hc c rfl
      simp only [remoteConnectAbilityMappingLocked]
      cases hk : s.distributedConnectAbilityMap[c]? with
      | none => exact ⟨h.insert_new hk (.add (.inl rfl)) hu, by simp⟩
      | some l => exact ⟨h.replace hk (.add (.inr (h.sessions c l hk))), noUntracked_nil⟩

theorem disconnect_counted (h : s.Counts caller) (connect : Option RemoteObject) :
    let r := s.disconnectRemoteAbility env connect
    r.service.Counts caller ∧ NoUntracked r.effects := by
  cases connect with
  | none => exact ⟨h, noUntracked_nil⟩
  | some c =>
      simp only [disconnectRemoteAbility]
      cases hk : s.distributedConnectAbilityMap[c]? with
      | none => exact ⟨h, noUntracked_nil⟩
      | some l =>
          obtain ⟨he, hd⟩ := h.erase hk rfl
          cases l with
          | nil => exact absurd rfl (h.sessions c [] hk).nonempty
          | cons session l =>
              refine ⟨he, ?_⟩
              simp only [hd, noUntracked_append, noUntracked_cons, noUntracked_nil,
                noUntracked_report]
              refine ⟨⟨by simp, trivial⟩, noUntracked_flatMap fun session _ => ?_⟩
              unfold disconnectEachRemoteAbilityLocked
              split <;> simp

/-- One round of `ProcessDeviceOffline`. -/
theorem offlineDistributedConnect_counted {listener : Option RemoteObject} {deviceId : String}
    {acc : Map Int Nat × List Effect} {m : Map RemoteObject (List ConnectAbilitySession)}
    {connect : RemoteObject} {l : List ConnectAbilitySession} (hk : m[connect]? = some l)
    (h : CountedOf caller m acc.1 ∧ NoUntracked acc.2) :
    let r := offlineDistributedConnect env listener deviceId acc connect l
    CountedOf caller (m.put connect r.2) r.1.1 ∧ NoUntracked r.1.2 := by
  obtain ⟨h, hn⟩ := h
  have hs := h.sessions connect l hk
  have hnotified : ∀ session, NoUntracked (notifyDeviceOfflineToAppLocked env connect session) :=
    fun session => noUntracked_flatMap fun element _ => by unfold notifyApp; split <;> simp
  simp only [offlineDistributedConnect]
  by_cases he : (l.eraseP fun session => session.destinationDeviceId = deviceId).isEmpty
  · obtain ⟨hd, hu⟩ := h.erase hk rfl
    rw [if_pos he]
    refine ⟨hd, ?_⟩
    simp only [hu, noUntracked_append, noUntracked_cons, noUntracked_nil, noUntracked_report]
    refine ⟨⟨⟨⟨hn, ?_⟩, by simp⟩, by simp⟩, trivial⟩
    split
    · exact hnotified _
    · exact noUntracked_nil
  · rw [if_neg he]
    refine ⟨h.replace hk (hs.eraseP fun hnil => he (by rw [hnil]; rfl)), ?_⟩
    refine noUntracked_append.mpr ⟨hn, ?_⟩
    split
    · exact hnotified _
    · exact noUntracked_nil

theorem deviceOffline_counted (h : s.Counts caller) (deviceId : String) :
    let r := s.processDeviceOffline env deviceId
    r.1.Counts caller ∧ NoUntracked r.2 := by
  simp only [processDeviceOffline]
  cases env.checkedLocalId deviceId with
  | none => exact ⟨h, noUntracked_nil⟩
  | some localDeviceId =>
      obtain ⟨hd, hn⟩ := ExtTreeMap.walk_induction
        (f := offlineDistributedConnect env s.distributedComponentListener deviceId)
        (P := fun acc m => CountedOf caller m acc.1 ∧ NoUntracked acc.2)
        (s := (s.trackingUidMap, []))
        ⟨h, noUntracked_nil⟩
        fun acc m connect l _ hk h => offlineDistributedConnect_counted hk h
      -- the other three tables leave the caller's side alone
      refine ⟨hd, ?_⟩
      simp only [noUntracked_append]
      refine ⟨⟨⟨hn, fun uid hu => ?_⟩, fun uid hu => ?_⟩, fun uid hu => ?_⟩
      · rcases mem_disconnectEntries _ _ _ _ hu with ⟨_, h⟩ | ⟨_, _, h, -⟩ <;> cases h
      · rcases mem_processCalleeOffline _ _ _ hu with ⟨_, h⟩ | ⟨_, _, h, -⟩ <;> cases h
      · obtain ⟨_, _, h⟩ := DmsCallbackTask.mem_notifyDeviceOffline _ hu
        cases h

/-- One round of `ProcessConnectDied`: the counter goes by the uid of the caller that died,
which is the uid of every connect that is erased. -/
theorem connectDied_counted {listener : Option RemoteObject} {callerInfo : CallerInfo}
    {acc : ConnectDiedAcc} {m : Map RemoteObject (List ConnectAbilitySession)}
    {connect : RemoteObject} {l : List ConnectAbilitySession} (hk : m[connect]? = some l)
    (h : CountedOf caller m acc.trackingUidMap ∧ NoUntracked acc.effects) :
    let r := connectDied listener callerInfo acc connect l
    CountedOf caller (m.put connect r.2) r.1.trackingUidMap ∧ NoUntracked r.1.effects := by
  obtain ⟨h, hn⟩ := h
  have hs := h.sessions connect l hk
  cases l with
  | nil => exact absurd rfl hs.nonempty
  | cons session l =>
      simp only [connectDied]
      by_cases hc : session.isSameCaller callerInfo
      · have hu : callerInfo.uid = getUidLocked (session :: l) := by
          simp only [isSameCaller, Bool.and_eq_true, decide_eq_true_eq] at hc
          exact hc.1.1.1
        obtain ⟨ht, he⟩ := foldl_addProcessDiedNotify callerInfo (session :: l) acc
        obtain ⟨hd, hdu⟩ := h.erase hk hu
        rw [if_pos hc]
        simp only [ht, he]
        refine ⟨hd, ?_⟩
        simp only [hdu, noUntracked_append, noUntracked_cons, noUntracked_nil,
          noUntracked_report]
        exact ⟨⟨⟨hn, by simp⟩, by simp⟩, trivial⟩
      · rw [if_neg hc]
        exact ⟨h.replace hk hs, hn⟩

theorem connectDied_op_counted (h : s.Counts caller) (connect : Option RemoteObject) :
    let r := s.processConnectDied env connect
    r.1.Counts caller ∧ NoUntracked r.2 := by
  unfold processConnectDied
  split
  · exact ⟨h, noUntracked_nil⟩
  · exact ⟨h, noUntracked_nil⟩
  · rename_i session l _
    obtain ⟨hd, hn⟩ := ExtTreeMap.walk_induction
      (f := connectDied s.distributedComponentListener session.callerInfo)
      (P := fun acc m => CountedOf caller m acc.trackingUidMap ∧ NoUntracked acc.effects)
      (s := { trackingUidMap := s.trackingUidMap }) ⟨h, noUntracked_nil⟩
      fun acc m connect l _ hk h => connectDied_counted hk h
    refine ⟨hd, noUntracked_append.mpr ⟨hn, noUntracked_flatMap fun info _ => ?_⟩⟩
    unfold notifyProcessDied
    split <;> simp

/-- Each operation keeps the two tables in step, and decreases tracked uids only. -/
theorem ConnectOp.apply_counted (h : s.Counts caller) {op : ConnectOp}
    (hp : op.Presented caller) :
    (op.apply s).1.Counts caller ∧ NoUntracked (op.apply s).2 := by
  cases op with
  | mapping connect localDeviceId remoteDeviceId element callerInfo targetComponent =>
      exact mapping_counted h hp.1 hp.2
  | disconnect env connect => exact disconnect_counted h connect
  | deviceOffline env deviceId => exact deviceOffline_counted h deviceId
  | connectDied env connect => exact connectDied_op_counted h connect

/-- **The counter is exact.**  In every run from empty tables, every list of sessions is not
empty, its sessions are with different devices, and their elements are there once; the counter
of each uid is the number of connect objects whose sessions carry it; no entry of the counter
is zero; and `DecreaseConnectLocked` is called on tracked uids only. -/
theorem counter_exact {s₀ s : DistributedSchedService} {es : List Effect}
    (hm : s₀.distributedConnectAbilityMap = ∅) (ht : s₀.trackingUidMap = ∅)
    (h : Runs.Reach (Runs.traced ConnectOp.apply) (fun _ op => op.Presented caller)
      (s₀, []) (s, es)) :
    (∀ (connect : RemoteObject) (l : List ConnectAbilitySession),
      s.distributedConnectAbilityMap[connect]? = some l →
      l ≠ [] ∧ (l.map (·.destinationDeviceId)).Nodup ∧
        ∀ session ∈ l, session.elementsList ≠ [] ∧ session.elementsList.Nodup) ∧
    (∀ uid, s.trackingUidMap.tally uid =
      s.distributedConnectAbilityMap.count fun _ l =>
        l.any fun session => session.callerInfo.uid = uid) ∧
    (∀ (uid : Int) (n : Nat), s.trackingUidMap[uid]? = some n → n ≠ 0) ∧
    ∀ uid, Effect.decreaseConnect uid false ∉ es := by
  have hinv : s.Counts caller ∧ NoUntracked es := by
    refine h.invariant (P := fun x => x.1.Counts caller ∧ NoUntracked x.2) ?_ ?_
    · refine ⟨?_, noUntracked_nil⟩
      rw [Counts, hm, ht]
      exact ⟨.empty, fun c l hk => by simp at hk⟩
    · rintro ⟨s, es⟩ op s' ⟨hs, hn⟩ hp hstep
      obtain rfl := Option.some.inj hstep
      obtain ⟨hs', hn'⟩ := ConnectOp.apply_counted hs hp
      exact ⟨hs', noUntracked_append.mpr ⟨hn, hn'⟩⟩
  obtain ⟨hs, hn⟩ := hinv
  refine ⟨fun connect l hk => ?_, fun uid => ?_, hs.counted.tallies.nonzero, hn⟩
  · have hl := hs.sessions connect l hk
    exact ⟨hl.nonempty, hl.devices, hl.elements⟩
  · rw [hs.counted.tallies.agree]
    refine ExtTreeMap.count_congr fun connect l hk => ?_
    rw [(hs.sessions connect l hk).any_uid, (hs.sessions connect l hk).getUidLocked_eq]

/-- Two connects of one uid, of which one is disconnected. -/
theorem counter_exact_disconnect :
    let owner : CallerInfo := { uid := 5 }
    let s := (ConnectOp.mapping (some 1) "A" "B" {} owner .harmonyComponent).apply {}
    let s' := (ConnectOp.mapping (some 2) "A" "B" {} owner .harmonyComponent).apply s.1
    let s'' := (ConnectOp.disconnect {} (some 1)).apply s'.1
    s''.1.trackingUidMap.tally 5 = s''.1.distributedConnectAbilityMap.count
      fun _ l => l.any fun session => session.callerInfo.uid = 5 :=
  (@counter_exact (fun _ => { uid := 5 }) {} _ _ rfl rfl
    (.next (.next (.next .init (l := .mapping (some 1) "A" "B" {} { uid := 5 } .harmonyComponent)
      ⟨by decide, fun _ _ => rfl⟩ rfl) (l := .mapping (some 2) "A" "B" {} { uid := 5 }
      .harmonyComponent) ⟨by decide, fun _ _ => rfl⟩ rfl) (l := .disconnect {} (some 1)) trivial
      rfl)).2.1 5

end DistributedSched

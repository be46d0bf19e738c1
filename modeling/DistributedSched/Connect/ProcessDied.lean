import DistributedSched.Connect.Death
import DistributedSched.Connect.Offline
import DistributedSched.Wire.Messages

/-!
# Connect — a calling process dies

`ProcessConnectDied` goes by four fields of the first session of a connect: uid, pid, source
device and caller type.  The sessions of a connect are its owner's, so the connects it takes out
are those of the process, and each device they have a session with is told once.  The message
carries three of the fields; the callee's stub puts the fourth back.

* `DiedCleans`: what a run does on the caller's device.
* `CalleeCleans`: what a callee does with the message, by the callers whose connects made its
  entries (`Callee`).
* `process_died_cleans`: both hold in every state that a run of the services reaches.
-/

namespace DistributedSched

open Std (ExtTreeMap)
open DistributedSchedService

variable {caller : RemoteObject → CallerInfo} {env : Env} {s : DistributedSchedService}

/-! ### The caller's device -/

/-- What a run of `ProcessConnectDied` does, when the process of `callerInfo` died. -/
structure DiedCleans (callerInfo : CallerInfo) (s s' : DistributedSchedService)
    (es : List Effect) : Prop where
  /-- the connects of the process go -/
  removed : ∀ (c : RemoteObject) (l : List ConnectAbilitySession),
    s.distributedConnectAbilityMap[c]? = some l →
    (s'.distributedConnectAbilityMap[c]? = none ↔
      ∀ session ∈ l, session.callerInfo.process = callerInfo.process)
  /-- a connect that stays keeps its sessions, of which none is of the process -/
  stays : ∀ (c : RemoteObject) (l : List ConnectAbilitySession),
    s'.distributedConnectAbilityMap[c]? = some l →
    s.distributedConnectAbilityMap[c]? = some l ∧
      ∀ session ∈ l, session.callerInfo.process ≠ callerInfo.process
  /-- the count of the uid is lower by the keys that went -/
  counter : ∀ uid, s.trackingUidMap.tally uid = s'.trackingUidMap.tally uid +
    if uid = callerInfo.uid then
      s.distributedConnectAbilityMap.count fun c _ => s'.distributedConnectAbilityMap[c]?.isNone
    else 0
  counterNonzero : ∀ (uid : Int) (n : Nat), s'.trackingUidMap[uid]? = some n → n ≠ 0
  /-- each device of a session that went is told once, and no other is -/
  told : ∀ session,
    TakenOut s.distributedConnectAbilityMap s'.distributedConnectAbilityMap session →
    es.count (.rpc session.destinationDeviceId (.notifyProcessDiedFromRemote callerInfo)) = 1
  onlyTold : ∀ deviceId call, Effect.rpc deviceId call ∈ es →
    call = .notifyProcessDiedFromRemote callerInfo ∧ ∃ session,
      TakenOut s.distributedConnectAbilityMap s'.distributedConnectAbilityMap session ∧
        session.destinationDeviceId = deviceId
  kept : s' = { s with
    distributedConnectAbilityMap := s'.distributedConnectAbilityMap
    trackingUidMap := s'.trackingUidMap }

theorem frontProcess_of_sessions {callerInfo : CallerInfo} {l : List ConnectAbilitySession}
    (h : SessionsOf callerInfo l) : frontProcess l = some callerInfo.process := by
  cases l with
  | nil => exact absurd rfl h.nonempty
  | cons session l =>
      exact congrArg some (congrArg CallerInfo.process (h.caller session List.mem_cons_self))

/-- The connects that stay are those of other processes. -/
theorem connectDied_getElem? (h : s.Counts caller) {c : RemoteObject}
    {l : List ConnectAbilitySession} (hk : s.distributedConnectAbilityMap[c]? = some l)
    (c' : RemoteObject) :
    (s.processConnectDied env (some c)).1.distributedConnectAbilityMap[c']? =
      s.distributedConnectAbilityMap[c']?.bind fun x =>
        if (caller c').process = (caller c).process then none else some x := by
  have hsessions := h.sessions c l hk
  cases l with
  | nil => exact absurd rfl hsessions.nonempty
  | cons session l =>
      have hown : session.callerInfo = caller c := hsessions.caller session List.mem_cons_self
      rw [processConnectDied_getElem? hk, hown]
      cases hk' : s.distributedConnectAbilityMap[c']? with
      | none => rfl
      | some x =>
          have hfront := frontProcess_of_sessions (h.sessions c' x hk')
          by_cases hp : (caller c').process = (caller c).process
          · simp [hfront, hp]
          · simp [hfront, hp]

/-- The walk makes no request. -/
theorem rpc_not_mem_walk (listener : Option RemoteObject) (callerInfo : CallerInfo)
    (m : Map RemoteObject (List ConnectAbilitySession)) (t : Map Int Nat) (deviceId : String)
    (call : RemoteCall) :
    Effect.rpc deviceId call ∉
      (m.walk (connectDied listener callerInfo) { trackingUidMap := t }).1.effects := by
  refine ExtTreeMap.walk_acc (Q := fun acc : ConnectDiedAcc =>
    Effect.rpc deviceId call ∉ acc.effects) (by simp) fun acc c l _ ih => ?_
  cases l with
  | nil => exact ih
  | cons session l =>
      simp only [connectDied]
      split
      · simp only [decreaseConnectLocked_effects, (foldl_addProcessDiedNotify _ _ acc).2,
          List.mem_append, List.mem_singleton, reduceCtorEq, or_false,
          CallerInfo.mem_reportDistributedComponentChange, and_false]
        exact ih
      · exact ih

theorem notifyProcessDiedAll_eq {list : List ProcessDiedNotifyInfo}
    (h : ∀ info ∈ list, env.getRemoteDms info.remoteDeviceId = true) :
    notifyProcessDiedAll env list = list.map fun info =>
      .rpc info.remoteDeviceId (.notifyProcessDiedFromRemote info.callerInfo) := by
  induction list with
  | nil => rfl
  | cons info list ih =>
      have hrest := ih fun x hx => h x (List.mem_cons_of_mem _ hx)
      rw [notifyProcessDiedAll, List.flatMap_cons, notifyProcessDied,
        if_pos (h info List.mem_cons_self), List.map_cons, ← hrest]
      rfl

/-- The counter follows the keys that go. -/
theorem connectDied_counter (h : s.Counts caller) {c : RemoteObject}
    {l : List ConnectAbilitySession} (hk : s.distributedConnectAbilityMap[c]? = some l)
    (uid : Int) :
    s.trackingUidMap.tally uid = (s.processConnectDied env (some c)).1.trackingUidMap.tally uid +
      if uid = (caller c).uid then
        s.distributedConnectAbilityMap.count fun c' _ =>
          (s.processConnectDied env (some c)).1.distributedConnectAbilityMap[c']?.isNone
      else 0 := by
  have hs' : (s.processConnectDied env (some c)).1.Counts caller :=
    (connectDied_op_counted h (some c)).1
  rw [h.counted.tallies.agree, hs'.counted.tallies.agree,
    ExtTreeMap.count_of_getElem? (connectDied_getElem? h hk),
    ExtTreeMap.count_split _ fun c' _ => (caller c').process ≠ (caller c).process]
  congr 1
  · refine ExtTreeMap.count_congr fun c' x hk' => ?_
    by_cases hp : (caller c').process = (caller c).process
    · simp [hp]
    · simp [hp]
  · by_cases hu : uid = (caller c).uid
    · rw [if_pos hu]
      refine ExtTreeMap.count_congr fun c' x hk' => ?_
      rw [connectDied_getElem? h hk, hk', (h.sessions c' x hk').getUidLocked_eq]
      by_cases hp : (caller c').process = (caller c).process
      · have huid : (caller c').uid = (caller c).uid := congrArg Prod.fst hp
        simp [hp, huid, hu]
      · simp [hp]
    · rw [if_neg hu]
      refine ExtTreeMap.count_eq_zero.mpr fun c' x hk' => ?_
      rw [(h.sessions c' x hk').getUidLocked_eq]
      by_cases hp : (caller c').process = (caller c).process
      · have huid : (caller c').uid = (caller c).uid := congrArg Prod.fst hp
        simp [huid, Ne.symm hu]
      · simp [hp]

/-- A run makes one request to each device of a session that goes. -/
theorem connectDied_requests (h : s.Counts caller) {c : RemoteObject}
    {l : List ConnectAbilitySession} (hk : s.distributedConnectAbilityMap[c]? = some l)
    (hg : ∀ (c' : RemoteObject) (x : List ConnectAbilitySession),
      s.distributedConnectAbilityMap[c']? = some x → ∀ session ∈ x,
      env.getRemoteDms session.destinationDeviceId = true) :
    ∃ (effects : List Effect) (devices : List String),
      (s.processConnectDied env (some c)).2 = effects ++ devices.map
        (fun deviceId => .rpc deviceId (.notifyProcessDiedFromRemote (caller c))) ∧
      (∀ deviceId call, Effect.rpc deviceId call ∉ effects) ∧ devices.Nodup ∧
      ∀ deviceId, deviceId ∈ devices ↔ ∃ session, TakenOut s.distributedConnectAbilityMap
        (s.processConnectDied env (some c)).1.distributedConnectAbilityMap session ∧
          session.destinationDeviceId = deviceId := by
  obtain ⟨first, rest, rfl⟩ := List.exists_cons_of_ne_nil (h.sessions c l hk).nonempty
  have hown : first.callerInfo = caller c := (h.sessions c _ hk).caller first List.mem_cons_self
  have htells := walk_connectDied_tells s.distributedComponentListener first.callerInfo
    s.distributedConnectAbilityMap s.trackingUidMap
  have hmap : (s.processConnectDied env (some c)).1.distributedConnectAbilityMap =
      (s.distributedConnectAbilityMap.walk (connectDied s.distributedComponentListener
        first.callerInfo) { trackingUidMap := s.trackingUidMap }).2 := by
    simp only [processConnectDied, Option.bind_some, hk]
  simp only [← hmap] at htells
  have hrpc := rpc_not_mem_walk s.distributedComponentListener first.callerInfo
    s.distributedConnectAbilityMap s.trackingUidMap
  generalize hacc : (s.distributedConnectAbilityMap.walk (connectDied
    s.distributedComponentListener first.callerInfo) { trackingUidMap := s.trackingUidMap }).1 =
      acc at htells hrpc
  have hall : ∀ info ∈ acc.notifyList, env.getRemoteDms info.remoteDeviceId = true := by
    intro info hi
    obtain ⟨session, ⟨c', x, hk', -, hs⟩, hd⟩ :=
      (htells.devices info.remoteDeviceId).mp (List.mem_map_of_mem hi)
    rw [← hd]
    exact hg c' x hk' session hs
  refine ⟨acc.effects, acc.notifyList.map (·.remoteDeviceId), ?_, hrpc, htells.nodup,
    htells.devices⟩
  simp only [processConnectDied, Option.bind_some, hk, hacc]
  rw [notifyProcessDiedAll_eq hall, List.map_map]
  congr 1
  refine List.map_congr_left fun info hi => ?_
  rw [htells.caller info hi, hown]
  rfl

theorem processConnectDied_cleans (h : s.Counts caller) {c : RemoteObject}
    {l : List ConnectAbilitySession} (hk : s.distributedConnectAbilityMap[c]? = some l)
    (hg : ∀ (c' : RemoteObject) (x : List ConnectAbilitySession),
      s.distributedConnectAbilityMap[c']? = some x → ∀ session ∈ x,
      env.getRemoteDms session.destinationDeviceId = true) :
    DiedCleans (caller c) s (s.processConnectDied env (some c)).1
      (s.processConnectDied env (some c)).2 := by
  have hs' : (s.processConnectDied env (some c)).1.Counts caller :=
    (connectDied_op_counted h (some c)).1
  have hget : ∀ c' : RemoteObject,
      (s.processConnectDied env (some c)).1.distributedConnectAbilityMap[c']? =
        s.distributedConnectAbilityMap[c']?.bind fun x =>
          if (caller c').process = (caller c).process then none else some x :=
    connectDied_getElem? h hk
  obtain ⟨effects, devices, hes, hrpc, hnodup, hdevices⟩ := connectDied_requests h hk hg
  exact {
    removed := by
      intro c' x hk'
      have hx := h.sessions c' x hk'
      rw [hget, hk', Option.bind_some]
      constructor
      · intro hn session hs
        rw [hx.caller session hs]
        by_contra hne
        rw [if_neg hne] at hn
        cases hn
      · intro hall
        obtain ⟨session, hs⟩ := List.exists_mem_of_ne_nil x hx.nonempty
        have hp := hall session hs
        rw [hx.caller session hs] at hp
        exact if_pos hp
    stays := by
      intro c' x hk'
      rw [hget] at hk'
      obtain ⟨y, hy, hif⟩ := Option.bind_eq_some_iff.mp hk'
      split at hif
      · cases hif
      · rename_i hne
        obtain rfl := Option.some.inj hif
        refine ⟨hy, fun session hs => ?_⟩
        rw [(h.sessions c' y hy).caller session hs]
        exact hne
    counter := connectDied_counter h hk
    counterNonzero := hs'.counted.tallies.nonzero
    told := by
      intro session hs
      have hinj : Function.Injective fun deviceId => Effect.rpc deviceId
          (.notifyProcessDiedFromRemote (caller c)) := by
        intro x y hxy
        cases hxy
        rfl
      have hmem : session.destinationDeviceId ∈ devices := (hdevices _).mpr ⟨session, hs, rfl⟩
      rw [hes, List.count_append, List.count_eq_zero.mpr (hrpc _ _), Nat.zero_add]
      exact List.count_eq_one_of_mem (hnodup.map hinj) (List.mem_map_of_mem hmem)
    onlyTold := by
      intro deviceId call hm
      rw [hes] at hm
      obtain hm | hm := List.mem_append.mp hm
      · exact absurd hm (hrpc _ _)
      · obtain ⟨d, hd, he⟩ := List.mem_map.mp hm
        cases he
        exact ⟨rfl, (hdevices deviceId).mp hd⟩
    kept := by
      obtain ⟨m, t, he⟩ := s.processConnectDied_leaves env (some c)
      rw [he] }

/-! ### The caller type -/

section keys

variable {c : RemoteObject}

theorem disconnectRemoteAbility_noKey {connect : Option RemoteObject}
    (hn : s.distributedConnectAbilityMap[c]? = none) :
    (s.disconnectRemoteAbility env connect).service.distributedConnectAbilityMap[c]? = none := by
  cases connect with
  | none => exact hn
  | some c' =>
      simp only [disconnectRemoteAbility]
      cases hk : s.distributedConnectAbilityMap[c']? with
      | none => exact hn
      | some l =>
          have herase : (s.distributedConnectAbilityMap.erase c')[c]? = none := by
            rw [ExtTreeMap.getElem?_erase]
            split
            · rfl
            · exact hn
          cases l with
          | nil => exact herase
          | cons session l => exact herase

theorem processConnectDied_noKey {connect : Option RemoteObject}
    (hn : s.distributedConnectAbilityMap[c]? = none) :
    (s.processConnectDied env connect).1.distributedConnectAbilityMap[c]? = none := by
  simp only [processConnectDied]
  split
  · exact hn
  · exact hn
  · exact ExtTreeMap.walk_getElem?_none hn

theorem processDeviceOffline_noKey {deviceId : String}
    (hn : s.distributedConnectAbilityMap[c]? = none) :
    (s.processDeviceOffline env deviceId).1.distributedConnectAbilityMap[c]? = none := by
  simp only [processDeviceOffline]
  split
  · exact hn
  · exact ExtTreeMap.walk_getElem?_none hn

end keys

/-- A new key is the connect of a request. -/
theorem ReportOp.apply_key {op : ReportOp} {c : RemoteObject} {l : List ConnectAbilitySession}
    (hk : (op.apply s).1.distributedConnectAbilityMap[c]? = some l) :
    s.distributedConnectAbilityMap[c]? ≠ none ∨
      ∃ env replies want connect callerUid callerPid accessToken callerInfo accountInfo,
        op = .connectRemote env replies want connect callerUid callerPid accessToken ∧
        s.connectRequest env want connect callerUid callerPid accessToken =
          .ok (c, callerInfo, accountInfo) := by
  by_cases hrole : op.role = none ∨ op.role = some (.connect, .caller)
  · cases op with
    | connectRemote env replies want connect callerUid callerPid accessToken =>
        simp only [apply, left, connectRemoteAbility_eq] at hk
        cases hr : s.connectRequest env want connect callerUid callerPid accessToken with
        | error code =>
            rw [hr] at hk
            exact .inl (by rw [hk]; simp)
        | ok request =>
            obtain ⟨c', callerInfo, accountInfo⟩ := request
            simp only [hr] at hk
            split at hk
            · rw [remoteConnectAbilityMappingLocked_map] at hk
              by_cases hc : c' = c
              · subst hc
                exact .inr ⟨env, replies, want, connect, callerUid, callerPid, accessToken,
                  callerInfo, accountInfo, rfl, hr⟩
              · rw [ExtTreeMap.getElem?_insert_of_ne hc] at hk
                exact .inl (by rw [hk]; simp)
            · exact .inl (by rw [hk]; simp)
    | disconnectRemote env connect =>
        refine .inl fun hn => ?_
        have hk : (s.disconnectRemoteAbility env connect).service.distributedConnectAbilityMap[c]? =
          some l := hk
        rw [disconnectRemoteAbility_noKey hn] at hk
        cases hk
    | connectDied env connect =>
        refine .inl fun hn => ?_
        have hk : (s.processConnectDied env connect).1.distributedConnectAbilityMap[c]? =
          some l := hk
        rw [processConnectDied_noKey hn] at hk
        cases hk
    | deviceOffline env deviceId =>
        refine .inl fun hn => ?_
        have hk : (s.processDeviceOffline env deviceId).1.distributedConnectAbilityMap[c]? =
          some l := hk
        rw [processDeviceOffline_noKey hn] at hk
        cases hk
    | callerDied env connect deviceType => cases deviceType <;> simp [role] at hrole
    | _ => simp [role] at hrole
  · obtain ⟨role, hr⟩ := Option.ne_none_iff_exists'.mp fun hn => hrole (.inl hn)
    have hne : role ≠ (.connect, .caller) := fun he => hrole (.inr (he ▸ hr))
    rw [((apply_leaves (s := s) hr).connects hne).1] at hk
    exact .inl (by rw [hk]; simp)

/-- The owner of a connect is a caller as `ConnectRemoteAbility` makes it. -/
theorem reach_callerType
    (h : Runs.Reach ServiceStep.apply (ServiceStep.Presented caller) {} s) {c : RemoteObject}
    {l : List ConnectAbilitySession} (hk : s.distributedConnectAbilityMap[c]? = some l) :
    (caller c).callerType = callerTypeHarmony := by
  refine h.invariant (P := fun s => ∀ (c : RemoteObject) (l : List ConnectAbilitySession),
    s.distributedConnectAbilityMap[c]? = some l → (caller c).callerType = callerTypeHarmony)
    (fun c l hk => by simp at hk) (fun s step s' hi hp hs c l hk => ?_) c l hk
  cases step with
  | tables op =>
      obtain rfl := Option.some.inj hs
      rcases ReportOp.apply_key hk with hold | ⟨env, replies, want, connect, callerUid, callerPid,
        accessToken, callerInfo, accountInfo, rfl, hr⟩
      · obtain ⟨l', hl'⟩ := Option.ne_none_iff_exists'.mp hold
        exact hi c l' hl'
      · rw [← hp c callerInfo accountInfo hr]
        exact (s.connectRequest_ok env hr).2.2.1
  | other listener dmsCallbackTask dschedContinuation newObjects =>
      obtain rfl := Option.some.inj hs
      exact hi c l hk

/-! ### The callee's device -/

/-- The service of a callee, and for each entry of its table the caller whose connect made it. -/
structure Callee where
  service : DistributedSchedService := {}
  creators : Map RemoteObject CallerInfo := ∅

namespace Callee

/-- The creators after a step that left `s'`. -/
def created (b : Callee) (s' : DistributedSchedService) : ServiceStep → Map RemoteObject CallerInfo
  | .tables (.connectFromRemote _ _ (some connect) callerInfo _) =>
    if b.service.connectAbilityMap[connect]? = none ∧ s'.connectAbilityMap[connect]? ≠ none then
      b.creators.insert connect callerInfo
    else b.creators
  | _ => b.creators

def step (b : Callee) (step : ServiceStep) : Option Callee :=
  (step.apply b.service).map fun s' => { service := s', creators := b.created s' step }

end Callee

/-- A connect that reaches a callee was made by `ConnectRemoteAbility` of its caller's device. -/
def ServiceStep.Sent : ServiceStep → Prop
  | tables (.connectFromRemote _ _ _ callerInfo _) => callerInfo.callerType = callerTypeHarmony
  | _ => True

/-- Every entry has the caller info that the stub rebuilt of its creator. -/
structure Callee.Inv (b : Callee) : Prop where
  creator : ∀ (c : RemoteObject) (connectInfo : ConnectInfo),
    b.service.connectAbilityMap[c]? = some connectInfo →
    ∃ callerInfo, b.creators[c]? = some callerInfo ∧
      callerInfo.callerType = callerTypeHarmony ∧ connectInfo.callerInfo = callerInfo.ofConnect
  wrappers : WrappersOwned b.service.connectAbilityMap b.service.newObject

/-- A connect adds an entry for its object and its caller, or none. -/
theorem DistributedSchedService.connectAbilityFromRemote_entries (env : Env)
    (s : DistributedSchedService) {callerInfo : CallerInfo}
    (ht : callerInfo.callerType = callerTypeHarmony) (want : Want)
    (connect : Option RemoteObject) (accountInfo : AccountInfo) :
    let o := s.connectAbilityFromRemote env want connect callerInfo accountInfo
    o.service.connectAbilityMap = s.connectAbilityMap ∨ ∃ c connectInfo, connect = some c ∧
      s.connectAbilityMap[c]? = none ∧ connectInfo.callerInfo = callerInfo ∧
      o.service.connectAbilityMap = s.connectAbilityMap.insert c connectInfo := by
  rcases s.connectAbilityFromRemote_cases env want connect callerInfo accountInfo with
    ⟨code, -, h⟩ | ⟨c, localDeviceId, hc, -, -, h⟩
  · simp only [h]
    exact .inl trivial
  · simp only [h]
    obtain ⟨hfail, hok⟩ := s.connectChecked_harmony env ht want c
    by_cases hr : (s.connectChecked env want c callerInfo).result = errOk
    · rw [hok hr]
      cases hk : s.connectAbilityMap[c]? with
      | some old => exact .inl (ExtTreeMap.insertIfNew_eq_self hk _)
      | none =>
          exact .inr ⟨c, _, hc, hk, rfl, ExtTreeMap.insertIfNew_eq_insert hk _⟩
    · exact .inl (hfail hr)

theorem Callee.Inv.step {b b' : Callee} {step : ServiceStep} (h : b.Inv) (hsent : step.Sent)
    (hs : b.step step = some b') : b'.Inv := by
  obtain ⟨s', happly, rfl⟩ := Option.map_eq_some_iff.mp hs
  cases step with
  | other listener dmsCallbackTask dschedContinuation newObjects =>
      obtain rfl := Option.some.inj happly
      exact ⟨h.creator, h.wrappers.of_subset (Nat.le_add_right ..) fun _ _ hk => hk⟩
  | tables op =>
      obtain rfl := Option.some.inj happly
      refine ⟨fun c connectInfo hk => ?_, op.apply_wrappers h.wrappers⟩
      by_cases hop : ∃ env want connect callerInfo accountInfo,
          op = .connectFromRemote env want connect callerInfo accountInfo
      · obtain ⟨env, want, connect, callerInfo, accountInfo, rfl⟩ := hop
        simp only [ReportOp.apply, ReportOp.left] at hk ⊢
        rcases b.service.connectAbilityFromRemote_entries env callerInfo.ofConnect_callerType want
          connect accountInfo with
          hsame | ⟨c', connectInfo', rfl, hnew, hinfo, hinsert⟩
        · -- no entry was made, so no creator is recorded
          rw [hsame] at hk
          obtain ⟨creator, hc, hrest⟩ := h.creator c connectInfo hk
          refine ⟨creator, ?_, hrest⟩
          cases connect with
          | none => exact hc
          | some c' =>
              simp only [created, hsame]
              rw [if_neg fun hn => hn.2 hn.1]
              exact hc
        · have hmade : (b.service.connectAbilityMap.insert c' connectInfo')[c']? ≠ none := by
            simp
          simp only [created, hinsert]
          rw [if_pos ⟨hnew, hmade⟩]
          rw [hinsert] at hk
          by_cases hc : c' = c
          · subst hc
            rw [ExtTreeMap.getElem?_insert_self] at hk ⊢
            obtain rfl := Option.some.inj hk
            exact ⟨callerInfo, rfl, hsent, hinfo⟩
          · rw [ExtTreeMap.getElem?_insert_of_ne hc] at hk ⊢
            exact h.creator c connectInfo hk
      · have hother : ∀ env want connect callerInfo accountInfo,
            op ≠ .connectFromRemote env want connect callerInfo accountInfo :=
          fun env want connect callerInfo accountInfo he =>
            hop ⟨env, want, connect, callerInfo, accountInfo, he⟩
        have hcreated : b.created (op.apply b.service).1 (.tables op) = b.creators := by
          cases op with
          | connectFromRemote env want connect callerInfo accountInfo =>
              exact absurd rfl (hother env want connect callerInfo accountInfo)
          | _ => rfl
        simp only [hcreated]
        exact h.creator c connectInfo (ReportOp.apply_entry hother hk)

theorem reach_callee {b : Callee}
    (h : Runs.Reach Callee.step (fun _ step => step.Sent) {} b) : b.Inv :=
  h.invariant ⟨fun c connectInfo hk => by simp at hk, fun c connectInfo hk => by simp at hk,
    fun c c' connectInfo connectInfo' hk => by simp at hk⟩ fun _ _ _ hi hsent hs => hi.step hsent hs

/-- What the message that the process of `callerInfo` died does on a callee. -/
structure CalleeCleans (env : Env) (callerInfo : CallerInfo) (b : Callee)
    (s' : DistributedSchedService) (es : List Effect) : Prop where
  /-- the entries that connects of the caller made go -/
  erased : ∀ (c : RemoteObject) (connectInfo : ConnectInfo),
    b.service.connectAbilityMap[c]? = some connectInfo →
    (s'.connectAbilityMap[c]? = none ↔
      ∃ creator, b.creators[c]? = some creator ∧ creator.process = callerInfo.process)
  stays : ∀ (c : RemoteObject) (connectInfo : ConnectInfo),
    s'.connectAbilityMap[c]? = some connectInfo →
    b.service.connectAbilityMap[c]? = some connectInfo
  /-- they are disconnected, in the order of the table, and nothing else is -/
  disconnects : amsCalls es = b.service.connectAbilityMap.toList.flatMap fun e =>
    if s'.connectAbilityMap[e.1]? = none then
      amsCalls (DistributedSchedAdapter.disconnectAbility env e.2.callbackWrapper).2
    else []
  disconnectedOnce : ∀ (c : RemoteObject) (connectInfo : ConnectInfo),
    b.service.connectAbilityMap[c]? = some connectInfo → s'.connectAbilityMap[c]? = none →
    env.amsConnect = errOk →
    (amsCalls es).count (.disconnectAbility connectInfo.callbackWrapper) = 1
  kept : s' = { b.service with connectAbilityMap := s'.connectAbilityMap }

theorem notifyProcessDiedFromRemote_cleans {b : Callee} (h : b.Inv) {callerInfo : CallerInfo}
    (ht : callerInfo.callerType = callerTypeHarmony) (env : Env) :
    CalleeCleans env callerInfo b
      (b.service.notifyProcessDiedFromRemote env callerInfo.ofProcessDied).service
      (b.service.notifyProcessDiedFromRemote env callerInfo.ofProcessDied).effects := by
  let gone : ConnectInfo → Bool := fun connectInfo =>
    callerInfo.ofProcessDied.sourceDeviceId = connectInfo.callerInfo.sourceDeviceId &&
      callerInfo.ofProcessDied.uid = connectInfo.callerInfo.uid &&
      callerInfo.ofProcessDied.pid = connectInfo.callerInfo.pid &&
      callerInfo.ofProcessDied.callerType = connectInfo.callerInfo.callerType
  have hget : ∀ c : RemoteObject,
      (b.service.notifyProcessDiedFromRemote env
        callerInfo.ofProcessDied).service.connectAbilityMap[c]? =
        b.service.connectAbilityMap[c]?.filter fun connectInfo => !gone connectInfo :=
    disconnectEntries_getElem? env b.service gone
  have hnone : ∀ (c : RemoteObject) (connectInfo : ConnectInfo),
      b.service.connectAbilityMap[c]? = some connectInfo →
      ((b.service.notifyProcessDiedFromRemote env
        callerInfo.ofProcessDied).service.connectAbilityMap[c]? = none ↔ gone connectInfo) := by
    intro c connectInfo hk
    rw [hget, hk, Option.filter_some_eq_none]
    simp
  -- the fields that the message and the connect carry tell the process
  have hsame : ∀ creator : CallerInfo, creator.callerType = callerTypeHarmony →
      ∀ connectInfo : ConnectInfo, connectInfo.callerInfo = creator.ofConnect →
      (gone connectInfo ↔ creator.process = callerInfo.process) := by
    intro creator hc connectInfo hinfo
    simp only [gone, hinfo, CallerInfo.ofConnect, CallerInfo.ofProcessDied, CallerInfo.process,
      Bool.and_eq_true, decide_eq_true_eq, Prod.mk.injEq, ht, hc, and_true]
    constructor
    · rintro ⟨⟨hd, hu⟩, hp⟩
      exact ⟨hu.symm, hp.symm, hd.symm⟩
    · rintro ⟨hu, hp, hd⟩
      exact ⟨⟨hd.symm, hu.symm⟩, hp.symm⟩
  have hdisconnects : amsCalls (b.service.notifyProcessDiedFromRemote env
        callerInfo.ofProcessDied).effects =
      b.service.connectAbilityMap.toList.flatMap fun e =>
        if gone e.2 then
          amsCalls (DistributedSchedAdapter.disconnectAbility env e.2.callbackWrapper).2
        else [] := amsCalls_disconnectEntries gone
  exact {
    erased := by
      intro c connectInfo hk
      obtain ⟨creator, hc, htype, hinfo⟩ := h.creator c connectInfo hk
      rw [hnone c connectInfo hk, hsame creator htype connectInfo hinfo]
      constructor
      · intro hp
        exact ⟨creator, hc, hp⟩
      · rintro ⟨creator', hc', hp⟩
        obtain rfl := Option.some.inj (hc.symm.trans hc')
        exact hp
    stays := by
      intro c connectInfo hk
      rw [hget] at hk
      exact getElem?_of_filter hk
    disconnects := by
      rw [hdisconnects]
      refine List.flatMap_congr fun e he => ?_
      have hk := ExtTreeMap.mem_toList_iff_getElem?_eq_some.mp he
      by_cases hg : gone e.2
      · rw [if_pos hg, if_pos ((hnone e.1 e.2 hk).mpr hg)]
      · rw [if_neg hg, if_neg fun hn => hg ((hnone e.1 e.2 hk).mp hn)]
    disconnectedOnce := by
      intro c connectInfo hk hn hams
      rw [hdisconnects]
      exact count_disconnectAbility h.wrappers hk ((hnone c connectInfo hk).mp hn) hams
    kept := rfl }

/-- **The death of a process** cleans its connects, and no other, on both devices: in every state
of the caller's device that a run reaches when every connect was presented with the caller info
of its owner, and every state of the callee's device that a run reaches, the message that is
sent being read back from what the proxy wrote. -/
theorem process_died_cleans {c : RemoteObject} {l : List ConnectAbilitySession} {b : Callee}
    {stubEnv : StubEnv}
    (h : Runs.Reach ServiceStep.apply (ServiceStep.Presented caller) {} s)
    (hk : s.distributedConnectAbilityMap[c]? = some l)
    (hg : ∀ (c' : RemoteObject) (x : List ConnectAbilitySession),
      s.distributedConnectAbilityMap[c']? = some x → ∀ session ∈ x,
      env.getRemoteDms session.destinationDeviceId = true)
    (hb : Runs.Reach Callee.step (fun _ step => step.Sent) {} b)
    (hu : stubEnv.callingUid < hidHap) :
    (∀ session ∈ l, session.callerInfo = caller c) ∧
    DiedCleans (caller c) s (s.processConnectDied env (some c)).1
      (s.processConnectDied env (some c)).2 ∧
    ∃ received, DistributedSchedStub.notifyProcessDiedFromRemoteInner stubEnv
        (DistributedSchedProxy.notifyProcessDiedFromRemote (caller c)) = .ok (received, []) ∧
      ∀ envB, CalleeCleans envB (caller c) b
        (b.service.notifyProcessDiedFromRemote envB received).service
        (b.service.notifyProcessDiedFromRemote envB received).effects := by
  have hcounts := (reach_tables h).counts
  refine ⟨(hcounts.sessions c l hk).caller, processConnectDied_cleans hcounts hk hg, ?_⟩
  refine ⟨(caller c).ofProcessDied,
    DistributedSchedStub.notifyProcessDiedFromRemoteInner_reads hu (caller c), fun envB => ?_⟩
  exact notifyProcessDiedFromRemote_cleans (reach_callee hb) (reach_callerType h hk) envB

/-- The connect of an object, as device "B" receives it. -/
def receiveOwn (connect : RemoteObject) : ServiceStep :=
  .tables (.connectFromRemote calleeEnv { element := { deviceId := "B", bundleName := "app" } }
    (some connect) (ownCaller connect) { accountType := sameAccountType })

/-- Two processes of one uid have connected with "B"; the process of object 7 dies, and the connect
of the other stays on both devices. -/
theorem process_died_cleans_once : ∃ s b,
    Runs.exec ServiceStep.apply {} [connectOwn 7 "B", connectOwn 8 "B"] = some s ∧
    Runs.exec Callee.step {} [receiveOwn 7, receiveOwn 8] = some b ∧
    DiedCleans (ownCaller 7) s (s.processConnectDied (callerEnv true) (some 7)).1
      (s.processConnectDied (callerEnv true) (some 7)).2 ∧
    (s.processConnectDied (callerEnv true) (some 7)).1.distributedConnectAbilityMap.toList.map
      Prod.fst = [8] ∧
    CalleeCleans calleeEnv (ownCaller 7) b
      (b.service.notifyProcessDiedFromRemote calleeEnv (ownCaller 7).ofProcessDied).service
      (b.service.notifyProcessDiedFromRemote calleeEnv (ownCaller 7).ofProcessDied).effects ∧
    (b.service.notifyProcessDiedFromRemote calleeEnv
      (ownCaller 7).ofProcessDied).service.connectAbilityMap.toList.map Prod.fst = [8] := by
  obtain ⟨s, l, hexec, h, hk, hfound, hstays⟩ : ∃ s l,
      Runs.exec ServiceStep.apply {} [connectOwn 7 "B", connectOwn 8 "B"] = some s ∧
      Runs.Reach ServiceStep.apply (ServiceStep.Presented ownCaller) {} s ∧
      s.distributedConnectAbilityMap[(7 : RemoteObject)]? = some l ∧
      (∀ e ∈ s.distributedConnectAbilityMap.toList, ∀ session ∈ e.2,
        (callerEnv true).getRemoteDms session.destinationDeviceId = true) ∧
      (s.processConnectDied (callerEnv true) (some 7)).1.distributedConnectAbilityMap.toList.map
        Prod.fst = [8] :=
    ⟨_, _, rfl, .next (.next .init (l := connectOwn 7 "B") (connectOwn_presented 7 "B" _) rfl)
      (l := connectOwn 8 "B") (connectOwn_presented 8 "B" _) rfl, rfl, by decide, rfl⟩
  obtain ⟨b, hexec', hb, hstays'⟩ : ∃ b,
      Runs.exec Callee.step {} [receiveOwn 7, receiveOwn 8] = some b ∧
      Runs.Reach Callee.step (fun _ step => step.Sent) {} b ∧
      (b.service.notifyProcessDiedFromRemote calleeEnv
        (ownCaller 7).ofProcessDied).service.connectAbilityMap.toList.map Prod.fst = [8] :=
    ⟨_, rfl, .next (.next .init (l := receiveOwn 7) rfl rfl) (l := receiveOwn 8) rfl rfl, rfl⟩
  have hsystem : ({} : StubEnv).callingUid < hidHap := by decide
  obtain ⟨-, hdied, received, hr, hcallee⟩ := process_died_cleans (c := 7) h hk
    (fun c' x hx => hfound _ (ExtTreeMap.mem_toList_iff_getElem?_eq_some.mpr hx)) hb hsystem
  cases hr
  exact ⟨s, b, hexec, hexec', hdied, hstays, hcallee calleeEnv, hstays'⟩

end DistributedSched

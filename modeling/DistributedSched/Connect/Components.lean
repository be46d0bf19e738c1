import Mathlib.Data.List.Perm.Basic
import DistributedSched.Connect.ProcessDied
import DistributedSched.Service.Components

/-!
# Connect — the component list

`GetDistributedComponentList` lists the keys of the four tables, and a listener is told of the keys
that come and go.  Who registers as a listener, asks for the list and applies what it is told, has
what the list would be now.

* `Spoken`: what a report says is what the list says of the same connect, before or after.
* `component_list_follows`: between any two states of a run with a listener, the list before with
  what is reported as added is the list after with what is reported as removed.

A connect object is presented with the caller info of its owner, and the bundle manager says the
same of a uid, and of a bundle, each time it is asked.
-/

namespace DistributedSched

open Std (ExtTreeMap)
open DistributedSchedService

/-! ### What is listed of a connect -/

def Component.role (component : Component) : Role :=
  (component.componentType, component.deviceType)

namespace DistributedSchedService

variable (getUidFromBms : String → Int) (s : DistributedSchedService)

def sessions : ComponentType → Map RemoteObject (List ConnectAbilitySession)
  | .connect => s.distributedConnectAbilityMap
  | .call => s.callerMap

def remotes : ComponentType → Map RemoteObject ConnectInfo
  | .connect => s.connectAbilityMap
  | .call => s.calleeMap

/-- What is listed of a connect in a role. -/
def listedComponent : Role → RemoteObject → Option Component
  | (componentType, .caller), connect =>
    (s.sessions componentType)[connect]?.bind (sessionsComponent componentType)
  | (componentType, .callee), connect =>
    (s.remotes componentType)[connect]?.map fun connectInfo =>
      connectInfo.component getUidFromBms componentType

theorem role_of_listedComponent {role : Role} {connect : RemoteObject} {component : Component}
    (h : s.listedComponent getUidFromBms role connect = some component) :
    component.role = role := by
  obtain ⟨componentType, deviceType⟩ := role
  cases deviceType with
  | caller =>
      obtain ⟨l, -, hl⟩ := Option.bind_eq_some_iff.mp h
      obtain ⟨session, -, rfl⟩ := Option.map_eq_some_iff.mp hl
      rfl
  | callee =>
      obtain ⟨connectInfo, -, rfl⟩ := Option.map_eq_some_iff.mp h
      rfl

end DistributedSchedService

/-! ### The entries of the list -/

/-- What is listed of a table, with the connect objects. -/
def listed {β : Type} (f : β → Option Component) (m : Map RemoteObject β) :
    List (RemoteObject × Component) :=
  m.toList.filterMap fun e => (f e.2).map fun component => (e.1, component)

theorem map_snd_listed {β : Type} (f : β → Option Component) (m : Map RemoteObject β) :
    (listed f m).map Prod.snd = m.toList.filterMap fun e => f e.2 := by
  rw [listed, List.map_filterMap]
  congr 1
  funext e
  cases f e.2 <;> rfl

theorem count_listed {β : Type} (f : β → Option Component) (m : Map RemoteObject β)
    (connect : RemoteObject) (component : Component) :
    (listed f m).count (connect, component) =
      if m[connect]?.bind f = some component then 1 else 0 := by
  have hflat : listed f m = m.toList.flatMap fun e =>
      ((f e.2).map fun component => (e.1, component)).toList :=
    List.filterMap_eq_flatMap_toList ..
  rw [hflat, List.count]
  refine (ExtTreeMap.countP_flatMap_toList
    (g := fun a v => ((f v).map fun component => (a, component)).toList) (k := connect)
    fun a v _ hne => ?_).trans ?_
  · cases f v with
    | none => rfl
    | some x => simp [hne]
  · cases m[connect]? with
    | none => rfl
    | some v =>
        cases hf : f v with
        | none => simp [hf]
        | some x => simp [hf, List.countP_cons]

namespace DistributedSchedService

/-- The list, with the connect objects. -/
def entries (getUidFromBms : String → Int) (s : DistributedSchedService) :
    List (RemoteObject × Component) :=
  listed (sessionsComponent .connect) s.distributedConnectAbilityMap ++
    listed (fun connectInfo => some (connectInfo.component getUidFromBms .connect))
      s.connectAbilityMap ++
    (listed (sessionsComponent .call) s.callerMap ++
      listed (fun connectInfo => some (connectInfo.component getUidFromBms .call)) s.calleeMap)

variable {getUidFromBms : String → Int} {s : DistributedSchedService}

theorem map_snd_entries :
    (s.entries getUidFromBms).map Prod.snd =
      (s.getDistributedComponentList getUidFromBms []).2 := by
  simp only [entries, List.map_append, map_snd_listed, List.filterMap_eq_map',
    getDistributedComponentList, getCallComponentList, getConnectComponentList, componentList,
    List.nil_append, List.append_assoc]

theorem count_entries (connect : RemoteObject) (component : Component) :
    (s.entries getUidFromBms).count (connect, component) =
      if s.listedComponent getUidFromBms component.role connect = some component then 1 else 0 := by
  have hzero : ∀ role, role ≠ component.role →
      s.listedComponent getUidFromBms role connect ≠ some component :=
    fun role hne h => hne (s.role_of_listedComponent getUidFromBms h).symm
  let one (role : Role) : Nat :=
    if s.listedComponent getUidFromBms role connect = some component then 1 else 0
  have hcount : (s.entries getUidFromBms).count (connect, component) =
      one (.connect, .caller) + one (.connect, .callee) +
        (one (.call, .caller) + one (.call, .callee)) := by
    simp only [entries, List.count_append, count_listed, one, listedComponent, Option.map_eq_bind]
    rfl
  rw [hcount]
  rcases hr : component.role with ⟨_ | _, _ | _⟩ <;> rw [hr] at hzero <;>
    simp [one, hzero]

end DistributedSchedService

/-! ### What a report says -/

/-- The reports of a change, each as an entry. -/
def changed (changeType : ChangeType) (rs : List Report) : List (RemoteObject × Component) :=
  (rs.filter fun r => r.2.changeType = changeType).map fun r => (r.1, r.2.component)

theorem changed_append (changeType : ChangeType) (rs rs' : List Report) :
    changed changeType (rs ++ rs') = changed changeType rs ++ changed changeType rs' := by
  rw [changed, List.filter_append, List.map_append]
  rfl

/-- Where every report for a connect says the same in a role, its reports are all there is to
count. -/
theorem count_changed {rs : List Report} {connect : RemoteObject} {role : Role} {said : Component}
    (h : ∀ info, (connect, info) ∈ rs → info.component.role = role → info.component = said)
    (changeType : ChangeType) {component : Component} (hrole : component.role = role) :
    (changed changeType rs).count (connect, component) =
      if component = said then rs.countP (isReport role changeType connect) else 0 := by
  rw [changed, List.count, List.countP_map, List.countP_filter]
  have hsame : ∀ r : Report, (((fun x => x == (connect, component)) ∘ fun r : Report =>
      (r.1, r.2.component)) r && decide (r.2.changeType = changeType)) = true ↔
        r.1 = connect ∧ r.2.component = component ∧ r.2.changeType = changeType := by
    intro r
    simp [and_assoc]
  have hreport : ∀ r : Report, isReport role changeType connect r = true ↔
      r.1 = connect ∧ r.2.component.role = role ∧ r.2.changeType = changeType := by
    intro r
    simp [isReport, and_assoc, Component.role, ComponentInfo.component]
  split
  · rename_i hc
    subst hc
    refine List.countP_congr fun r hr => ?_
    rw [hsame, hreport]
    constructor
    · rintro ⟨hr, hcomponent, hchange⟩
      exact ⟨hr, hcomponent ▸ hrole, hchange⟩
    · rintro ⟨rfl, hrole', hchange⟩
      exact ⟨rfl, h r.2 hr hrole', hchange⟩
  · rename_i hc
    refine List.countP_eq_zero.mpr fun r hr => ?_
    rw [hsame]
    rintro ⟨rfl, rfl, -⟩
    exact hc (h r.2 hr hrole)

variable {getUidFromBms : String → Int} {s s' : DistributedSchedService} {es : List Effect}

/-- The keys of a table are what is listed of it. -/
theorem keys_eq_listedComponent (getUidFromBms : String → Int) (h : s.HasSessions) (role : Role)
    (connect : RemoteObject) :
    s.keys role connect =
      if (s.listedComponent getUidFromBms role connect).isSome then 1 else 0 := by
  have hhead : ∀ (componentType : ComponentType) (o : Option (List ConnectAbilitySession)),
      (∀ l, o = some l → l ≠ []) →
        (o.bind (sessionsComponent componentType)).isSome = o.isSome := by
    intro componentType o ho
    match o, ho with
    | none, _ => rfl
    | some [], ho => exact absurd rfl (ho [] rfl)
    | some (session :: l), _ => rfl
  rcases role with ⟨_ | _, _ | _⟩
  · exact (keyCount_eq ..).trans (by rw [← hhead .connect _ (h.connect connect)]; rfl)
  · exact (keyCount_eq ..).trans (by rw [listedComponent, Option.isSome_map]; rfl)
  · exact (keyCount_eq ..).trans (by rw [← hhead .call _ (h.caller connect)]; rfl)
  · exact (keyCount_eq ..).trans (by rw [listedComponent, Option.isSome_map]; rfl)

/-- What is listed of a connect before and after, and what reports say of it, is one component. -/
structure Told (getUidFromBms : String → Int) (s s' : DistributedSchedService) (es : List Effect)
    (role : Role) (connect : RemoteObject) (said : Component) : Prop where
  before : ∀ component ∈ s.listedComponent getUidFromBms role connect, component = said
  after : ∀ component ∈ s'.listedComponent getUidFromBms role connect, component = said
  report : ∀ info, .report connect info ∈ es → info.component.role = role → info.component = said

theorem mem_reports {connect : RemoteObject} {info : ComponentInfo} :
    (connect, info) ∈ reports es ↔ .report connect info ∈ es := by
  rw [reports, List.mem_filterMap]
  constructor
  · rintro ⟨e, he, hr⟩
    cases e with
    | report c i =>
        cases hr
        exact he
    | _ => cases hr
  · exact fun h => ⟨_, h, rfl⟩

/-- **The reports are the change of the list.** -/
theorem Balanced.entries_perm (h : Balanced s s' es) (hs : s.HasSessions)
    (htold : ∀ role connect, ∃ said, Told getUidFromBms s s' es role connect said) :
    (changed .add (reports es) ++ s.entries getUidFromBms).Perm
      (changed .remove (reports es) ++ s'.entries getUidFromBms) := by
  refine List.perm_iff_count.mpr fun ⟨connect, component⟩ => ?_
  obtain ⟨said, ht⟩ := htold component.role connect
  have hreports : ∀ info, (connect, info) ∈ reports es → info.component.role = component.role →
      info.component = said := fun info hi hr => ht.report info (mem_reports.mp hi) hr
  rw [List.count_append, List.count_append, count_changed hreports _ rfl,
    count_changed hreports _ rfl, count_entries, count_entries]
  by_cases hc : component = said
  · have hlisted : ∀ o : Option Component, (∀ x ∈ o, x = said) →
        (o.isSome ↔ o = some component) := by
      intro o ho
      cases o with
      | none => simp
      | some x => simp [ho x rfl, hc]
    have hnet := h.net component.role connect
    rw [keys_eq_listedComponent getUidFromBms hs,
      keys_eq_listedComponent getUidFromBms (h.sessions hs),
      if_congr (hlisted _ ht.before) rfl rfl, if_congr (hlisted _ ht.after) rfl rfl,
      DistributedSched.net] at hnet
    rw [if_pos hc, if_pos hc]
    by_cases hbefore : s.listedComponent getUidFromBms component.role connect = some component <;>
      by_cases hafter : s'.listedComponent getUidFromBms component.role connect =
        some component <;>
      simp only [hbefore, hafter, if_true, if_false] at hnet ⊢ <;> omega
  · have hno : ∀ o : Option Component, (∀ x ∈ o, x = said) → o ≠ some component :=
      fun o ho he => hc (ho component he)
    rw [if_neg hc, if_neg hc, if_neg (hno _ ht.before), if_neg (hno _ ht.after)]

/-! ### The owners of connects -/

/-- The bundle manager names one bundle first for a uid. -/
def OneNamePerUid (caller : RemoteObject → CallerInfo) : Prop :=
  ∀ c c', (caller c).uid = (caller c').uid →
    (caller c).bundleNames.headD "" = (caller c').bundleNames.headD ""

/-- The sessions of a call name the owner of its connect object. -/
def CallsNamed (caller : RemoteObject → CallerInfo) (s : DistributedSchedService) : Prop :=
  ∀ (connect : RemoteObject) (l : List ConnectAbilitySession), s.callerMap[connect]? = some l →
    ∀ session ∈ l, session.callerInfo.component .call = (caller connect).component .call

/-- The sessions of the two tables name the owners of the connect objects. -/
structure NamesOwners (caller : RemoteObject → CallerInfo) (s : DistributedSchedService) :
    Prop where
  counts : s.Counts caller
  listed : s.CallersListed
  calls : CallsNamed caller s

variable {caller : RemoteObject → CallerInfo}

theorem NamesOwners.hasSessions (h : NamesOwners caller s) : s.HasSessions where
  connect c l hk := (h.counts.sessions c l hk).nonempty
  caller c l hk := (h.listed c l hk).1

/-- A session of a connect, in a table of sessions, names its owner. -/
theorem NamesOwners.session (h : NamesOwners caller s) (componentType : ComponentType)
    {connect : RemoteObject} {l : List ConnectAbilitySession}
    (hl : (s.sessions componentType)[connect]? = some l)
    {session : ConnectAbilitySession} (hs : session ∈ l) :
    session.callerInfo.component componentType = (caller connect).component componentType := by
  cases componentType with
  | connect => rw [(h.counts.sessions connect l hl).caller session hs]
  | call => exact h.calls connect l hl session hs

/-- What a report says is what is listed of its connect, before or after. -/
def Spoken (caller : RemoteObject → CallerInfo) (getUidFromBms : String → Int)
    (s s' : DistributedSchedService) (connect : RemoteObject) (info : ComponentInfo) : Prop :=
  match info.deviceType with
  | .caller => info.component = (caller connect).component info.componentType
  | .callee => ∃ connectInfo, (connectInfo ∈ (s.remotes info.componentType)[connect]? ∨
      connectInfo ∈ (s'.remotes info.componentType)[connect]?) ∧
    info.component = connectInfo.component getUidFromBms info.componentType

/-- One component is listed of a connect before and after, and reported. -/
theorem told_of_spoken (hs : NamesOwners caller s) (hs' : NamesOwners caller s')
    (hkept : ∀ (componentType : ComponentType) (connect : RemoteObject)
      (connectInfo connectInfo' : ConnectInfo),
      (s.remotes componentType)[connect]? = some connectInfo →
      (s'.remotes componentType)[connect]? = some connectInfo' → connectInfo' = connectInfo)
    (hspoken : ∀ connect info, .report connect info ∈ es →
      Spoken caller getUidFromBms s s' connect info) (role : Role) (connect : RemoteObject) :
    ∃ said, Told getUidFromBms s s' es role connect said := by
  obtain ⟨componentType, deviceType⟩ := role
  cases deviceType with
  | caller =>
      have hnamed : ∀ t, NamesOwners caller t → ∀ component ∈
          t.listedComponent getUidFromBms (componentType, .caller) connect,
          component = (caller connect).component componentType := by
        intro t ht component hc
        obtain ⟨l, hl, hc⟩ := Option.bind_eq_some_iff.mp hc
        obtain ⟨session, hsession, rfl⟩ := Option.map_eq_some_iff.mp hc
        exact ht.session componentType hl (List.mem_of_mem_head? hsession)
      refine ⟨(caller connect).component componentType, hnamed s hs, hnamed s' hs', ?_⟩
      intro info hinfo hrole
      have hsaid := hspoken connect info hinfo
      obtain ⟨rfl, hd⟩ := Prod.mk.inj hrole
      unfold Spoken at hsaid
      rw [show info.deviceType = .caller from hd] at hsaid
      exact hsaid
  | callee =>
      -- the entry before, and if there is none, the entry after
      have hone : ∃ said, ∀ connectInfo,
          (s.remotes componentType)[connect]? = some connectInfo ∨
            (s'.remotes componentType)[connect]? = some connectInfo →
          connectInfo.component getUidFromBms componentType = said := by
        cases hk : (s.remotes componentType)[connect]? with
        | some connectInfo =>
            refine ⟨connectInfo.component getUidFromBms componentType, fun connectInfo' h => ?_⟩
            rcases h with h | h
            · rw [Option.some.inj h]
            · rw [hkept _ _ _ _ hk h]
        | none =>
            cases hk' : (s'.remotes componentType)[connect]? with
            | some connectInfo =>
                refine ⟨connectInfo.component getUidFromBms componentType,
                  fun connectInfo' h => ?_⟩
                rcases h with h | h
                · cases h
                · rw [Option.some.inj h]
            | none =>
                refine ⟨(caller connect).component componentType, fun connectInfo' h => ?_⟩
                rcases h with h | h <;> cases h
      obtain ⟨said, hsaid⟩ := hone
      refine ⟨said, fun component hc => ?_, fun component hc => ?_, fun info hinfo hrole => ?_⟩
      · obtain ⟨connectInfo, hk, rfl⟩ := Option.map_eq_some_iff.mp hc
        exact hsaid connectInfo (.inl hk)
      · obtain ⟨connectInfo, hk, rfl⟩ := Option.map_eq_some_iff.mp hc
        exact hsaid connectInfo (.inr hk)
      · have hsay := hspoken connect info hinfo
        obtain ⟨rfl, hd⟩ := Prod.mk.inj hrole
        unfold Spoken at hsay
        rw [show info.deviceType = .callee from hd] at hsay
        obtain ⟨connectInfo, hk, he⟩ := hsay
        exact he.trans (hsaid connectInfo hk)

/-! ### The entries of the callees stay as they are -/

/-- A connect of the table keeps its entry, or is taken out; others may be recorded. -/
inductive Changes (m : Map RemoteObject ConnectInfo) : Map RemoteObject ConnectInfo → Prop where
  | same : Changes m m
  | erase (connect : RemoteObject) : Changes m (m.erase connect)
  | record (connect : RemoteObject) (connectInfo : ConnectInfo) :
      Changes m (m.insertIfNew connect connectInfo)

theorem Changes.kept {m m' : Map RemoteObject ConnectInfo} (h : Changes m m')
    {connect : RemoteObject} {connectInfo connectInfo' : ConnectInfo}
    (hk : m[connect]? = some connectInfo) (hk' : m'[connect]? = some connectInfo') :
    connectInfo' = connectInfo := by
  cases h with
  | same => exact Option.some.inj (hk'.symm.trans hk)
  | erase c =>
      rw [ExtTreeMap.getElem?_erase] at hk'
      split at hk'
      · cases hk'
      · exact Option.some.inj (hk'.symm.trans hk)
  | record c info =>
      by_cases hc : c = connect
      · subst hc
        rw [ExtTreeMap.insertIfNew_eq_self hk] at hk'
        exact Option.some.inj (hk'.symm.trans hk)
      · rw [ExtTreeMap.getElem?_insertIfNew_of_ne hc] at hk'
        exact Option.some.inj (hk'.symm.trans hk)

theorem eraseCallee_changes (env : Env) (s : DistributedSchedService) (connect : RemoteObject) :
    Changes s.calleeMap (s.eraseCallee env connect).1.calleeMap := by
  unfold eraseCallee
  split
  · exact .same
  · exact .erase connect

theorem ReportOp.apply_calleeMap (op : ReportOp) :
    Changes s.calleeMap (op.apply s).1.calleeMap := by
  cases op with
  | connectRemote env replies want connect callerUid callerPid accessToken =>
      obtain ⟨m, t, he⟩ := s.connectRemoteAbility_leaves env
        (fun call n => (n + 1, replies call n)) 0 want connect callerUid callerPid accessToken
      simp only [apply, left, he]
      exact .same
  | disconnectRemote env connect =>
      obtain ⟨m, t, he⟩ := s.disconnectRemoteAbility_leaves env connect
      simp only [apply, left, he]
      exact .same
  | connectDied env connect =>
      obtain ⟨m, t, he⟩ := s.processConnectDied_leaves env connect
      simp only [apply, he]
      exact .same
  | connectFromRemote env want connect callerInfo accountInfo =>
      obtain ⟨m, n, -, he⟩ := s.connectAbilityFromRemote_leaves env
        callerInfo.ofConnect_callerType want connect accountInfo
      simp only [apply, left, he]
      exact .same
  | disconnectFromRemote env connect uid sourceDeviceId =>
      obtain ⟨m, he⟩ := s.disconnectAbilityFromRemote_leaves env connect uid sourceDeviceId
      simp only [apply, left, he]
      exact .same
  | processDiedFromRemote env callerInfo => exact .same
  | startByCall env want connect callerUid callerPid accessToken =>
      have hs := s.startRemoteAbilityByCall_leaves env want connect callerUid callerPid accessToken
      simp only [saveCallerComponent_leaves] at hs
      rcases hs with he | ⟨c, callerInfo, he⟩ <;>
      · simp only [apply, left, he]
        exact .same
  | releaseRemote env connect element =>
      rcases s.releaseRemoteAbility_leaves env connect element with he | ⟨c, he⟩ <;>
      · simp only [apply, left, he]
        exact .same
  | startByCallFromRemote env want connect callerInfo accountInfo =>
      rcases s.startAbilityByCallFromRemote_cases env want connect callerInfo.ofStartByCall
        accountInfo with ⟨code, -, he⟩ | ⟨c, localDeviceId, -, -, -, he⟩
      · simp only [apply, left, he]
        exact .same
      · have hlookup : (s.lookupCallee c).2.calleeMap = s.calleeMap := by
          unfold lookupCallee
          split <;> rfl
        simp only [apply, left, he, startByCallChecked]
        split
        · rw [hlookup]
          exact .same
        · simp only [recordCallee, hlookup]
          exact .record ..
  | releaseFromRemote env connect element callerInfo =>
      simp only [apply, left, releaseAbilityFromRemote]
      split
      · exact .same
      split
      · exact .same
      split
      · exact .same
      · exact .erase _
  | callerDied env connect deviceType =>
      cases connect with
      | none => exact .same
      | some c =>
          cases deviceType with
          | caller =>
              simp only [apply, processCallerDied, handleLocalCallerDied_leaves]
              exact .same
          | callee => exact eraseCallee_changes env s c
  | calleeDied env connect =>
      cases connect with
      | none => exact .same
      | some c => exact eraseCallee_changes env s c
  | deviceOffline env deviceId =>
      simp only [apply, processDeviceOffline]
      split <;> exact .same

/-- A connect is in a table of callees with one entry, as long as it is in it. -/
theorem ReportOp.apply_remotes {op : ReportOp} {componentType : ComponentType}
    {connect : RemoteObject} {connectInfo connectInfo' : ConnectInfo}
    (hk : (s.remotes componentType)[connect]? = some connectInfo)
    (hk' : ((op.apply s).1.remotes componentType)[connect]? = some connectInfo') :
    connectInfo' = connectInfo := by
  cases componentType with
  | call => exact op.apply_calleeMap.kept hk hk'
  | connect =>
      by_cases hop : ∃ env want c callerInfo accountInfo,
          op = .connectFromRemote env want c callerInfo accountInfo
      · obtain ⟨env, want, c, callerInfo, accountInfo, rfl⟩ := hop
        have hk : s.connectAbilityMap[connect]? = some connectInfo := hk
        have hk' : (s.connectAbilityFromRemote env want c callerInfo.ofConnect
            accountInfo).service.connectAbilityMap[connect]? = some connectInfo' := hk'
        rcases s.connectAbilityFromRemote_entries env callerInfo.ofConnect_callerType want c
          accountInfo with hsame | ⟨c', connectInfo₁, -, hnew, -, hinsert⟩
        · rw [hsame] at hk'
          exact Option.some.inj (hk'.symm.trans hk)
        · rw [hinsert, ← ExtTreeMap.insertIfNew_eq_insert hnew] at hk'
          exact (Changes.record c' connectInfo₁).kept hk hk'
      · exact Option.some.inj ((apply_entry (fun env want c callerInfo accountInfo he => hop
          ⟨env, want, c, callerInfo, accountInfo, he⟩) hk').symm.trans hk)

/-! ### The sessions keep their owners -/

/-- A call is presented with the caller info of the owner of its connect object. -/
def ReportOp.Called (caller : RemoteObject → CallerInfo) : ReportOp → Prop
  | startByCall env _ connect callerUid callerPid _ =>
    ∀ c ∈ connect, ∀ bundleNames ∈ env.getBundleNameListFromBms callerUid,
      CallerInfo.component { uid := callerUid, pid := callerPid, bundleNames := bundleNames }
        .call = (caller c).component .call
  | _ => True

/-- A start by call records its connect with the caller info that it is presented with, or leaves
the service. -/
theorem startRemoteAbilityByCall_records (env : Env) (s : DistributedSchedService) (want : Want)
    (connect : Option RemoteObject) (callerUid callerPid : Int) (accessToken : Nat) :
    let o := s.startRemoteAbilityByCall env want connect callerUid callerPid accessToken
    (o.service = s ∧ reports o.effects = []) ∨
      ∃ c ∈ connect, ∃ callerInfo : CallerInfo,
        ∃ bundleNames ∈ env.getBundleNameListFromBms callerUid,
        callerInfo.component .call = CallerInfo.component
          { uid := callerUid, pid := callerPid, bundleNames := bundleNames } .call ∧
        o.service = (s.saveCallerComponent want c callerInfo).1 ∧
        reports o.effects = reports (s.saveCallerComponent want c callerInfo).2 := by
  cases connect with
  | none => exact .inl ⟨rfl, rfl⟩
  | some c =>
      unfold startRemoteAbilityByCall
      dsimp only
      cases env.checkedLocalId want.element.deviceId with
      | none => exact .inl ⟨rfl, rfl⟩
      | some localDeviceId =>
          dsimp only
          cases env.getCallerAppIdFromBms callerUid with
          | none => exact .inl ⟨rfl, rfl⟩
          | some callerAppId =>
              cases hnames : env.getBundleNameListFromBms callerUid with
              | none => exact .inl ⟨rfl, rfl⟩
              | some bundleNames =>
                  let callerInfo : CallerInfo :=
                    { uid := callerUid, pid := callerPid, sourceDeviceId := localDeviceId,
                      accessToken := accessToken, callerAppId := callerAppId,
                      bundleNames := bundleNames }
                  simp only [tryStartRemoteAbilityByCall]
                  split
                  · exact .inl ⟨rfl, rfl⟩
                  split
                  · exact .inl ⟨rfl, rfl⟩
                  split
                  · exact .inr ⟨c, rfl, callerInfo, bundleNames, rfl, rfl, rfl,
                      reports_cons_of_none rfl⟩
                  · exact .inl ⟨rfl, rfl⟩

theorem CallsNamed.save (h : CallsNamed caller s) {connect : RemoteObject} {callerInfo : CallerInfo}
    (hc : callerInfo.component .call = (caller connect).component .call) (want : Want) :
    CallsNamed caller (s.saveCallerComponent want connect callerInfo).1 := by
  intro c l hl session hsession
  rw [saveCallerComponent_leaves] at hl
  dsimp only at hl
  by_cases hcc : connect = c
  · subst hcc
    rw [ExtTreeMap.getElem?_insert_self] at hl
    obtain rfl := Option.some.inj hl
    have hold : ∀ old ∈ s.callerMap[connect]?.getD [],
        old.callerInfo.component .call = (caller connect).component .call := by
      intro old ho
      cases hk : s.callerMap[connect]? with
      | none =>
          rw [hk] at ho
          cases ho
      | some l =>
          rw [hk] at ho
          exact h connect l hk old ho
    rcases ConnectAbilitySession.mem_addToSessions hsession with hs | ⟨old, ho, rfl⟩ | rfl
    · exact hold session hs
    · rw [ConnectAbilitySession.callerInfo_addElement]
      exact hold old ho
    · rw [ConnectAbilitySession.callerInfo_addElement]
      exact hc
  · rw [ExtTreeMap.getElem?_insert_of_ne hcc] at hl
    exact h c l hl session hsession

theorem CallsNamed.erase (h : CallsNamed caller s) (connect : RemoteObject) :
    CallsNamed caller { s with callerMap := s.callerMap.erase connect } := by
  intro c l hl
  rw [ExtTreeMap.getElem?_erase] at hl
  split at hl
  · cases hl
  · exact h c l hl

theorem ReportOp.apply_calls (h : CallsNamed caller s) {op : ReportOp} (hop : op.Called caller) :
    CallsNamed caller (op.apply s).1 := by
  by_cases hrole : op.role = none ∨ op.role = some (.call, .caller)
  · cases op with
    | startByCall env want connect callerUid callerPid accessToken =>
        rcases startRemoteAbilityByCall_records env s want connect callerUid callerPid
          accessToken with ⟨he, -⟩ | ⟨c, hc, callerInfo, bundleNames, hnames, hinfo, he, -⟩
        · simp only [apply, left, he]
          exact h
        · simp only [apply, left, he]
          exact h.save (hinfo.trans (hop c hc bundleNames hnames)) want
    | releaseRemote env connect element =>
        rcases s.releaseRemoteAbility_leaves env connect element with he | ⟨c, he⟩
        · simp only [apply, left, he]
          exact h
        · simp only [apply, left, he]
          exact h.erase c
    | callerDied env connect deviceType =>
        cases connect with
        | none => exact h
        | some c =>
            cases deviceType with
            | caller =>
                simp only [apply, processCallerDied, handleLocalCallerDied_leaves]
                exact h.erase c
            | callee => simp [role] at hrole
    | deviceOffline env deviceId =>
        cases hl : env.checkedLocalId deviceId with
        | none =>
            simp only [apply, processDeviceOffline, hl]
            exact h
        | some localDeviceId =>
            intro c l' hl' session hsession
            rw [apply, processDeviceOffline_callerMap hl] at hl'
            obtain ⟨l, hk, hl'⟩ := Option.bind_eq_some_iff.mp hl'
            obtain ⟨-, he⟩ := Option.ite_none_left_eq_some.mp hl'
            cases he
            exact h c l hk session (List.mem_of_mem_eraseP hsession)
    | _ => simp [role] at hrole
  · obtain ⟨role, hr⟩ := Option.ne_none_iff_exists'.mp fun hn => hrole (.inl hn)
    have hne : role ≠ (.call, .caller) := fun he => hrole (.inr (he ▸ hr))
    intro c l hl
    rw [(apply_leaves (s := s) hr).callers hne] at hl
    exact h c l hl

theorem NamesOwners.apply (h : NamesOwners caller s) {op : ReportOp}
    (hp : (ServiceStep.tables op).Presented caller s) (hop : op.Called caller) :
    NamesOwners caller (op.apply s).1 :=
  ⟨op.apply_counts h.counts hp, op.apply_callers h.listed, op.apply_calls h.calls hop⟩

/-! ### What each operation reports -/

namespace Spoken

variable {env : Env} {componentType : ComponentType} {changeType : ChangeType}
  {connect : RemoteObject} {info : ComponentInfo} {listener : Option RemoteObject}

theorem of_caller {callerInfo : CallerInfo} {c : RemoteObject}
    (hc : callerInfo.component componentType = (caller c).component componentType)
    (h : .report connect info ∈ callerInfo.reportDistributedComponentChange listener c changeType
      componentType .caller) : Spoken caller getUidFromBms s s' connect info := by
  obtain ⟨-, he⟩ := CallerInfo.mem_reportDistributedComponentChange.mp h
  cases he
  exact hc

theorem of_callee {connectInfo : ConnectInfo} (hbms : env.getUidFromBms = getUidFromBms)
    {c : RemoteObject} (h : .report connect info ∈ connectInfo.reportDistributedComponentChange env
      listener c changeType componentType .callee)
    (hk : (s.remotes componentType)[c]? = some connectInfo ∨
      (s'.remotes componentType)[c]? = some connectInfo) :
    Spoken caller getUidFromBms s s' connect info := by
  obtain ⟨-, he⟩ := ConnectInfo.mem_reportDistributedComponentChange.mp h
  cases he
  subst hbms
  exact ⟨connectInfo, hk, rfl⟩

end Spoken

section operations

variable {env : Env} {connect : RemoteObject} {info : ComponentInfo}

/-- An effect that no report is among. -/
theorem not_report_of_reports {es : List Effect} (h : reports es = []) :
    .report connect info ∉ es := fun he => by
  have hr := mem_reports.mpr he
  rw [h] at hr
  cases hr

theorem connectRemoteAbility_spoken {σ : Type} {rpc : RemoteCall → σ → σ × RpcReply} {peer : σ}
    {want : Want} {o : Option RemoteObject} {callerUid callerPid : Int} {accessToken : Nat}
    (hp : ∀ c callerInfo accountInfo, s.connectRequest env want o callerUid callerPid accessToken =
      .ok (c, callerInfo, accountInfo) → callerInfo = caller c)
    (h : .report connect info ∈ (s.connectRemoteAbility env rpc peer want o callerUid callerPid
      accessToken).2.effects) : Spoken caller getUidFromBms s s' connect info := by
  rw [connectRemoteAbility_eq] at h
  cases hr : s.connectRequest env want o callerUid callerPid accessToken with
  | error code =>
      rw [hr] at h
      cases h
  | ok request =>
      obtain ⟨c, callerInfo, accountInfo⟩ := request
      rw [hr] at h
      dsimp only at h
      split at h
      · simp only [remoteConnectAbilityMappingLocked] at h
        split at h
        · rcases List.mem_cons.mp h with h | h
          · cases h
          · exact .of_caller (by rw [hp c callerInfo accountInfo hr]) h
        · cases h
      · cases h

theorem disconnectRemoteAbility_spoken (hn : NamesOwners caller s) {o : Option RemoteObject}
    (h : .report connect info ∈ (s.disconnectRemoteAbility env o).effects) :
    Spoken caller getUidFromBms s s' connect info := by
  unfold disconnectRemoteAbility at h
  split at h
  · cases h
  rename_i c
  split at h
  · cases h
  rename_i l hk
  dsimp only at h
  split at h
  · simp [decreaseConnectLocked_effects] at h
  · rename_i session rest
    have hrpc : ∀ session : ConnectAbilitySession, .report connect info ∉
        disconnectEachRemoteAbilityLocked env session.sourceDeviceId session.destinationDeviceId
          c := by
      intro session he
      unfold disconnectEachRemoteAbilityLocked at he
      split at he
      · cases List.mem_singleton.mp he
      · cases he
    rcases List.mem_append.mp h with h | h
    · rcases List.mem_append.mp h with h | h
      · simp [decreaseConnectLocked_effects] at h
      · exact .of_caller (hn.session .connect hk List.mem_cons_self) h
    · obtain ⟨session, -, he⟩ := List.mem_flatMap.mp h
      exact absurd he (hrpc session)

theorem connectAbility_not_report (env : Env) (want : Want) (w : RemoteObject) :
    .report connect info ∉ (DistributedSchedAdapter.connectAbility env want w).2 := by
  unfold DistributedSchedAdapter.connectAbility
  split
  · exact List.not_mem_nil
  · split <;> simp

theorem connectAbilityFromRemote_spoken (hbms : env.getUidFromBms = getUidFromBms) {want : Want}
    {o : Option RemoteObject} {callerInfo : CallerInfo} {accountInfo : AccountInfo}
    (ht : callerInfo.callerType = callerTypeHarmony)
    (h : .report connect info ∈ (s.connectAbilityFromRemote env want o callerInfo
      accountInfo).effects) :
    Spoken caller getUidFromBms s
      (s.connectAbilityFromRemote env want o callerInfo accountInfo).service connect info := by
  rcases s.connectAbilityFromRemote_cases env want o callerInfo accountInfo with
    ⟨code, -, he⟩ | ⟨c, localDeviceId, -, -, -, he⟩
  · rw [he] at h
    cases h
  rw [he] at h ⊢
  simp only [connectChecked, if_pos ht] at h ⊢
  split at h
  · exact absurd h (connectAbility_not_report env want _)
  rename_i ha
  rw [if_neg ha]
  rcases List.mem_append.mp h with h | h
  · exact absurd h (connectAbility_not_report env want _)
  · unfold recordConnect at h ⊢
    split at h
    · cases h
    rename_i hfound
    rw [lookupConnect_found] at hfound
    rw [if_neg (by rw [lookupConnect_found]; exact hfound)]
    have hk : s.connectAbilityMap[c]? = none := ExtTreeMap.not_contains_iff.mp hfound
    refine .of_callee hbms h (.inr ?_)
    simp only [remotes, lookupConnect_connectAbilityMap, ExtTreeMap.insertIfNew_eq_insert hk,
      ExtTreeMap.getElem?_insert_self]

theorem disconnectAbilityFromRemote_spoken (hbms : env.getUidFromBms = getUidFromBms)
    {o : Option RemoteObject} {uid : Int} {sourceDeviceId : String}
    (h : .report connect info ∈ (s.disconnectAbilityFromRemote env o uid sourceDeviceId).effects) :
    Spoken caller getUidFromBms s s' connect info := by
  unfold disconnectAbilityFromRemote at h
  split at h
  · cases h
  rename_i c
  split at h
  · cases h
  unfold eraseConnect at h
  cases hk : s.connectAbilityMap[c]? with
  | none =>
      cases hlocal : env.isLocalCalling with
      | false => simp [hk, hlocal] at h
      | true =>
          simp only [hk, hlocal, if_true, List.nil_append] at h
          exact absurd h (not_report_of_reports (disconnectAbility_reports env c))
  | some connectInfo =>
      rw [hk] at h
      rcases List.mem_append.mp h with h | h
      · exact .of_callee hbms h (.inl hk)
      · exact absurd h (not_report_of_reports (disconnectAbility_reports env _))

theorem disconnectEntries_spoken (hbms : env.getUidFromBms = getUidFromBms)
    {t : DistributedSchedService} (ht : t.connectAbilityMap = s.connectAbilityMap)
    {gone : ConnectInfo → Bool}
    (h : .report connect info ∈ (t.disconnectEntries env gone).effects) :
    Spoken caller getUidFromBms s s' connect info := by
  rw [disconnectEntries_effects, ht] at h
  obtain ⟨e, he, h⟩ := List.mem_flatMap.mp h
  split at h
  · rcases List.mem_append.mp h with h | h
    · exact absurd h (not_report_of_reports (disconnectAbility_reports env _))
    · exact .of_callee hbms h (.inl (ExtTreeMap.mem_toList_iff_getElem?_eq_some.mp he))
  · cases h

theorem startRemoteAbilityByCall_spoken {want : Want} {o : Option RemoteObject}
    {callerUid callerPid : Int} {accessToken : Nat}
    (hop : ∀ c ∈ o, ∀ bundleNames ∈ env.getBundleNameListFromBms callerUid,
      CallerInfo.component { uid := callerUid, pid := callerPid, bundleNames := bundleNames }
        .call = (caller c).component .call)
    (h : .report connect info ∈ (s.startRemoteAbilityByCall env want o callerUid callerPid
      accessToken).effects) : Spoken caller getUidFromBms s s' connect info := by
  rcases startRemoteAbilityByCall_records env s want o callerUid callerPid accessToken with
    ⟨-, he⟩ | ⟨c, hc, callerInfo, bundleNames, hnames, hinfo, -, he⟩
  · exact absurd h (not_report_of_reports he)
  · rw [← mem_reports, he, mem_reports] at h
    simp only [saveCallerComponent] at h
    split at h
    · rcases List.mem_cons.mp h with h | h
      · cases h
      · exact .of_caller (hinfo.trans (hop c hc bundleNames hnames)) h
    · cases h

/-- The report of a call that is taken out names the owner of its connect object. -/
theorem reportCallerRemoved_spoken (hn : NamesOwners caller s) {c : RemoteObject}
    {l : List ConnectAbilitySession} (hk : s.callerMap[c]? = some l)
    {listener : Option RemoteObject} (h : .report connect info ∈ reportCallerRemoved listener c l) :
    Spoken caller getUidFromBms s s' connect info := by
  cases l with
  | nil => cases h
  | cons session l =>
      exact .of_caller (hn.session .call hk List.mem_cons_self) h

theorem releaseRemoteAbility_spoken (hn : NamesOwners caller s) {o : Option RemoteObject}
    {element : ElementName}
    (h : .report connect info ∈ (s.releaseRemoteAbility env o element).effects) :
    Spoken caller getUidFromBms s s' connect info := by
  unfold releaseRemoteAbility at h
  split at h
  · cases h
  rename_i c
  split at h
  · cases h
  split at h
  · cases h
  split at h
  · cases h
  dsimp only at h
  split at h
  · rcases List.mem_cons.mp h with h | h
    · cases h
    unfold removeCallerComponent at h
    split at h
    · cases h
    · rename_i l hk
      rcases List.mem_cons.mp h with h | h
      · cases h
      · exact reportCallerRemoved_spoken hn hk h
  · cases List.mem_singleton.mp h

theorem startAbilityByCallFromRemote_spoken (hbms : env.getUidFromBms = getUidFromBms)
    {want : Want} {o : Option RemoteObject} {callerInfo : CallerInfo} {accountInfo : AccountInfo}
    (honce : ¬ StartsAgain env s want o callerInfo accountInfo)
    (h : .report connect info ∈ (s.startAbilityByCallFromRemote env want o callerInfo
      accountInfo).effects) :
    Spoken caller getUidFromBms s
      (s.startAbilityByCallFromRemote env want o callerInfo accountInfo).service connect info := by
  rcases s.startAbilityByCallFromRemote_cases env want o callerInfo accountInfo with
    ⟨code, -, he⟩ | ⟨c, localDeviceId, rfl, hid, hp, he⟩
  · rw [he] at h
    cases h
  rw [he] at h ⊢
  simp only [startByCallChecked] at h ⊢
  split at h
  · exact absurd h (not_report_of_reports (startAbilityByCall_reports env want _))
  rename_i ha
  rw [if_neg ha]
  have hk : s.calleeMap[c]? = none := by
    cases hk : s.calleeMap[c]? with
    | none => rfl
    | some connectInfo =>
        have hlookup : s.lookupCallee c = (connectInfo.callbackWrapper, s) := by
          rw [lookupCallee, hk]
        rw [hlookup] at ha
        exact absurd ⟨c, connectInfo, localDeviceId, rfl, hk, hid, hp, not_not.mp ha⟩ honce
  have hlookup : s.lookupCallee c = (s.newObject, { s with newObject := s.newObject + 1 }) := by
    rw [lookupCallee, hk]
  simp only [hlookup, recordCallee] at h ⊢
  rcases List.mem_append.mp h with h | h
  · rcases List.mem_append.mp h with h | h
    · exact absurd h (not_report_of_reports (startAbilityByCall_reports env want _))
    · refine .of_callee hbms h (.inr ?_)
      simp only [remotes, ExtTreeMap.insertIfNew_eq_insert hk, ExtTreeMap.getElem?_insert_self]
  · cases List.mem_singleton.mp h

theorem eraseCallee_spoken (hbms : env.getUidFromBms = getUidFromBms) {c : RemoteObject}
    (h : .report connect info ∈ (s.eraseCallee env c).2) :
    Spoken caller getUidFromBms s s' connect info := by
  unfold eraseCallee at h
  split at h
  · cases h
  · rename_i connectInfo hk
    exact .of_callee hbms h (.inl hk)

theorem releaseAbilityFromRemote_spoken (hbms : env.getUidFromBms = getUidFromBms)
    {o : Option RemoteObject} {element : ElementName} {callerInfo : CallerInfo}
    (h : .report connect info ∈ (s.releaseAbilityFromRemote env o element callerInfo).effects) :
    Spoken caller getUidFromBms s s' connect info := by
  unfold releaseAbilityFromRemote at h
  split at h
  · cases h
  rename_i c
  split at h
  · cases h
  split at h
  · cases h
  rename_i connectInfo hk
  rcases List.mem_append.mp h with h | h
  · rcases List.mem_append.mp h with h | h
    · exact .of_callee hbms h (.inl hk)
    · cases List.mem_singleton.mp h
  · exact absurd h (not_report_of_reports (releaseAbility_reports env _ _))

theorem processCallerDied_spoken (hn : NamesOwners caller s)
    (hbms : env.getUidFromBms = getUidFromBms) {o : Option RemoteObject} {deviceType : DeviceType}
    (h : .report connect info ∈ (s.processCallerDied env o deviceType).2) :
    Spoken caller getUidFromBms s s' connect info := by
  unfold processCallerDied at h
  split at h
  · cases h
  split at h
  · unfold handleLocalCallerDied at h
    split at h
    · cases h
    · rename_i l hk
      exact reportCallerRemoved_spoken hn hk h
  · dsimp only at h
    rcases List.mem_append.mp h with h | h
    · exact eraseCallee_spoken hbms h
    · exact absurd h (not_report_of_reports (releaseAbility_reports env _ _))

theorem processCalleeDied_spoken (hbms : env.getUidFromBms = getUidFromBms)
    {o : Option RemoteObject} (h : .report connect info ∈ (s.processCalleeDied env o).2) :
    Spoken caller getUidFromBms s s' connect info := by
  unfold processCalleeDied at h
  split at h
  · cases h
  · exact eraseCallee_spoken hbms h

/-- A connect that goes with a device was left with one session, with its owner. -/
theorem deviceCaller_spoken (hn : NamesOwners caller s) (componentType : ComponentType)
    {deviceId : String} {c : RemoteObject} {l : List ConnectAbilitySession}
    (hk : (s.sessions componentType)[c]? = some l) (hne : l ≠ [])
    (hempty : (withoutDevice deviceId l).isEmpty) :
    (deviceCaller deviceId l).component componentType = (caller c).component componentType := by
  unfold deviceCaller
  cases hf : l.find? fun session => session.destinationDeviceId = deviceId with
  | some session => exact hn.session componentType hk (List.mem_of_find?_eq_some hf)
  | none =>
      have hsame : withoutDevice deviceId l = l := by
        unfold withoutDevice
        exact List.eraseP_of_forall_not fun session hs =>
          List.find?_eq_none.mp hf session hs
      rw [hsame] at hempty
      exact absurd (List.isEmpty_iff.mp hempty) hne

theorem processDeviceOffline_spoken (hn : NamesOwners caller s)
    (hbms : env.getUidFromBms = getUidFromBms) {deviceId : String}
    (h : .report connect info ∈ (s.processDeviceOffline env deviceId).2) :
    Spoken caller getUidFromBms s s' connect info := by
  cases hl : env.checkedLocalId deviceId with
  | none =>
      simp only [processDeviceOffline, hl] at h
      cases h
  | some localDeviceId =>
      obtain ⟨s₁, s₂, h₁, h₂, heq⟩ := processDeviceOffline_effects (s := s) hl
      rw [heq] at h
      rcases List.mem_append.mp h with h | h
      · rcases List.mem_append.mp h with h | h
        · rcases List.mem_append.mp h with h | h
          · have hf : .report connect info ∈ (s.processDistributedOffline env deviceId).2.filter
                fun e => !e.isDecrease := List.mem_filter.mpr ⟨h, by rfl⟩
            rw [processDistributedOffline_effects] at hf
            obtain ⟨⟨c, l⟩, he, hm⟩ := List.mem_flatMap.mp hf
            have hk := ExtTreeMap.mem_toList_iff_getElem?_eq_some.mp he
            rcases List.mem_append.mp hm with hm | hm
            · split at hm
              · obtain ⟨_, -, hm⟩ := mem_notifyDeviceOfflineToAppLocked hm
                cases hm
              · cases hm
            · split at hm
              · rename_i hempty
                rcases List.mem_cons.mp hm with hm | hm
                · cases hm
                · exact .of_caller (deviceCaller_spoken hn .connect hk
                    (hn.hasSessions.connect c l hk) hempty) hm
              · cases hm
          · exact disconnectEntries_spoken hbms h₁ h
        · rw [processCalleeOffline_effects, h₂] at h
          obtain ⟨⟨c, l⟩, he, hm⟩ := List.mem_flatMap.mp h
          have hk := ExtTreeMap.mem_toList_iff_getElem?_eq_some.mp he
          split at hm
          · rename_i hempty
            rcases List.mem_cons.mp hm with hm | hm
            · cases hm
            · exact .of_caller (deviceCaller_spoken hn .call hk (hn.hasSessions.caller c l hk)
                hempty) hm
          · cases hm
      · obtain ⟨_, _, hm⟩ := DmsCallbackTask.mem_notifyDeviceOffline _ h
        cases hm

theorem processConnectDied_spoken (hn : NamesOwners caller s)
    (hnames : OneNamePerUid caller)
    {o : Option RemoteObject} (h : .report connect info ∈ (s.processConnectDied env o).2) :
    Spoken caller getUidFromBms s s' connect info := by
  unfold processConnectDied at h
  split at h
  · cases h
  · cases h
  rename_i session l hbind
  obtain ⟨c, -, hk⟩ := Option.bind_eq_some_iff.mp hbind
  have hsession : session.callerInfo = caller c :=
    (hn.counts.sessions c _ hk).caller session List.mem_cons_self
  rcases List.mem_append.mp h with h | h
  · -- each round reports a connect of the same process
    refine ExtTreeMap.walk_acc (Q := fun acc : ConnectDiedAcc => ∀ connect info,
      .report connect info ∈ acc.effects → Spoken caller getUidFromBms s s' connect info)
      (fun _ _ he => by cases he) (fun acc k l' hk' hacc => ?_) connect info h
    intro connect info he
    unfold connectDied at he
    split at he
    · exact hacc connect info he
    rename_i first rest
    split at he
    · rename_i hsame
      have hfirst : first.callerInfo = caller k :=
        (hn.counts.sessions k _ hk').caller first List.mem_cons_self
      simp only [decreaseConnectLocked_effects, (foldl_addProcessDiedNotify ..).2] at he
      rcases List.mem_append.mp he with he | he
      · simp only [List.mem_append, List.mem_singleton, reduceCtorEq, or_false] at he
        exact hacc connect info he
      · refine .of_caller ?_ he
        simp only [ConnectAbilitySession.isSameCaller, hfirst, hsession, Bool.and_eq_true,
          decide_eq_true_eq] at hsame
        simp only [CallerInfo.component, hsession, hsame.1.1.1, hsame.1.1.2,
          hnames c k hsame.1.1.1]
    · exact hacc connect info he
  · obtain ⟨e, -, he⟩ := List.mem_flatMap.mp h
    unfold notifyProcessDied at he
    split at he
    · cases List.mem_singleton.mp he
    · cases he

end operations

/-! ### Runs -/

namespace ReportOp

/-- What is around the service at an operation. -/
def env : ReportOp → Env
  | connectRemote env .. | disconnectRemote env .. | connectFromRemote env ..
  | disconnectFromRemote env .. | startByCall env .. | releaseRemote env ..
  | startByCallFromRemote env .. | releaseFromRemote env .. | callerDied env ..
  | calleeDied env .. | connectDied env .. | processDiedFromRemote env ..
  | deviceOffline env .. => env

/-- A connect object comes from its owner, the bundle manager answers as it always does, and no
connect is started again by call on the callee's side. -/
structure Regular (caller : RemoteObject → CallerInfo) (getUidFromBms : String → Int)
    (s : DistributedSchedService) (op : ReportOp) : Prop where
  presented : (ServiceStep.tables op).Presented caller s
  called : op.Called caller
  bms : op.env.getUidFromBms = getUidFromBms
  once : op.StartsOnce s

theorem apply_spoken (hn : NamesOwners caller s) (hnames : OneNamePerUid caller)
    {op : ReportOp} (hop : op.Regular caller getUidFromBms s) {connect : RemoteObject}
    {info : ComponentInfo} (h : .report connect info ∈ (op.apply s).2) :
    Spoken caller getUidFromBms s (op.apply s).1 connect info := by
  obtain ⟨hpresented, hcalled, hbms, honce⟩ := hop
  cases op with
  | connectRemote => exact connectRemoteAbility_spoken hpresented h
  | disconnectRemote => exact disconnectRemoteAbility_spoken hn h
  | connectFromRemote env want o callerInfo accountInfo =>
      exact connectAbilityFromRemote_spoken hbms callerInfo.ofConnect_callerType h
  | disconnectFromRemote => exact disconnectAbilityFromRemote_spoken hbms h
  | startByCall => exact startRemoteAbilityByCall_spoken hcalled h
  | releaseRemote => exact releaseRemoteAbility_spoken hn h
  | startByCallFromRemote => exact startAbilityByCallFromRemote_spoken hbms honce h
  | releaseFromRemote => exact releaseAbilityFromRemote_spoken hbms h
  | callerDied => exact processCallerDied_spoken hn hbms h
  | calleeDied => exact processCalleeDied_spoken hbms h
  | connectDied => exact processConnectDied_spoken hn hnames h
  | processDiedFromRemote => exact disconnectEntries_spoken hbms rfl h
  | deviceOffline => exact processDeviceOffline_spoken hn hbms h

end ReportOp

/-- Before a listener is registered, connect objects come from their owners too. -/
def ServiceStep.Owned (caller : RemoteObject → CallerInfo) (s : DistributedSchedService)
    (step : ServiceStep) : Prop :=
  step.Presented caller s ∧ ∀ op, step = .tables op → op.Called caller

theorem NamesOwners.reach
    (h : Runs.Reach ServiceStep.apply (fun s step => step.Owned caller s) {} s) :
    NamesOwners caller s := by
  refine h.invariant ⟨⟨.empty, fun c l hk => by simp at hk⟩, fun c l hk => by simp at hk,
    fun c l hk => by simp at hk⟩ fun s step s' hi hok hs => ?_
  cases step with
  | tables op =>
      obtain rfl := Option.some.inj hs
      exact hi.apply hok.1 (hok.2 op rfl)
  | other listener dmsCallbackTask dschedContinuation newObjects =>
      obtain rfl := Option.some.inj hs
      exact ⟨hi.counts, hi.listed, hi.calls⟩

/-- Two changes of a list, one after the other. -/
theorem perm_change {α : Type} [DecidableEq α] {added removed added' removed' l l' l'' : List α}
    (h : (added ++ l).Perm (removed ++ l')) (h' : (added' ++ l').Perm (removed' ++ l'')) :
    (added ++ added' ++ l).Perm (removed ++ removed' ++ l'') := by
  refine List.perm_iff_count.mpr fun a => ?_
  have hone := h.count_eq a
  have htwo := h'.count_eq a
  simp only [List.count_append] at hone htwo ⊢
  omega

/-- What a run with a listener keeps, from the state `s₀` in which it was registered. -/
structure Following (caller : RemoteObject → CallerInfo) (getUidFromBms : String → Int)
    (listener : RemoteObject) (s₀ : DistributedSchedService)
    (r : DistributedSchedService × List Report) : Prop where
  named : NamesOwners caller r.1
  listener : r.1.distributedComponentListener = some listener
  follows : (changed .add r.2 ++ s₀.entries getUidFromBms).Perm
    (changed .remove r.2 ++ r.1.entries getUidFromBms)

theorem Following.step {listener : RemoteObject} {s₀ : DistributedSchedService}
    {r : DistributedSchedService × List Report} (hnames : OneNamePerUid caller)
    (h : Following caller getUidFromBms listener s₀ r) {op : ReportOp}
    (hop : op.Regular caller getUidFromBms r.1) :
    Following caller getUidFromBms listener s₀
      ((ReportOp.emit r.1 op).1, r.2 ++ (ReportOp.emit r.1 op).2) := by
  have hbalanced := ReportOp.apply_balanced h.listener h.named.hasSessions hop.once
  have hnamed := h.named.apply hop.presented hop.called
  have hone := hbalanced.entries_perm h.named.hasSessions fun role connect =>
    told_of_spoken h.named hnamed (fun _ _ _ _ => ReportOp.apply_remotes)
      (fun connect info hr => ReportOp.apply_spoken h.named hnames hop hr) role connect
  refine ⟨hnamed, hbalanced.listener.trans h.listener, ?_⟩
  rw [changed_append, changed_append]
  exact perm_change h.follows hone

/-- **Who listens has the list.**  A listener is registered in any state that a run of the service
reaches; over every run from there, the list of that state with the components reported as added is
the list of the state reached with the components reported as removed. -/
theorem component_list_follows {caller : RemoteObject → CallerInfo} {getUidFromBms : String → Int}
    (hnames : OneNamePerUid caller) {s₀ : DistributedSchedService}
    (h₀ : Runs.Reach ServiceStep.apply (fun s step => step.Owned caller s) {} s₀)
    (listener : RemoteObject) {r : DistributedSchedService × List Report}
    (h : Runs.Reach (Runs.traced ReportOp.emit) (fun r op => op.Regular caller getUidFromBms r.1)
      ((s₀.registerDistributedComponentListener (some listener)).service, []) r) :
    ((changed .add r.2).map Prod.snd ++ (s₀.getDistributedComponentList getUidFromBms []).2).Perm
      ((changed .remove r.2).map Prod.snd ++
        (r.1.getDistributedComponentList getUidFromBms []).2) := by
  have hn := NamesOwners.reach h₀
  have hinv : Following caller getUidFromBms listener s₀ r := by
    refine h.invariant ⟨⟨hn.counts, hn.listed, hn.calls⟩, rfl, List.Perm.refl _⟩ ?_
    intro r op r' hi hop hs
    obtain rfl := Option.some.inj hs
    exact hi.step hnames hop
  have hperm := hinv.follows.map Prod.snd
  rwa [List.map_append, List.map_append, map_snd_entries, map_snd_entries] at hperm

/-- The connect with "C" after the registration, and then "B" goes offline. -/
def changeTwo : List ReportOp :=
  [.connectRemote (callerEnv true) (fun _ _ => ⟨errOk, 0⟩)
      { element := { deviceId := "C", bundleName := "app" } } (some 8) 20010 8 0,
    .deviceOffline (callerEnv true) "B"]

/-- The connect with "B" is listed when a listener is registered; the one with "C" is reported as
added, and the first as removed. -/
theorem component_list_follows_offline : ∃ (s₀ : DistributedSchedService)
    (r : DistributedSchedService × List Report),
    Runs.exec ServiceStep.apply {} [connectOwn 7 "B"] = some s₀ ∧
      (s₀.getDistributedComponentList (callerEnv true).getUidFromBms []).2 =
        [(ownCaller 7).component .connect] ∧
      Runs.exec (Runs.traced ReportOp.emit)
        ((s₀.registerDistributedComponentListener (some 3)).service, []) changeTwo = some r ∧
      (changed .add r.2).length = 1 ∧ (changed .remove r.2).length = 1 ∧
      ((changed .add r.2).map Prod.snd ++
        (s₀.getDistributedComponentList (callerEnv true).getUidFromBms []).2).Perm
        ((changed .remove r.2).map Prod.snd ++
          (r.1.getDistributedComponentList (callerEnv true).getUidFromBms []).2) :=
  ⟨_, _, rfl, rfl, rfl, rfl, rfl, component_list_follows (by intro _ _ _; rfl)
    (.next .init (l := connectOwn 7 "B")
      ⟨connectOwn_presented 7 "B" _, fun op he => by cases he; trivial⟩ rfl) 3
    (.next (.next .init (l := .connectRemote (callerEnv true) (fun _ _ => ⟨errOk, 0⟩)
        { element := { deviceId := "C", bundleName := "app" } } (some 8) 20010 8 0)
      ⟨connectOwn_presented 8 "C" _, trivial, rfl, trivial⟩ rfl)
      (l := .deviceOffline (callerEnv true) "B") ⟨trivial, trivial, rfl, trivial⟩ rfl)⟩

end DistributedSched

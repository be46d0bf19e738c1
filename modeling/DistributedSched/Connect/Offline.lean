import DistributedSched.Connect.Counter
import DistributedSched.Connect.Reports

/-!
# Connect — a device goes offline

`ProcessDeviceOffline` walks the three tables that name the device.  The walk of the two tables
of sessions takes the first session with the device out of each list; that is every session with
it, because the sessions of a connect are with different devices.

* `Tables`: what a run of the service keeps of the tables: the counter is in step with the
  connects, the sessions of a call are with different devices, and no wrapper is recorded twice.
* `OfflineRemoves`: what the operation leaves in each table, and what it does, once for each key,
  session and entry that it removes.
* `offline_removes_device`: this holds in every state that a run reaches.
-/

namespace DistributedSched

open Std (ExtTreeMap)
open DistributedSchedService

/-! ### Runs of the service -/

/-- A step of the service: an operation on its tables, or one of its others, which leave them. -/
inductive ServiceStep where
  | tables (op : ReportOp)
  | other (listener : Option RemoteObject) (dmsCallbackTask : DmsCallbackTask)
      (dschedContinuation : DSchedContinuation RemoteObject Int) (newObjects : Nat)

namespace ServiceStep

def apply (s : DistributedSchedService) : ServiceStep → Option DistributedSchedService
  | tables op => some (op.apply s).1
  | other listener dmsCallbackTask dschedContinuation newObjects =>
    some { s with
      distributedComponentListener := listener, dmsCallbackTask := dmsCallbackTask,
      dschedContinuation := dschedContinuation, newObject := s.newObject + newObjects }

/-- A connect object is presented with the caller info of its owner. -/
def Presented (caller : RemoteObject → CallerInfo) (s : DistributedSchedService) :
    ServiceStep → Prop
  | tables (.connectRemote env _ want connect callerUid callerPid accessToken) =>
    ∀ c callerInfo accountInfo,
      s.connectRequest env want connect callerUid callerPid accessToken =
        .ok (c, callerInfo, accountInfo) → callerInfo = caller c
  | _ => True

end ServiceStep

/-! ### What a run keeps -/

/-- The sessions of a call: there is one, and they are with different devices. -/
def DistributedSchedService.CallersListed (s : DistributedSchedService) : Prop :=
  ∀ (connect : RemoteObject) (l : List ConnectAbilitySession), s.callerMap[connect]? = some l →
    l ≠ [] ∧ (l.map (·.destinationDeviceId)).Nodup

/-- Every wrapper of the table has been made, for one entry. -/
structure WrappersOwned (m : Map RemoteObject ConnectInfo) (newObject : RemoteObject) : Prop where
  made : ∀ (connect : RemoteObject) (connectInfo : ConnectInfo), m[connect]? = some connectInfo →
    connectInfo.callbackWrapper < newObject
  owner : ∀ (connect connect' : RemoteObject) (connectInfo connectInfo' : ConnectInfo),
    m[connect]? = some connectInfo → m[connect']? = some connectInfo' →
    connectInfo.callbackWrapper = connectInfo'.callbackWrapper → connect = connect'

structure DistributedSchedService.Tables (caller : RemoteObject → CallerInfo)
    (s : DistributedSchedService) : Prop where
  counts : s.Counts caller
  callers : s.CallersListed
  wrappers : WrappersOwned s.connectAbilityMap s.newObject

variable {caller : RemoteObject → CallerInfo} {env : Env} {s : DistributedSchedService}

/-! #### The tables that an operation leaves -/

namespace DistributedSchedService

variable (env : Env) (s : DistributedSchedService)

theorem mapping_leaves (connect : Option RemoteObject) (localDeviceId remoteDeviceId : String)
    (element : ElementName) (callerInfo : CallerInfo) (targetComponent : TargetComponent) :
    ∃ m t, (s.remoteConnectAbilityMappingLocked connect localDeviceId remoteDeviceId element
        callerInfo targetComponent).1 =
      { s with distributedConnectAbilityMap := m, trackingUidMap := t } := by
  cases connect with
  | none => exact ⟨_, _, rfl⟩
  | some c =>
      simp only [remoteConnectAbilityMappingLocked]
      split <;> exact ⟨_, _, rfl⟩

theorem connectRemoteAbility_leaves {σ : Type} (rpc : RemoteCall → σ → σ × RpcReply) (peer : σ)
    (want : Want) (connect : Option RemoteObject) (callerUid callerPid : Int)
    (accessToken : Nat) :
    ∃ m t, (s.connectRemoteAbility env rpc peer want connect callerUid callerPid
        accessToken).2.service =
      { s with distributedConnectAbilityMap := m, trackingUidMap := t } := by
  rw [connectRemoteAbility_eq]
  split
  · exact ⟨_, _, rfl⟩
  · simp only
    split
    · exact mapping_leaves ..
    · exact ⟨_, _, rfl⟩

theorem disconnectRemoteAbility_leaves (connect : Option RemoteObject) :
    ∃ m t, (s.disconnectRemoteAbility env connect).service =
      { s with distributedConnectAbilityMap := m, trackingUidMap := t } := by
  unfold disconnectRemoteAbility
  split
  · exact ⟨_, _, rfl⟩
  split
  · exact ⟨_, _, rfl⟩
  · simp only
    split <;> exact ⟨_, _, rfl⟩

theorem processConnectDied_leaves (connect : Option RemoteObject) :
    ∃ m t, (s.processConnectDied env connect).1 =
      { s with distributedConnectAbilityMap := m, trackingUidMap := t } := by
  unfold processConnectDied
  split <;> exact ⟨_, _, rfl⟩

theorem lookupConnect_leaves (connect : RemoteObject) :
    ∃ n, s.newObject ≤ n ∧ (s.lookupConnect connect).2.2 = { s with newObject := n } := by
  unfold lookupConnect
  split
  · exact ⟨_, Nat.le_refl _, rfl⟩
  · exact ⟨_, Nat.le_succ _, rfl⟩

theorem connectAbilityFromRemote_leaves {callerInfo : CallerInfo}
    (ht : callerInfo.callerType = callerTypeHarmony) (want : Want) (connect : Option RemoteObject)
    (accountInfo : AccountInfo) :
    ∃ m n, s.newObject ≤ n ∧
      (s.connectAbilityFromRemote env want connect callerInfo accountInfo).service =
        { s with connectAbilityMap := m, newObject := n } := by
  rw [connectAbilityFromRemote_eq]
  split
  · exact ⟨_, _, Nat.le_refl _, rfl⟩
  · rename_i c _
    obtain ⟨n, hle, hn⟩ := s.lookupConnect_leaves c
    simp only [connectChecked, if_pos ht, hn, recordConnect]
    split
    · exact ⟨_, _, hle, rfl⟩
    · split <;> exact ⟨_, _, hle, rfl⟩

theorem disconnectAbilityFromRemote_leaves (connect : Option RemoteObject) (uid : Int)
    (sourceDeviceId : String) :
    ∃ m, (s.disconnectAbilityFromRemote env connect uid sourceDeviceId).service =
      { s with connectAbilityMap := m } := by
  cases connect with
  | none => exact ⟨_, rfl⟩
  | some c =>
      unfold disconnectAbilityFromRemote eraseConnect
      simp only
      split
      · exact ⟨_, rfl⟩
      · cases s.connectAbilityMap[c]? with
        | some connectInfo => exact ⟨_, rfl⟩
        | none => cases env.isLocalCalling <;> exact ⟨_, rfl⟩

theorem startRemoteAbilityByCall_leaves (want : Want) (connect : Option RemoteObject)
    (callerUid callerPid : Int) (accessToken : Nat) :
    (s.startRemoteAbilityByCall env want connect callerUid callerPid accessToken).service = s ∨
      ∃ c callerInfo,
        (s.startRemoteAbilityByCall env want connect callerUid callerPid accessToken).service =
          (s.saveCallerComponent want c callerInfo).1 := by
  unfold startRemoteAbilityByCall
  split
  · split
    · unfold tryStartRemoteAbilityByCall
      simp only
      split
      · exact .inl rfl
      split
      · exact .inl rfl
      · split
        · exact .inr ⟨_, _, rfl⟩
        · exact .inl rfl
    · exact .inl rfl
  · exact .inl rfl

theorem saveCallerComponent_leaves (want : Want) (connect : RemoteObject)
    (callerInfo : CallerInfo) :
    (s.saveCallerComponent want connect callerInfo).1 =
      { s with
        callerMap := s.callerMap.insert connect <|
          ConnectAbilitySession.addToSessions callerInfo.sourceDeviceId want.element.deviceId
            want.element callerInfo .harmonyComponent (s.callerMap[connect]?.getD []) } := by
  unfold saveCallerComponent
  cases s.callerMap[connect]? <;> rfl

theorem releaseRemoteAbility_leaves (connect : Option RemoteObject) (element : ElementName) :
    (s.releaseRemoteAbility env connect element).service = s ∨
      ∃ c, (s.releaseRemoteAbility env connect element).service =
        { s with callerMap := s.callerMap.erase c } := by
  unfold releaseRemoteAbility
  split
  · exact .inl rfl
  split
  · exact .inl rfl
  split
  · exact .inl rfl
  split
  · exact .inl rfl
  · simp only
    split
    · unfold removeCallerComponent
      split
      · exact .inl rfl
      · exact .inr ⟨_, rfl⟩
    · exact .inl rfl

theorem handleLocalCallerDied_leaves (connect : RemoteObject) :
    (s.handleLocalCallerDied connect).1 = { s with callerMap := s.callerMap.erase connect } := by
  unfold handleLocalCallerDied
  split
  · rename_i hk
    rw [ExtTreeMap.erase_eq_self hk]
  · rfl

theorem startAbilityByCallFromRemote_leaves (want : Want) (connect : Option RemoteObject)
    (callerInfo : CallerInfo) (accountInfo : AccountInfo) :
    ∃ m n, s.newObject ≤ n ∧
      (s.startAbilityByCallFromRemote env want connect callerInfo accountInfo).service =
        { s with calleeMap := m, newObject := n } := by
  rcases s.startAbilityByCallFromRemote_cases env want connect callerInfo accountInfo with
    ⟨code, -, h⟩ | ⟨c, localDeviceId, -, -, -, h⟩
  · exact ⟨_, _, Nat.le_refl _, by rw [h]⟩
  · rw [h]
    unfold startByCallChecked lookupCallee recordCallee
    cases s.calleeMap[c]? with
    | some connectInfo =>
        simp only
        split <;> exact ⟨_, _, Nat.le_refl _, rfl⟩
    | none =>
        simp only
        split <;> exact ⟨_, _, Nat.le_succ _, rfl⟩

theorem releaseAbilityFromRemote_leaves (connect : Option RemoteObject) (element : ElementName)
    (callerInfo : CallerInfo) :
    ∃ m, (s.releaseAbilityFromRemote env connect element callerInfo).service =
      { s with calleeMap := m } := by
  unfold releaseAbilityFromRemote
  split
  · exact ⟨_, rfl⟩
  split
  · exact ⟨_, rfl⟩
  split <;> exact ⟨_, rfl⟩

theorem eraseCallee_leaves (connect : RemoteObject) :
    ∃ m, (s.eraseCallee env connect).1 = { s with calleeMap := m } := by
  unfold eraseCallee
  split <;> exact ⟨_, rfl⟩

end DistributedSchedService

/-- The table that an operation is on; a device that goes offline is in all of them. -/
def ReportOp.role : ReportOp → Option Role
  | connectRemote .. | disconnectRemote .. | connectDied .. => some (.connect, .caller)
  | connectFromRemote .. | disconnectFromRemote .. | processDiedFromRemote .. =>
    some (.connect, .callee)
  | startByCall .. | releaseRemote .. | callerDied _ _ .caller => some (.call, .caller)
  | startByCallFromRemote .. | releaseFromRemote .. | callerDied _ _ .callee | calleeDied .. =>
    some (.call, .callee)
  | deviceOffline .. => none

/-- The tables of the other roles are left, and no object is given out again. -/
structure LeavesOthers (role : Role) (s s' : DistributedSchedService) : Prop where
  connects : role ≠ (.connect, .caller) →
    s'.distributedConnectAbilityMap = s.distributedConnectAbilityMap ∧
      s'.trackingUidMap = s.trackingUidMap
  remote : role ≠ (.connect, .callee) → s'.connectAbilityMap = s.connectAbilityMap
  callers : role ≠ (.call, .caller) → s'.callerMap = s.callerMap
  newObject : s.newObject ≤ s'.newObject

theorem ReportOp.apply_leaves {op : ReportOp} {role : Role} (h : op.role = some role) :
    LeavesOthers role s (op.apply s).1 := by
  cases op with
  | deviceOffline => cases h
  | connectRemote env replies want connect callerUid callerPid accessToken =>
      obtain rfl := Option.some.inj h
      obtain ⟨m, t, he⟩ := s.connectRemoteAbility_leaves env
        (fun call n => (n + 1, replies call n)) 0 want connect callerUid callerPid accessToken
      simp only [apply, left, he]
      exact ⟨fun hr => absurd rfl hr, fun _ => rfl, fun _ => rfl, Nat.le_refl _⟩
  | disconnectRemote env connect =>
      obtain rfl := Option.some.inj h
      obtain ⟨m, t, he⟩ := s.disconnectRemoteAbility_leaves env connect
      simp only [apply, left, he]
      exact ⟨fun hr => absurd rfl hr, fun _ => rfl, fun _ => rfl, Nat.le_refl _⟩
  | connectDied env connect =>
      obtain rfl := Option.some.inj h
      obtain ⟨m, t, he⟩ := s.processConnectDied_leaves env connect
      simp only [apply, he]
      exact ⟨fun hr => absurd rfl hr, fun _ => rfl, fun _ => rfl, Nat.le_refl _⟩
  | connectFromRemote env want connect callerInfo accountInfo =>
      obtain rfl := Option.some.inj h
      obtain ⟨m, n, hle, he⟩ := s.connectAbilityFromRemote_leaves env
        callerInfo.ofConnect_callerType want connect accountInfo
      simp only [apply, left, he]
      exact ⟨fun _ => ⟨rfl, rfl⟩, fun hr => absurd rfl hr, fun _ => rfl, hle⟩
  | disconnectFromRemote env connect uid sourceDeviceId =>
      obtain rfl := Option.some.inj h
      obtain ⟨m, he⟩ := s.disconnectAbilityFromRemote_leaves env connect uid
        sourceDeviceId
      simp only [apply, left, he]
      exact ⟨fun _ => ⟨rfl, rfl⟩, fun hr => absurd rfl hr, fun _ => rfl, Nat.le_refl _⟩
  | processDiedFromRemote env callerInfo =>
      obtain rfl := Option.some.inj h
      exact ⟨fun _ => ⟨rfl, rfl⟩, fun hr => absurd rfl hr, fun _ => rfl, Nat.le_refl _⟩
  | startByCall env want connect callerUid callerPid accessToken =>
      obtain rfl := Option.some.inj h
      have hs := s.startRemoteAbilityByCall_leaves env want connect callerUid
        callerPid accessToken
      simp only [saveCallerComponent_leaves] at hs
      rcases hs with he | ⟨c, callerInfo, he⟩ <;>
      · simp only [apply, left, he]
        exact ⟨fun _ => ⟨rfl, rfl⟩, fun _ => rfl, fun hr => absurd rfl hr, Nat.le_refl _⟩
  | releaseRemote env connect element =>
      obtain rfl := Option.some.inj h
      rcases s.releaseRemoteAbility_leaves env connect element with
        he | ⟨c, he⟩ <;>
      · simp only [apply, left, he]
        exact ⟨fun _ => ⟨rfl, rfl⟩, fun _ => rfl, fun hr => absurd rfl hr, Nat.le_refl _⟩
  | startByCallFromRemote env want connect callerInfo accountInfo =>
      obtain rfl := Option.some.inj h
      obtain ⟨m, n, hle, he⟩ := s.startAbilityByCallFromRemote_leaves env want
        connect callerInfo.ofStartByCall accountInfo
      simp only [apply, left, he]
      exact ⟨fun _ => ⟨rfl, rfl⟩, fun _ => rfl, fun _ => rfl, hle⟩
  | releaseFromRemote env connect element callerInfo =>
      obtain rfl := Option.some.inj h
      obtain ⟨m, he⟩ := s.releaseAbilityFromRemote_leaves env connect element
        callerInfo.ofRelease
      simp only [apply, left, he]
      exact ⟨fun _ => ⟨rfl, rfl⟩, fun _ => rfl, fun _ => rfl, Nat.le_refl _⟩
  | callerDied env connect deviceType =>
      cases connect with
      | none => exact ⟨fun _ => ⟨rfl, rfl⟩, fun _ => rfl, fun _ => rfl, Nat.le_refl _⟩
      | some c =>
          cases deviceType with
          | caller =>
              obtain rfl := Option.some.inj h
              simp only [apply, processCallerDied, handleLocalCallerDied_leaves]
              exact ⟨fun _ => ⟨rfl, rfl⟩, fun _ => rfl, fun hr => absurd rfl hr, Nat.le_refl _⟩
          | callee =>
              obtain ⟨m, he⟩ := s.eraseCallee_leaves env c
              simp only [apply, processCallerDied, he]
              exact ⟨fun _ => ⟨rfl, rfl⟩, fun _ => rfl, fun _ => rfl, Nat.le_refl _⟩
  | calleeDied env connect =>
      cases connect with
      | none => exact ⟨fun _ => ⟨rfl, rfl⟩, fun _ => rfl, fun _ => rfl, Nat.le_refl _⟩
      | some c =>
          obtain ⟨m, he⟩ := s.eraseCallee_leaves env c
          simp only [apply, processCalleeDied, he]
          exact ⟨fun _ => ⟨rfl, rfl⟩, fun _ => rfl, fun _ => rfl, Nat.le_refl _⟩

/-! #### The counter -/

theorem ReportOp.apply_counts (h : s.Counts caller) {op : ReportOp}
    (hp : (ServiceStep.tables op).Presented caller s) : (op.apply s).1.Counts caller := by
  by_cases hrole : op.role = none ∨ op.role = some (.connect, .caller)
  · cases op with
    | connectRemote env replies want connect callerUid callerPid accessToken =>
        simp only [apply, left, connectRemoteAbility_eq]
        cases hr : s.connectRequest env want connect callerUid callerPid accessToken with
        | error code => exact h
        | ok request =>
            obtain ⟨c, callerInfo, accountInfo⟩ := request
            obtain ⟨-, -, -, -, hc⟩ := s.connectRequest_ok env hr
            have hu := (s.checkDistributedConnectLocked_eq_ok.mp hc).1
            simp only
            split
            · refine (mapping_counted h hu ?_).1
              intro c' hc'
              obtain rfl := Option.some.inj hc'
              exact hp c callerInfo accountInfo hr
            · exact h
    | disconnectRemote env connect => exact (disconnect_counted h connect).1
    | connectDied env connect => exact (connectDied_op_counted h connect).1
    | deviceOffline env deviceId => exact (deviceOffline_counted h deviceId).1
    | callerDied env connect deviceType => cases deviceType <;> simp [role] at hrole
    | _ => simp [role] at hrole
  · obtain ⟨role, hr⟩ := Option.ne_none_iff_exists'.mp fun hn => hrole (.inl hn)
    have hne : role ≠ (.connect, .caller) := fun he => hrole (.inr (he ▸ hr))
    obtain ⟨hm, ht⟩ := (apply_leaves (s := s) hr).connects hne
    rw [Counts, hm, ht]
    exact h

/-! #### The sessions of calls -/

theorem CallersListed.insert (h : s.CallersListed) {connect : RemoteObject}
    {localDeviceId remoteDeviceId : String} {element : ElementName} {callerInfo : CallerInfo}
    {targetComponent : TargetComponent} :
    DistributedSchedService.CallersListed { s with
      callerMap := s.callerMap.insert connect <|
        ConnectAbilitySession.addToSessions localDeviceId remoteDeviceId element callerInfo
          targetComponent (s.callerMap[connect]?.getD []) } := by
  intro c l hl
  rw [ExtTreeMap.getElem?_insert] at hl
  split at hl
  · obtain rfl := Option.some.inj hl
    refine ⟨ConnectAbilitySession.addToSessions_ne_nil, ?_⟩
    have hd : ((s.callerMap[connect]?.getD []).map (·.destinationDeviceId)).Nodup := by
      cases hk : s.callerMap[connect]? with
      | none => exact List.nodup_nil
      | some l => exact (h connect l hk).2
    rw [ConnectAbilitySession.map_destinationDeviceId_addToSessions]
    split
    · exact hd
    · rename_i hne
      exact List.nodup_append'.mpr ⟨hd, List.nodup_singleton _, List.disjoint_singleton.mpr hne⟩
  · exact h c l hl

theorem CallersListed.erase (h : s.CallersListed) (connect : RemoteObject) :
    DistributedSchedService.CallersListed
      { s with callerMap := s.callerMap.erase connect } := by
  intro c l hl
  rw [ExtTreeMap.getElem?_erase] at hl
  split at hl
  · cases hl
  · exact h c l hl

theorem processDeviceOffline_callerMap {deviceId localDeviceId : String}
    (hl : env.checkedLocalId deviceId = some localDeviceId) (c : RemoteObject) :
    (s.processDeviceOffline env deviceId).1.callerMap[c]? = s.callerMap[c]?.bind fun l =>
      if (withoutDevice deviceId l).isEmpty then none else some (withoutDevice deviceId l) := by
  simp only [processDeviceOffline, hl]
  exact ExtTreeMap.walk_getElem? (offlineCaller_snd s.distributedComponentListener deviceId) ..

theorem processDeviceOffline_connectAbilityMap {deviceId localDeviceId : String}
    (hl : env.checkedLocalId deviceId = some localDeviceId) (c : RemoteObject) :
    (s.processDeviceOffline env deviceId).1.connectAbilityMap[c]? =
      s.connectAbilityMap[c]?.filter fun connectInfo =>
        connectInfo.callerInfo.sourceDeviceId ≠ deviceId := by
  have hp : (fun connectInfo : ConnectInfo => decide
      (connectInfo.callerInfo.sourceDeviceId ≠ deviceId)) = fun connectInfo =>
        !decide (deviceId = connectInfo.callerInfo.sourceDeviceId) := by
    funext connectInfo
    rw [← decide_not]
    exact decide_eq_decide.mpr ne_comm
  simp only [processDeviceOffline, hl, hp]
  exact disconnectEntries_getElem? ..

theorem ReportOp.apply_callers (h : s.CallersListed) (op : ReportOp) :
    (op.apply s).1.CallersListed := by
  by_cases hrole : op.role = none ∨ op.role = some (.call, .caller)
  · cases op with
    | startByCall env want connect callerUid callerPid accessToken =>
        rcases s.startRemoteAbilityByCall_leaves env want connect callerUid
          callerPid accessToken with he | ⟨c, callerInfo, he⟩
        · simp only [apply, left, he]
          exact h
        · simp only [apply, left, he, saveCallerComponent_leaves]
          exact CallersListed.insert h
    | releaseRemote env connect element =>
        rcases s.releaseRemoteAbility_leaves env connect element with
          he | ⟨c, he⟩
        · simp only [apply, left, he]
          exact h
        · simp only [apply, left, he]
          exact CallersListed.erase h c
    | callerDied env connect deviceType =>
        cases connect with
        | none => exact h
        | some c =>
            cases deviceType with
            | caller =>
                simp only [apply, processCallerDied, handleLocalCallerDied_leaves]
                exact CallersListed.erase h c
            | callee => simp [role] at hrole
    | deviceOffline env deviceId =>
        cases hl : env.checkedLocalId deviceId with
        | none =>
            simp only [apply, processDeviceOffline, hl]
            exact h
        | some localDeviceId =>
            intro c l' hl'
            rw [apply, processDeviceOffline_callerMap hl] at hl'
            obtain ⟨l, hk, hl'⟩ := Option.bind_eq_some_iff.mp hl'
            refine ⟨ne_nil_of_withoutDevice hl', ?_⟩
            split at hl'
            · cases hl'
            · obtain rfl := Option.some.inj hl'
              exact (h c l hk).2.sublist (List.eraseP_sublist.map _)
    | _ => simp [role] at hrole
  · obtain ⟨role, hr⟩ := Option.ne_none_iff_exists'.mp fun hn => hrole (.inl hn)
    have hne : role ≠ (.call, .caller) := fun he => hrole (.inr (he ▸ hr))
    have hm := (apply_leaves (s := s) hr).callers hne
    intro c l hl
    rw [hm] at hl
    exact h c l hl

/-! #### The wrappers -/

namespace WrappersOwned

variable {m m' : Map RemoteObject ConnectInfo} {n n' : RemoteObject}

/-- Entries go, and objects are made. -/
theorem of_subset (h : WrappersOwned m n) (hn : n ≤ n')
    (hm : ∀ (connect : RemoteObject) (connectInfo : ConnectInfo),
      m'[connect]? = some connectInfo → m[connect]? = some connectInfo) : WrappersOwned m' n' where
  made connect connectInfo hk := Nat.lt_of_lt_of_le (h.made connect connectInfo (hm _ _ hk)) hn
  owner connect connect' connectInfo connectInfo' hk hk' :=
    h.owner connect connect' connectInfo connectInfo' (hm _ _ hk) (hm _ _ hk')

/-- A new wrapper is recorded. -/
theorem insert_new (h : WrappersOwned m n) {connect : RemoteObject} {callerInfo : CallerInfo}
    {element : ElementName} :
    WrappersOwned (m.insert connect ⟨callerInfo, n, element⟩) (n + 1) := by
  have hold : ∀ (c : RemoteObject) (connectInfo : ConnectInfo),
      (m.insert connect ⟨callerInfo, n, element⟩)[c]? = some connectInfo →
      connect = c ∧ connectInfo.callbackWrapper = n ∨
        m[c]? = some connectInfo ∧ connectInfo.callbackWrapper < n := by
    intro c connectInfo hc
    rw [ExtTreeMap.getElem?_insert] at hc
    split at hc
    · rename_i he
      obtain rfl := Option.some.inj hc
      exact .inl ⟨Std.LawfulEqOrd.eq_of_compare he, rfl⟩
    · exact .inr ⟨hc, h.made c connectInfo hc⟩
  refine ⟨fun c connectInfo hc => ?_, fun c c' connectInfo connectInfo' hc hc' he => ?_⟩
  · rcases hold c connectInfo hc with ⟨-, hw⟩ | ⟨-, hw⟩
    · exact hw ▸ Nat.lt_succ_self n
    · exact Nat.lt_succ_of_lt hw
  · rcases hold c connectInfo hc with ⟨rfl, hw⟩ | ⟨hc, hw⟩
    · rcases hold c' connectInfo' hc' with ⟨rfl, -⟩ | ⟨-, hw'⟩
      · rfl
      · exact absurd (he.symm.trans hw) (Nat.ne_of_lt hw')
    · rcases hold c' connectInfo' hc' with ⟨rfl, hw'⟩ | ⟨hc', -⟩
      · exact absurd (he.trans hw') (Nat.ne_of_lt hw)
      · exact h.owner c c' connectInfo connectInfo' hc hc' he

end WrappersOwned

theorem connectAbilityFromRemote_wrappers (h : WrappersOwned s.connectAbilityMap s.newObject)
    {callerInfo : CallerInfo} (ht : callerInfo.callerType = callerTypeHarmony) (want : Want)
    (connect : Option RemoteObject) (accountInfo : AccountInfo) :
    let o := s.connectAbilityFromRemote env want connect callerInfo accountInfo
    WrappersOwned o.service.connectAbilityMap o.service.newObject := by
  simp only [connectAbilityFromRemote_eq]
  cases connectFromRemotePermitted env want connect callerInfo accountInfo with
  | error code => exact h
  | ok c =>
      simp only [connectChecked, if_pos ht]
      cases hk : s.connectAbilityMap[c]? with
      | some connectInfo =>
          have hlookup : s.lookupConnect c = (connectInfo.callbackWrapper, true, s) := by
            rw [lookupConnect, hk]
          simp only [hlookup]
          split <;> exact h
      | none =>
          have hlookup : s.lookupConnect c =
              (s.newObject, false, { s with newObject := s.newObject + 1 }) := by
            rw [lookupConnect, hk]
          simp only [hlookup]
          split
          · exact h.of_subset (Nat.le_succ _) fun _ _ hc => hc
          · simp only [recordConnect, Bool.false_eq_true, if_false,
              ExtTreeMap.insertIfNew_eq_insert hk]
            exact h.insert_new

theorem getElem?_of_filter {m : Map RemoteObject ConnectInfo} {connect : RemoteObject}
    {connectInfo : ConnectInfo} {p : ConnectInfo → Bool}
    (h : m[connect]?.filter p = some connectInfo) : m[connect]? = some connectInfo :=
  (Option.filter_eq_some_iff.mp h).1

/-- An operation other than a connect makes no entry. -/
theorem ReportOp.apply_entry {op : ReportOp} {c : RemoteObject} {connectInfo : ConnectInfo}
    (hop : ∀ env want connect callerInfo accountInfo,
      op ≠ .connectFromRemote env want connect callerInfo accountInfo)
    (hk : (op.apply s).1.connectAbilityMap[c]? = some connectInfo) :
    s.connectAbilityMap[c]? = some connectInfo := by
  by_cases hrole : op.role = none ∨ op.role = some (.connect, .callee)
  · cases op with
    | connectFromRemote env want connect callerInfo accountInfo =>
        exact absurd rfl (hop env want connect callerInfo accountInfo)
    | disconnectFromRemote env connect uid sourceDeviceId =>
        cases connect with
        | none => exact hk
        | some c' =>
            cases hl : env.checkedLocalIdForRelease sourceDeviceId with
            | none =>
                simp only [apply, left, disconnectAbilityFromRemote, hl] at hk
                exact hk
            | some localDeviceId =>
                simp only [apply, left, s.disconnectAbilityFromRemote_map env hl,
                  ExtTreeMap.getElem?_erase] at hk
                split at hk
                · cases hk
                · exact hk
    | processDiedFromRemote env callerInfo =>
        simp only [apply, left, notifyProcessDiedFromRemote, disconnectEntries_getElem?] at hk
        exact getElem?_of_filter hk
    | deviceOffline env deviceId =>
        cases hl : env.checkedLocalId deviceId with
        | none =>
            simp only [apply, processDeviceOffline, hl] at hk
            exact hk
        | some localDeviceId =>
            rw [apply, processDeviceOffline_connectAbilityMap hl] at hk
            exact getElem?_of_filter hk
    | callerDied env connect deviceType => cases deviceType <;> simp [role] at hrole
    | _ => simp [role] at hrole
  · obtain ⟨role, hr⟩ := Option.ne_none_iff_exists'.mp fun hn => hrole (.inl hn)
    have hne : role ≠ (.connect, .callee) := fun he => hrole (.inr (he ▸ hr))
    rwa [(apply_leaves (s := s) hr).remote hne] at hk

theorem ReportOp.apply_newObject (op : ReportOp) : s.newObject ≤ (op.apply s).1.newObject := by
  cases hr : op.role with
  | some role => exact (apply_leaves hr).newObject
  | none =>
      cases op with
      | deviceOffline env deviceId =>
          simp only [apply, processDeviceOffline]
          split <;> exact Nat.le_refl _
      | callerDied env connect deviceType => cases deviceType <;> cases hr
      | _ => cases hr

theorem ReportOp.apply_wrappers (h : WrappersOwned s.connectAbilityMap s.newObject)
    (op : ReportOp) :
    WrappersOwned (op.apply s).1.connectAbilityMap (op.apply s).1.newObject := by
  by_cases hop : ∃ env want connect callerInfo accountInfo,
      op = .connectFromRemote env want connect callerInfo accountInfo
  · obtain ⟨env, want, connect, callerInfo, accountInfo, rfl⟩ := hop
    exact connectAbilityFromRemote_wrappers h callerInfo.ofConnect_callerType want connect
      accountInfo
  · refine h.of_subset op.apply_newObject fun c connectInfo hc => ?_
    refine apply_entry (fun env want connect callerInfo accountInfo he => ?_) hc
    exact hop ⟨env, want, connect, callerInfo, accountInfo, he⟩

/-- **What a run keeps.** -/
theorem reach_tables
    (h : Runs.Reach ServiceStep.apply (ServiceStep.Presented caller) {} s) : s.Tables caller := by
  refine h.invariant ⟨⟨.empty, fun c l hk => by simp at hk⟩, fun c l hk => by simp at hk,
    ⟨fun c connectInfo hk => by simp at hk, fun c c' connectInfo connectInfo' hk => by
      simp at hk⟩⟩ fun s step s' hi hp hs => ?_
  cases step with
  | tables op =>
      obtain rfl := Option.some.inj hs
      exact ⟨op.apply_counts hi.counts hp, op.apply_callers hi.callers,
        op.apply_wrappers hi.wrappers⟩
  | other listener dmsCallbackTask dschedContinuation newObjects =>
      obtain rfl := Option.some.inj hs
      exact ⟨hi.counts, hi.callers,
        hi.wrappers.of_subset (Nat.le_add_right ..) fun _ _ hk => hk⟩

/-! ### The sessions that are left -/

/-- The sessions of a connect with other devices; none, when there is no such session. -/
def otherSessions (deviceId : String) (l : List ConnectAbilitySession) :
    Option (List ConnectAbilitySession) :=
  let rest := l.filter fun session => session.destinationDeviceId ≠ deviceId
  if rest.isEmpty then none else some rest

/-- Taking out the first session with a device takes out all. -/
theorem withoutDevice_eq_filter {deviceId : String} {l : List ConnectAbilitySession}
    (h : (l.map (·.destinationDeviceId)).Nodup) :
    withoutDevice deviceId l =
      l.filter fun session => session.destinationDeviceId ≠ deviceId := by
  induction l with
  | nil => rfl
  | cons session l ih =>
      obtain ⟨hne, hd⟩ := List.nodup_cons.mp h
      have ih := ih hd
      by_cases hs : session.destinationDeviceId = deviceId
      · -- no session behind this one is with the device
        have hl : l.filter (fun session => session.destinationDeviceId ≠ deviceId) = l := by
          refine List.filter_eq_self.mpr fun x hx => decide_eq_true fun he => hne ?_
          exact List.mem_map.mpr ⟨x, hx, he.trans hs.symm⟩
        rw [withoutDevice, List.eraseP_cons_of_pos (by simpa using hs), List.filter_cons_of_neg
          (by simpa using hs), hl]
      · rw [withoutDevice, List.eraseP_cons_of_neg (by simpa using hs), List.filter_cons_of_pos
          (by simpa using hs), ← ih, withoutDevice]

theorem withoutDevice_eq_otherSessions {deviceId : String} {l : List ConnectAbilitySession}
    (h : (l.map (·.destinationDeviceId)).Nodup) :
    (if (withoutDevice deviceId l).isEmpty then none else some (withoutDevice deviceId l)) =
      otherSessions deviceId l := by
  rw [withoutDevice_eq_filter h]
  rfl

theorem otherSessions_eq_none {deviceId : String} {l : List ConnectAbilitySession} :
    otherSessions deviceId l = none ↔ ∀ session ∈ l, session.destinationDeviceId = deviceId := by
  simp [otherSessions, List.isEmpty_iff]

theorem ne_of_otherSessions {deviceId : String} {l l' : List ConnectAbilitySession}
    (h : otherSessions deviceId l = some l') :
    ∀ session ∈ l', session.destinationDeviceId ≠ deviceId := by
  intro session hs
  unfold otherSessions at h
  simp only at h
  split at h
  · cases h
  · obtain rfl := Option.some.inj h
    exact of_decide_eq_true (List.mem_filter.mp hs).2

/-- The session with a device, among sessions with different devices. -/
theorem find?_device {deviceId : String} {l : List ConnectAbilitySession}
    {session : ConnectAbilitySession} (h : (l.map (·.destinationDeviceId)).Nodup)
    (hs : session ∈ l) (hd : session.destinationDeviceId = deviceId) :
    (l.find? fun session => session.destinationDeviceId = deviceId) = some session := by
  induction l with
  | nil => cases hs
  | cons first l ih =>
      obtain ⟨hne, hnodup⟩ := List.nodup_cons.mp h
      rcases List.mem_cons.mp hs with rfl | hs
      · exact List.find?_cons_of_pos (by simpa using hd)
      · rw [List.find?_cons_of_neg, ih hnodup hs]
        intro he
        exact hne (List.mem_map.mpr ⟨session, hs, hd.trans (of_decide_eq_true he).symm⟩)

/-! ### What a device that goes offline does -/

def Effect.isDecrease : Effect → Bool
  | .decreaseConnect .. => true
  | _ => false

/-- What is done for one connect, besides `DecreaseConnectLocked`. -/
def offlineConnectEffects (env : Env) (listener : Option RemoteObject) (deviceId : String)
    (connect : RemoteObject) (l : List ConnectAbilitySession) : List Effect :=
  (match l.find? fun session => session.destinationDeviceId = deviceId with
    | some session => notifyDeviceOfflineToAppLocked env connect session
    | none => []) ++
  if (withoutDevice deviceId l).isEmpty then
    .removeDeathRecipient connect .connect ::
      (deviceCaller deviceId l).reportDistributedComponentChange listener connect .remove .connect
        .caller
  else []

theorem mem_notifyDeviceOfflineToAppLocked {connect : RemoteObject}
    {session : ConnectAbilitySession} {e : Effect}
    (h : e ∈ notifyDeviceOfflineToAppLocked env connect session) :
    ∃ element ∈ session.elementsList, e = .notifyApp connect element deviceOfflineErr := by
  obtain ⟨element, hm, he⟩ := List.mem_flatMap.mp h
  unfold notifyApp at he
  split at he
  · exact ⟨element, hm, List.mem_singleton.mp he⟩
  · cases he

theorem mem_offlineConnectEffects {listener : Option RemoteObject} {deviceId : String}
    {connect : RemoteObject} {l : List ConnectAbilitySession} {e : Effect}
    (h : e ∈ offlineConnectEffects env listener deviceId connect l) :
    (∃ session ∈ l, session.destinationDeviceId = deviceId ∧ ∃ element ∈ session.elementsList,
        e = .notifyApp connect element deviceOfflineErr) ∨
      ((withoutDevice deviceId l).isEmpty ∧ e = .removeDeathRecipient connect .connect) ∨
      ∃ info, e = .report connect info := by
  rcases List.mem_append.mp h with h | h
  · split at h
    · rename_i session hf
      obtain ⟨element, hm, he⟩ := mem_notifyDeviceOfflineToAppLocked h
      exact .inl ⟨session, List.mem_of_find?_eq_some hf, by simpa using List.find?_some hf,
        element, hm, he⟩
    · cases h
  · split at h
    · rename_i hempty
      rcases List.mem_cons.mp h with h | h
      · exact .inr (.inl ⟨hempty, h⟩)
      · exact .inr (.inr ⟨_, (CallerInfo.mem_reportDistributedComponentChange.mp h).2⟩)
    · cases h

theorem processDistributedOffline_effects (deviceId : String) :
    (s.processDistributedOffline env deviceId).2.filter (fun e => !e.isDecrease) =
      s.distributedConnectAbilityMap.toList.flatMap fun e =>
        offlineConnectEffects env s.distributedComponentListener deviceId e.1 e.2 := by
  refine (ExtTreeMap.walk_append
    (f := offlineDistributedConnect env s.distributedComponentListener deviceId)
    (l := fun acc => acc.2.filter fun e => !e.isDecrease)
    (g := offlineConnectEffects env s.distributedComponentListener deviceId)
    (fun acc connect l => ?_) (s.trackingUidMap, [])
    s.distributedConnectAbilityMap).trans (List.nil_append _)
  have hkept : ∀ es : List Effect, (∀ e ∈ es, e.isDecrease = false) →
      es.filter (fun e => !e.isDecrease) = es := by
    intro es hes
    refine List.filter_eq_self.mpr fun e he => ?_
    rw [hes e he]
    rfl
  have hnotified : ∀ session, ∀ e ∈ notifyDeviceOfflineToAppLocked env connect session,
      e.isDecrease = false := by
    intro session e he
    obtain ⟨_, -, rfl⟩ := mem_notifyDeviceOfflineToAppLocked he
    rfl
  have hreport : ∀ callerInfo : CallerInfo,
      ∀ e ∈ callerInfo.reportDistributedComponentChange s.distributedComponentListener connect
        .remove .connect .caller, e.isDecrease = false := by
    intro callerInfo e he
    obtain ⟨-, rfl⟩ := CallerInfo.mem_reportDistributedComponentChange.mp he
    rfl
  have hdecrease : ∀ t uid, (decreaseConnectLocked t uid).2.filter (fun e => !e.isDecrease) =
      [] := by
    intro t uid
    rw [decreaseConnectLocked_effects]
    rfl
  have hremove : [Effect.removeDeathRecipient connect .connect].filter
      (fun e => !e.isDecrease) = [.removeDeathRecipient connect .connect] := rfl
  simp only [offlineDistributedConnect, offlineConnectEffects, deviceCaller]
  by_cases he : (l.eraseP fun session => session.destinationDeviceId = deviceId).isEmpty
  · have hleft : (withoutDevice deviceId l).isEmpty := he
    simp only [if_pos he, if_pos hleft]
    cases l.find? fun session => session.destinationDeviceId = deviceId with
    | none =>
        simp only [List.filter_append, hremove, hdecrease, hkept _ (hreport _), List.filter_nil]
        simp only [List.append_assoc, List.nil_append, List.singleton_append]
    | some session =>
        simp only [List.filter_append, hkept _ (hnotified session), hremove, hdecrease,
          hkept _ (hreport _)]
        simp only [List.append_assoc, List.singleton_append]
  · have hleft : ¬ (withoutDevice deviceId l).isEmpty := he
    simp only [if_neg he, if_neg hleft, List.append_nil]
    cases l.find? fun session => session.destinationDeviceId = deviceId with
    | none => simp only [List.append_nil]
    | some session => simp only [List.filter_append, hkept _ (hnotified session)]

theorem mem_processDistributedOffline {deviceId : String} {e : Effect}
    (h : e ∈ (s.processDistributedOffline env deviceId).2) (he : e.isDecrease = false) :
    ∃ entry : RemoteObject × List ConnectAbilitySession,
      e ∈ offlineConnectEffects env s.distributedComponentListener deviceId entry.1 entry.2 := by
  have hf : e ∈ (s.processDistributedOffline env deviceId).2.filter fun e => !e.isDecrease :=
    List.mem_filter.mpr ⟨h, by rw [he]; rfl⟩
  rw [processDistributedOffline_effects] at hf
  obtain ⟨entry, -, hm⟩ := List.mem_flatMap.mp hf
  exact ⟨entry, hm⟩

/-- An effect that only one connect can have is counted there. -/
theorem count_processDistributedOffline {deviceId : String} {e : Effect} {connect : RemoteObject}
    (he : e.isDecrease = false)
    (hc : ∀ k l, k ≠ connect →
      e ∉ offlineConnectEffects env s.distributedComponentListener deviceId k l) :
    (s.processDistributedOffline env deviceId).2.count e =
      (s.distributedConnectAbilityMap[connect]?.map fun l =>
        (offlineConnectEffects env s.distributedComponentListener deviceId connect l).count
          e).getD 0 := by
  rw [← List.count_filter (p := fun e => !e.isDecrease) (by simp [he]),
    processDistributedOffline_effects, List.count]
  exact ExtTreeMap.countP_flatMap_toList fun k l _ hk => List.count_eq_zero.mpr (hc k l hk)

theorem processCalleeOffline_effects (deviceId : String) :
    (s.processCalleeOffline deviceId).2 = s.callerMap.toList.flatMap fun e =>
      if (withoutDevice deviceId e.2).isEmpty then
        .removeDeathRecipient e.1 .callerForLocalDevice ::
          (deviceCaller deviceId e.2).reportDistributedComponentChange
            s.distributedComponentListener e.1 .remove .call .caller
      else [] := by
  refine (ExtTreeMap.walk_append (f := offlineCaller s.distributedComponentListener deviceId)
    (l := id)
    (g := fun connect l => if (withoutDevice deviceId l).isEmpty then
        .removeDeathRecipient connect .callerForLocalDevice ::
          (deviceCaller deviceId l).reportDistributedComponentChange
            s.distributedComponentListener connect .remove .call .caller
      else []) (fun acc connect l => ?_) [] s.callerMap).trans (List.nil_append _)
  simp only [offlineCaller, deviceCaller, id_eq]
  cases l.find? fun session => session.destinationDeviceId = deviceId <;>
  · by_cases he : (l.eraseP fun session => session.destinationDeviceId = deviceId).isEmpty
    · have hleft : (withoutDevice deviceId l).isEmpty := he
      simp only [if_pos he, if_pos hleft]
    · have hleft : ¬ (withoutDevice deviceId l).isEmpty := he
      simp only [if_neg he, if_neg hleft, List.append_nil]

/-! #### The calls of the ability manager -/

def amsCalls (es : List Effect) : List AmsCall :=
  es.filterMap fun e => match e with
    | .ams call => some call
    | _ => none

theorem amsCalls_append (es es' : List Effect) :
    amsCalls (es ++ es') = amsCalls es ++ amsCalls es' := List.filterMap_append

theorem amsCalls_eq_nil {es : List Effect} (h : ∀ call, Effect.ams call ∉ es) :
    amsCalls es = [] := by
  refine List.filterMap_eq_nil_iff.mpr fun e he => ?_
  cases e with
  | ams call => exact absurd he (h call)
  | _ => rfl

/-- The entries that go are disconnected, in the order of the table. -/
theorem amsCalls_disconnectEntries (gone : ConnectInfo → Bool) :
    amsCalls (s.disconnectEntries env gone).effects =
      s.connectAbilityMap.toList.flatMap fun e =>
        if gone e.2 then
          amsCalls (DistributedSchedAdapter.disconnectAbility env e.2.callbackWrapper).2
        else [] := by
  have hentry : ∀ connect (connectInfo : ConnectInfo),
      amsCalls (connectInfo.reportDistributedComponentChange env
        s.distributedComponentListener connect .remove .connect .callee) = [] := by
    intro connect connectInfo
    refine amsCalls_eq_nil fun call hc => ?_
    cases (ConnectInfo.mem_reportDistributedComponentChange.mp hc).2
  rw [disconnectEntries_effects, amsCalls, List.filterMap_flatMap]
  congr 1
  funext e
  split
  · exact (amsCalls_append _ _).trans (by rw [hentry, List.append_nil])
  · rfl

/-- A wrapper is recorded for one connect, so it is disconnected once. -/
theorem count_disconnectAbility {m : Map RemoteObject ConnectInfo} {n c : RemoteObject}
    (h : WrappersOwned m n) {connectInfo : ConnectInfo} (hk : m[c]? = some connectInfo)
    {g : ConnectInfo → Bool} (hg : g connectInfo) (hams : env.amsConnect = errOk) :
    (m.toList.flatMap fun e =>
      if g e.2 then
        amsCalls (DistributedSchedAdapter.disconnectAbility env e.2.callbackWrapper).2
      else []).count (.disconnectAbility connectInfo.callbackWrapper) = 1 := by
  have hone : ∀ w : RemoteObject,
      amsCalls (DistributedSchedAdapter.disconnectAbility env w).2 = [.disconnectAbility w] := by
    intro w
    rw [DistributedSchedAdapter.disconnectAbility, if_neg (not_not_intro hams)]
    rfl
  simp only [hone, List.count]
  refine (ExtTreeMap.countP_flatMap_toList (m := m) (k := c)
    (g := fun (_ : RemoteObject) (entry : ConnectInfo) =>
      if g entry then [AmsCall.disconnectAbility entry.callbackWrapper] else [])
    fun c' entry hk' hc => List.count_eq_zero.mpr fun he => ?_).trans ?_
  · split at he
    · have hwrapper := AmsCall.disconnectAbility.inj (List.mem_singleton.mp he)
      exact hc (h.owner c' c entry connectInfo hk' hk hwrapper.symm)
    · cases he
  · rw [hk]
    simp [hg]

/-! #### The effects of the four parts, told apart -/

section parts

variable {deviceId localDeviceId : String}

theorem processDeviceOffline_effects (hl : env.checkedLocalId deviceId = some localDeviceId) :
    ∃ s₁ s₂ : DistributedSchedService,
      s₁.connectAbilityMap = s.connectAbilityMap ∧ s₂.callerMap = s.callerMap ∧
      (s.processDeviceOffline env deviceId).2 = (s.processDistributedOffline env deviceId).2 ++
        (s₁.processConnectOffline env deviceId).2 ++ (s₂.processCalleeOffline deviceId).2 ++
        (DmsCallbackTask.notifyDeviceOffline env s.dmsCallbackTask deviceId).2 := by
  simp only [processDeviceOffline, hl]
  exact ⟨_, _, rfl, rfl, rfl⟩

theorem not_mem_notifyDeviceOffline {e : Effect} {t : DmsCallbackTask}
    (h : ∀ callback want, e ≠ .freeInstallDone callback deviceOfflineErr want) :
    e ∉ (DmsCallbackTask.notifyDeviceOffline env t deviceId).2 := by
  intro he
  obtain ⟨callback, want, rfl⟩ := DmsCallbackTask.mem_notifyDeviceOffline e he
  exact h callback want rfl

/-- An effect of the first walk is counted there. -/
theorem count_of_distributed (hl : env.checkedLocalId deviceId = some localDeviceId) {e : Effect}
    (he : (∃ connect element code, e = .notifyApp connect element code) ∨
      ∃ connect, e = .removeDeathRecipient connect .connect) :
    (s.processDeviceOffline env deviceId).2.count e =
      (s.processDistributedOffline env deviceId).2.count e := by
  obtain ⟨s₁, s₂, -, -, heq⟩ := processDeviceOffline_effects (s := s) hl
  have h₁ : e ∉ (s₁.processConnectOffline env deviceId).2 := by
    intro hm
    rcases mem_disconnectEntries _ _ _ _ hm with ⟨_, rfl⟩ | ⟨_, _, rfl, -⟩ <;> simp at he
  have h₂ : e ∉ (s₂.processCalleeOffline deviceId).2 := by
    intro hm
    rcases mem_processCalleeOffline _ _ _ hm with ⟨_, rfl⟩ | ⟨_, _, rfl, -⟩ <;> simp at he
  have h₃ : e ∉ (DmsCallbackTask.notifyDeviceOffline env s.dmsCallbackTask deviceId).2 := by
    refine not_mem_notifyDeviceOffline fun _ _ h => ?_
    subst h
    simp at he
  rw [heq, List.count_append, List.count_append, List.count_append, List.count_eq_zero.mpr h₁,
    List.count_eq_zero.mpr h₂, List.count_eq_zero.mpr h₃]
  rfl

theorem count_recipient (hl : env.checkedLocalId deviceId = some localDeviceId)
    (connect : RemoteObject) :
    (s.processDeviceOffline env deviceId).2.count (.removeDeathRecipient connect .connect) =
      (s.distributedConnectAbilityMap[connect]?.map fun l =>
        if (withoutDevice deviceId l).isEmpty then 1 else 0).getD 0 := by
  rw [count_of_distributed hl (.inr ⟨connect, rfl⟩), count_processDistributedOffline rfl]
  · congr 2
    funext l
    have hnotified : ∀ session, .removeDeathRecipient connect .connect ∉
        notifyDeviceOfflineToAppLocked env connect session := by
      intro session he
      obtain ⟨_, -, he⟩ := mem_notifyDeviceOfflineToAppLocked he
      cases he
    have hreport : .removeDeathRecipient connect .connect ∉
        (deviceCaller deviceId l).reportDistributedComponentChange s.distributedComponentListener
          connect .remove .connect .caller := by
      intro he
      cases (CallerInfo.mem_reportDistributedComponentChange.mp he).2
    rw [offlineConnectEffects, List.count_append]
    split
    · rw [List.count_eq_zero.mpr (hnotified _), Nat.zero_add]
      split
      · rw [List.count_cons_self, List.count_eq_zero.mpr hreport]
      · rfl
    · rw [List.count_nil, Nat.zero_add]
      split
      · rw [List.count_cons_self, List.count_eq_zero.mpr hreport]
      · rfl
  · intro k l hk he
    rcases mem_offlineConnectEffects he with ⟨_, -, -, _, -, he⟩ | ⟨-, he⟩ | ⟨_, he⟩
    · cases he
    · cases he
      exact hk rfl
    · cases he

theorem count_callerRecipient (hl : env.checkedLocalId deviceId = some localDeviceId)
    (connect : RemoteObject) :
    (s.processDeviceOffline env deviceId).2.count
        (.removeDeathRecipient connect .callerForLocalDevice) =
      (s.callerMap[connect]?.map fun l =>
        if (withoutDevice deviceId l).isEmpty then 1 else 0).getD 0 := by
  obtain ⟨s₁, s₂, -, hcallers, heq⟩ := processDeviceOffline_effects (s := s) hl
  have h₀ : .removeDeathRecipient connect .callerForLocalDevice ∉
      (s.processDistributedOffline env deviceId).2 := by
    intro hm
    obtain ⟨e, he⟩ := mem_processDistributedOffline hm rfl
    rcases mem_offlineConnectEffects he with ⟨_, -, -, _, -, he⟩ | ⟨-, he⟩ | ⟨_, he⟩ <;> cases he
  have h₁ : .removeDeathRecipient connect .callerForLocalDevice ∉
      (s₁.processConnectOffline env deviceId).2 := by
    intro hm
    rcases mem_disconnectEntries _ _ _ _ hm with ⟨_, h⟩ | ⟨_, _, h, -⟩ <;> cases h
  have h₃ : .removeDeathRecipient connect .callerForLocalDevice ∉
      (DmsCallbackTask.notifyDeviceOffline env s.dmsCallbackTask deviceId).2 :=
    not_mem_notifyDeviceOffline fun _ _ h => by cases h
  rw [heq, List.count_append, List.count_append, List.count_append, List.count_eq_zero.mpr h₀,
    List.count_eq_zero.mpr h₁, List.count_eq_zero.mpr h₃, Nat.zero_add,
    Nat.add_zero, processCalleeOffline_effects, List.count, hcallers]
  have hreport : ∀ k l, .removeDeathRecipient connect .callerForLocalDevice ∉
      (deviceCaller deviceId l).reportDistributedComponentChange s₂.distributedComponentListener
        k .remove .call .caller := by
    intro k l he
    cases (CallerInfo.mem_reportDistributedComponentChange.mp he).2
  refine (ExtTreeMap.countP_flatMap_toList (m := s.callerMap) (g := fun k l =>
    if (withoutDevice deviceId l).isEmpty then
      .removeDeathRecipient k .callerForLocalDevice ::
        (deviceCaller deviceId l).reportDistributedComponentChange s₂.distributedComponentListener
          k .remove .call .caller
    else []) (k := connect) fun k l _ hk => List.count_eq_zero.mpr fun he => ?_).trans ?_
  · split at he
    · rcases List.mem_cons.mp he with he | he
      · cases he
        exact hk rfl
      · exact hreport k l he
    · cases he
  · congr 2
    funext l
    split
    · exact (List.count_cons_self ..).trans
        (congrArg (· + 1) (List.count_eq_zero.mpr (hreport connect l)))
    · rfl

/-- What an application is told is told for its own connect. -/
theorem count_notifyApp (hl : env.checkedLocalId deviceId = some localDeviceId)
    (connect : RemoteObject) (element : ElementName) (code : Int) :
    (s.processDeviceOffline env deviceId).2.count (.notifyApp connect element code) =
      (s.distributedConnectAbilityMap[connect]?.map fun l =>
        (offlineConnectEffects env s.distributedComponentListener deviceId connect l).count
          (.notifyApp connect element code)).getD 0 := by
  rw [count_of_distributed hl (.inl ⟨connect, element, code, rfl⟩),
    count_processDistributedOffline rfl]
  intro k l hk he
  rcases mem_offlineConnectEffects he with ⟨_, -, -, _, -, he⟩ | ⟨-, he⟩ | ⟨_, he⟩
  · cases he
    exact hk rfl
  · cases he
  · cases he

/-- An element of the session with the device is told once. -/
theorem count_element (hw : env.parcelWrites = true) {listener : Option RemoteObject}
    {connect : RemoteObject} {l : List ConnectAbilitySession} {session : ConnectAbilitySession}
    {element : ElementName} (hd : (l.map (·.destinationDeviceId)).Nodup) (hs : session ∈ l)
    (hdev : session.destinationDeviceId = deviceId) (hn : session.elementsList.Nodup)
    (he : element ∈ session.elementsList) :
    (offlineConnectEffects env listener deviceId connect l).count
      (.notifyApp connect element deviceOfflineErr) = 1 := by
  have htold : notifyDeviceOfflineToAppLocked env connect session =
      session.elementsList.map fun element => .notifyApp connect element deviceOfflineErr := by
    simp only [notifyDeviceOfflineToAppLocked, notifyApp, hw, if_true]
    exact List.map_eq_flatMap.symm
  have hinj : Function.Injective
      fun element => Effect.notifyApp connect element deviceOfflineErr := by
    intro x y h
    cases h
    rfl
  have hrest : ∀ P : Prop, ∀ _ : Decidable P, .notifyApp connect element deviceOfflineErr ∉
      if P then
        .removeDeathRecipient connect .connect ::
          (deviceCaller deviceId l).reportDistributedComponentChange listener connect .remove
            .connect .caller
      else [] := by
    intro P _ hm
    split at hm
    · rcases List.mem_cons.mp hm with hm | hm
      · cases hm
      · cases (CallerInfo.mem_reportDistributedComponentChange.mp hm).2
    · cases hm
  rw [offlineConnectEffects, find?_device hd hs hdev, List.count_append,
    List.count_eq_zero.mpr (hrest _ _)]
  simp only [htold]
  exact List.count_eq_one_of_mem (hn.map hinj) (List.mem_map_of_mem he)

/-- The ability manager is called for the entries of the device. -/
theorem amsCalls_processDeviceOffline (hl : env.checkedLocalId deviceId = some localDeviceId) :
    amsCalls (s.processDeviceOffline env deviceId).2 =
      s.connectAbilityMap.toList.flatMap fun e =>
        if deviceId = e.2.callerInfo.sourceDeviceId then
          amsCalls (DistributedSchedAdapter.disconnectAbility env e.2.callbackWrapper).2
        else [] := by
  obtain ⟨s₁, s₂, hm, -, heq⟩ := processDeviceOffline_effects (s := s) hl
  have h₀ : ∀ call, Effect.ams call ∉ (s.processDistributedOffline env deviceId).2 := by
    intro call hm
    obtain ⟨e, he⟩ := mem_processDistributedOffline hm rfl
    rcases mem_offlineConnectEffects he with ⟨_, -, -, _, -, he⟩ | ⟨-, he⟩ | ⟨_, he⟩ <;> cases he
  have h₂ : ∀ call, Effect.ams call ∉ (s₂.processCalleeOffline deviceId).2 := by
    intro call hc
    rcases mem_processCalleeOffline _ _ _ hc with ⟨_, h⟩ | ⟨_, _, h, -⟩ <;> cases h
  have h₃ : ∀ call, Effect.ams call ∉
      (DmsCallbackTask.notifyDeviceOffline env s.dmsCallbackTask deviceId).2 :=
    fun call => not_mem_notifyDeviceOffline fun _ _ h => by cases h
  rw [heq, amsCalls_append, amsCalls_append, amsCalls_append, amsCalls_eq_nil h₀,
    amsCalls_eq_nil h₂, amsCalls_eq_nil h₃, List.nil_append, List.append_nil, List.append_nil,
    processConnectOffline, amsCalls_disconnectEntries, hm]
  simp only [decide_eq_true_eq]

end parts

/-! ### The theorem -/

/-- `ProcessDeviceOffline` removes the device, and leaves the rest. -/
structure OfflineRemoves (env : Env) (deviceId : String) (s s' : DistributedSchedService)
    (es : List Effect) : Prop where
  /-- each connect keeps its sessions with other devices, in their order -/
  connects : ∀ c : RemoteObject, s'.distributedConnectAbilityMap[c]? =
    s.distributedConnectAbilityMap[c]?.bind (otherSessions deviceId)
  callers : ∀ c : RemoteObject, s'.callerMap[c]? = s.callerMap[c]?.bind (otherSessions deviceId)
  remote : ∀ c : RemoteObject, s'.connectAbilityMap[c]? = s.connectAbilityMap[c]?.filter
    fun connectInfo => connectInfo.callerInfo.sourceDeviceId ≠ deviceId
  /-- no session with the device is left -/
  noSession : ∀ (c : RemoteObject) (l : List ConnectAbilitySession),
    s'.distributedConnectAbilityMap[c]? = some l ∨ s'.callerMap[c]? = some l →
    ∀ session ∈ l, session.destinationDeviceId ≠ deviceId
  /-- a key goes when all its sessions are with the device, and its recipient goes with it -/
  connectGone : ∀ (c : RemoteObject) (l : List ConnectAbilitySession),
    s.distributedConnectAbilityMap[c]? = some l →
    (s'.distributedConnectAbilityMap[c]? = none ↔
      ∀ session ∈ l, session.destinationDeviceId = deviceId)
  callerGone : ∀ (c : RemoteObject) (l : List ConnectAbilitySession),
    s.callerMap[c]? = some l →
    (s'.callerMap[c]? = none ↔ ∀ session ∈ l, session.destinationDeviceId = deviceId)
  connectRecipient : ∀ c : RemoteObject, es.count (.removeDeathRecipient c .connect) =
    if s.distributedConnectAbilityMap[c]? ≠ none ∧ s'.distributedConnectAbilityMap[c]? = none
    then 1 else 0
  callerRecipient : ∀ c : RemoteObject,
    es.count (.removeDeathRecipient c .callerForLocalDevice) =
      if s.callerMap[c]? ≠ none ∧ s'.callerMap[c]? = none then 1 else 0
  /-- the count of a uid is one lower for each of its keys that went -/
  counter : ∀ uid, s.trackingUidMap.tally uid = s'.trackingUidMap.tally uid +
    s.distributedConnectAbilityMap.count fun _ l => getUidLocked l = uid &&
      (otherSessions deviceId l).isNone
  counterNonzero : ∀ (uid : Int) (n : Nat), s'.trackingUidMap[uid]? = some n → n ≠ 0
  /-- each element of a removed session is told once, to its connect, and nothing else is -/
  told : ∀ (c : RemoteObject) (l : List ConnectAbilitySession),
    s.distributedConnectAbilityMap[c]? = some l → ∀ session ∈ l,
    session.destinationDeviceId = deviceId → ∀ element ∈ session.elementsList,
    es.count (.notifyApp c element deviceOfflineErr) = 1
  onlyTold : ∀ c element code, Effect.notifyApp c element code ∈ es → code = deviceOfflineErr ∧
    ∃ (l : List ConnectAbilitySession) (session : ConnectAbilitySession),
      s.distributedConnectAbilityMap[c]? = some l ∧ session ∈ l ∧
      session.destinationDeviceId = deviceId ∧ element ∈ session.elementsList
  /-- each removed entry is disconnected, in the order of the table -/
  disconnects : amsCalls es = s.connectAbilityMap.toList.flatMap fun e =>
    if deviceId = e.2.callerInfo.sourceDeviceId then
      amsCalls (DistributedSchedAdapter.disconnectAbility env e.2.callbackWrapper).2
    else []
  disconnectedOnce : ∀ (c : RemoteObject) (connectInfo : ConnectInfo),
    s.connectAbilityMap[c]? = some connectInfo → connectInfo.callerInfo.sourceDeviceId = deviceId →
    env.amsConnect = errOk →
    (amsCalls es).count (.disconnectAbility connectInfo.callbackWrapper) = 1
  /-- the rest of the service, besides the free installs that wait for the device -/
  kept : s'.calleeMap = s.calleeMap ∧
    s'.distributedComponentListener = s.distributedComponentListener ∧
    s'.dschedContinuation = s.dschedContinuation ∧ s'.newObject = s.newObject

/-- A key of a table of sessions that goes. -/
theorem gone_count {deviceId : String} {m m' : Map RemoteObject (List ConnectAbilitySession)}
    {c : RemoteObject} (hm : m'[c]? = m[c]?.bind (otherSessions deviceId))
    (hd : ∀ l, m[c]? = some l → (l.map (·.destinationDeviceId)).Nodup) :
    (m[c]?.map fun l => if (withoutDevice deviceId l).isEmpty then 1 else 0).getD 0 =
      if m[c]? ≠ none ∧ m'[c]? = none then 1 else 0 := by
  rw [hm]
  cases hk : m[c]? with
  | none => simp
  | some l =>
      have hw : (if (withoutDevice deviceId l).isEmpty then none
          else some (withoutDevice deviceId l)) = otherSessions deviceId l :=
        withoutDevice_eq_otherSessions (hd l hk)
      by_cases he : (withoutDevice deviceId l).isEmpty
      · rw [if_pos he] at hw
        simp [← hw, List.isEmpty_iff.mp he]
      · rw [if_neg he] at hw
        simp [← hw, mt List.isEmpty_iff.mpr he]

section counted

variable {deviceId localDeviceId : String}

/-- Each connect keeps its sessions with other devices. -/
theorem processDeviceOffline_connects (h : s.Counts caller)
    (hl : env.checkedLocalId deviceId = some localDeviceId) (c : RemoteObject) :
    (s.processDeviceOffline env deviceId).1.distributedConnectAbilityMap[c]? =
      s.distributedConnectAbilityMap[c]?.bind (otherSessions deviceId) := by
  simp only [processDeviceOffline, hl]
  refine (ExtTreeMap.walk_getElem?
    (offlineDistributedConnect_snd env s.distributedComponentListener deviceId) ..).trans ?_
  refine Option.bind_congr fun l hk => ?_
  exact withoutDevice_eq_otherSessions (h.sessions c l hk).devices

/-- The count of a uid is lowered for each of its keys that go. -/
theorem processDeviceOffline_tally (h : s.Counts caller)
    (hl : env.checkedLocalId deviceId = some localDeviceId) (uid : Int) :
    s.trackingUidMap.tally uid = (s.processDeviceOffline env deviceId).1.trackingUidMap.tally uid +
      s.distributedConnectAbilityMap.count fun _ l => getUidLocked l = uid &&
        (otherSessions deviceId l).isNone := by
  have hconnects := processDeviceOffline_connects h hl
  have hcounts' : (s.processDeviceOffline env deviceId).1.Counts caller :=
    (deviceOffline_counted h deviceId).1
  rw [h.counted.tallies.agree, hcounts'.counted.tallies.agree,
    ExtTreeMap.count_of_getElem? hconnects,
    ExtTreeMap.count_split _ fun _ l => (otherSessions deviceId l).isSome]
  congr 1
  · refine ExtTreeMap.count_congr fun c l hk => ?_
    cases ho : otherSessions deviceId l with
    | none => exact Bool.and_false _
    | some l' =>
        -- the sessions that are left are of the same caller
        have hk' : (s.processDeviceOffline env deviceId).1.distributedConnectAbilityMap[c]? =
            some l' := by rw [hconnects, hk, Option.bind_some, ho]
        simp only [Option.isSome_some, Bool.and_true, Option.any_some,
          (h.sessions c l hk).getUidLocked_eq, (hcounts'.sessions c l' hk').getUidLocked_eq]
  · refine ExtTreeMap.count_congr fun c l hk => ?_
    rw [Option.not_isSome]

/-- A connect is told only of the elements of its sessions with the device. -/
theorem notifyApp_of_mem (hl : env.checkedLocalId deviceId = some localDeviceId)
    {c : RemoteObject} {element : ElementName} {code : Int}
    (h : Effect.notifyApp c element code ∈ (s.processDeviceOffline env deviceId).2) :
    code = deviceOfflineErr ∧
      ∃ (l : List ConnectAbilitySession) (session : ConnectAbilitySession),
        s.distributedConnectAbilityMap[c]? = some l ∧ session ∈ l ∧
        session.destinationDeviceId = deviceId ∧ element ∈ session.elementsList := by
  have hpos := List.count_pos_iff.mpr h
  rw [count_notifyApp hl] at hpos
  cases hk : s.distributedConnectAbilityMap[c]? with
  | none =>
      rw [hk] at hpos
      exact absurd hpos (Nat.lt_irrefl 0)
  | some l =>
      rw [hk] at hpos
      rcases mem_offlineConnectEffects (List.count_pos_iff.mp hpos) with
        ⟨session, hs, hdev, element', hm, heq⟩ | ⟨-, heq⟩ | ⟨_, heq⟩
      · cases heq
        exact ⟨rfl, l, session, rfl, hs, hdev, hm⟩
      · cases heq
      · cases heq

end counted

variable {deviceId : String}

/-- **A device that goes offline is removed, and nothing else.**  In every state of the tables
that a run of the service reaches, when every connect was presented with the caller info of its
owner. -/
theorem offline_removes_device {localDeviceId : String}
    (h : Runs.Reach ServiceStep.apply (ServiceStep.Presented caller) {} s)
    (hl : env.localDeviceId = some localDeviceId) (hl0 : localDeviceId ≠ "")
    (hd0 : deviceId ≠ "") (hne : deviceId ≠ localDeviceId) (hw : env.parcelWrites = true) :
    OfflineRemoves env deviceId s (s.processDeviceOffline env deviceId).1
      (s.processDeviceOffline env deviceId).2 := by
  have hlocal : env.checkedLocalId deviceId = some localDeviceId :=
    Env.checkedLocalId_eq_some.mpr ⟨hl, hl0, hd0, hne.symm⟩
  obtain ⟨hcounts, hcallers, hwrappers⟩ := reach_tables h
  have hconnects := processDeviceOffline_connects hcounts hlocal
  have hcallerMap : ∀ c : RemoteObject,
      (s.processDeviceOffline env deviceId).1.callerMap[c]? =
        s.callerMap[c]?.bind (otherSessions deviceId) := by
    intro c
    rw [processDeviceOffline_callerMap hlocal]
    exact Option.bind_congr fun l hk => withoutDevice_eq_otherSessions (hcallers c l hk).2
  have hcounts' : (s.processDeviceOffline env deviceId).1.Counts caller :=
    (deviceOffline_counted hcounts deviceId).1
  exact {
    connects := hconnects
    callers := hcallerMap
    remote := processDeviceOffline_connectAbilityMap hlocal
    noSession := by
      rintro c l' (hk | hk)
      · rw [hconnects] at hk
        obtain ⟨l, -, hl'⟩ := Option.bind_eq_some_iff.mp hk
        exact ne_of_otherSessions hl'
      · rw [hcallerMap] at hk
        obtain ⟨l, -, hl'⟩ := Option.bind_eq_some_iff.mp hk
        exact ne_of_otherSessions hl'
    connectGone := by
      intro c l hk
      rw [hconnects, hk]
      exact otherSessions_eq_none
    callerGone := by
      intro c l hk
      rw [hcallerMap, hk]
      exact otherSessions_eq_none
    connectRecipient := by
      intro c
      rw [count_recipient hlocal]
      exact gone_count (hconnects c) fun l hk => (hcounts.sessions c l hk).devices
    callerRecipient := by
      intro c
      rw [count_callerRecipient hlocal]
      exact gone_count (hcallerMap c) fun l hk => (hcallers c l hk).2
    counter := processDeviceOffline_tally hcounts hlocal
    counterNonzero := hcounts'.counted.tallies.nonzero
    told := by
      intro c l hk session hs hdev element he
      have hsessions := hcounts.sessions c l hk
      rw [count_notifyApp hlocal, hk]
      exact count_element hw hsessions.devices hs hdev (hsessions.elements session hs).2 he
    onlyTold := fun _ _ _ he => notifyApp_of_mem hlocal he
    disconnects := amsCalls_processDeviceOffline hlocal
    disconnectedOnce := by
      intro c connectInfo hk hdev hams
      rw [amsCalls_processDeviceOffline hlocal]
      have hone := count_disconnectAbility hwrappers hk (g := fun connectInfo =>
        deviceId = connectInfo.callerInfo.sourceDeviceId) (decide_eq_true hdev.symm) hams
      simp only [decide_eq_true_eq] at hone
      exact hone
    kept := by
      simp only [processDeviceOffline, hlocal]
      exact ⟨rfl, rfl, rfl, rfl⟩ }

/-- The owner of a connect object: each has a process of uid 20010 to itself. -/
def ownCaller (connect : RemoteObject) : CallerInfo :=
  { uid := 20010, pid := connect, callerType := callerTypeHarmony, sourceDeviceId := "A",
    bundleNames := ["app"] }

/-- A connect of an object with a device. -/
def connectOwn (connect : RemoteObject) (deviceId : String) : ServiceStep :=
  .tables (.connectRemote (callerEnv true) (fun _ _ => ⟨errOk, 0⟩)
    { element := { deviceId := deviceId, bundleName := "app" } } (some connect) 20010 connect 0)

theorem connectOwn_presented (connect : RemoteObject) (deviceId : String)
    (s : DistributedSchedService) : (connectOwn connect deviceId).Presented ownCaller s := by
  intro c callerInfo accountInfo h
  unfold connectRequest at h
  split at h
  · cases h
  rename_i localDeviceId hl
  obtain ⟨hlocal, -⟩ := Env.checkedLocalId_eq_some.mp hl
  cases hlocal
  dsimp only at h
  split at h
  · cases h
  split at h
  · rename_i callerAppId bundleNames happ hnames
    cases happ
    cases hnames
    split at h
    · rename_i hc
      cases hc
      split at h <;> cases h
      rfl
    · cases h
  · cases h

/-- Connects with "B" and "C". -/
def connectBoth : List ServiceStep := [connectOwn 7 "B", connectOwn 8 "C"]

/-- "B" goes offline, and the connect with "C" stays. -/
theorem offline_removes_device_once : ∃ s, Runs.exec ServiceStep.apply {} connectBoth = some s ∧
    s.distributedConnectAbilityMap.toList.map Prod.fst = [7, 8] ∧
    s.trackingUidMap.tally 20010 = 2 ∧
    OfflineRemoves (callerEnv true) "B" s (s.processDeviceOffline (callerEnv true) "B").1
      (s.processDeviceOffline (callerEnv true) "B").2 ∧
    let s' := (s.processDeviceOffline (callerEnv true) "B").1
    s'.distributedConnectAbilityMap.toList.map Prod.fst = [8] ∧
      s'.trackingUidMap.tally 20010 = 1 :=
  ⟨_, rfl, rfl, rfl, offline_removes_device
    (.next (.next .init (l := connectOwn 7 "B") (connectOwn_presented 7 "B" _) rfl)
      (l := connectOwn 8 "C") (connectOwn_presented 8 "C" _) rfl) rfl (by decide) (by decide)
    (by decide) rfl, rfl, rfl⟩

end DistributedSched

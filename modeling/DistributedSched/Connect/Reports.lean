import DistributedSched.Connect.Sessions
import DistributedSched.Library.Runs
import DistributedSched.Service.FromRemote

/-!
# Connect — the component reports

The service reports to a listener when a connect object enters or leaves one of its four
tables; a role (`Role`) names the table.  `net role connect` counts the reports of a log that
are made for an object in a role, an addition as 1 and a removal as −1.

* `Balanced`: in every role, what is reported between two states is the difference of the keys.
* `reports_balanced`: in a run that does not start by call, on the callee's side, a connect that
  is in the table, the reports made so far come to 1 for each key of a table, and to 0 for every
  other object.
* `reports_drift`: starting one connect by call twice is reported twice.
-/

namespace DistributedSched

open Std (ExtTreeMap)
open DistributedSchedService

/-! ### What the listener is told -/

/-- A report: the connect object it is made for, and what the listener reads. -/
abbrev Report := RemoteObject × ComponentInfo

/-- The two types that a report names; together they name a table. -/
abbrev Role := ComponentType × DeviceType

def Effect.reported : Effect → Option Report
  | .report connect info => some (connect, info)
  | _ => none

def reports (es : List Effect) : List Report := es.filterMap Effect.reported

@[simp] theorem reports_nil : reports [] = [] := rfl

@[simp] theorem reports_append (es es' : List Effect) :
    reports (es ++ es') = reports es ++ reports es' := List.filterMap_append

@[simp] theorem reports_cons_of_none {e : Effect} {es : List Effect} (h : e.reported = none) :
    reports (e :: es) = reports es := List.filterMap_cons_none h

theorem reports_eq_nil {es : List Effect} (h : ∀ e ∈ es, e.reported = none) : reports es = [] :=
  List.filterMap_eq_nil_iff.mpr h

/-- The report that a caller is made part of. -/
def CallerInfo.componentInfo (callerInfo : CallerInfo) (changeType : ChangeType)
    (componentType : ComponentType) (deviceType : DeviceType) : ComponentInfo :=
  { pid := some callerInfo.pid, uid := callerInfo.uid,
    bundleName := callerInfo.bundleNames.headD "",
    componentType := componentType, deviceType := deviceType, changeType := changeType }

def ConnectInfo.componentInfo (connectInfo : ConnectInfo) (env : Env) (changeType : ChangeType)
    (componentType : ComponentType) (deviceType : DeviceType) : ComponentInfo :=
  { pid := none, uid := env.getUidFromBms connectInfo.element.bundleName,
    bundleName := connectInfo.element.bundleName,
    componentType := componentType, deviceType := deviceType, changeType := changeType }

@[simp] theorem reports_callerInfo (callerInfo : CallerInfo) (listener connect : RemoteObject)
    (changeType : ChangeType) (componentType : ComponentType) (deviceType : DeviceType) :
    reports (callerInfo.reportDistributedComponentChange (some listener) connect changeType
        componentType deviceType) =
      [(connect, callerInfo.componentInfo changeType componentType deviceType)] := rfl

@[simp] theorem reports_connectInfo (connectInfo : ConnectInfo) (env : Env)
    (listener connect : RemoteObject) (changeType : ChangeType) (componentType : ComponentType)
    (deviceType : DeviceType) :
    reports (connectInfo.reportDistributedComponentChange env (some listener) connect changeType
        componentType deviceType) =
      [(connect, connectInfo.componentInfo env changeType componentType deviceType)] := rfl

/-! ### Counting reports -/

/-- A report for `connect` in `role`. -/
def isReport (role : Role) (changeType : ChangeType) (connect : RemoteObject) (r : Report) :
    Bool :=
  r.1 = connect && (r.2.componentType, r.2.deviceType) = role && r.2.changeType = changeType

/-- The additions reported for `connect` in `role`, less the removals. -/
def net (role : Role) (connect : RemoteObject) (rs : List Report) : Int :=
  rs.countP (isReport role .add connect) - rs.countP (isReport role .remove connect)

variable {role : Role} {connect : RemoteObject}

@[simp] theorem net_nil : net role connect [] = 0 := rfl

@[simp] theorem net_append (rs rs' : List Report) :
    net role connect (rs ++ rs') = net role connect rs + net role connect rs' := by
  simp only [net, List.countP_append]
  omega

def ChangeType.sign : ChangeType → Int
  | .add => 1
  | .remove => -1

theorem net_singleton (c : RemoteObject) (info : ComponentInfo) :
    net role connect [(c, info)] =
      if c = connect ∧ (info.componentType, info.deviceType) = role then info.changeType.sign
      else 0 := by
  by_cases hc : c = connect
  · by_cases hr : (info.componentType, info.deviceType) = role
    · cases hch : info.changeType <;> simp [net, isReport, hc, hr, hch, ChangeType.sign]
    · simp [net, isReport, hc, hr]
  · simp [net, isReport, hc]

/-- Reports made entry by entry, each for its key. -/
theorem net_flatMap_toList {β : Type} {m : Map RemoteObject β} {g : RemoteObject → β → List Report}
    (hg : ∀ k v, ∀ r ∈ g k v, r.1 = k) :
    net role connect (m.toList.flatMap fun e => g e.1 e.2) =
      (m[connect]?.map fun v => net role connect (g connect v)).getD 0 := by
  have hcount : ∀ changeType, (m.toList.flatMap fun e => g e.1 e.2).countP
      (isReport role changeType connect) =
        (m[connect]?.map fun v => (g connect v).countP (isReport role changeType connect)).getD
          0 := by
    intro changeType
    refine ExtTreeMap.countP_flatMap_toList fun k v _ hk => List.countP_eq_zero.mpr fun r hr => ?_
    simp [isReport, hg k v r hr, hk]
  rw [net, hcount, hcount]
  cases m[connect]? <;> rfl

/-! ### Keys -/

/-- 1 for a key, 0 for any other object. -/
def keyCount {β : Type} (m : Map RemoteObject β) (connect : RemoteObject) : Int :=
  if m.contains connect then 1 else 0

section keyCount

variable {β : Type} {m : Map RemoteObject β} {k : RemoteObject} {v w : β}

theorem keyCount_eq (m : Map RemoteObject β) (connect : RemoteObject) :
    keyCount m connect = if m[connect]?.isSome then 1 else 0 := by
  rw [keyCount, ExtTreeMap.contains_eq_isSome_getElem?]

theorem keyCount_insert_new (h : m[k]? = none) :
    keyCount (m.insert k v) connect = keyCount m connect + if k = connect then 1 else 0 := by
  rw [keyCount_eq, keyCount_eq, ExtTreeMap.getElem?_insert]
  by_cases hk : k = connect
  · subst hk; simp [h]
  · simp [hk]

theorem keyCount_replace (h : m[k]? = some w) :
    keyCount (m.insert k v) connect = keyCount m connect := by
  rw [keyCount_eq, keyCount_eq, ExtTreeMap.getElem?_insert]
  by_cases hk : k = connect
  · subst hk; simp [h]
  · simp [hk]

theorem keyCount_erase (h : m[k]? = some w) :
    keyCount (m.erase k) connect = keyCount m connect - if k = connect then 1 else 0 := by
  rw [keyCount_eq, keyCount_eq, ExtTreeMap.getElem?_erase]
  by_cases hk : k = connect
  · subst hk; simp [h]
  · simp [hk]

/-- A walk that takes out the entries that are gone, and reports each. -/
theorem net_walk {σ : Type} {f : σ → RemoteObject → β → σ × Option β} {s : σ}
    {gone : RemoteObject → β → Bool} {r : RemoteObject → β → β}
    {info : RemoteObject → β → ComponentInfo} {l : σ → List Report} {role₀ : Role}
    (hf : ∀ s k v, (f s k v).2 = if gone k v then none else some (r k v))
    (hl : ∀ s k v, l (f s k v).1 = l s ++ if gone k v then [(k, info k v)] else [])
    (hinfo : ∀ k v, ((info k v).componentType, (info k v).deviceType) = role₀ ∧
      (info k v).changeType = .remove) :
    net role connect (l (m.walk f s).1) = net role connect (l s) +
      if role₀ = role then keyCount (m.walk f s).2 connect - keyCount m connect else 0 := by
  have hkey : ∀ k v, ∀ r ∈ (if gone k v then [(k, info k v)] else []), r.1 = k := by
    intro k v r hr
    split at hr
    · rw [List.mem_singleton.mp hr]
    · cases hr
  rw [ExtTreeMap.walk_append hl, net_append, net_flatMap_toList hkey, keyCount_eq, keyCount_eq,
    ExtTreeMap.walk_getElem? hf]
  congr 1
  cases m[connect]? with
  | none => simp
  | some v =>
      obtain ⟨hr, hc⟩ := hinfo connect v
      by_cases hg : gone connect v <;> by_cases hrole : role₀ = role <;>
        simp [hg, net_singleton, hr, hc, hrole, ChangeType.sign]

/-- The report of a new entry. -/
theorem net_added {info : ComponentInfo} {role₀ : Role} (h : m[k]? = none)
    (hr : (info.componentType, info.deviceType) = role₀) (hc : info.changeType = .add) :
    net role connect [(k, info)] =
      if role₀ = role then keyCount (m.insert k v) connect - keyCount m connect else 0 := by
  rw [net_singleton, hr, hc, keyCount_insert_new h, Int.add_comm, Int.add_sub_cancel]
  by_cases hrole : role₀ = role <;> simp [hrole, ChangeType.sign]

/-- The report of an entry that is erased. -/
theorem net_removed {info : ComponentInfo} {role₀ : Role} (h : m[k]? = some w)
    (hr : (info.componentType, info.deviceType) = role₀) (hc : info.changeType = .remove) :
    net role connect [(k, info)] =
      if role₀ = role then keyCount (m.erase k) connect - keyCount m connect else 0 := by
  have hsub : ∀ a b : Int, a - b - a = -b := fun a b => by omega
  rw [net_singleton, hr, hc, keyCount_erase h, hsub]
  by_cases hk : k = connect <;> by_cases hrole : role₀ = role <;>
    simp [hk, hrole, ChangeType.sign]

end keyCount

/-! ### What an operation keeps -/

namespace DistributedSchedService

/-- The keys of the table of a role. -/
def keys (s : DistributedSchedService) : Role → RemoteObject → Int
  | (.connect, .caller) => keyCount s.distributedConnectAbilityMap
  | (.connect, .callee) => keyCount s.connectAbilityMap
  | (.call, .caller) => keyCount s.callerMap
  | (.call, .callee) => keyCount s.calleeMap

/-- No connect of the two tables of sessions is without a session. -/
structure HasSessions (s : DistributedSchedService) : Prop where
  connect : ∀ (connect : RemoteObject) (l : List ConnectAbilitySession),
    s.distributedConnectAbilityMap[connect]? = some l → l ≠ []
  caller : ∀ (connect : RemoteObject) (l : List ConnectAbilitySession),
    s.callerMap[connect]? = some l → l ≠ []

end DistributedSchedService

/-- In every role, what is reported is the difference of the keys; and what the reports rely on
is kept. -/
structure Balanced (s s' : DistributedSchedService) (es : List Effect) : Prop where
  listener : s'.distributedComponentListener = s.distributedComponentListener
  sessions : s.HasSessions → s'.HasSessions
  net : ∀ role connect, net role connect (reports es) = s'.keys role connect - s.keys role connect

namespace Balanced

variable {s s' s'' : DistributedSchedService} {es es' : List Effect}

/-- An operation that leaves the tables and reports nothing. -/
theorem same (hl : s'.distributedComponentListener = s.distributedComponentListener)
    (h₁ : s'.distributedConnectAbilityMap = s.distributedConnectAbilityMap)
    (h₂ : s'.connectAbilityMap = s.connectAbilityMap) (h₃ : s'.callerMap = s.callerMap)
    (h₄ : s'.calleeMap = s.calleeMap) (hes : reports es = []) : Balanced s s' es where
  listener := hl
  sessions h := ⟨h₁ ▸ h.connect, h₃ ▸ h.caller⟩
  net role connect := by
    rw [hes, net_nil]
    obtain ⟨_ | _, _ | _⟩ := role <;> simp [keys, h₁, h₂, h₃, h₄]

theorem refl (s : DistributedSchedService) : Balanced s s [] := same rfl rfl rfl rfl rfl rfl

theorem trans (h : Balanced s s' es) (h' : Balanced s' s'' es') :
    Balanced s s'' (es ++ es') where
  listener := h'.listener.trans h.listener
  sessions hs := h'.sessions (h.sessions hs)
  net role connect := by
    rw [reports_append, net_append, h.net, h'.net]
    omega

/-- Only the reports count. -/
theorem congr (h : Balanced s s' es) (he : reports es' = reports es) : Balanced s s' es' :=
  ⟨h.listener, h.sessions, fun role connect => he ▸ h.net role connect⟩

/-- What is reported is the difference of the keys of one table. -/
def ReportsRole (role₀ : Role) (s s' : DistributedSchedService) (es : List Effect) : Prop :=
  ∀ role connect, DistributedSched.net role connect (reports es) =
    if role₀ = role then s'.keys role₀ connect - s.keys role₀ connect else 0

/-- An operation on one table, which reports the difference of its keys. -/
theorem of_role {role₀ : Role}
    (hl : s'.distributedComponentListener = s.distributedComponentListener)
    (hs : s.HasSessions → s'.HasSessions)
    (hother : ∀ role, role ≠ role₀ → s'.keys role = s.keys role)
    (hnet : ReportsRole role₀ s s' es) : Balanced s s' es where
  listener := hl
  sessions := hs
  net role connect := by
    rw [hnet]
    by_cases hr : role₀ = role
    · rw [if_pos hr, hr]
    · rw [if_neg hr, hother role (Ne.symm hr), Int.sub_self]

theorem of_connectCaller (hl : s'.distributedComponentListener = s.distributedComponentListener)
    (hs : s.HasSessions → s'.HasSessions) (h₂ : s'.connectAbilityMap = s.connectAbilityMap)
    (h₃ : s'.callerMap = s.callerMap) (h₄ : s'.calleeMap = s.calleeMap)
    (hnet : ReportsRole (.connect, .caller) s s' es) : Balanced s s' es := by
  refine .of_role hl hs ?_ hnet
  rintro ⟨_ | _, _ | _⟩ hne <;> first | exact absurd rfl hne | simp [keys, h₂, h₃, h₄]

theorem of_connectCallee (hl : s'.distributedComponentListener = s.distributedComponentListener)
    (hs : s.HasSessions → s'.HasSessions)
    (h₁ : s'.distributedConnectAbilityMap = s.distributedConnectAbilityMap)
    (h₃ : s'.callerMap = s.callerMap) (h₄ : s'.calleeMap = s.calleeMap)
    (hnet : ReportsRole (.connect, .callee) s s' es) : Balanced s s' es := by
  refine .of_role hl hs ?_ hnet
  rintro ⟨_ | _, _ | _⟩ hne <;> first | exact absurd rfl hne | simp [keys, h₁, h₃, h₄]

theorem of_callCaller (hl : s'.distributedComponentListener = s.distributedComponentListener)
    (hs : s.HasSessions → s'.HasSessions)
    (h₁ : s'.distributedConnectAbilityMap = s.distributedConnectAbilityMap)
    (h₂ : s'.connectAbilityMap = s.connectAbilityMap) (h₄ : s'.calleeMap = s.calleeMap)
    (hnet : ReportsRole (.call, .caller) s s' es) : Balanced s s' es := by
  refine .of_role hl hs ?_ hnet
  rintro ⟨_ | _, _ | _⟩ hne <;> first | exact absurd rfl hne | simp [keys, h₁, h₂, h₄]

theorem of_callCallee (hl : s'.distributedComponentListener = s.distributedComponentListener)
    (hs : s.HasSessions → s'.HasSessions)
    (h₁ : s'.distributedConnectAbilityMap = s.distributedConnectAbilityMap)
    (h₂ : s'.connectAbilityMap = s.connectAbilityMap) (h₃ : s'.callerMap = s.callerMap)
    (hnet : ReportsRole (.call, .callee) s s' es) : Balanced s s' es := by
  refine .of_role hl hs ?_ hnet
  rintro ⟨_ | _, _ | _⟩ hne <;> first | exact absurd rfl hne | simp [keys, h₁, h₂, h₃]

end Balanced

/-! ### The operations, table by table -/

variable {env : Env} {s : DistributedSchedService} {listener : RemoteObject}

/-- Adding an element leaves a session. -/
theorem ne_nil_of_insert {m : Map RemoteObject (List ConnectAbilitySession)} {k : RemoteObject}
    {l : List ConnectAbilitySession} (hl : l ≠ [])
    (h : ∀ (c : RemoteObject) (x : List ConnectAbilitySession), m[c]? = some x → x ≠ [])
    (c : RemoteObject) (x : List ConnectAbilitySession) (hx : (m.insert k l)[c]? = some x) :
    x ≠ [] := by
  rw [ExtTreeMap.getElem?_insert] at hx
  split at hx
  · exact Option.some.inj hx ▸ hl
  · exact h c x hx

theorem ne_nil_of_erase {m : Map RemoteObject (List ConnectAbilitySession)} {k : RemoteObject}
    (h : ∀ (c : RemoteObject) (x : List ConnectAbilitySession), m[c]? = some x → x ≠ [])
    (c : RemoteObject) (x : List ConnectAbilitySession) (hx : (m.erase k)[c]? = some x) :
    x ≠ [] := by
  rw [ExtTreeMap.getElem?_erase] at hx
  split at hx
  · cases hx
  · exact h c x hx

/-! #### CONNECT/CALLER -/

theorem mapping_balanced (hl : s.distributedComponentListener = some listener)
    (connect : Option RemoteObject) (localDeviceId remoteDeviceId : String)
    (element : ElementName) (callerInfo : CallerInfo) (targetComponent : TargetComponent) :
    let r := s.remoteConnectAbilityMappingLocked connect localDeviceId remoteDeviceId element
      callerInfo targetComponent
    Balanced s r.1 r.2 := by
  cases connect with
  | none => exact .refl s
  | some c =>
      simp only [remoteConnectAbilityMappingLocked]
      cases hk : s.distributedConnectAbilityMap[c]? with
      | none =>
          refine .of_connectCaller rfl
            (fun h => ⟨ne_nil_of_insert ConnectAbilitySession.addToSessions_ne_nil h.connect,
              h.caller⟩) rfl rfl rfl fun role connect => ?_
          rw [reports_cons_of_none rfl, hl, reports_callerInfo]
          exact net_added hk rfl rfl
      | some l =>
          refine .of_connectCaller rfl
            (fun h => ⟨ne_nil_of_insert ConnectAbilitySession.addToSessions_ne_nil h.connect,
              h.caller⟩) rfl rfl rfl fun role connect => ?_
          simp [keys, keyCount_replace hk]

theorem connectRemoteAbility_balanced (hl : s.distributedComponentListener = some listener)
    {σ : Type} (rpc : RemoteCall → σ → σ × RpcReply) (peer : σ) (want : Want)
    (connect : Option RemoteObject) (callerUid callerPid : Int) (accessToken : Nat) :
    let o := (s.connectRemoteAbility env rpc peer want connect callerUid callerPid accessToken).2
    Balanced s o.service o.effects := by
  simp only [connectRemoteAbility_eq]
  cases s.connectRequest env want connect callerUid callerPid accessToken with
  | error code => exact .refl s
  | ok request =>
      simp only
      split
      · exact mapping_balanced hl ..
      · exact .refl s

theorem disconnectRemoteAbility_balanced (hl : s.distributedComponentListener = some listener)
    (hs : s.HasSessions) (connect : Option RemoteObject) :
    Balanced s (s.disconnectRemoteAbility env connect).service
      (s.disconnectRemoteAbility env connect).effects := by
  cases connect with
  | none => exact .refl s
  | some c =>
      simp only [disconnectRemoteAbility]
      cases hk : s.distributedConnectAbilityMap[c]? with
      | none => exact .refl s
      | some l =>
          cases l with
          | nil => exact absurd rfl (hs.connect c [] hk)
          | cons session l =>
              refine .of_connectCaller rfl
                (fun h => ⟨ne_nil_of_erase h.connect, h.caller⟩) rfl rfl rfl fun role connect => ?_
              have hrest : reports ((session :: l).flatMap fun session =>
                  disconnectEachRemoteAbilityLocked env session.sourceDeviceId
                    session.destinationDeviceId c) = [] := by
                refine reports_eq_nil fun e he => ?_
                obtain ⟨session, -, he⟩ := List.mem_flatMap.mp he
                unfold disconnectEachRemoteAbilityLocked at he
                split at he
                · obtain rfl := List.mem_singleton.mp he
                  rfl
                · cases he
              have hd : reports (decreaseConnectLocked s.trackingUidMap
                  (getUidLocked (session :: l))).2 = [] := by
                rw [decreaseConnectLocked_effects]
                rfl
              simp only [reports_append, hd, hrest, hl, reports_callerInfo, List.append_nil,
                List.nil_append, reports_cons_of_none (e := .removeDeathRecipient c .connect) rfl,
                reports_nil]
              exact net_removed hk rfl rfl

/-- The sessions that a walk leaves. -/
theorem ne_nil_of_walk {σ : Type} {f : σ → RemoteObject → List ConnectAbilitySession →
      σ × Option (List ConnectAbilitySession)} {s : σ}
    {m : Map RemoteObject (List ConnectAbilitySession)}
    {g : RemoteObject → List ConnectAbilitySession → Option (List ConnectAbilitySession)}
    (hf : ∀ s k v, (f s k v).2 = g k v) (hg : ∀ k v x, v ≠ [] → g k v = some x → x ≠ [])
    (h : ∀ (c : RemoteObject) (x : List ConnectAbilitySession), m[c]? = some x → x ≠ [])
    (c : RemoteObject) (x : List ConnectAbilitySession) (hx : (m.walk f s).2[c]? = some x) :
    x ≠ [] := by
  rw [ExtTreeMap.walk_getElem? hf] at hx
  obtain ⟨v, hv, hx⟩ := Option.bind_eq_some_iff.mp hx
  exact hg c v x (h c v hv) hx

/-- The sessions that are left when a device goes offline. -/
def withoutDevice (deviceId : String) (l : List ConnectAbilitySession) :
    List ConnectAbilitySession :=
  l.eraseP fun session => session.destinationDeviceId = deviceId

/-- The caller of the session with a device. -/
def deviceCaller (deviceId : String) (l : List ConnectAbilitySession) : CallerInfo :=
  match l.find? fun session => session.destinationDeviceId = deviceId with
  | some session => session.callerInfo
  | none => {}

/-- A connect that stays when a device goes offline keeps a session. -/
theorem ne_nil_of_withoutDevice {deviceId : String} {l x : List ConnectAbilitySession}
    (hx : (if (withoutDevice deviceId l).isEmpty then none else some (withoutDevice deviceId l)) =
      some x) : x ≠ [] := by
  split at hx
  · cases hx
  · rename_i hne
    obtain rfl := Option.some.inj hx
    exact fun hnil => hne (by rw [hnil]; rfl)

/-- The new value of an entry, for the walks of both tables of sessions. -/
theorem offlineDistributedConnect_snd (env : Env) (listener : Option RemoteObject)
    (deviceId : String) (acc : Map Int Nat × List Effect) (k : RemoteObject)
    (l : List ConnectAbilitySession) :
    (offlineDistributedConnect env listener deviceId acc k l).2 =
      if (withoutDevice deviceId l).isEmpty then none else some (withoutDevice deviceId l) := by
  by_cases he : (withoutDevice deviceId l).isEmpty <;> rw [withoutDevice] at he <;>
    simp [offlineDistributedConnect, withoutDevice, he]

theorem offlineCaller_snd (listener : Option RemoteObject) (deviceId : String)
    (acc : List Effect) (k : RemoteObject) (l : List ConnectAbilitySession) :
    (offlineCaller listener deviceId acc k l).2 =
      if (withoutDevice deviceId l).isEmpty then none else some (withoutDevice deviceId l) := by
  by_cases he : (withoutDevice deviceId l).isEmpty <;> rw [withoutDevice] at he <;>
    simp [offlineCaller, withoutDevice, he]

theorem processDistributedOffline_balanced (env : Env)
    (hl : s.distributedComponentListener = some listener)
    (deviceId : String) :
    Balanced s (s.processDistributedOffline env deviceId).1
      (s.processDistributedOffline env deviceId).2 := by
  -- what the applications are told is no report
  have hnotified : ∀ k session, reports (notifyDeviceOfflineToAppLocked env k session) = [] := by
    intro k session
    refine reports_eq_nil fun e he => ?_
    obtain ⟨element, -, he⟩ := List.mem_flatMap.mp he
    unfold notifyApp at he
    split at he
    · obtain rfl := List.mem_singleton.mp he
      rfl
    · cases he
  have hreports : ∀ (acc : Map Int Nat × List Effect) k l,
      reports (offlineDistributedConnect env s.distributedComponentListener deviceId acc k l).1.2 =
        reports acc.2 ++ if (withoutDevice deviceId l).isEmpty then
          [(k, (deviceCaller deviceId l).componentInfo .remove .connect .caller)] else [] := by
    intro acc k l
    by_cases he : (withoutDevice deviceId l).isEmpty <;> rw [withoutDevice] at he <;>
      simp only [offlineDistributedConnect, withoutDevice, deviceCaller, he, if_true] <;>
      cases l.find? fun session => session.destinationDeviceId = deviceId <;>
      simp [hnotified, hl, reports_cons_of_none (e := .removeDeathRecipient k .connect) rfl,
        reports_cons_of_none (e := .decreaseConnect _ _) rfl]
  refine .of_connectCaller rfl (fun h => ⟨ne_nil_of_walk
    (offlineDistributedConnect_snd env s.distributedComponentListener deviceId)
    (fun k l x _ => ne_nil_of_withoutDevice) h.connect, h.caller⟩) rfl rfl rfl
    fun role connect => ?_
  exact (net_walk (l := fun acc : Map Int Nat × List Effect => reports acc.2)
    (r := fun _ => withoutDevice deviceId)
    (offlineDistributedConnect_snd env s.distributedComponentListener deviceId) hreports
    fun k v => ⟨rfl, rfl⟩).trans (Int.zero_add _)

theorem processConnectDied_balanced (hl : s.distributedComponentListener = some listener)
    (connect : Option RemoteObject) :
    Balanced s (s.processConnectDied env connect).1 (s.processConnectDied env connect).2 := by
  unfold processConnectDied
  split
  · exact .refl s
  · exact .refl s
  · rename_i session l _
    let gone : RemoteObject → List ConnectAbilitySession → Bool := fun _ l =>
      l.head?.any fun first => first.isSameCaller session.callerInfo
    have hf : ∀ acc k l, (connectDied s.distributedComponentListener session.callerInfo acc k l).2 =
        if gone k l then none else some l := by
      intro acc k l
      cases l with
      | nil => rfl
      | cons first l =>
          cases h : first.isSameCaller session.callerInfo <;> simp [connectDied, gone, h]
    have hreports : ∀ acc k l,
        reports (connectDied s.distributedComponentListener session.callerInfo acc k l).1.effects =
          reports acc.effects ++ if gone k l then
            [(k, session.callerInfo.componentInfo .remove .connect .caller)] else [] := by
      intro acc k l
      cases l with
      | nil => simp [connectDied, gone]
      | cons first l =>
          cases h : first.isSameCaller session.callerInfo with
          | false => simp [connectDied, gone, h]
          | true =>
              simp only [connectDied, h, if_true, gone, List.head?_cons, Option.any_some,
                (foldl_addProcessDiedNotify _ _ acc).2, decreaseConnectLocked_effects,
                reports_append, hl, reports_callerInfo,
                reports_cons_of_none (e := .removeDeathRecipient k .connect) rfl,
                reports_cons_of_none (e := .decreaseConnect _ _) rfl, reports_nil,
                List.append_nil]
    -- what the other devices are told is no report
    have htold : ∀ list, reports (notifyProcessDiedAll env list) = [] := by
      intro list
      refine reports_eq_nil fun e he => ?_
      obtain ⟨info, -, he⟩ := List.mem_flatMap.mp he
      unfold notifyProcessDied at he
      split at he
      · obtain rfl := List.mem_singleton.mp he
        rfl
      · cases he
    refine .of_connectCaller rfl (fun h => ⟨ne_nil_of_walk hf
      (fun k v x hv hx => ?_) h.connect, h.caller⟩) rfl rfl rfl fun role connect => ?_
    · split at hx
      · cases hx
      · exact Option.some.inj hx ▸ hv
    · rw [reports_append, htold, List.append_nil]
      exact (net_walk (l := fun acc : ConnectDiedAcc => reports acc.effects) (r := fun _ v => v) hf
        hreports fun k v => ⟨rfl, rfl⟩).trans (Int.zero_add _)

/-! #### CONNECT/CALLEE -/

theorem connectAbilityFromRemote_balanced (hl : s.distributedComponentListener = some listener)
    {callerInfo : CallerInfo} (ht : callerInfo.callerType = callerTypeHarmony) (want : Want)
    (connect : Option RemoteObject) (accountInfo : AccountInfo) :
    let o := s.connectAbilityFromRemote env want connect callerInfo accountInfo
    Balanced s o.service o.effects := by
  simp only [connectAbilityFromRemote_eq]
  cases connectFromRemotePermitted env want connect callerInfo accountInfo with
  | error code => exact .refl s
  | ok c =>
      have hams : ∀ w, reports (DistributedSchedAdapter.connectAbility env want w).2 = [] := by
        intro w
        unfold DistributedSchedAdapter.connectAbility
        split
        · rfl
        · cases env.activeUser <;> rfl
      have hlookup : Balanced s (s.lookupConnect c).2.2 [] := by
        unfold lookupConnect
        split <;> exact .same rfl rfl rfl rfl rfl rfl
      simp only [connectChecked, if_pos ht]
      split
      · exact hlookup.congr (hams _)
      · unfold recordConnect
        split
        · exact hlookup.congr (by rw [List.append_nil, hams, reports_nil])
        · rename_i hfound
          have hk : s.connectAbilityMap[c]? = none := by
            rw [lookupConnect_found] at hfound
            exact ExtTreeMap.not_contains_iff.mp hfound
          have hadded : Balanced (s.lookupConnect c).2.2 { (s.lookupConnect c).2.2 with
              connectAbilityMap := (s.lookupConnect c).2.2.connectAbilityMap.insertIfNew c
                ⟨callerInfo, (s.lookupConnect c).1, want.element⟩ }
              (ConnectInfo.reportDistributedComponentChange
                ⟨callerInfo, (s.lookupConnect c).1, want.element⟩ env
                (s.lookupConnect c).2.2.distributedComponentListener c .add .connect .callee) := by
            rw [hlookup.listener, hl, lookupConnect_connectAbilityMap,
              ExtTreeMap.insertIfNew_eq_insert hk]
            refine .of_connectCallee rfl (fun h => ⟨h.connect, h.caller⟩) rfl rfl rfl
              fun role connect => ?_
            simp only [reports_connectInfo, keys, lookupConnect_connectAbilityMap]
            exact net_added hk rfl rfl
          refine (hlookup.trans hadded).congr ?_
          rw [reports_append, hams, List.nil_append, List.nil_append]

theorem disconnectAbility_reports (env : Env) (w : RemoteObject) :
    reports (DistributedSchedAdapter.disconnectAbility env w).2 = [] := by
  unfold DistributedSchedAdapter.disconnectAbility
  split <;> rfl

theorem disconnectAbilityFromRemote_balanced
    (hl : s.distributedComponentListener = some listener) (connect : Option RemoteObject)
    (uid : Int) (sourceDeviceId : String) :
    Balanced s (s.disconnectAbilityFromRemote env connect uid sourceDeviceId).service
      (s.disconnectAbilityFromRemote env connect uid sourceDeviceId).effects := by
  cases connect with
  | none => exact .refl s
  | some c =>
      simp only [disconnectAbilityFromRemote]
      cases env.checkedLocalIdForRelease sourceDeviceId with
      | none => exact .refl s
      | some localDeviceId =>
          simp only [eraseConnect]
          cases hk : s.connectAbilityMap[c]? with
          | none =>
              cases env.isLocalCalling with
              | false => exact .refl s
              | true => exact (Balanced.refl s).congr (disconnectAbility_reports env c)
          | some connectInfo =>
              refine .of_connectCallee rfl
                (fun h => ⟨h.connect, h.caller⟩) rfl rfl rfl fun role connect => ?_
              simp only [reports_append, disconnectAbility_reports, hl, reports_connectInfo,
                List.append_nil]
              exact net_removed hk rfl rfl

theorem disconnectEntries_balanced (env : Env)
    (hl : s.distributedComponentListener = some listener)
    (gone : ConnectInfo → Bool) :
    Balanced s (s.disconnectEntries env gone).service (s.disconnectEntries env gone).effects := by
  have hf : ∀ acc k connectInfo, (disconnectEntry env s.distributedComponentListener gone acc k
      connectInfo).2 = if gone connectInfo then none else some connectInfo := by
    intro acc k connectInfo
    unfold disconnectEntry
    split <;> rfl
  have hreports : ∀ (acc : Int × List Effect) k connectInfo,
      reports (disconnectEntry env s.distributedComponentListener gone acc k connectInfo).1.2 =
        reports acc.2 ++ if gone connectInfo then
          [(k, connectInfo.componentInfo env .remove .connect .callee)] else [] := by
    intro acc k connectInfo
    unfold disconnectEntry
    split
    · simp only [reports_append, disconnectAbility_reports, hl, reports_connectInfo,
        List.append_nil]
    · exact (List.append_nil _).symm
  refine .of_connectCallee rfl (fun h => ⟨h.connect, h.caller⟩) rfl rfl rfl
    fun role connect => ?_
  exact (net_walk (l := fun acc : Int × List Effect => reports acc.2) (r := fun _ v => v) hf
    hreports fun k v => ⟨rfl, rfl⟩).trans (Int.zero_add _)

/-! #### CALL/CALLER -/

theorem saveCallerComponent_balanced (hl : s.distributedComponentListener = some listener)
    (want : Want) (connect : RemoteObject) (callerInfo : CallerInfo) :
    Balanced s (s.saveCallerComponent want connect callerInfo).1
      (s.saveCallerComponent want connect callerInfo).2 := by
  simp only [saveCallerComponent]
  cases hk : s.callerMap[connect]? with
  | none =>
      refine .of_callCaller rfl
        (fun h => ⟨h.connect,
          ne_nil_of_insert ConnectAbilitySession.addToSessions_ne_nil h.caller⟩) rfl rfl rfl
        fun role connect => ?_
      rw [reports_cons_of_none rfl, hl, reports_callerInfo]
      exact net_added hk rfl rfl
  | some l =>
      refine .of_callCaller rfl
        (fun h => ⟨h.connect,
          ne_nil_of_insert ConnectAbilitySession.addToSessions_ne_nil h.caller⟩) rfl rfl rfl
        fun role connect => ?_
      simp [keys, keyCount_replace hk]

theorem startRemoteAbilityByCall_balanced (hl : s.distributedComponentListener = some listener)
    (want : Want) (connect : Option RemoteObject) (callerUid callerPid : Int)
    (accessToken : Nat) :
    let o := s.startRemoteAbilityByCall env want connect callerUid callerPid accessToken
    Balanced s o.service o.effects := by
  have htry : ∀ c callerInfo, Balanced s
      (s.tryStartRemoteAbilityByCall env want c callerInfo).service
      (s.tryStartRemoteAbilityByCall env want c callerInfo).effects := by
    intro c callerInfo
    simp only [tryStartRemoteAbilityByCall]
    split
    · exact .refl s
    split
    · exact .refl s
    split
    · exact (saveCallerComponent_balanced hl want c callerInfo).congr (reports_cons_of_none rfl)
    · exact (Balanced.refl s).congr (reports_cons_of_none rfl)
  simp only [startRemoteAbilityByCall]
  split
  · split
    · exact htry ..
    · exact .refl s
  · exact .refl s

/-- Taking a connect out of `callerMap_`, with the report for its sessions. -/
theorem eraseCaller_balanced (hl : s.distributedComponentListener = some listener)
    (hs : s.HasSessions) {connect : RemoteObject} {l : List ConnectAbilitySession}
    (hk : s.callerMap[connect]? = some l) :
    Balanced s { s with callerMap := s.callerMap.erase connect }
      (reportCallerRemoved s.distributedComponentListener connect l) := by
  cases l with
  | nil => exact absurd rfl (hs.caller connect [] hk)
  | cons session l =>
      refine .of_callCaller rfl
        (fun h => ⟨h.connect, ne_nil_of_erase h.caller⟩) rfl rfl rfl fun role connect => ?_
      rw [reportCallerRemoved, hl, reports_callerInfo]
      exact net_removed hk rfl rfl

theorem releaseRemoteAbility_balanced (hl : s.distributedComponentListener = some listener)
    (hs : s.HasSessions) (connect : Option RemoteObject) (element : ElementName) :
    Balanced s (s.releaseRemoteAbility env connect element).service
      (s.releaseRemoteAbility env connect element).effects := by
  cases connect with
  | none => exact .refl s
  | some c =>
      have hremove : Balanced s (s.removeCallerComponent c).1 (s.removeCallerComponent c).2 := by
        unfold removeCallerComponent
        split
        · exact .refl s
        · rename_i l hk
          exact (eraseCaller_balanced hl hs hk).congr (reports_cons_of_none rfl)
      simp only [releaseRemoteAbility]
      split
      · exact .refl s
      split
      · exact .refl s
      split
      · exact .refl s
      split
      · exact hremove.congr (reports_cons_of_none rfl)
      · exact (Balanced.refl s).congr (reports_cons_of_none rfl)

theorem handleLocalCallerDied_balanced (hl : s.distributedComponentListener = some listener)
    (hs : s.HasSessions) (connect : RemoteObject) :
    Balanced s (s.handleLocalCallerDied connect).1 (s.handleLocalCallerDied connect).2 := by
  unfold handleLocalCallerDied
  split
  · exact .refl s
  · rename_i l hk
    exact eraseCaller_balanced hl hs hk

theorem processCalleeOffline_balanced (hl : s.distributedComponentListener = some listener)
    (deviceId : String) :
    Balanced s (s.processCalleeOffline deviceId).1 (s.processCalleeOffline deviceId).2 := by
  have hreports : ∀ (acc : List Effect) k l,
      reports (offlineCaller s.distributedComponentListener deviceId acc k l).1 =
        reports acc ++ if (withoutDevice deviceId l).isEmpty then
          [(k, (deviceCaller deviceId l).componentInfo .remove .call .caller)] else [] := by
    intro acc k l
    by_cases he : (withoutDevice deviceId l).isEmpty <;> rw [withoutDevice] at he <;>
      simp only [offlineCaller, withoutDevice, deviceCaller, he, if_true] <;>
      cases l.find? fun session => session.destinationDeviceId = deviceId <;>
      simp [hl, reports_cons_of_none (e := .removeDeathRecipient k .callerForLocalDevice) rfl]
  refine .of_callCaller rfl (fun h => ⟨h.connect, ne_nil_of_walk
    (offlineCaller_snd s.distributedComponentListener deviceId)
    (fun k l x _ => ne_nil_of_withoutDevice) h.caller⟩) rfl rfl rfl fun role connect => ?_
  exact (net_walk (l := reports) (r := fun _ => withoutDevice deviceId)
    (offlineCaller_snd s.distributedComponentListener deviceId) hreports
    fun k v => ⟨rfl, rfl⟩).trans (Int.zero_add _)

/-! #### CALL/CALLEE -/

theorem startAbilityByCall_reports (env : Env) (want : Want) (w : RemoteObject) :
    reports (DistributedSchedAdapter.startAbilityByCall env want w).2 = [] := by
  unfold DistributedSchedAdapter.startAbilityByCall
  split <;> rfl

theorem releaseAbility_reports (env : Env) (w : RemoteObject) (element : ElementName) :
    reports (DistributedSchedAdapter.releaseAbility env w element).2 = [] := by
  unfold DistributedSchedAdapter.releaseAbility
  split <;> rfl

/-- A start by call that passes its checks and succeeds, of a connect that is in the table. -/
def StartsAgain (env : Env) (s : DistributedSchedService) (want : Want)
    (connect : Option RemoteObject) (callerInfo : CallerInfo) (accountInfo : AccountInfo) : Prop :=
  ∃ c connectInfo localDeviceId, connect = some c ∧ s.calleeMap[c]? = some connectInfo ∧
    env.checkedLocalIdFromRemote want.element.deviceId callerInfo.sourceDeviceId =
      some localDeviceId ∧
    DistributedSchedPermission.checkGetCallerPermission env want callerInfo accountInfo
      localDeviceId = errOk ∧
    (DistributedSchedAdapter.startAbilityByCall env want connectInfo.callbackWrapper).1 = errOk

theorem startAbilityByCallFromRemote_balanced
    (hl : s.distributedComponentListener = some listener) {want : Want}
    {connect : Option RemoteObject} {callerInfo : CallerInfo} {accountInfo : AccountInfo}
    (hnew : ¬ StartsAgain env s want connect callerInfo accountInfo) :
    let o := s.startAbilityByCallFromRemote env want connect callerInfo accountInfo
    Balanced s o.service o.effects := by
  rcases s.startAbilityByCallFromRemote_cases env want connect callerInfo accountInfo with
    ⟨code, -, h⟩ | ⟨c, localDeviceId, rfl, hid, hp, h⟩
  · rw [h]
    exact .refl s
  rw [h]
  cases hk : s.calleeMap[c]? with
  | some connectInfo =>
      have hlookup : s.lookupCallee c = (connectInfo.callbackWrapper, s) := by
        rw [lookupCallee, hk]
      have ha : (DistributedSchedAdapter.startAbilityByCall env want
          connectInfo.callbackWrapper).1 ≠ errOk :=
        fun ha => hnew ⟨c, connectInfo, localDeviceId, rfl, hk, hid, hp, ha⟩
      simp only [startByCallChecked, hlookup, if_pos ha]
      exact (Balanced.refl s).congr (startAbilityByCall_reports env want _)
  | none =>
      have hlookup : s.lookupCallee c =
          (s.newObject, { s with newObject := s.newObject + 1 }) := by
        rw [lookupCallee, hk]
      simp only [startByCallChecked, hlookup]
      split
      · exact .same rfl rfl rfl rfl rfl (startAbilityByCall_reports env want _)
      · simp only [recordCallee, ExtTreeMap.insertIfNew_eq_insert hk]
        refine .of_callCallee rfl (fun h => ⟨h.connect, h.caller⟩) rfl rfl rfl
          fun role connect => ?_
        simp only [reports_append, startAbilityByCall_reports, hl, reports_connectInfo,
          reports_cons_of_none (e := .addDeathRecipient c .caller) rfl, reports_nil,
          List.append_nil, List.nil_append]
        exact net_added hk rfl rfl

/-- Starting a connect again reports it again, and leaves the table. -/
theorem startAbilityByCallFromRemote_again
    (hl : s.distributedComponentListener = some listener) {want : Want}
    {connect : Option RemoteObject} {callerInfo : CallerInfo} {accountInfo : AccountInfo}
    (h : StartsAgain env s want connect callerInfo accountInfo) :
    let o := s.startAbilityByCallFromRemote env want connect callerInfo accountInfo
    ∃ c, net (.call, .callee) c (reports o.effects) = 1 ∧
      o.service.keys (.call, .callee) c = s.keys (.call, .callee) c := by
  obtain ⟨c, connectInfo, localDeviceId, rfl, hk, hid, hp, ha⟩ := h
  refine ⟨c, ?_⟩
  simp only [startAbilityByCallFromRemote, hid, hp, startByCallChecked, lookupCallee, hk, ha,
    ne_eq, not_true_eq_false, if_false, recordCallee, ExtTreeMap.insertIfNew_eq_self hk,
    reports_append, startAbilityByCall_reports, hl, reports_connectInfo,
    reports_cons_of_none (e := .addDeathRecipient c .caller) rfl, reports_nil, List.append_nil,
    List.nil_append, net_singleton]
  exact ⟨rfl, rfl⟩

/-- Taking a connect out of `calleeMap_`, with its report. -/
theorem eraseCallee_balanced (env : Env)
    (hl : s.distributedComponentListener = some listener)
    (connect : RemoteObject) :
    Balanced s (s.eraseCallee env connect).1 (s.eraseCallee env connect).2 := by
  unfold eraseCallee
  split
  · exact .refl s
  · rename_i connectInfo hk
    refine .of_callCallee rfl (fun h => ⟨h.connect, h.caller⟩) rfl rfl rfl
      fun role connect => ?_
    rw [hl, reports_connectInfo]
    exact net_removed hk rfl rfl

theorem releaseAbilityFromRemote_balanced (hl : s.distributedComponentListener = some listener)
    (connect : Option RemoteObject) (element : ElementName) (callerInfo : CallerInfo) :
    Balanced s (s.releaseAbilityFromRemote env connect element callerInfo).service
      (s.releaseAbilityFromRemote env connect element callerInfo).effects := by
  cases connect with
  | none => exact .refl s
  | some c =>
      simp only [releaseAbilityFromRemote]
      cases env.checkedLocalIdForRelease callerInfo.sourceDeviceId with
      | none => exact .refl s
      | some localDeviceId =>
          have he := eraseCallee_balanced env hl c
          unfold eraseCallee at he
          cases hk : s.calleeMap[c]? with
          | none => exact .refl s
          | some connectInfo =>
              rw [hk] at he
              refine he.congr ?_
              simp only [reports_append, releaseAbility_reports, List.append_nil,
                reports_cons_of_none (e := .removeDeathRecipient c .caller) rfl, reports_nil]

theorem processCallerDied_balanced (hl : s.distributedComponentListener = some listener)
    (hs : s.HasSessions) (connect : Option RemoteObject) (deviceType : DeviceType) :
    Balanced s (s.processCallerDied env connect deviceType).1
      (s.processCallerDied env connect deviceType).2 := by
  cases connect with
  | none => exact .refl s
  | some c =>
      cases deviceType with
      | caller => exact handleLocalCallerDied_balanced hl hs c
      | callee =>
          refine (eraseCallee_balanced env hl c).congr ?_
          simp only [processCallerDied, reports_append, releaseAbility_reports, List.append_nil]

theorem processCalleeDied_balanced (hl : s.distributedComponentListener = some listener)
    (connect : Option RemoteObject) :
    Balanced s (s.processCalleeDied env connect).1 (s.processCalleeDied env connect).2 := by
  cases connect with
  | none => exact .refl s
  | some c => exact eraseCallee_balanced env hl c

/-! #### A device goes offline -/

theorem processDeviceOffline_balanced (hl : s.distributedComponentListener = some listener)
    (deviceId : String) :
    Balanced s (s.processDeviceOffline env deviceId).1
      (s.processDeviceOffline env deviceId).2 := by
  simp only [processDeviceOffline]
  cases env.checkedLocalId deviceId with
  | none => exact .refl s
  | some localDeviceId =>
      have h₁ := processDistributedOffline_balanced env hl deviceId
      have h₂ := disconnectEntries_balanced env (h₁.listener.trans hl)
        fun connectInfo => deviceId = connectInfo.callerInfo.sourceDeviceId
      have h₃ := processCalleeOffline_balanced (h₂.listener.trans (h₁.listener.trans hl)) deviceId
      refine ((h₁.trans h₂).trans h₃).trans (.same rfl rfl rfl rfl rfl ?_)
      refine reports_eq_nil fun e he => ?_
      obtain ⟨_, _, rfl⟩ := DmsCallbackTask.mem_notifyDeviceOffline _ he
      rfl

/-! ### Runs -/

/-- The operations on the four tables.  A request of another device comes with the caller info
that the stub rebuilds; `replies` are the answers of the other device, try by try. -/
inductive ReportOp where
  | connectRemote (env : Env) (replies : RemoteCall → Nat → RpcReply) (want : Want)
      (connect : Option RemoteObject) (callerUid callerPid : Int) (accessToken : Nat)
  | disconnectRemote (env : Env) (connect : Option RemoteObject)
  | connectFromRemote (env : Env) (want : Want) (connect : Option RemoteObject)
      (callerInfo : CallerInfo) (accountInfo : AccountInfo)
  | disconnectFromRemote (env : Env) (connect : Option RemoteObject) (uid : Int)
      (sourceDeviceId : String)
  | startByCall (env : Env) (want : Want) (connect : Option RemoteObject)
      (callerUid callerPid : Int) (accessToken : Nat)
  | releaseRemote (env : Env) (connect : Option RemoteObject) (element : ElementName)
  | startByCallFromRemote (env : Env) (want : Want) (connect : Option RemoteObject)
      (callerInfo : CallerInfo) (accountInfo : AccountInfo)
  | releaseFromRemote (env : Env) (connect : Option RemoteObject) (element : ElementName)
      (callerInfo : CallerInfo)
  | callerDied (env : Env) (connect : Option RemoteObject) (deviceType : DeviceType)
  | calleeDied (env : Env) (connect : Option RemoteObject)
  | connectDied (env : Env) (connect : Option RemoteObject)
  | processDiedFromRemote (env : Env) (callerInfo : CallerInfo)
  | deviceOffline (env : Env) (deviceId : String)

namespace ReportOp

/-- What a call leaves, without its result. -/
def left (o : Outcome) : DistributedSchedService × List Effect := (o.service, o.effects)

def apply (s : DistributedSchedService) : ReportOp → DistributedSchedService × List Effect
  | connectRemote env replies want connect callerUid callerPid accessToken =>
    left (s.connectRemoteAbility env (fun call n => (n + 1, replies call n)) 0 want connect
      callerUid callerPid accessToken).2
  | disconnectRemote env connect => left (s.disconnectRemoteAbility env connect)
  | connectFromRemote env want connect callerInfo accountInfo =>
    left (s.connectAbilityFromRemote env want connect callerInfo.ofConnect accountInfo)
  | disconnectFromRemote env connect uid sourceDeviceId =>
    left (s.disconnectAbilityFromRemote env connect uid sourceDeviceId)
  | startByCall env want connect callerUid callerPid accessToken =>
    left (s.startRemoteAbilityByCall env want connect callerUid callerPid accessToken)
  | releaseRemote env connect element => left (s.releaseRemoteAbility env connect element)
  | startByCallFromRemote env want connect callerInfo accountInfo =>
    left (s.startAbilityByCallFromRemote env want connect callerInfo.ofStartByCall accountInfo)
  | releaseFromRemote env connect element callerInfo =>
    left (s.releaseAbilityFromRemote env connect element callerInfo.ofRelease)
  | callerDied env connect deviceType => s.processCallerDied env connect deviceType
  | calleeDied env connect => s.processCalleeDied env connect
  | connectDied env connect => s.processConnectDied env connect
  | processDiedFromRemote env callerInfo =>
    left (s.notifyProcessDiedFromRemote env callerInfo.ofProcessDied)
  | deviceOffline env deviceId => s.processDeviceOffline env deviceId

/-- A start by call on the callee's side does not start a connect again. -/
def StartsOnce (s : DistributedSchedService) : ReportOp → Prop
  | startByCallFromRemote env want connect callerInfo accountInfo =>
    ¬ StartsAgain env s want connect callerInfo.ofStartByCall accountInfo
  | _ => True

theorem apply_balanced (hl : s.distributedComponentListener = some listener) (hs : s.HasSessions)
    {op : ReportOp} (h : op.StartsOnce s) : Balanced s (op.apply s).1 (op.apply s).2 := by
  cases op with
  | connectRemote => exact connectRemoteAbility_balanced hl ..
  | disconnectRemote => exact disconnectRemoteAbility_balanced hl hs _
  | connectFromRemote => exact connectAbilityFromRemote_balanced hl rfl ..
  | disconnectFromRemote => exact disconnectAbilityFromRemote_balanced hl ..
  | startByCall => exact startRemoteAbilityByCall_balanced hl ..
  | releaseRemote => exact releaseRemoteAbility_balanced hl hs ..
  | startByCallFromRemote => exact startAbilityByCallFromRemote_balanced hl h
  | releaseFromRemote => exact releaseAbilityFromRemote_balanced hl ..
  | callerDied => exact processCallerDied_balanced hl hs ..
  | calleeDied => exact processCalleeDied_balanced hl _
  | connectDied => exact processConnectDied_balanced hl _
  | processDiedFromRemote => exact disconnectEntries_balanced _ hl _
  | deviceOffline => exact processDeviceOffline_balanced hl _

/-- An operation, with what the listener is told. -/
def emit (s : DistributedSchedService) (op : ReportOp) : DistributedSchedService × List Report :=
  ((op.apply s).1, reports (op.apply s).2)

end ReportOp

/-- What a run keeps: the listener, the sessions, and the balance. -/
structure Reported (listener : RemoteObject) (r : DistributedSchedService × List Report) :
    Prop where
  listener : r.1.distributedComponentListener = some listener
  sessions : r.1.HasSessions
  net : ∀ role connect, net role connect r.2 = r.1.keys role connect

theorem Reported.emit {r : DistributedSchedService × List Report} (h : Reported listener r)
    {op : ReportOp} (hop : op.StartsOnce r.1) :
    Reported listener ((ReportOp.emit r.1 op).1, r.2 ++ (ReportOp.emit r.1 op).2) := by
  have hb := ReportOp.apply_balanced h.listener h.sessions hop
  refine ⟨hb.listener.trans h.listener, hb.sessions h.sessions, fun role connect => ?_⟩
  have hnet := hb.net role connect
  rw [net_append, h.net]
  simp only [ReportOp.emit]
  omega

/-- **Reports are balanced** in every run that does not start a connect of the table again by
call on the callee's side: the reports made so far come to 1 for each key of a table, and to 0
for every other object.  In every state of such a run, an operation keeps this exactly when it
does not start a connect again. -/
theorem reports_balanced {listener : RemoteObject} {r : DistributedSchedService × List Report}
    (h : Runs.Reach (Runs.traced ReportOp.emit) (fun r op => op.StartsOnce r.1)
      ({ distributedComponentListener := some listener }, []) r) :
    (∀ role connect, net role connect r.2 = r.1.keys role connect) ∧
      ∀ op, (∀ role connect, net role connect (r.2 ++ (ReportOp.emit r.1 op).2) =
        (ReportOp.emit r.1 op).1.keys role connect) ↔ op.StartsOnce r.1 := by
  have hinv : Reported listener r := by
    refine h.invariant ⟨rfl, ⟨fun c l hk => ?_, fun c l hk => ?_⟩, fun role connect => ?_⟩
      fun r op r' hi hop hs => ?_
    · simp at hk
    · simp at hk
    · obtain ⟨_ | _, _ | _⟩ := role <;> simp [keys, keyCount]
    · obtain rfl := Option.some.inj hs
      exact hi.emit hop
  refine ⟨hinv.net, fun op => ⟨fun hkeep => ?_, fun hop => (hinv.emit hop).net⟩⟩
  cases op with
  | startByCallFromRemote env want connect callerInfo accountInfo =>
      intro hagain
      obtain ⟨c, hone, hkeys⟩ := startAbilityByCallFromRemote_again hinv.listener hagain
      have hc := hkeep (.call, .callee) c
      simp only [ReportOp.emit, ReportOp.apply, ReportOp.left, net_append, hinv.net, hone,
        hkeys] at hc
      omega
  | _ => trivial

/-- A start by call of an object by the remote caller of uid 20010. -/
def startObject (connect : RemoteObject) : ReportOp :=
  .startByCallFromRemote calleeEnv { element := { deviceId := "B", bundleName := "app" } }
    (some connect) { uid := 20010, pid := 77, sourceDeviceId := "A" }
    { accountType := sameAccountType }

/-- The release of object 7. -/
def releaseSeven : ReportOp := .releaseFromRemote calleeEnv (some 7) {} { sourceDeviceId := "A" }

/-- Two objects are started and the first is released: its reports come to 0, and those of the
second to 1. -/
theorem reports_balanced_once : ∃ r : DistributedSchedService × List Report,
    Runs.exec (Runs.traced ReportOp.emit) ({ distributedComponentListener := some 3 }, [])
      [startObject 7, startObject 8, releaseSeven] = some r ∧ r.2.length = 3 ∧
    net (.call, .callee) 7 r.2 = 0 ∧ net (.call, .callee) 8 r.2 = 1 := by
  have hreach : ∃ r : DistributedSchedService × List Report,
      Runs.exec (Runs.traced ReportOp.emit) ({ distributedComponentListener := some 3 }, [])
        [startObject 7, startObject 8, releaseSeven] = some r ∧
      Runs.Reach (Runs.traced ReportOp.emit) (fun r op => op.StartsOnce r.1)
        ({ distributedComponentListener := some 3 }, []) r ∧ r.2.length = 3 ∧
      r.1.keys (.call, .callee) 7 = 0 ∧ r.1.keys (.call, .callee) 8 = 1 := by
    refine ⟨_, rfl, .next (.next (.next .init (l := startObject 7) ?_ rfl) (l := startObject 8) ?_
      rfl) (l := releaseSeven) trivial rfl, rfl, rfl, rfl⟩
    · rintro ⟨c, connectInfo, localDeviceId, -, hk, -⟩
      cases hk
    · rintro ⟨c, connectInfo, localDeviceId, hc, hk, -⟩
      cases hc
      cases hk
  obtain ⟨r, hr, h, hlength, h₇, h₈⟩ := hreach
  obtain ⟨hnet, -⟩ := reports_balanced h
  exact ⟨r, hr, hlength, (hnet ..).trans h₇, (hnet ..).trans h₈⟩

/-- **A connect that is started by call twice** is reported twice; its release is reported
once, and what is left is 1 for an object that is in no table. -/
theorem reports_drift : ∃ r : DistributedSchedService × List Report,
    Runs.exec (Runs.traced ReportOp.emit) ({ distributedComponentListener := some 3 }, [])
        [startObject 7, startObject 7, releaseSeven] = some r ∧
      net (.call, .callee) 7 r.2 = 1 ∧ r.1.calleeMap.contains 7 = false :=
  ⟨_, rfl, rfl, rfl⟩

end DistributedSched

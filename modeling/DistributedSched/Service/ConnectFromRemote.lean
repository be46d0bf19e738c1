import DistributedSched.Library.TreeWalk
import DistributedSched.Service.Permission
import DistributedSched.Service.State

/-!
# Service — connections from remote callers

The callee's side of a connection: `connectAbilityMap_`, guarded by `connectLock_`.  A call of
`ConnectAbilityFromRemote` is a lookup under the lock, a call of the ability manager without
it, and a record under the lock again.  The record is decided by the iterator of the lookup.
-/

namespace DistributedSched

/-! ### Calls of the ability manager -/

namespace DistributedSchedAdapter

variable (env : Env)

def connectAbility (want : Want) (connect : RemoteObject) : Int × List Effect :=
  if env.amsConnect ≠ errOk then (env.amsConnect, [])
  else match env.activeUser with
    | none => (invalidParametersErr, [])
    | some userId => (env.amsConnectAbility want, [.ams (.connectAbility want connect userId)])

def disconnectAbility (connect : RemoteObject) : Int × List Effect :=
  if env.amsConnect ≠ errOk then (env.amsConnect, [])
  else (env.amsDisconnectAbility connect, [.ams (.disconnectAbility connect)])

end DistributedSchedAdapter

namespace DistributedSchedService

variable (env : Env) (s : DistributedSchedService)

/-! ### Connecting -/

/-- The first `connectLock_` block of `ConnectAbilityFromRemote`: the callback wrapper of the
connect, and whether the connect is in the table. -/
def lookupConnect (connect : RemoteObject) : RemoteObject × Bool × DistributedSchedService :=
  match s.connectAbilityMap[connect]? with
  | some connectInfo => (connectInfo.callbackWrapper, true, s)
  | none => (s.newObject, false, { s with newObject := s.newObject + 1 })

/-- The second `connectLock_` block: a connect that was not found is reported and recorded;
`emplace` leaves an entry that is there by now. -/
def recordConnect (connect : RemoteObject) (found : Bool) (connectInfo : ConnectInfo) :
    DistributedSchedService × List Effect :=
  if found then (s, [])
  else
    ({ s with connectAbilityMap := s.connectAbilityMap.insertIfNew connect connectInfo },
      connectInfo.reportDistributedComponentChange env s.distributedComponentListener connect
        .add .connect .callee)

/-- `ConnectAbilityFromRemote` after its checks. -/
def connectChecked (want : Want) (connect : RemoteObject) (callerInfo : CallerInfo) : Outcome :=
  let (callbackWrapper, found, s) :=
    if callerInfo.callerType = callerTypeHarmony then s.lookupConnect connect
    -- no lookup sets the iterator that the record tests
    else (connect, !env.unsetIteratorIsEnd, s)
  let a := DistributedSchedAdapter.connectAbility env want callbackWrapper
  if a.1 ≠ errOk then ⟨a.1, s, a.2⟩
  else
    let r := s.recordConnect env connect found ⟨callerInfo, callbackWrapper, want.element⟩
    ⟨a.1, r.1, a.2 ++ r.2⟩

/-- `ConnectAbilityFromRemote` up to its first block: an error, or the connect. -/
def connectFromRemotePermitted (want : Want) (connect : Option RemoteObject)
    (callerInfo : CallerInfo) (accountInfo : AccountInfo) : Except Int RemoteObject :=
  match connect with
  | none => .error invalidRemoteParametersErr
  | some connect =>
    match env.checkedLocalIdFromRemote want.element.deviceId callerInfo.sourceDeviceId with
    | none => .error invalidRemoteParametersErr
    | some localDeviceId =>
      let result := DistributedSchedPermission.checkDPermission env want callerInfo accountInfo
        localDeviceId true
      if result ≠ errOk then .error result else .ok connect

def connectAbilityFromRemote (want : Want) (connect : Option RemoteObject)
    (callerInfo : CallerInfo) (accountInfo : AccountInfo) : Outcome :=
  match connect with
  | none => ⟨invalidRemoteParametersErr, s, []⟩
  | some connect =>
    match env.checkedLocalIdFromRemote want.element.deviceId callerInfo.sourceDeviceId with
    | none => ⟨invalidRemoteParametersErr, s, []⟩
    | some localDeviceId =>
      let result := DistributedSchedPermission.checkDPermission env want callerInfo accountInfo
        localDeviceId true
      if result ≠ errOk then ⟨result, s, []⟩ else s.connectChecked env want connect callerInfo

/-! ### Disconnecting -/

/-- The `connectLock_` block of `DisconnectAbilityFromRemote`: the object to disconnect, when
there is one. -/
def eraseConnect (connect : RemoteObject) :
    Option RemoteObject × DistributedSchedService × List Effect :=
  match s.connectAbilityMap[connect]? with
  | some connectInfo =>
    (some connectInfo.callbackWrapper,
      { s with connectAbilityMap := s.connectAbilityMap.erase connect },
      connectInfo.reportDistributedComponentChange env s.distributedComponentListener connect
        .remove .connect .callee)
  | none => (if env.isLocalCalling then some connect else none, s, [])

def disconnectAbilityFromRemote (connect : Option RemoteObject) (_uid : Int)
    (sourceDeviceId : String) : Outcome :=
  match connect with
  | none => ⟨invalidRemoteParametersErr, s, []⟩
  | some connect =>
    match env.checkedLocalIdForRelease sourceDeviceId with
    | none => ⟨invalidRemoteParametersErr, s, []⟩
    | some _ =>
      match s.eraseConnect env connect with
      | (none, s, effects) => ⟨invalidRemoteParametersErr, s, effects⟩
      | (some callbackWrapper, s, effects) =>
        let a := DistributedSchedAdapter.disconnectAbility env callbackWrapper
        ⟨a.1, s, effects ++ a.2⟩

/-- One round of the loops that disconnect every entry of a caller process or of a device,
with the last result that is not `ERR_OK`. -/
def disconnectEntry (listener : Option RemoteObject) (gone : ConnectInfo → Bool)
    (acc : Int × List Effect) (connect : RemoteObject) (connectInfo : ConnectInfo) :
    (Int × List Effect) × Option ConnectInfo :=
  if gone connectInfo then
    let a := DistributedSchedAdapter.disconnectAbility env connectInfo.callbackWrapper
    ((if a.1 ≠ errOk then a.1 else acc.1,
      acc.2 ++ a.2 ++ connectInfo.reportDistributedComponentChange env listener connect
        .remove .connect .callee), none)
  else (acc, some connectInfo)

def disconnectEntries (gone : ConnectInfo → Bool) : Outcome :=
  let r := s.connectAbilityMap.walk
    (disconnectEntry env s.distributedComponentListener gone) (errOk, [])
  ⟨r.1.1, { s with connectAbilityMap := r.2 }, r.1.2⟩

def notifyProcessDiedFromRemote (callerInfo : CallerInfo) : Outcome :=
  s.disconnectEntries env fun connectInfo =>
    callerInfo.sourceDeviceId = connectInfo.callerInfo.sourceDeviceId &&
      callerInfo.uid = connectInfo.callerInfo.uid &&
      callerInfo.pid = connectInfo.callerInfo.pid &&
      callerInfo.callerType = connectInfo.callerInfo.callerType

/-- The `connectLock_` block of `ProcessDeviceOffline`. -/
def processConnectOffline (deviceId : String) : DistributedSchedService × List Effect :=
  let r := s.disconnectEntries env fun connectInfo =>
    deviceId = connectInfo.callerInfo.sourceDeviceId
  (r.service, r.effects)

/-! ### What the operations do to the table -/

theorem connectAbilityFromRemote_eq (want : Want) (connect : Option RemoteObject)
    (callerInfo : CallerInfo) (accountInfo : AccountInfo) :
    s.connectAbilityFromRemote env want connect callerInfo accountInfo =
      match connectFromRemotePermitted env want connect callerInfo accountInfo with
      | .error code => ⟨code, s, []⟩
      | .ok c => s.connectChecked env want c callerInfo := by
  cases connect with
  | none => rfl
  | some c =>
      unfold connectAbilityFromRemote connectFromRemotePermitted
      cases env.checkedLocalIdFromRemote want.element.deviceId callerInfo.sourceDeviceId with
      | none => rfl
      | some localDeviceId => simp only; split <;> rfl

/-- A connect is rejected, or all checks have passed. -/
theorem connectAbilityFromRemote_cases (want : Want) (connect : Option RemoteObject)
    (callerInfo : CallerInfo) (accountInfo : AccountInfo) :
    (∃ code, code ≠ errOk ∧
      s.connectAbilityFromRemote env want connect callerInfo accountInfo = ⟨code, s, []⟩) ∨
    ∃ c localDeviceId, connect = some c ∧
      env.checkedLocalIdFromRemote want.element.deviceId callerInfo.sourceDeviceId =
        some localDeviceId ∧
      DistributedSchedPermission.checkDPermission env want callerInfo accountInfo localDeviceId
        true = errOk ∧
      s.connectAbilityFromRemote env want connect callerInfo accountInfo =
        s.connectChecked env want c callerInfo := by
  cases connect with
  | none => exact .inl ⟨_, by decide, rfl⟩
  | some c =>
      unfold connectAbilityFromRemote
      cases hl : env.checkedLocalIdFromRemote want.element.deviceId callerInfo.sourceDeviceId with
      | none => exact .inl ⟨_, by decide, rfl⟩
      | some localDeviceId =>
          by_cases hp : DistributedSchedPermission.checkDPermission env want callerInfo
              accountInfo localDeviceId true = errOk
          · exact .inr ⟨c, localDeviceId, rfl, rfl, hp, if_neg (not_not_intro hp)⟩
          · exact .inl ⟨_, hp, if_pos hp⟩

@[simp] theorem lookupConnect_connectAbilityMap (connect : RemoteObject) :
    (s.lookupConnect connect).2.2.connectAbilityMap = s.connectAbilityMap := by
  unfold lookupConnect; split <;> rfl

theorem lookupConnect_found (connect : RemoteObject) :
    (s.lookupConnect connect).2.1 = s.connectAbilityMap.contains connect := by
  rw [Std.ExtTreeMap.contains_eq_isSome_getElem?]
  unfold lookupConnect
  split <;> rename_i h <;> rw [h] <;> rfl

/-- A connect of a caller that does not succeed leaves the table; one that succeeds leaves an
entry of that object, the old one if there was one. -/
theorem connectChecked_harmony {callerInfo : CallerInfo}
    (ht : callerInfo.callerType = callerTypeHarmony) (want : Want) (connect : RemoteObject) :
    let o := s.connectChecked env want connect callerInfo
    (o.result ≠ errOk → o.service.connectAbilityMap = s.connectAbilityMap) ∧
    (o.result = errOk → o.service.connectAbilityMap = s.connectAbilityMap.insertIfNew connect
      ⟨callerInfo, (s.lookupConnect connect).1, want.element⟩) := by
  simp only [connectChecked, if_pos ht]
  by_cases ha : (DistributedSchedAdapter.connectAbility env want (s.lookupConnect connect).1).1 =
      errOk
  · simp only [ha, ne_eq, not_true_eq_false, if_false, false_implies, true_and, forall_const]
    unfold recordConnect
    rw [lookupConnect_found]
    rw [Std.ExtTreeMap.contains_eq_isSome_getElem?]
    cases hk : s.connectAbilityMap[connect]? with
    | some connectInfo =>
        rw [Std.ExtTreeMap.insertIfNew_eq_self hk]
        exact lookupConnect_connectAbilityMap s connect
    | none =>
        simp only [Option.isSome_none, Bool.false_eq_true, if_false,
          lookupConnect_connectAbilityMap]
  · simp only [ha, ne_eq, not_false_eq_true, if_true, lookupConnect_connectAbilityMap,
      forall_const, false_implies, and_self]

theorem disconnectAbilityFromRemote_map {sourceDeviceId localDeviceId : String}
    (h : env.checkedLocalIdForRelease sourceDeviceId = some localDeviceId) (connect : RemoteObject)
    (uid : Int) :
    (s.disconnectAbilityFromRemote env (some connect) uid
        sourceDeviceId).service.connectAbilityMap =
      s.connectAbilityMap.erase connect := by
  simp only [disconnectAbilityFromRemote, h, eraseConnect]
  cases hk : s.connectAbilityMap[connect]? with
  | some connectInfo => rfl
  | none =>
      rw [Std.ExtTreeMap.erase_eq_self hk]
      cases env.isLocalCalling <;> rfl

/-- The entries that are not gone stay. -/
theorem disconnectEntries_getElem? (gone : ConnectInfo → Bool) (connect : RemoteObject) :
    (s.disconnectEntries env gone).service.connectAbilityMap[connect]? =
      s.connectAbilityMap[connect]?.filter fun connectInfo => !gone connectInfo := by
  rw [disconnectEntries, Std.ExtTreeMap.walk_getElem?
    (g := fun _ connectInfo => if gone connectInfo then none else some connectInfo)]
  · cases s.connectAbilityMap[connect]? with
    | none => rfl
    | some connectInfo => cases h : gone connectInfo <;> simp [Option.filter, h]
  · intro acc connect connectInfo
    unfold disconnectEntry
    split <;> rfl

/-- What disconnecting the entries does, entry by entry. -/
theorem disconnectEntries_effects (gone : ConnectInfo → Bool) :
    (s.disconnectEntries env gone).effects = s.connectAbilityMap.toList.flatMap fun e =>
      if gone e.2 then
        (DistributedSchedAdapter.disconnectAbility env e.2.callbackWrapper).2 ++
          e.2.reportDistributedComponentChange env s.distributedComponentListener e.1
            .remove .connect .callee
      else [] := by
  refine (Std.ExtTreeMap.walk_append (l := Prod.snd) (g := fun connect connectInfo =>
    if gone connectInfo then
      (DistributedSchedAdapter.disconnectAbility env connectInfo.callbackWrapper).2 ++
        connectInfo.reportDistributedComponentChange env s.distributedComponentListener connect
          .remove .connect .callee
    else []) (fun acc connect connectInfo => ?_) _ _).trans (List.nil_append _)
  unfold disconnectEntry
  split
  · exact List.append_assoc ..
  · exact (List.append_nil _).symm

/-- Disconnecting entries calls the ability manager's `DisconnectAbility` and reports the
removals, and does nothing else. -/
theorem mem_disconnectEntries (gone : ConnectInfo → Bool) :
    ∀ e ∈ (s.disconnectEntries env gone).effects,
      (∃ connect, e = .ams (.disconnectAbility connect)) ∨
        ∃ connect info, e = .report connect info ∧ info.componentType = .connect ∧
          info.deviceType = .callee ∧ info.changeType = .remove := by
  intro e he
  rw [disconnectEntries_effects] at he
  obtain ⟨entry, -, he⟩ := List.mem_flatMap.mp he
  split at he
  · rcases List.mem_append.mp he with he | he
    · unfold DistributedSchedAdapter.disconnectAbility at he
      split at he
      · cases he
      · obtain rfl := List.mem_singleton.mp he
        exact .inl ⟨_, rfl⟩
    · obtain ⟨-, rfl⟩ := ConnectInfo.mem_reportDistributedComponentChange.mp he
      exact .inr ⟨_, _, rfl, rfl, rfl, rfl⟩
  · cases he

end DistributedSchedService

/-- An environment of the callee's device, where the target is visible and the ability manager
succeeds. -/
def calleeEnv : Env :=
  { localDeviceId := some "B", callingUid := 1000, activeOsAccountIds := some [100]
    bundleManager := true
    bmsQueryAbilityInfo := fun _ => some { bundleName := "app", visible := true } }

end DistributedSched

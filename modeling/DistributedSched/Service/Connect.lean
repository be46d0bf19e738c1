import DistributedSched.Library.Tally
import DistributedSched.Service.Permission
import DistributedSched.Service.State

/-!
# Service — connecting to a remote ability

The caller's side of a connection: `distributedConnectAbilityMap_` and `trackingUidMap_`, both
guarded by `distributedLock_`.  A request whose answer the code uses goes through a parameter
`rpc` that steps a peer of any type; a request whose answer it drops is an effect.
-/

namespace DistributedSched

/-- The answer of a request to another device, and the time it took in milliseconds. -/
structure RpcReply where
  result : Int
  elapsedTime : Int := 0

namespace DistributedSchedService

variable (env : Env) (s : DistributedSchedService)

/-! ### The counter of a uid -/

def getUidLocked : List ConnectAbilitySession → Int
  | session :: _ => session.callerInfo.uid
  | [] => invalidCallerUid

def checkDistributedConnectLocked (callerInfo : CallerInfo) : Int :=
  if callerInfo.uid < 0 then bindAbilityUidInvalidErr
  else match s.trackingUidMap[callerInfo.uid]? with
    | some number => if maxDistributedConnectNum ≤ number then bindAbilityLeakErr else errOk
    | none => errOk

def decreaseConnectLocked (trackingUidMap : Map Int Nat) (uid : Int) :
    Map Int Nat × List Effect :=
  let called := [Effect.decreaseConnect uid (trackingUidMap.contains uid)]
  if uid < 0 then (trackingUidMap, called)
  else match trackingUidMap[uid]? with
    | none => (trackingUidMap, called)
    | some conns =>
      let conns := if 0 < conns then conns - 1 else conns
      if conns = 0 then (trackingUidMap.erase uid, called)
      else (trackingUidMap.insert uid conns, called)

@[simp] theorem decreaseConnectLocked_effects (trackingUidMap : Map Int Nat) (uid : Int) :
    (decreaseConnectLocked trackingUidMap uid).2 =
      [.decreaseConnect uid (trackingUidMap.contains uid)] := by
  simp only [decreaseConnectLocked]
  split
  · rfl
  · cases trackingUidMap[uid]? with
    | none => rfl
    | some conns => simp only [apply_ite Prod.snd, ite_self]

/-! ### Connecting -/

def remoteConnectAbilityMappingLocked (connect : Option RemoteObject)
    (localDeviceId remoteDeviceId : String) (element : ElementName) (callerInfo : CallerInfo)
    (targetComponent : TargetComponent) : DistributedSchedService × List Effect :=
  match connect with
  | none => (s, [])
  | some connect =>
    let add := ConnectAbilitySession.addToSessions localDeviceId remoteDeviceId element callerInfo
      targetComponent
    match s.distributedConnectAbilityMap[connect]? with
    | none =>
      ({ s with
          trackingUidMap := s.trackingUidMap.bump callerInfo.uid
          distributedConnectAbilityMap := s.distributedConnectAbilityMap.insert connect (add []) },
        .addDeathRecipient connect .connect ::
          callerInfo.reportDistributedComponentChange s.distributedComponentListener connect
            .add .connect .caller)
    | some sessionsList =>
      ({ s with
          distributedConnectAbilityMap :=
            s.distributedConnectAbilityMap.insert connect (add sessionsList) }, [])

/-- The retry loop of `TryConnectRemoteAbility`, with `result` the last answer. -/
def tryConnectTimes {σ : Type} (rpc : σ → σ × RpcReply) : Nat → σ → Int → σ × Int
  | 0, peer, result => (peer, result)
  | retryTimes + 1, peer, _ =>
    let (peer, reply) := rpc peer
    if reply.result = errOk then (peer, reply.result)
    else if reply.result = invalidRemoteParametersErr ∨
        reply.result = remoteDeviceBindAbilityErr then (peer, reply.result)
    else if bindConnectTimeout < reply.elapsedTime then (peer, reply.result)
    else tryConnectTimes rpc retryTimes peer reply.result

def tryConnectRemoteAbility {σ : Type} (rpc : RemoteCall → σ → σ × RpcReply) (peer : σ)
    (want : Want) (connect : Option RemoteObject) (callerInfo : CallerInfo) : σ × Outcome :=
  let remoteDeviceId := want.element.deviceId
  match env.getRemoteDms remoteDeviceId, connect with
  | true, some connect =>
    match DistributedSchedPermission.getAccountInfo env remoteDeviceId callerInfo with
    | .error ret => (peer, ⟨ret, s, []⟩)
    | .ok accountInfo =>
      let r := tryConnectTimes (rpc (.connectAbilityFromRemote want (some connect) callerInfo
          accountInfo))
        bindConnectRetryTimes peer remoteDeviceBindAbilityErr
      if r.2 = errOk then
        let m := s.remoteConnectAbilityMappingLocked connect callerInfo.sourceDeviceId
          remoteDeviceId want.element callerInfo .harmonyComponent
        (r.1, ⟨r.2, m.1, m.2⟩)
      else (r.1, ⟨r.2, s, []⟩)
  | _, _ => (peer, ⟨invalidParametersErr, s, []⟩)

def connectRemoteAbility {σ : Type} (rpc : RemoteCall → σ → σ × RpcReply) (peer : σ)
    (want : Want) (connect : Option RemoteObject) (callerUid callerPid : Int)
    (accessToken : Nat) : σ × Outcome :=
  match env.checkedLocalId want.element.deviceId with
  | none => (peer, ⟨invalidParametersErr, s, []⟩)
  | some localDeviceId =>
    let callerInfo : CallerInfo :=
      { uid := callerUid, pid := callerPid, callerType := callerTypeHarmony,
        sourceDeviceId := localDeviceId, accessToken := accessToken }
    let checkResult := s.checkDistributedConnectLocked callerInfo
    if checkResult ≠ errOk then (peer, ⟨checkResult, s, []⟩)
    else match env.getCallerAppIdFromBms callerUid, env.getBundleNameListFromBms callerUid with
      | some callerAppId, some bundleNames =>
        s.tryConnectRemoteAbility env rpc peer want connect
          { callerInfo with callerAppId := callerAppId, bundleNames := bundleNames }
      | _, _ => (peer, ⟨invalidParametersErr, s, []⟩)

/-- A call of `ConnectRemoteAbility` up to its first request: an error, or what is
requested. -/
def connectRequest (want : Want) (connect : Option RemoteObject) (callerUid callerPid : Int)
    (accessToken : Nat) : Except Int (RemoteObject × CallerInfo × AccountInfo) :=
  match env.checkedLocalId want.element.deviceId with
  | none => .error invalidParametersErr
  | some localDeviceId =>
    let callerInfo : CallerInfo :=
      { uid := callerUid, pid := callerPid, callerType := callerTypeHarmony,
        sourceDeviceId := localDeviceId, accessToken := accessToken }
    let checkResult := s.checkDistributedConnectLocked callerInfo
    if checkResult ≠ errOk then .error checkResult
    else match env.getCallerAppIdFromBms callerUid, env.getBundleNameListFromBms callerUid with
      | some callerAppId, some bundleNames =>
        match env.getRemoteDms want.element.deviceId, connect with
        | true, some connect =>
          let callerInfo :=
            { callerInfo with callerAppId := callerAppId, bundleNames := bundleNames }
          match DistributedSchedPermission.getAccountInfo env want.element.deviceId callerInfo with
          | .error ret => .error ret
          | .ok accountInfo => .ok (connect, callerInfo, accountInfo)
        | _, _ => .error invalidParametersErr
      | _, _ => .error invalidParametersErr

/-- A call is its checks, its requests, and the mapping when a request succeeded. -/
theorem connectRemoteAbility_eq {σ : Type} (rpc : RemoteCall → σ → σ × RpcReply) (peer : σ)
    (want : Want) (connect : Option RemoteObject) (callerUid callerPid : Int)
    (accessToken : Nat) :
    s.connectRemoteAbility env rpc peer want connect callerUid callerPid accessToken =
      match s.connectRequest env want connect callerUid callerPid accessToken with
      | .error code => (peer, ⟨code, s, []⟩)
      | .ok (connect, callerInfo, accountInfo) =>
        let r := tryConnectTimes
          (rpc (.connectAbilityFromRemote want (some connect) callerInfo accountInfo))
          bindConnectRetryTimes peer remoteDeviceBindAbilityErr
        if r.2 = errOk then
          let m := s.remoteConnectAbilityMappingLocked connect callerInfo.sourceDeviceId
            want.element.deviceId want.element callerInfo .harmonyComponent
          (r.1, ⟨r.2, m.1, m.2⟩)
        else (r.1, ⟨r.2, s, []⟩) := by
  unfold connectRemoteAbility connectRequest
  cases env.checkedLocalId want.element.deviceId with
  | none => rfl
  | some localDeviceId =>
      simp only
      by_cases hc : s.checkDistributedConnectLocked
          (CallerInfo.mk callerUid callerPid callerTypeHarmony localDeviceId "" [] accessToken) =
            errOk
      · rw [if_neg (not_not_intro hc), if_neg (not_not_intro hc)]
        cases env.getCallerAppIdFromBms callerUid with
        | none => rfl
        | some callerAppId =>
            cases env.getBundleNameListFromBms callerUid with
            | none => rfl
            | some bundleNames =>
                simp only [tryConnectRemoteAbility]
                cases env.getRemoteDms want.element.deviceId with
                | false => cases connect <;> rfl
                | true =>
                    cases connect with
                    | none => rfl
                    | some c =>
                        simp only
                        cases DistributedSchedPermission.getAccountInfo env want.element.deviceId
                            (CallerInfo.mk callerUid callerPid callerTypeHarmony localDeviceId
                              callerAppId bundleNames accessToken) with
                        | error ret => rfl
                        | ok accountInfo => rfl
      · rw [if_pos hc, if_pos hc]

/-- What is requested is for the connect object of the call, and its caller passes the check of
the counter. -/
theorem connectRequest_ok {want : Want} {connect : Option RemoteObject} {callerUid callerPid : Int}
    {accessToken : Nat} {c : RemoteObject} {callerInfo : CallerInfo} {accountInfo : AccountInfo}
    (h : s.connectRequest env want connect callerUid callerPid accessToken =
      .ok (c, callerInfo, accountInfo)) :
    connect = some c ∧ env.localDeviceId = some callerInfo.sourceDeviceId ∧
      callerInfo.callerType = callerTypeHarmony ∧ callerInfo.uid = callerUid ∧
      s.checkDistributedConnectLocked callerInfo = errOk := by
  unfold connectRequest at h
  split at h
  · cases h
  rename_i localDeviceId hl
  simp only at h
  split at h
  · cases h
  rename_i hc
  split at h
  case h_2 => cases h
  split at h
  case h_2 => cases h
  split at h
  · cases h
  · cases h
    exact ⟨rfl, (Env.checkedLocalId_eq_some.mp hl).1, rfl, rfl, Decidable.not_not.mp hc⟩

theorem checkDistributedConnectLocked_eq_ok {callerInfo : CallerInfo} :
    s.checkDistributedConnectLocked callerInfo = errOk ↔
      0 ≤ callerInfo.uid ∧ s.trackingUidMap.tally callerInfo.uid < maxDistributedConnectNum := by
  unfold checkDistributedConnectLocked
  by_cases hu : callerInfo.uid < 0
  · rw [if_pos hu]
    exact ⟨fun h => absurd h (by decide), fun h => absurd h.1 (Int.not_le.mpr hu)⟩
  rw [if_neg hu, Std.ExtTreeMap.tally]
  cases s.trackingUidMap[callerInfo.uid]? with
  | none => exact ⟨fun _ => ⟨Int.not_lt.mp hu, by decide⟩, fun _ => rfl⟩
  | some number =>
      simp only [Option.getD_some]
      by_cases hn : maxDistributedConnectNum ≤ number
      · rw [if_pos hn]
        exact ⟨fun h => absurd h (by decide), fun h => absurd h.2 (Nat.not_lt.mpr hn)⟩
      · rw [if_neg hn]
        exact ⟨fun _ => ⟨Int.not_lt.mp hu, Nat.lt_of_not_le hn⟩, fun _ => rfl⟩

/-! ### Disconnecting -/

def disconnectEachRemoteAbilityLocked (localDeviceId remoteDeviceId : String)
    (connect : RemoteObject) : List Effect :=
  if env.getRemoteDms remoteDeviceId then
    [.rpc remoteDeviceId
      (.disconnectAbilityFromRemote (some connect) env.callingUid localDeviceId)]
  else []

def disconnectRemoteAbility (connect : Option RemoteObject) : Outcome :=
  match connect with
  | none => ⟨invalidParametersErr, s, []⟩
  | some connect =>
    match s.distributedConnectAbilityMap[connect]? with
    | none => ⟨noConnectCallbackErr, s, []⟩
    | some sessionsList =>
      let d := decreaseConnectLocked s.trackingUidMap (getUidLocked sessionsList)
      let removed : DistributedSchedService :=
        { s with
          trackingUidMap := d.1
          distributedConnectAbilityMap := s.distributedConnectAbilityMap.erase connect }
      match sessionsList with
      | [] => ⟨noConnectCallbackErr, removed, d.2 ++ [.removeDeathRecipient connect .connect]⟩
      | session :: _ =>
        ⟨errOk, removed, d.2 ++ [.removeDeathRecipient connect .connect] ++
          session.callerInfo.reportDistributedComponentChange s.distributedComponentListener
            connect .remove .connect .caller ++
          sessionsList.flatMap fun session =>
            disconnectEachRemoteAbilityLocked env session.sourceDeviceId
              session.destinationDeviceId connect⟩

/-! ### A device goes offline -/

def notifyApp (connect : RemoteObject) (element : ElementName) (errCode : Int) : List Effect :=
  if env.parcelWrites then [.notifyApp connect element errCode] else []

def notifyDeviceOfflineToAppLocked (connect : RemoteObject) (session : ConnectAbilitySession) :
    List Effect :=
  session.elementsList.flatMap fun element => notifyApp env connect element deviceOfflineErr

/-- One round of the first loop of `ProcessDeviceOffline`. -/
def offlineDistributedConnect (listener : Option RemoteObject) (deviceId : String)
    (acc : Map Int Nat × List Effect) (connect : RemoteObject)
    (sessionsList : List ConnectAbilitySession) :
    (Map Int Nat × List Effect) × Option (List ConnectAbilitySession) :=
  let uid := getUidLocked sessionsList
  let itSession := sessionsList.find? fun session => session.destinationDeviceId = deviceId
  let notified := match itSession with
    | some session => notifyDeviceOfflineToAppLocked env connect session
    | none => []
  let callerInfo := match itSession with
    | some session => session.callerInfo
    | none => {}
  let sessionsList := sessionsList.eraseP fun session => session.destinationDeviceId = deviceId
  if sessionsList.isEmpty then
    let d := decreaseConnectLocked acc.1 uid
    ((d.1, acc.2 ++ notified ++ [.removeDeathRecipient connect .connect] ++ d.2 ++
      callerInfo.reportDistributedComponentChange listener connect .remove .connect .caller), none)
  else ((acc.1, acc.2 ++ notified), some sessionsList)

/-- The `distributedLock_` block of `ProcessDeviceOffline`. -/
def processDistributedOffline (deviceId : String) : DistributedSchedService × List Effect :=
  let r := s.distributedConnectAbilityMap.walk
    (offlineDistributedConnect env s.distributedComponentListener deviceId) (s.trackingUidMap, [])
  ({ s with trackingUidMap := r.1.1, distributedConnectAbilityMap := r.2 }, r.1.2)

/-! ### A calling process dies -/

/-- The local variables of `ProcessConnectDied`, with the counter and the effects. -/
structure ConnectDiedAcc where
  trackingUidMap : Map Int Nat
  processedDeviceSet : List String := []
  notifyList : List ProcessDiedNotifyInfo := []
  effects : List Effect := []

/-- `std::to_string(static_cast<int32_t>(targetComponent))`. -/
def targetComponentKey : TargetComponent → String
  | .harmonyComponent => "0"

/-- One round of the inner loop: one notification for each remote device. -/
def addProcessDiedNotify (callerInfo : CallerInfo) (acc : ConnectDiedAcc)
    (session : ConnectAbilitySession) : ConnectDiedAcc :=
  let key := session.destinationDeviceId ++ targetComponentKey session.targetComponent
  if key ∈ acc.processedDeviceSet then acc
  else { acc with
    processedDeviceSet := key :: acc.processedDeviceSet
    notifyList := acc.notifyList ++
      [⟨session.destinationDeviceId, callerInfo, session.targetComponent⟩] }

/-- One round of the outer loop of `ProcessConnectDied`. -/
def connectDied (listener : Option RemoteObject) (callerInfo : CallerInfo)
    (acc : ConnectDiedAcc) (connect : RemoteObject) (sessionsList : List ConnectAbilitySession) :
    ConnectDiedAcc × Option (List ConnectAbilitySession) :=
  match sessionsList with
  | [] => (acc, some sessionsList)
  | session :: _ =>
    if session.isSameCaller callerInfo then
      let acc := sessionsList.foldl (addProcessDiedNotify callerInfo) acc
      let d := decreaseConnectLocked acc.trackingUidMap callerInfo.uid
      ({ acc with
          trackingUidMap := d.1
          effects := acc.effects ++ d.2 ++ [.removeDeathRecipient connect .connect] ++
            callerInfo.reportDistributedComponentChange listener connect .remove .connect
              .caller },
        none)
    else (acc, some sessionsList)

def notifyProcessDied (info : ProcessDiedNotifyInfo) : List Effect :=
  if env.getRemoteDms info.remoteDeviceId then
    [.rpc info.remoteDeviceId (.notifyProcessDiedFromRemote info.callerInfo)]
  else []

def notifyProcessDiedAll (notifyList : List ProcessDiedNotifyInfo) : List Effect :=
  notifyList.flatMap (notifyProcessDied env)

def processConnectDied (connect : Option RemoteObject) : DistributedSchedService × List Effect :=
  match connect.bind (s.distributedConnectAbilityMap[·]?) with
  | none | some [] => (s, [])
  | some (session :: _) =>
    let r := s.distributedConnectAbilityMap.walk
      (connectDied s.distributedComponentListener session.callerInfo)
      { trackingUidMap := s.trackingUidMap }
    ({ s with trackingUidMap := r.1.trackingUidMap, distributedConnectAbilityMap := r.2 },
      r.1.effects ++ notifyProcessDiedAll env r.1.notifyList)

/-! ### What the operations do to the table -/

theorem remoteConnectAbilityMappingLocked_map (connect : RemoteObject)
    (localDeviceId remoteDeviceId : String) (element : ElementName) (callerInfo : CallerInfo)
    (targetComponent : TargetComponent) :
    (s.remoteConnectAbilityMappingLocked (some connect) localDeviceId remoteDeviceId element
        callerInfo targetComponent).1.distributedConnectAbilityMap =
      s.distributedConnectAbilityMap.insert connect
        (ConnectAbilitySession.addToSessions localDeviceId remoteDeviceId element callerInfo
          targetComponent (s.distributedConnectAbilityMap[connect]?.getD [])) := by
  simp only [remoteConnectAbilityMappingLocked]
  cases s.distributedConnectAbilityMap[connect]? <;> rfl

/-- The inner loop leaves the counter and makes no call. -/
theorem foldl_addProcessDiedNotify (callerInfo : CallerInfo) (l : List ConnectAbilitySession)
    (acc : ConnectDiedAcc) :
    (l.foldl (addProcessDiedNotify callerInfo) acc).trackingUidMap = acc.trackingUidMap ∧
      (l.foldl (addProcessDiedNotify callerInfo) acc).effects = acc.effects := by
  induction l generalizing acc with
  | nil => exact ⟨rfl, rfl⟩
  | cons session l ih =>
      have hacc : (addProcessDiedNotify callerInfo acc session).trackingUidMap =
          acc.trackingUidMap ∧
          (addProcessDiedNotify callerInfo acc session).effects = acc.effects := by
        simp only [addProcessDiedNotify]
        split <;> exact ⟨rfl, rfl⟩
      rw [List.foldl_cons]
      exact ⟨(ih _).1.trans hacc.1, (ih _).2.trans hacc.2⟩

/-- The connect objects of other callers stay. -/
theorem walk_connectDied_getElem? (listener : Option RemoteObject) (callerInfo : CallerInfo)
    (acc : ConnectDiedAcc) (m : Map RemoteObject (List ConnectAbilitySession))
    (connect : RemoteObject) :
    (m.walk (connectDied listener callerInfo) acc).2[connect]? =
      m[connect]?.filter fun l => !l.head?.any fun session => session.isSameCaller callerInfo := by
  rw [Std.ExtTreeMap.walk_getElem? (g := fun _ l =>
    if l.head?.any fun session => session.isSameCaller callerInfo then none else some l)]
  · cases m[connect]? with
    | none => rfl
    | some l =>
        cases h : l.head?.any fun session => session.isSameCaller callerInfo <;>
          simp [Option.filter, h]
  · intro acc connect l
    cases l with
    | nil => rfl
    | cons session l =>
        cases h : session.isSameCaller callerInfo <;> simp [connectDied, h]

end DistributedSchedService

/-- An environment of the caller's device: the bundle of uid 20010 is in the account's group,
and the service of the other device is found or not. -/
def callerEnv (found : Bool) : Env :=
  { localDeviceId := some "A", checkSystemAbility := fun _ => found
    activeOsAccountIds := some [100], bundleManager := true
    getBundlesForUid := fun _ => some ["app"], getUdidByNetworkId := fun _ => "udid"
    getRelatedGroups := fun _ _ => some [⟨"group", .identicalAccountGroup⟩] }

end DistributedSched

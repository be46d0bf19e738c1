import DistributedSched.Connect.Sessions
import DistributedSched.Library.Runs
import DistributedSched.Service.FromRemote

/-!
# Connect — caller and callee agree

Two devices, `idA` where applications connect and `idB` where the abilities run.  An operation
of `idA` runs to completion; each request it makes of `idB` is executed there or fails without
being executed (`Delivery`).

`ConnectRemoteAbility` records a connect only when the request came back with `ERR_OK`, so it
keeps the two tables in agreement whatever fails.  `DisconnectRemoteAbility` and
`ProcessConnectDied` drop the record of `idA` first and do not look at what becomes of the
request (`ReleaseRemoteAbility` keeps its record unless the request succeeds), so they keep the
agreement when the request is executed:

* `callee_tracked`: in every run whose disconnects and deaths are heard by `idB`, every entry
  that `idB` keeps for `idA` is one that `idA` tracks;
* `callee_left_connected`: one disconnect that is not heard, and it does not.
-/

namespace DistributedSched

open Std (ExtTreeMap)
open DistributedSchedService ConnectAbilitySession

/-! ### The retry loop -/

/-- What the failing requests keep holds where the loop of `TryConnectRemoteAbility` ends, or
else before the one request that succeeded. -/
theorem tryConnectTimes_cases {σ : Type} {rpc : σ → σ × RpcReply} {P : σ → Prop}
    (hP : ∀ p, P p → (rpc p).2.result ≠ errOk → P (rpc p).1) :
    ∀ (n : Nat) (peer : σ) (result : Int), P peer → result ≠ errOk →
      let r := tryConnectTimes rpc n peer result
      (r.2 ≠ errOk ∧ P r.1) ∨
        (r.2 = errOk ∧ ∃ p, P p ∧ (rpc p).2.result = errOk ∧ r.1 = (rpc p).1) := by
  intro n
  induction n with
  | zero => exact fun peer result hp hr => .inl ⟨hr, hp⟩
  | succ n ih =>
      intro peer result hp _
      simp only [tryConnectTimes]
      by_cases h : (rpc peer).2.result = errOk
      · rw [if_pos h]
        exact .inr ⟨h, peer, hp, h, rfl⟩
      rw [if_neg h]
      split
      · exact .inl ⟨h, hP peer hp h⟩
      · split
        · exact .inl ⟨h, hP peer hp h⟩
        · exact ih _ _ (hP peer hp h) h

/-- A connect that is not recorded leaves the service; one that is recorded was answered
`ERR_OK` by the peer. -/
theorem connectRemoteAbility_cases {σ : Type} {env : Env} {s : DistributedSchedService}
    {rpc : RemoteCall → σ → σ × RpcReply} {peer : σ} {want : Want} {connect : Option RemoteObject}
    {callerUid callerPid : Int} {accessToken : Nat} {r : σ × Outcome}
    (hr : s.connectRemoteAbility env rpc peer want connect callerUid callerPid accessToken = r)
    {P : σ → Prop} (hp : P peer)
    (hP : ∀ c callerInfo accountInfo p, P p →
      (rpc (.connectAbilityFromRemote want (some c) callerInfo accountInfo) p).2.result ≠ errOk →
        P (rpc (.connectAbilityFromRemote want (some c) callerInfo accountInfo) p).1) :
    (P r.1 ∧ r.2.service = s ∧ r.2.effects = []) ∨
      ∃ c callerInfo accountInfo p, connect = some c ∧ P p ∧
        env.localDeviceId = some callerInfo.sourceDeviceId ∧
        callerInfo.callerType = callerTypeHarmony ∧
        (rpc (.connectAbilityFromRemote want (some c) callerInfo accountInfo) p).2.result =
          errOk ∧
        r.1 = (rpc (.connectAbilityFromRemote want (some c) callerInfo accountInfo) p).1 ∧
        (r.2.service, r.2.effects) = s.remoteConnectAbilityMappingLocked (some c)
          callerInfo.sourceDeviceId want.element.deviceId want.element callerInfo
          .harmonyComponent := by
  rw [connectRemoteAbility_eq] at hr
  cases hreq : s.connectRequest env want connect callerUid callerPid accessToken with
  | error code =>
      rw [hreq] at hr
      subst hr
      exact .inl ⟨hp, rfl, rfl⟩
  | ok request =>
      obtain ⟨c, callerInfo, accountInfo⟩ := request
      obtain ⟨rfl, hl, ht, -, -⟩ := connectRequest_ok env s hreq
      simp only [hreq] at hr
      -- what is left is the loop
      rcases tryConnectTimes_cases (hP c callerInfo accountInfo) bindConnectRetryTimes peer
        remoteDeviceBindAbilityErr hp (by decide) with ⟨hn, hpr⟩ | ⟨hk, p, h, ho, he⟩
      · rw [if_neg hn] at hr
        subst hr
        exact .inl ⟨hpr, rfl, rfl⟩
      · rw [if_pos hk] at hr
        subst hr
        exact .inr ⟨c, callerInfo, accountInfo, p, rfl, h, hl, ht, ho, he, rfl⟩

/-! ### Requests on their way -/

/-- What becomes of a request: it is executed in an environment of its device, or it fails
without being executed. -/
inductive Delivery where
  | executed (env : Env) (elapsedTime : Int)
  | failed (code : Failure) (elapsedTime : Int)

/-- A request to a device. -/
def Delivery.send (b : DistributedSchedService) (call : RemoteCall) :
    Delivery → DistributedSchedService × RpcReply
  | executed env elapsedTime =>
    let o := (b.onRemoteRequest env call).1
    (o.service, ⟨o.result, elapsedTime⟩)
  | failed code elapsedTime => (b, ⟨code.1, elapsedTime⟩)

/-- The requests of one operation: the `i`-th of them has the delivery `net i`. -/
def rpcOver (net : Nat → Delivery) (call : RemoteCall) (peer : DistributedSchedService × Nat) :
    (DistributedSchedService × Nat) × RpcReply :=
  let d := (net peer.2).send peer.1 call
  ((d.1, peer.2 + 1), d.2)

/-- The request that an effect makes of a device. -/
@[simp] def requestTo (deviceId : String) : Effect → Option RemoteCall
  | .rpc d call => if d = deviceId then some call else none
  | _ => none

/-- The requests of an operation to a device, in their order. -/
def requestsTo (deviceId : String) (es : List Effect) : List RemoteCall :=
  es.filterMap (requestTo deviceId)

@[simp] theorem requestsTo_nil (deviceId : String) : requestsTo deviceId [] = [] := rfl

@[simp] theorem requestsTo_cons (deviceId : String) (e : Effect) (es : List Effect) :
    requestsTo deviceId (e :: es) = (requestTo deviceId e).toList ++ requestsTo deviceId es := by
  rw [requestsTo, List.filterMap_cons]
  cases requestTo deviceId e <;> rfl

@[simp] theorem requestsTo_append (deviceId : String) (es es' : List Effect) :
    requestsTo deviceId (es ++ es') = requestsTo deviceId es ++ requestsTo deviceId es' :=
  List.filterMap_append

@[simp] theorem requestsTo_report {deviceId : String} {callerInfo : CallerInfo}
    {listener : Option RemoteObject} {connect : RemoteObject} {changeType : ChangeType}
    {componentType : ComponentType} {deviceType : DeviceType} :
    requestsTo deviceId (callerInfo.reportDistributedComponentChange listener connect changeType
      componentType deviceType) = [] := by
  cases listener <;> rfl

/-- Requests whose answers are dropped. -/
def sendAll (net : Nat → Delivery) (b : DistributedSchedService) :
    List RemoteCall → DistributedSchedService
  | [] => b
  | call :: calls => sendAll (fun i => net (i + 1)) ((net 0).send b call).1 calls

/-! ### The two devices -/

structure DevicePair where
  a : DistributedSchedService := {}
  b : DistributedSchedService := {}

/-- The operations of the caller's device, with what becomes of their requests. -/
inductive CallerOp where
  | connectRemote (env : Env) (want : Want) (connect : Option RemoteObject)
      (callerUid callerPid : Int) (accessToken : Nat) (net : Nat → Delivery)
  | disconnectRemote (env : Env) (connect : Option RemoteObject) (net : Nat → Delivery)
  | died (env : Env) (connect : Option RemoteObject) (net : Nat → Delivery)

namespace CallerOp

def step (idB : String) (p : DevicePair) : CallerOp → Option DevicePair
  | connectRemote env want connect callerUid callerPid accessToken net =>
    let r := p.a.connectRemoteAbility env (rpcOver net) (p.b, 0) want connect callerUid callerPid
      accessToken
    some ⟨r.2.service, r.1.1⟩
  | disconnectRemote env connect net =>
    let o := p.a.disconnectRemoteAbility env connect
    some ⟨o.service, sendAll net p.b (requestsTo idB o.effects)⟩
  | died env connect net =>
    let o := p.a.processConnectDied env connect
    some ⟨o.1, sendAll net p.b (requestsTo idB o.2)⟩

/-- The environment of the caller's device, and what becomes of the requests. -/
def env : CallerOp → Env
  | connectRemote env .. | disconnectRemote env .. | died env .. => env

def net : CallerOp → Nat → Delivery
  | connectRemote _ _ _ _ _ _ net | disconnectRemote _ _ net | died _ _ net => net

/-- The devices have their ids, connects are to `idB`, and a request is made by a system
process. -/
structure Between (idA idB : String) (op : CallerOp) : Prop where
  local_a : op.env.localDeviceId = some idA
  local_b : ∀ i env elapsedTime, op.net i = .executed env elapsedTime →
    env.localDeviceId = some idB ∧ env.callingUid < hidHap
  want_b : ∀ env want connect callerUid callerPid accessToken net,
    op = .connectRemote env want connect callerUid callerPid accessToken net →
      want.element.deviceId = idB

/-- A disconnect or a death of a connect that is tracked reaches the other device, and is
executed there. -/
def Heard (idB : String) (p : DevicePair) : CallerOp → Prop
  | connectRemote .. => True
  | disconnectRemote env connect net | died env connect net =>
    (∃ c, connect = some c ∧ p.a.distributedConnectAbilityMap.contains c = true) →
      env.getRemoteDms idB = true ∧ ∃ envB elapsedTime, net 0 = .executed envB elapsedTime

end CallerOp

/-- Every entry that the callee's device keeps for the caller's device is of a connect that
the caller's device tracks with a session to it. -/
def CalleeTracked (idA idB : String) (p : DevicePair) : Prop :=
  ∀ (connect : RemoteObject) (info : ConnectInfo), p.b.connectAbilityMap[connect]? = some info →
    info.callerInfo.sourceDeviceId = idA →
      ∃ l, p.a.distributedConnectAbilityMap[connect]? = some l ∧
        ∃ session ∈ l, session.destinationDeviceId = idB

/-! ### The invariant -/

/-- A caller of `idA`, as its connect requests name it. -/
def FromDevice (idA : String) (callerInfo : CallerInfo) : Prop :=
  callerInfo.sourceDeviceId = idA ∧ callerInfo.callerType = callerTypeHarmony

/-- The tables agree: a connect of `idA` has an entry at `idB` and one session, to `idB`; and an
entry of `idB` for `idA` was made by the caller of that session. -/
structure PairInv (idA idB : String) (p : DevicePair) : Prop where
  recorded : ∀ (connect : RemoteObject) (l : List ConnectAbilitySession),
    p.a.distributedConnectAbilityMap[connect]? = some l →
      ∃ info, p.b.connectAbilityMap[connect]? = some info
  one : ∀ (connect : RemoteObject) (l : List ConnectAbilitySession),
    p.a.distributedConnectAbilityMap[connect]? = some l → ∃ session, l = [session] ∧
      session.destinationDeviceId = idB ∧ session.sourceDeviceId = idA ∧
      FromDevice idA session.callerInfo
  agree : ∀ (connect : RemoteObject) (info : ConnectInfo),
    p.b.connectAbilityMap[connect]? = some info → info.callerInfo.sourceDeviceId = idA →
      ∃ session, p.a.distributedConnectAbilityMap[connect]? = some [session] ∧
        session.isSameCaller info.callerInfo

variable {idA idB : String} {p : DevicePair}

theorem PairInv.calleeTracked (h : PairInv idA idB p) : CalleeTracked idA idB p := by
  intro connect info hb hs
  obtain ⟨session, ha, -⟩ := h.agree connect info hb hs
  obtain ⟨session', hl, hd, -⟩ := h.one connect _ ha
  obtain rfl := List.singleton_inj.mp hl
  exact ⟨_, ha, session, List.mem_singleton_self _, hd⟩

/-- A connect that the callee's device executed. -/
theorem onRemoteRequest_connect {env : Env} {b : DistributedSchedService} {want : Want}
    {c : RemoteObject} {callerInfo : CallerInfo} {accountInfo : AccountInfo}
    (hu : env.callingUid < hidHap) :
    let o := (b.onRemoteRequest env
      (.connectAbilityFromRemote want (some c) callerInfo accountInfo)).1
    (o.result ≠ errOk → o.service.connectAbilityMap = b.connectAbilityMap) ∧
    (o.result = errOk → ∃ callbackWrapper, o.service.connectAbilityMap =
      b.connectAbilityMap.insertIfNew c ⟨callerInfo.ofConnect, callbackWrapper, want.element⟩) := by
  simp only [onRemoteRequest, if_neg (Int.not_le.mpr hu)]
  rcases connectAbilityFromRemote_cases env b want (some c) callerInfo.ofConnect accountInfo with
    ⟨code, hcode, ho⟩ | ⟨c', _, hc, -, -, ho⟩
  · rw [ho]
    exact ⟨fun _ => rfl, fun h => absurd h hcode⟩
  · obtain rfl := Option.some.inj hc
    rw [ho]
    have ht : callerInfo.ofConnect.callerType = callerTypeHarmony := rfl
    obtain ⟨hn, hk⟩ := b.connectChecked_harmony env ht want c
    exact ⟨hn, fun h => ⟨_, hk h⟩⟩

/-- A session of the caller is the same caller for the callee. -/
theorem isSameCaller_ofConnect {session : ConnectAbilitySession} {callerInfo : CallerInfo}
    (h : session.callerInfo = callerInfo) (hf : FromDevice idA callerInfo) :
    session.isSameCaller callerInfo.ofConnect = true := by
  simp [isSameCaller, h, CallerInfo.ofConnect, hf.2]

/-- The callee's test for the caller of an entry is the caller's test for that session. -/
theorem isSameCaller_eq {session : ConnectAbilitySession} {callerInfo callerInfo' : CallerInfo}
    (h : session.isSameCaller callerInfo' = true)
    (ht : callerInfo.callerType = callerTypeHarmony) :
    (decide (callerInfo.sourceDeviceId = callerInfo'.sourceDeviceId) &&
      decide (callerInfo.uid = callerInfo'.uid) && decide (callerInfo.pid = callerInfo'.pid) &&
      decide (callerTypeHarmony = callerInfo'.callerType)) = session.isSameCaller callerInfo := by
  simp only [isSameCaller, Bool.and_eq_true, decide_eq_true_eq] at h
  obtain ⟨⟨⟨hu, hp⟩, hs⟩, hc⟩ := h
  rw [Bool.eq_iff_iff]
  simp only [isSameCaller, hu, hp, hs, hc, ht, Bool.and_eq_true, decide_eq_true_eq]
  constructor
  · rintro ⟨⟨⟨hs, hu⟩, hp⟩, hc⟩
    exact ⟨⟨⟨hu, hp⟩, hs⟩, hc⟩
  · rintro ⟨⟨⟨hu, hp⟩, hs⟩, hc⟩
    exact ⟨⟨⟨hs, hu⟩, hp⟩, hc⟩

/-- What becomes of a connect request at the callee's device. -/
theorem rpcOver_connect {net : Nat → Delivery}
    (hnet : ∀ i env elapsedTime, net i = .executed env elapsedTime → env.callingUid < hidHap)
    (want : Want) (c : RemoteObject) (callerInfo : CallerInfo) (accountInfo : AccountInfo)
    (peer : DistributedSchedService × Nat) :
    let d := rpcOver net (.connectAbilityFromRemote want (some c) callerInfo accountInfo) peer
    (d.2.result ≠ errOk → d.1.1.connectAbilityMap = peer.1.connectAbilityMap) ∧
    (d.2.result = errOk → ∃ callbackWrapper, d.1.1.connectAbilityMap =
      peer.1.connectAbilityMap.insertIfNew c
        ⟨callerInfo.ofConnect, callbackWrapper, want.element⟩) := by
  simp only [rpcOver]
  cases hn : net peer.2 with
  | executed envB elapsedTime => exact onRemoteRequest_connect (hnet _ envB elapsedTime hn)
  | failed code elapsedTime => exact ⟨fun _ => rfl, fun h => absurd h code.2⟩

/-- The sessions of a connect after a request: the old one with the element, or a new one. -/
theorem PairInv.one_session (h : PairInv idA idB p) {callerInfo : CallerInfo}
    (hfrom : FromDevice idA callerInfo) (c : RemoteObject) (element : ElementName) :
    ∃ session, addToSessions callerInfo.sourceDeviceId idB element callerInfo .harmonyComponent
        (p.a.distributedConnectAbilityMap[c]?.getD []) = [session] ∧
      session.destinationDeviceId = idB ∧ session.sourceDeviceId = idA ∧
      FromDevice idA session.callerInfo ∧
      ((p.a.distributedConnectAbilityMap[c]? = none ∧ session.callerInfo = callerInfo) ∨
        ∃ old, p.a.distributedConnectAbilityMap[c]? = some [old] ∧
          session.callerInfo = old.callerInfo) := by
  cases hk : p.a.distributedConnectAbilityMap[c]? with
  | none =>
      refine ⟨_, rfl, ?_, ?_, ?_, .inl ⟨rfl, ?_⟩⟩
      · rw [destinationDeviceId_addElement]
      · rw [sourceDeviceId_addElement]; exact hfrom.1
      · rw [callerInfo_addElement]; exact hfrom
      · rw [callerInfo_addElement]
  | some l =>
      obtain ⟨old, rfl, hd, hsrc, hsf⟩ := h.one c l hk
      refine ⟨old.addElement element, ?_, ?_, ?_, ?_, .inr ⟨old, rfl, ?_⟩⟩
      · rw [Option.getD_some, addToSessions, if_pos hd.symm]
      · rw [destinationDeviceId_addElement]; exact hd
      · rw [sourceDeviceId_addElement]; exact hsrc
      · rw [callerInfo_addElement]; exact hsf
      · rw [callerInfo_addElement]

/-- Both devices record a connect: the source its session, the sink an entry if it has none. -/
theorem PairInv.record (h : PairInv idA idB p) {c : RemoteObject} {callerInfo : CallerInfo}
    {session : ConnectAbilitySession} {callbackWrapper : RemoteObject} {element : ElementName}
    (hfrom : FromDevice idA callerInfo)
    (hone : session.destinationDeviceId = idB ∧ session.sourceDeviceId = idA ∧
      FromDevice idA session.callerInfo)
    (hnew : (p.a.distributedConnectAbilityMap[c]? = none ∧ session.callerInfo = callerInfo) ∨
      ∃ old, p.a.distributedConnectAbilityMap[c]? = some [old] ∧
        session.callerInfo = old.callerInfo)
    {p' : DevicePair}
    (ha : p'.a.distributedConnectAbilityMap = p.a.distributedConnectAbilityMap.insert c [session])
    (hb : p'.b.connectAbilityMap =
      p.b.connectAbilityMap.insertIfNew c ⟨callerInfo.ofConnect, callbackWrapper, element⟩) :
    PairInv idA idB p' where
  recorded c' l hk := by
    rw [hb, ExtTreeMap.getElem?_insertIfNew]
    split
    · exact ⟨_, rfl⟩
    · rename_i hne
      rw [ha, ExtTreeMap.getElem?_insert] at hk
      split at hk
      · rename_i hc
        have hmem : c ∈ p.b.connectAbilityMap := Decidable.not_not.mp fun h => hne ⟨hc, h⟩
        rw [← Std.LawfulEqOrd.eq_of_compare hc]
        exact Option.isSome_iff_exists.mp ((ExtTreeMap.isSome_getElem?_iff_mem).mpr hmem)
      · exact h.recorded c' l hk
  one c' l hk := by
    rw [ha, ExtTreeMap.getElem?_insert] at hk
    split at hk
    · obtain rfl := Option.some.inj hk
      exact ⟨session, rfl, hone⟩
    · exact h.one c' l hk
  agree c' info hk hi := by
    rw [ha, ExtTreeMap.getElem?_insert]
    rw [hb, ExtTreeMap.getElem?_insertIfNew] at hk
    by_cases hc : compare c c' = .eq
    · obtain rfl := Std.LawfulEqOrd.eq_of_compare hc
      rw [if_pos hc]
      refine ⟨session, rfl, ?_⟩
      rcases hnew with ⟨hnone, hci⟩ | ⟨old, hold, hci⟩
      · -- the source has no session yet: an entry at the sink would disagree with it
        by_cases hmem : c ∈ p.b.connectAbilityMap
        · rw [if_neg fun h => h.2 hmem] at hk
          obtain ⟨session', ha, -⟩ := h.agree c info hk hi
          rw [hnone] at ha; cases ha
        · rw [if_pos ⟨hc, hmem⟩] at hk
          obtain rfl := Option.some.inj hk
          exact isSameCaller_ofConnect hci hfrom
      · -- the source has one: the sink has an entry, and `emplace` keeps it
        obtain ⟨info', hinfo'⟩ := h.recorded c _ hold
        have hmem : c ∈ p.b.connectAbilityMap :=
          ExtTreeMap.isSome_getElem?_iff_mem.mp (by rw [hinfo', Option.isSome_some])
        rw [if_neg fun h => h.2 hmem] at hk
        obtain ⟨session', ha, hsame⟩ := h.agree c info hk hi
        rw [hold] at ha
        obtain rfl := List.singleton_inj.mp (Option.some.inj ha)
        rw [isSameCaller, hci]
        exact hsame
    · rw [if_neg hc]
      rw [if_neg fun h => hc h.1] at hk
      exact h.agree c' info hk hi

theorem connect_pairInv (h : PairInv idA idB p) {env : Env} {want : Want}
    {connect : Option RemoteObject} {callerUid callerPid : Int} {accessToken : Nat}
    {net : Nat → Delivery} {p' : DevicePair}
    (hb : (CallerOp.connectRemote env want connect callerUid callerPid accessToken net).Between
      idA idB)
    (hstep : CallerOp.step idB p
      (.connectRemote env want connect callerUid callerPid accessToken net) = some p') :
    PairInv idA idB p' := by
  simp only [CallerOp.step] at hstep
  generalize hr : p.a.connectRemoteAbility env (rpcOver net) (p.b, 0) want connect callerUid
    callerPid accessToken = r at hstep
  obtain rfl := Option.some.inj hstep
  have hwant : want.element.deviceId = idB := hb.want_b _ _ _ _ _ _ _ rfl
  have hnet : ∀ i envB elapsedTime, net i = .executed envB elapsedTime →
      envB.callingUid < hidHap := fun i envB elapsedTime hn => (hb.local_b i envB elapsedTime hn).2
  have hsend := rpcOver_connect hnet
  rcases connectRemoteAbility_cases hr (P := fun peer => peer.1.connectAbilityMap =
      p.b.connectAbilityMap) rfl (fun c callerInfo accountInfo peer hpeer hr =>
        ((hsend want c callerInfo accountInfo peer).1 hr).trans hpeer) with
    ⟨hm, hs, -⟩ | ⟨c, callerInfo, accountInfo, peer, rfl, hpeer, hl, ht, hok, hrpc, hmap⟩
  · exact ⟨fun c l hk => hm ▸ h.recorded c l (hs ▸ hk), fun c l hk => h.one c l (hs ▸ hk),
      fun c info hk hi => hs ▸ h.agree c info (hm ▸ hk) hi⟩
  -- the request succeeded: both tables have the connect now
  have hfrom : FromDevice idA callerInfo :=
    ⟨Option.some.inj (hl.symm.trans hb.local_a), ht⟩
  obtain ⟨callbackWrapper, hbm⟩ := (hsend want c callerInfo accountInfo peer).2 hok
  rw [← hrpc, hpeer] at hbm
  have ham : r.2.service.distributedConnectAbilityMap = p.a.distributedConnectAbilityMap.insert c
      (addToSessions callerInfo.sourceDeviceId idB want.element callerInfo .harmonyComponent
        (p.a.distributedConnectAbilityMap[c]?.getD [])) := by
    rw [← hwant]
    exact (congrArg (·.1.distributedConnectAbilityMap) hmap).trans
      (remoteConnectAbilityMappingLocked_map ..)
  obtain ⟨session, hadd, hd, hsrc, hsf, hnew⟩ := h.one_session hfrom c want.element
  rw [hadd] at ham
  exact h.record hfrom ⟨hd, hsrc, hsf⟩ hnew ham hbm

/-! ### What the callee's device executes -/

/-- A request that goes out alone and is executed. -/
theorem sendAll_singleton {net : Nat → Delivery} {b : DistributedSchedService} {call : RemoteCall}
    {envB : Env} {elapsedTime : Int} (hn : net 0 = .executed envB elapsedTime) :
    sendAll net b [call] = (b.onRemoteRequest envB call).1.service := by
  rw [sendAll, hn]; rfl

theorem onRemoteRequest_disconnect (hA : idA ≠ "") (hB : idB ≠ "") (hAB : idA ≠ idB) {envB : Env}
    (hl : envB.localDeviceId = some idB) (hu : envB.callingUid < hidHap)
    (b : DistributedSchedService) (c : RemoteObject) (uid : Int) :
    let o := (b.onRemoteRequest envB (.disconnectAbilityFromRemote (some c) uid idA)).1
    o.service.connectAbilityMap = b.connectAbilityMap.erase c := by
  have hr : envB.checkedLocalIdForRelease idA = some idB := by
    simp [Env.checkedLocalIdForRelease, hl, hA, hB, hAB.symm]
  simp only [onRemoteRequest, if_neg (Int.not_le.mpr hu)]
  exact disconnectAbilityFromRemote_map envB b hr c uid

theorem onRemoteRequest_processDied {envB : Env} (hu : envB.callingUid < hidHap)
    (b : DistributedSchedService) (callerInfo : CallerInfo) (c : RemoteObject) :
    let o := (b.onRemoteRequest envB (.notifyProcessDiedFromRemote callerInfo)).1
    o.service.connectAbilityMap[c]? =
      b.connectAbilityMap[c]?.filter fun info =>
        !(callerInfo.sourceDeviceId = info.callerInfo.sourceDeviceId &&
          callerInfo.uid = info.callerInfo.uid && callerInfo.pid = info.callerInfo.pid &&
          callerTypeHarmony = info.callerInfo.callerType) := by
  simp only [onRemoteRequest, if_neg (Int.not_le.mpr hu)]
  exact disconnectEntries_getElem? envB b _ c

/-! ### Disconnects and deaths -/

theorem disconnect_pairInv (hA : idA ≠ "") (hB : idB ≠ "") (hAB : idA ≠ idB)
    (h : PairInv idA idB p) {env : Env} {connect : Option RemoteObject} {net : Nat → Delivery}
    {p' : DevicePair} (hb : (CallerOp.disconnectRemote env connect net).Between idA idB)
    (hh : (CallerOp.disconnectRemote env connect net).Heard idB p)
    (hstep : CallerOp.step idB p (.disconnectRemote env connect net) = some p') :
    PairInv idA idB p' := by
  obtain rfl : _ = p' := Option.some.inj hstep
  cases connect with
  | none => exact ⟨h.recorded, h.one, h.agree⟩
  | some c =>
      cases hk : p.a.distributedConnectAbilityMap[c]? with
      | none =>
          simp only [disconnectRemoteAbility, hk]
          exact ⟨h.recorded, h.one, h.agree⟩
      | some l =>
          obtain ⟨session, rfl, hd, hsrc, -⟩ := h.one c l hk
          obtain ⟨hdms, envB, elapsedTime, hn⟩ := hh ⟨c, rfl, ExtTreeMap.contains_of_getElem? hk⟩
          obtain ⟨hlb, hub⟩ := hb.local_b 0 envB elapsedTime hn
          have hreq : requestsTo idB (p.a.disconnectRemoteAbility env (some c)).effects =
              [.disconnectAbilityFromRemote (some c) env.callingUid idA] := by
            simp [disconnectRemoteAbility, hk, disconnectEachRemoteAbilityLocked, hd, hsrc, hdms]
          have ham :
              (p.a.disconnectRemoteAbility env (some c)).service.distributedConnectAbilityMap =
              p.a.distributedConnectAbilityMap.erase c := by
            simp only [disconnectRemoteAbility, hk]
          have hbm := onRemoteRequest_disconnect hA hB hAB hlb hub p.b c env.callingUid
          simp only [← sendAll_singleton hn, ← hreq] at hbm
          -- both tables lose the connect, and no other
          refine ⟨fun c' l hk => ?_, fun c' l hk => ?_, fun c' info hk hi => ?_⟩
          · simp only [ham, ExtTreeMap.getElem?_erase] at hk
            simp only [hbm, ExtTreeMap.getElem?_erase]
            split at hk
            · cases hk
            · rename_i hne
              rw [if_neg hne]
              exact h.recorded c' l hk
          · simp only [ham, ExtTreeMap.getElem?_erase] at hk
            split at hk
            · cases hk
            · exact h.one c' l hk
          · simp only [hbm, ExtTreeMap.getElem?_erase] at hk
            simp only [ham, ExtTreeMap.getElem?_erase]
            split at hk
            · cases hk
            · rename_i hne
              rw [if_neg hne]
              exact h.agree c' info hk hi

/-- A death of a tracked connect makes one request, for the caller of its session. -/
theorem requestsTo_processConnectDied (h : PairInv idA idB p) {env : Env} {c : RemoteObject}
    {session : ConnectAbilitySession}
    (hk : p.a.distributedConnectAbilityMap[c]? = some [session])
    (hdms : env.getRemoteDms idB = true) :
    requestsTo idB (p.a.processConnectDied env (some c)).2 =
      [.notifyProcessDiedFromRemote session.callerInfo] := by
  obtain ⟨heff, hnotify⟩ : requestsTo idB (p.a.distributedConnectAbilityMap.walk
        (connectDied p.a.distributedComponentListener session.callerInfo)
        { trackingUidMap := p.a.trackingUidMap }).1.effects = [] ∧
      (p.a.distributedConnectAbilityMap.walk
        (connectDied p.a.distributedComponentListener session.callerInfo)
        { trackingUidMap := p.a.trackingUidMap }).1.notifyList =
        [⟨idB, session.callerInfo, .harmonyComponent⟩] := by
    -- until the first connect of the caller is met, `c` is still to come
    have hwalk := ExtTreeMap.walk_induction
      (f := connectDied p.a.distributedComponentListener session.callerInfo)
      (m := p.a.distributedConnectAbilityMap) (s := { trackingUidMap := p.a.trackingUidMap })
      (P := fun acc m => requestsTo idB acc.effects = [] ∧
        ((acc.notifyList = [⟨idB, session.callerInfo, .harmonyComponent⟩] ∧
          acc.processedDeviceSet = [idB ++ "0"]) ∨
        (acc.notifyList = [] ∧ acc.processedDeviceSet = [] ∧ m[c]? = some [session])))
      ⟨rfl, .inr ⟨rfl, rfl, hk⟩⟩ ?_
    · refine ⟨hwalk.1, ?_⟩
      rcases hwalk.2 with ⟨hn, -⟩ | ⟨-, -, hc⟩
      · exact hn
      · rw [walk_connectDied_getElem?, hk] at hc
        simp [Option.filter, isSameCaller_self] at hc
    · rintro acc m k l hkl hml ⟨heff, hacc⟩
      obtain ⟨s₁, rfl, hd, -⟩ := h.one k l hkl
      simp only [connectDied]
      by_cases hsame : s₁.isSameCaller session.callerInfo = true
      · simp only [if_pos hsame, List.foldl_cons, List.foldl_nil, addProcessDiedNotify, hd,
          targetComponentKey]
        rcases hacc with ⟨hn, hp⟩ | ⟨hn, hp, -⟩
        · simp [hp, hn, heff]
        · simp [hp, hn, heff]
      · simp only [if_neg hsame]
        refine ⟨heff, ?_⟩
        rcases hacc with hacc | ⟨hn, hp, hc⟩
        · exact .inl hacc
        · refine .inr ⟨hn, hp, ?_⟩
          rw [ExtTreeMap.getElem?_put]
          split
          · rename_i hkc
            rw [Std.LawfulEqOrd.eq_of_compare hkc] at hml
            exact hml.symm.trans hc
          · exact hc
  simp only [processConnectDied, Option.bind_some, hk, requestsTo_append, heff, hnotify,
    notifyProcessDiedAll, List.flatMap_cons, List.flatMap_nil, notifyProcessDied, hdms, if_true]
  simp

theorem died_pairInv (h : PairInv idA idB p) {env : Env} {connect : Option RemoteObject}
    {net : Nat → Delivery} {p' : DevicePair}
    (hb : (CallerOp.died env connect net).Between idA idB)
    (hh : (CallerOp.died env connect net).Heard idB p)
    (hstep : CallerOp.step idB p (.died env connect net) = some p') : PairInv idA idB p' := by
  obtain rfl : _ = p' := Option.some.inj hstep
  cases hbind : connect.bind (p.a.distributedConnectAbilityMap[·]?) with
  | none =>
      simp only [processConnectDied, hbind]
      exact ⟨h.recorded, h.one, h.agree⟩
  | some l =>
      obtain ⟨c, rfl, hk⟩ := Option.bind_eq_some_iff.mp hbind
      obtain ⟨session, rfl, -, -, hsf⟩ := h.one c l hk
      obtain ⟨hdms, envB, elapsedTime, hn⟩ := hh ⟨c, rfl, ExtTreeMap.contains_of_getElem? hk⟩
      obtain ⟨-, hub⟩ := hb.local_b 0 envB elapsedTime hn
      have hreq := requestsTo_processConnectDied h hk hdms
      have ham : ∀ c' : RemoteObject,
          (p.a.processConnectDied env (some c)).1.distributedConnectAbilityMap[c']? =
            p.a.distributedConnectAbilityMap[c']?.filter fun l =>
              !l.head?.any fun s => s.isSameCaller session.callerInfo := by
        intro c'
        simp only [processConnectDied, Option.bind_some, hk]
        exact walk_connectDied_getElem? ..
      have hbm := onRemoteRequest_processDied hub p.b session.callerInfo
      simp only [← sendAll_singleton hn, ← hreq] at hbm
      -- both sides drop the connects of the process, and keep the others
      refine ⟨fun c' l hk' => ?_, fun c' l hk' => ?_, fun c' info hk' hi => ?_⟩
      · simp only [ham, Option.filter_eq_some_iff] at hk'
        obtain ⟨hk', hl⟩ := hk'
        obtain ⟨info, hinfo⟩ := h.recorded c' l hk'
        refine ⟨info, ?_⟩
        simp only [hbm, hinfo, Option.filter_eq_some_iff, true_and]
        by_cases hi : info.callerInfo.sourceDeviceId = idA
        · obtain ⟨s', ha, hsame⟩ := h.agree c' info hinfo hi
          obtain rfl := Option.some.inj (hk'.symm.trans ha)
          rw [isSameCaller_eq hsame hsf.2]
          simpa using hl
        · have hne : session.callerInfo.sourceDeviceId ≠ info.callerInfo.sourceDeviceId :=
            fun he => hi (he.symm.trans hsf.1)
          simp [hne]
      · simp only [ham, Option.filter_eq_some_iff] at hk'
        exact h.one c' l hk'.1
      · simp only [hbm, Option.filter_eq_some_iff] at hk'
        obtain ⟨hk', hgone⟩ := hk'
        obtain ⟨s', ha, hsame⟩ := h.agree c' info hk' hi
        refine ⟨s', ?_, hsame⟩
        rw [isSameCaller_eq hsame hsf.2] at hgone
        simp only [ham, ha, Option.filter_eq_some_iff, true_and, List.head?_cons, Option.any_some]
        exact hgone

/-! ### Runs -/

theorem CallerOp.step_pairInv (hA : idA ≠ "") (hB : idB ≠ "") (hAB : idA ≠ idB)
    (h : PairInv idA idB p) {op : CallerOp} {p' : DevicePair} (hb : op.Between idA idB)
    (hh : op.Heard idB p) (hstep : op.step idB p = some p') : PairInv idA idB p' := by
  cases op with
  | connectRemote env want connect callerUid callerPid accessToken net =>
      exact connect_pairInv h hb hstep
  | disconnectRemote env connect net => exact disconnect_pairInv hA hB hAB h hb hh hstep
  | died env connect net => exact died_pairInv h hb hh hstep

/-- **The callee keeps nothing that the caller forgot**, in every run whose disconnects and
deaths of tracked connects are executed by the callee's device. -/
theorem callee_tracked (hA : idA ≠ "") (hB : idB ≠ "") (hAB : idA ≠ idB)
    {p₀ : DevicePair} (h₀ : p₀.a.distributedConnectAbilityMap = ∅)
    (h₀' : p₀.b.connectAbilityMap = ∅)
    (h : Runs.Reach (fun p op => CallerOp.step idB p op)
      (fun p op => op.Between idA idB ∧ op.Heard idB p) p₀ p) : CalleeTracked idA idB p := by
  refine PairInv.calleeTracked ?_
  refine h.invariant ⟨fun c l hk => ?_, fun c l hk => ?_, fun c info hk => ?_⟩ ?_
  · simp [h₀] at hk
  · simp [h₀] at hk
  · simp [h₀'] at hk
  · exact fun p op p' hp ⟨hb, hh⟩ hstep => op.step_pairInv hA hB hAB hp hb hh hstep

/-! ### A disconnect that is not heard -/

/-- A connect that succeeds. -/
def connectOnce : CallerOp :=
  .connectRemote (callerEnv true) { element := { deviceId := "B", bundleName := "app" } } (some 1)
    20010 77 9 fun _ => .executed calleeEnv 0

theorem connectOnce_between : connectOnce.Between "A" "B" where
  local_a := rfl
  local_b _ _ _ h := by cases h; exact ⟨rfl, by decide⟩
  want_b _ _ _ _ _ _ _ h := by cases h; rfl

/-- Its disconnect, executed by the other device or, when the service is not found there, not
even sent. -/
def disconnectOnce (found : Bool) : CallerOp :=
  .disconnectRemote (callerEnv found) (some 1) fun _ => .executed calleeEnv 0

theorem disconnectOnce_between (found : Bool) : (disconnectOnce found).Between "A" "B" where
  local_a := rfl
  local_b _ _ _ h := by cases h; exact ⟨rfl, by decide⟩
  want_b _ _ _ _ _ _ _ h := by cases h

/-- A connect and its disconnect, both executed. -/
theorem callee_tracked_disconnect : ∃ p : DevicePair,
    Runs.exec (fun p op => CallerOp.step "B" p op) {} [connectOnce, disconnectOnce true] = some p ∧
      CalleeTracked "A" "B" p :=
  ⟨_, rfl, callee_tracked (by decide) (by decide) (by decide) rfl rfl
    (.next (.next .init ⟨connectOnce_between, trivial⟩ rfl)
      ⟨disconnectOnce_between true, fun _ => ⟨rfl, calleeEnv, 0, rfl⟩⟩ rfl)⟩

/-- **The service of the other device is not found when the application disconnects**: the
disconnect is answered `ERR_OK`, and the ability stays connected for a connect that the caller's
device has forgotten. -/
theorem callee_left_connected : ∃ p p' : DevicePair,
    connectOnce.step "B" {} = some p ∧ (disconnectOnce false).step "B" p = some p' ∧
      connectOnce.Between "A" "B" ∧ (disconnectOnce false).Between "A" "B" ∧
      (p.a.disconnectRemoteAbility (callerEnv false) (some 1)).result = errOk ∧
      ¬ CalleeTracked "A" "B" p' := by
  refine ⟨_, _, rfl, rfl, connectOnce_between, disconnectOnce_between false, rfl, fun h => ?_⟩
  obtain ⟨l, hl, -⟩ := h 1 _ rfl rfl
  cases hl

end DistributedSched

import DistributedSched.Ability.CheckThenAct
import DistributedSched.Wire.Ability

/-!
# Ability — messages of applications

Any process may send the continuation manager a message with one of its codes, of any bytes.  The
messages are served one after another, between the tasks for notifiers that died: the stub reads a
request, and the service does it for the access token of the process.

* `AbilityMessage`: a step of the service.
* `Served`: what a request of one application does, of the calls of the registry and besides.
* `Untouched`: nothing of an application changes, neither its tokens nor what is under them.
* `messages_isolated`: whatever was sent before, whatever bytes come next, the service goes
  through no null pointer, and a message leaves every other application as it was.
-/

namespace DistributedSched

open Std (ExtTreeMap)
open DistributedAbilityManagerService

variable {p : AbilityPrimitives} {lib : ListLibrary}

/-! ### Serving a request -/

/-- The call that a request is; a notifier that is null is called. -/
def ClientRequest.call (env : AbilityEnv) (postTask panel : Bool) (accessToken : Nat) :
    ClientRequest → Option AbilityRequest
  | register continuationExtraParams =>
    some (.register (continuationExtraParams.map (·.continuationMode)) accessToken)
  | unregister token => some (.unregister postTask accessToken token)
  | registerDeviceSelectionCallback token cbType notifier =>
    notifier.map fun notifier =>
      .registerDeviceSelectionCallback env.errNullObject.1 accessToken token cbType notifier
  | unregisterDeviceSelectionCallback token cbType =>
    some (.unregisterDeviceSelectionCallback accessToken token cbType)
  | updateConnectStatus token deviceId deviceConnectStatus =>
    some (.updateConnectStatus env.errNullObject.1 accessToken token deviceId deviceConnectStatus)
  | startDeviceManager token continuationExtraParams =>
    some (.startDeviceManager panel (continuationExtraParams.map (·.continuationMode)) accessToken
      token)

/-- The token counter does not wrap. -/
def ClientRequest.NoWrap (h : AbilityHost) (accessToken : Nat) : ClientRequest → Prop
  | register continuationExtraParams =>
    (AbilityOp.register (continuationExtraParams.map (·.continuationMode)) accessToken).NoWrap h
  | _ => True

/-- A call or a task, to its end; there is no result when it goes through a null pointer. -/
def AbilityHost.serve (h : AbilityHost) (request : AbilityRequest) : Option AbilityHost :=
  (AbilityCall.alone 3 h.service (.requested request)).bind fun b =>
    if b.nullAccess then none else some (h.leave b.service b.effects)

/-- A message with the access token of its process, or the task for a notifier; the flags say
whether the handler takes a task, and whether the panel is there or can be connected. -/
inductive AbilityMessage where
  | message (env : AbilityEnv) (postTask panel : Bool) (accessToken : Nat) (code : ClientCode)
      (data : List UInt8)
  | notifierDied (postTask : Bool) (notifier : RemoteObject)

namespace AbilityMessage

variable (p lib)

open DistributedAbilityManagerStub in
/-- A message is answered with a code, or its request is served. -/
def apply (h : AbilityHost) : AbilityMessage → Option AbilityHost
  | message env postTask panel accessToken code data =>
    match onRemoteRequest p lib env code data with
    | .error (.returned _) => some h
    | .error _ => none
    | .ok (request, _) => (request.call env postTask panel accessToken).bind h.serve
  | notifierDied postTask notifier => h.serve (.notifierDied postTask notifier)

open DistributedAbilityManagerStub in
/-- The token counter does not wrap. -/
def NoWrap (h : AbilityHost) : AbilityMessage → Prop
  | message env _ _ accessToken code data => ∀ request rest,
    onRemoteRequest p lib env code data = .ok (request, rest) → request.NoWrap h accessToken
  | notifierDied _ _ => True

end AbilityMessage

/-- Nothing of the application changes. -/
structure DistributedAbilityManagerService.Untouched (accessToken : Nat)
    (s s' : DistributedAbilityManagerService) : Prop where
  tokens : s'.tokenMap[accessToken]? = s.tokenMap[accessToken]?
  notifiers : ∀ token, s.isTokenRegistered accessToken token = true →
    s'.callbackMap[token]? = s.callbackMap[token]?

/-- The application has registered the notifier under a token of its own. -/
def DistributedAbilityManagerService.HasNotifier (s : DistributedAbilityManagerService)
    (accessToken : Nat) (notifier : RemoteObject) : Prop :=
  ∃ (token : Int) (cbType : String),
    s.isTokenRegistered accessToken token = true ∧ s.Holds token cbType notifier

namespace AbilityOp

/-- The application that makes a call. -/
def accessToken : AbilityOp → Option Nat
  | register _ accessToken => some accessToken
  | unregister _ accessToken _ => some accessToken
  | registerDeviceSelectionCallback _ accessToken .. => some accessToken
  | unregisterDeviceSelectionCallback accessToken .. => some accessToken
  | notifierDied .. => none

/-- The call or the task. -/
def request : AbilityOp → AbilityRequest
  | register continuationMode accessToken => .register continuationMode accessToken
  | unregister postTask accessToken token => .unregister postTask accessToken token
  | registerDeviceSelectionCallback errNullObject accessToken token cbType notifier =>
    .registerDeviceSelectionCallback errNullObject accessToken token cbType notifier
  | unregisterDeviceSelectionCallback accessToken token cbType =>
    .unregisterDeviceSelectionCallback accessToken token cbType
  | notifierDied postTask notifier => .notifierDied postTask notifier

end AbilityOp

/-- The status is stored beside the notifiers of the token. -/
def DistributedAbilityManagerService.withStatus (s : DistributedAbilityManagerService) (token : Int)
    (info : NotifierInfo) (connectStatusInfo : ConnectStatusInfo) :
    DistributedAbilityManagerService :=
  { s with callbackMap :=
      s.callbackMap.insert token (some { info with connectStatusInfo := connectStatusInfo }) }

/-- What a request of an application does: a call of the registry, or a status under a token of
its own. -/
inductive Served (h : AbilityHost) (request : ClientRequest) (accessToken : Nat) :
    AbilityHost → Prop where
  | none : Served h request accessToken h
  | op {op : AbilityOp} {h' : AbilityHost} (hown : op.accessToken = some accessToken)
      (hnw : request.NoWrap h accessToken → op.NoWrap h) (hs : AbilityStep h op h') :
      Served h request accessToken h'
  | status {token : Int} {info : NotifierInfo} (connectStatusInfo : ConnectStatusInfo)
      (ht : h.service.isTokenRegistered accessToken token = true)
      (hi : h.service.callbackMap[token]? = some (some info)) :
      Served h request accessToken ⟨h.service.withStatus token info connectStatusInfo, h.recipients⟩

namespace AbilityHost

variable {h h' : AbilityHost} {accessToken : Nat}

/-- A call of the registry by its blocks. -/
theorem serve_op {op : AbilityOp} (hs : op.apply h = some h') : h.serve op.request = some h' := by
  cases op with
  | register continuationMode accessToken =>
      rw [AbilityOp.request, serve, register_blocks]
      exact hs
  | unregister postTask accessToken token =>
      rw [AbilityOp.request, serve, unregister_blocks]
      exact hs
  | registerDeviceSelectionCallback errNullObject accessToken token cbType notifier =>
      rw [AbilityOp.request, serve, registerDeviceSelectionCallback_blocks]
      exact hs
  | unregisterDeviceSelectionCallback accessToken token cbType =>
      obtain ⟨o, ho, rfl⟩ := Option.map_eq_some_iff.mp hs
      rw [AbilityOp.request, serve, unregisterDeviceSelectionCallback_blocks _ _ _ _ ho]
      rfl
  | notifierDied postTask notifier =>
      rw [AbilityOp.request, serve, runNotifierDied_blocks]
      exact hs

/-- In the registry there is no null pointer on the way. -/
theorem exists_apply (hreg : h.service.Registry) (op : AbilityOp) : ∃ h', op.apply h = some h' := by
  cases op with
  | unregisterDeviceSelectionCallback accessToken token cbType =>
      obtain ⟨r, hr, -⟩ := hreg.delete_inv token cbType
      refine Option.isSome_iff_exists.mp ?_
      rw [AbilityOp.apply, Option.isSome_map,
        DistributedAbilityManagerService.unregisterDeviceSelectionCallback]
      split
      · rfl
      split
      · rfl
      split
      · rfl
      · rw [hr]
        rfl
  | register => exact ⟨_, rfl⟩
  | unregister => exact ⟨_, rfl⟩
  | registerDeviceSelectionCallback => exact ⟨_, rfl⟩
  | notifierDied => exact ⟨_, rfl⟩

/-- `UpdateConnectStatus` by itself is refused, or stores the status. -/
theorem serve_updateConnectStatus (h : AbilityHost) (errNullObject : Int) (accessToken : Nat)
    (token : Int) (deviceId : String) (deviceConnectStatus : Int) :
    ∃ h', h.serve (.updateConnectStatus errNullObject accessToken token deviceId
      deviceConnectStatus) = some h' ∧
      Served h (.updateConnectStatus token deviceId deviceConnectStatus) accessToken h' := by
  rw [serve, AbilityCall.alone, AbilityCall.block, AbilityRequest.check]
  split_ifs with hd hv ht
  · exact ⟨h, rfl, .none⟩
  · exact ⟨h, rfl, .none⟩
  · exact ⟨h, rfl, .none⟩
  simp only [AbilityBlock.goOn]
  rw [AbilityCall.alone, AbilityCall.block]
  cases hn : h.service.isNotifierRegistered token with
  | false => exact ⟨h, rfl, .none⟩
  | true =>
      obtain ⟨info, hi⟩ := isNotifierRegistered_iff.mp hn
      have hset : ∀ connectStatusInfo, h.service.setConnectStatusInfo token connectStatusInfo =
          (h.service.withStatus token info connectStatusInfo, some ()) := by
        intro connectStatusInfo
        rw [setConnectStatusInfo, access_of_some hi]
        rfl
      simp only [Bool.not_true, Bool.false_eq_true, if_false, AbilityBlock.goOn]
      rw [AbilityCall.alone, AbilityCall.block, hset]
      exact ⟨_, rfl, .status _ (by simpa using ht) hi⟩

/-- `StartDeviceManager` and its task leave the maps. -/
theorem serve_startDeviceManager (h : AbilityHost) (panel : Bool) (continuationMode : Option Int)
    (accessToken : Nat) (token : Int) :
    h.serve (.startDeviceManager panel continuationMode accessToken token) = some h := by
  rw [serve, AbilityCall.alone, AbilityCall.block, AbilityRequest.check]
  split_ifs with hm ht
  · rfl
  · rfl
  simp only [AbilityBlock.goOn]
  rw [AbilityCall.alone, AbilityCall.block]
  split_ifs with hn hp
  · rfl
  · rfl
  simp only [AbilityBlock.stop]
  obtain ⟨connectStatusInfo, hget⟩ := getConnectStatusInfo_eq h.service token
  rw [AbilityCall.alone, AbilityCall.block, hget]
  rfl

/-- A request that the stub has read is served. -/
theorem serve_request (hreg : h.service.Registry) {request : ClientRequest} (hp : request.Proper)
    (env : AbilityEnv) (postTask panel : Bool) (accessToken : Nat) :
    ∃ h', (request.call env postTask panel accessToken).bind h.serve = some h' ∧
      Served h request accessToken h' := by
  have hop : ∀ op : AbilityOp, op.accessToken = some accessToken →
      (request.NoWrap h accessToken → op.NoWrap h) →
      ∃ h', h.serve op.request = some h' ∧ Served h request accessToken h' := by
    intro op hown hnw
    obtain ⟨h', hs⟩ := exists_apply hreg op
    exact ⟨h', serve_op hs, .op hown hnw (step_of_apply hs)⟩
  cases request with
  | register continuationExtraParams =>
      exact hop (.register (continuationExtraParams.map (·.continuationMode)) accessToken) rfl id
  | unregister token => exact hop (.unregister postTask accessToken token) rfl fun _ => trivial
  | registerDeviceSelectionCallback token cbType notifier =>
      obtain ⟨notifier, rfl⟩ := Option.ne_none_iff_exists'.mp hp.2
      exact hop (.registerDeviceSelectionCallback env.errNullObject.1 accessToken token cbType
        notifier) rfl fun _ => trivial
  | unregisterDeviceSelectionCallback token cbType =>
      exact hop (.unregisterDeviceSelectionCallback accessToken token cbType) rfl fun _ => trivial
  | updateConnectStatus token deviceId deviceConnectStatus =>
      exact serve_updateConnectStatus h _ accessToken token deviceId deviceConnectStatus
  | startDeviceManager token continuationExtraParams =>
      exact ⟨h, serve_startDeviceManager h .., .none⟩

end AbilityHost

/-! ### The other applications -/

namespace DistributedAbilityManagerService

variable {s : DistributedAbilityManagerService} {accessToken other : Nat} {token : Int}

theorem Untouched.refl (accessToken : Nat) (s : DistributedAbilityManagerService) :
    s.Untouched accessToken s :=
  ⟨rfl, fun _ _ => rfl⟩

/-- Two applications share no token. -/
theorem Registry.not_registered_other (hreg : s.Registry) (hne : other ≠ accessToken)
    (ht : s.isTokenRegistered accessToken token = true) :
    ¬ s.isTokenRegistered other token = true := by
  intro ho
  obtain ⟨v, hv, hm⟩ := isTokenRegistered_iff.mp ht
  obtain ⟨w, hw, hm'⟩ := isTokenRegistered_iff.mp ho
  exact hne (hreg.disjoint other accessToken w v token hw hv hm' hm)

/-- A change under a token that the application does not have. -/
theorem untouched_of (hnot : ¬ s.isTokenRegistered other token = true)
    {s' : DistributedAbilityManagerService} (hmap : s'.tokenMap[other]? = s.tokenMap[other]?)
    (hcallbacks : ∀ t, t ≠ token → s'.callbackMap[t]? = s.callbackMap[t]?) :
    s.Untouched other s' := by
  refine ⟨hmap, fun t ht => hcallbacks t ?_⟩
  rintro rfl
  exact hnot ht

theorem Registry.untouched_removes (hreg : s.Registry)
    (hnot : ¬ s.isTokenRegistered other token = true) {s' : DistributedAbilityManagerService}
    (hr : Removes token s s') : s.Untouched other s' := by
  refine untouched_of hnot ?_ fun t hd => ?_
  · rw [hr.tokens]
    cases ho : s.tokenMap[other]? with
    | none => rfl
    | some v =>
        refine withoutToken_of_not_mem (fun hm => hnot ?_) (hreg.nonempty other v ho)
        exact isTokenRegistered_iff.mpr ⟨v, ho, hm⟩
  · rw [hr.callbacks, ExtTreeMap.getElem?_erase_of_ne hd.symm]

end DistributedAbilityManagerService

namespace AbilityHost

variable {h h' : AbilityHost} {accessToken other : Nat}

theorem untouched_step (hreg : h.service.Registry) {op : AbilityOp} (hs : AbilityStep h op h')
    (hown : op.accessToken = some accessToken) (hne : other ≠ accessToken) :
    h.service.Untouched other h'.service := by
  cases hs with
  | refused => exact .refl other _
  | register continuationMode accessToken' hok hex =>
      cases hown
      refine ⟨?_, fun _ _ => rfl⟩
      rw [emplaceToken_getElem?, if_neg hne.symm]
      rfl
  | unregister postTask accessToken' token ht =>
      cases hown
      exact hreg.untouched_removes (hreg.not_registered_other hne ht)
        (hreg.removes (hasToken_of_isTokenRegistered ht))
  | notifierDied => cases hown
  | set errNullObject accessToken' token cbType notifier hc ht hn =>
      cases hown
      rw [leave, hreg.setNotifier_eq]
      exact untouched_of (hreg.not_registered_other hne ht) rfl fun t hd =>
        ExtTreeMap.getElem?_insert_of_ne hd.symm
  | delete accessToken' token cbType r hc ht hn hr =>
      cases hown
      refine untouched_of (hreg.not_registered_other hne ht) ?_ fun t hd =>
        deleteNotifier_of_ne hr hd
      rw [leave, deleteNotifier_tokenMap hr]

/-- The death of a notifier leaves the applications that have not registered it. -/
theorem untouched_died (hreg : h.service.Registry) {postTask : Bool} {notifier : RemoteObject}
    (hs : AbilityStep h (.notifierDied postTask notifier) h')
    (hnot : ¬ h.service.HasNotifier other notifier) : h.service.Untouched other h'.service := by
  cases hs with
  | refused => exact .refl other _
  | notifierDied _ _ token hq =>
      refine hreg.untouched_removes (fun ht => hnot ?_) (hreg.removes (hreg.hasToken_of_query hq))
      obtain ⟨cbType, hholds⟩ := holds_of_query hq
      exact ⟨token, cbType, ht, hholds⟩

end AbilityHost

namespace Served

variable {h h' : AbilityHost} {request : ClientRequest} {accessToken other : Nat}

/-- A request leaves the other applications. -/
theorem untouched (hreg : h.service.Registry) (hs : Served h request accessToken h')
    (hne : other ≠ accessToken) : h.service.Untouched other h'.service := by
  cases hs with
  | none => exact .refl other _
  | op hown hnw hs => exact AbilityHost.untouched_step hreg hs hown hne
  | status connectStatusInfo ht hi =>
      refine untouched_of (hreg.not_registered_other hne ht) rfl fun t hd => ?_
      rw [withStatus, ExtTreeMap.getElem?_insert_of_ne hd.symm]

/-- And it keeps the registry. -/
theorem inv (hi : h.service.Registry ∧ AbilityHost.Counted h.service)
    (hnw : request.NoWrap h accessToken) (hs : Served h request accessToken h') :
    h'.service.Registry ∧ AbilityHost.Counted h'.service := by
  obtain ⟨hreg, hc⟩ := hi
  cases hs with
  | none => exact ⟨hreg, hc⟩
  | op hown hop hs => exact AbilityHost.inv_step ⟨hreg, hc⟩ (hop hnw) hs
  | status connectStatusInfo ht hinfo =>
      obtain ⟨htoken, i, hi, hne⟩ := hreg.callbacks _ _ hinfo
      cases hi
      exact ⟨hreg.insert_inv htoken hne, hc⟩

end Served

/-! ### Any messages -/

namespace AbilityMessage

variable {h h' : AbilityHost} {m : AbilityMessage}

variable (p lib) in
/-- What a message does: it is refused, or its request is served behind the interface token. -/
theorem message_cases (hreg : h.service.Registry) (env : AbilityEnv) (postTask panel : Bool)
    (accessToken : Nat) (code : ClientCode) (data : List UInt8) :
    ∃ h', apply p lib h (.message env postTask panel accessToken code data) = some h' ∧
      (h' = h ∨ (p.interfaceToken.read data).1 = some dmsInterfaceToken ∧
        ∃ request rest, DistributedAbilityManagerStub.onRemoteRequest p lib env code data =
          .ok (request, rest) ∧ request.code = code ∧ Served h request accessToken h') := by
  rcases onRemoteRequest_cases p lib env code data with ⟨errCode, hr⟩ |
      ⟨request, rest, hr, hcode, hproper, htoken⟩
  · exact ⟨h, by rw [apply, hr], .inl rfl⟩
  · obtain ⟨h', hs, hserved⟩ :=
      AbilityHost.serve_request hreg hproper env postTask panel accessToken
    exact ⟨h', by rw [apply, hr]; exact hs, .inr ⟨htoken, request, rest, hr, hcode, hserved⟩⟩

/-- A message of the proxy is its request. -/
theorem apply_written (hp : p.Lawful) {env : AbilityEnv} {request : ClientRequest}
    {data : List UInt8} (hdata : DistributedAbilityManagerProxy.write p lib env request = .ok data)
    (hcarried : request.Carried p lib) (postTask panel : Bool) (accessToken : Nat) :
    apply p lib h (.message env postTask panel accessToken request.code data) =
      (request.call env postTask panel accessToken).bind h.serve := by
  rw [apply, DistributedAbilityManagerStub.reads_request hp hdata hcarried]

theorem noWrap_written (hp : p.Lawful) {env : AbilityEnv} {request : ClientRequest}
    {data : List UInt8} (hdata : DistributedAbilityManagerProxy.write p lib env request = .ok data)
    (hcarried : request.Carried p lib) (postTask panel : Bool) {accessToken : Nat}
    (hnw : request.NoWrap h accessToken) :
    NoWrap p lib h (.message env postTask panel accessToken request.code data) := by
  intro request' rest hr
  cases (DistributedAbilityManagerStub.reads_request hp hdata hcarried).symm.trans hr
  exact hnw

theorem inv_apply (hi : h.service.Registry ∧ AbilityHost.Counted h.service)
    (hnw : m.NoWrap p lib h) (hs : m.apply p lib h = some h') :
    h'.service.Registry ∧ AbilityHost.Counted h'.service := by
  cases m with
  | notifierDied postTask notifier =>
      obtain ⟨h₁, hop⟩ := AbilityHost.exists_apply hi.1 (.notifierDied postTask notifier)
      obtain rfl := Option.some.inj ((AbilityHost.serve_op hop).symm.trans hs)
      exact AbilityHost.inv_step hi
        (show AbilityOp.NoWrap h (.notifierDied postTask notifier) from trivial)
        (AbilityHost.step_of_apply hop)
  | message env postTask panel accessToken code data =>
      obtain ⟨h₁, happly, hcases⟩ :=
        message_cases p lib hi.1 env postTask panel accessToken code data
      obtain rfl := Option.some.inj (happly.symm.trans hs)
      rcases hcases with rfl | ⟨-, request, rest, hr, -, hserved⟩
      · exact hi
      · exact hserved.inv hi (hnw request rest hr)

end AbilityMessage

/-- **Messages of applications**, of any bytes, however the parcel reads them, in any order and
with any notifier dying between them, while the counter does not wrap.  The registry holds, and
the next message or task goes through no null pointer; a message changes nothing unless the
interface token is in front, and whatever it says, every application but the one that sent it has
its tokens, its notifiers and their statuses as before.  The death of a notifier leaves every
application that has not registered it. -/
theorem messages_isolated {token₀ : Int} {h : AbilityHost}
    (hr : Runs.Reach (AbilityMessage.apply p lib) (fun h m => m.NoWrap p lib h)
      { service := { token := token₀ } } h) :
    h.service.Registry ∧ (∀ m, AbilityMessage.apply p lib h m ≠ none) ∧
    (∀ env postTask panel accessToken code data h',
      AbilityMessage.apply p lib h (.message env postTask panel accessToken code data) = some h' →
      (h' = h ∨ (p.interfaceToken.read data).1 = some dmsInterfaceToken) ∧
      ∀ other, other ≠ accessToken → h.service.Untouched other h'.service) ∧
    ∀ postTask notifier h',
      AbilityMessage.apply p lib h (.notifierDied postTask notifier) = some h' →
      ∀ other, ¬ h.service.HasNotifier other notifier →
        h.service.Untouched other h'.service := by
  obtain ⟨hreg, -⟩ := hr.invariant
    (P := fun h => h.service.Registry ∧ AbilityHost.Counted h.service)
    ⟨registry_init token₀, AbilityHost.counted_init token₀⟩ fun _ _ _ hi hnw hs =>
      AbilityMessage.inv_apply hi hnw hs
  refine ⟨hreg, fun m => ?_, fun env postTask panel accessToken code data h' hs => ?_,
    fun postTask notifier h' hs other hnot => ?_⟩
  · refine Option.ne_none_iff_exists'.mpr ?_
    cases m with
    | notifierDied postTask notifier =>
        obtain ⟨h', hop⟩ := AbilityHost.exists_apply hreg (.notifierDied postTask notifier)
        exact ⟨h', AbilityHost.serve_op hop⟩
    | message env postTask panel accessToken code data =>
        obtain ⟨h', hs, -⟩ :=
          AbilityMessage.message_cases p lib hreg env postTask panel accessToken code data
        exact ⟨h', hs⟩
  · obtain ⟨h₁, happly, hcases⟩ :=
      AbilityMessage.message_cases p lib hreg env postTask panel accessToken code data
    obtain rfl := Option.some.inj (happly.symm.trans hs)
    rcases hcases with rfl | ⟨htoken, request, rest, -, -, hserved⟩
    · exact ⟨.inl rfl, fun other _ => .refl other _⟩
    · exact ⟨.inr htoken, fun other hne => hserved.untouched hreg hne⟩
  · obtain ⟨h₁, hop⟩ := AbilityHost.exists_apply hreg (.notifierDied postTask notifier)
    obtain rfl := Option.some.inj ((AbilityHost.serve_op hop).symm.trans hs)
    exact AbilityHost.untouched_died hreg (AbilityHost.step_of_apply hop) hnot

/-- Application 5 registers a notifier, and application 6 a token; then application 6 gives up the
token of application 5, and its own. -/
theorem messages_isolated_two : ∃ (h : AbilityHost) (data data' : List UInt8),
    h.service.tokens = [1, 2] ∧ h.service.HasNotifier 5 7 ∧
    (∃ h', AbilityMessage.apply plainAbility plainLibrary h
      (.message {} true true 6 .unregister data) = some h' ∧ h'.service.tokens = [1, 2] ∧
      h.service.Untouched 5 h'.service) ∧
    ∃ h', AbilityMessage.apply plainAbility plainLibrary h
      (.message {} true true 6 .unregister data') = some h' ∧ h'.service.tokens = [1] ∧
      h.service.Untouched 5 h'.service := by
  obtain ⟨register, hregister⟩ : ∃ data, DistributedAbilityManagerProxy.write plainAbility
      plainLibrary {} (.register none) = .ok data := ⟨_, rfl⟩
  obtain ⟨callback, hcallback⟩ : ∃ data, DistributedAbilityManagerProxy.write plainAbility
      plainLibrary {} (.registerDeviceSelectionCallback 1 eventConnect (some 7)) = .ok data :=
    ⟨_, rfl⟩
  obtain ⟨other, hother⟩ : ∃ data, DistributedAbilityManagerProxy.write plainAbility
      plainLibrary {} (.unregister 1) = .ok data := ⟨_, rfl⟩
  obtain ⟨own, hown⟩ : ∃ data, DistributedAbilityManagerProxy.write plainAbility
      plainLibrary {} (.unregister 2) = .ok data := ⟨_, rfl⟩
  have hp := plainAbility_lawful
  have hcarried : (ClientRequest.register none).Carried plainAbility plainLibrary :=
    fun _ h => by cases h
  obtain ⟨h, h₁, h₂, hr, htokens, hnotifier, hfirst, htokens₁, hsecond, htokens₂⟩ :
      ∃ h h₁ h₂ : AbilityHost, Runs.Reach (AbilityMessage.apply plainAbility plainLibrary)
        (fun h m => m.NoWrap plainAbility plainLibrary h) { service := { token := 0 } } h ∧
      h.service.tokens = [1, 2] ∧ h.service.HasNotifier 5 7 ∧
      h.serve (.unregister true 6 1) = some h₁ ∧ h₁.service.tokens = [1, 2] ∧
      h.serve (.unregister true 6 2) = some h₂ ∧ h₂.service.tokens = [1] :=
    ⟨_, _, _, .next (.next (.next .init
      (AbilityMessage.noWrap_written hp hregister hcarried true true
        fun _ => show (0 : Int) < maxTokenNum by decide)
      (AbilityMessage.apply_written hp hregister hcarried true true 5))
      (AbilityMessage.noWrap_written hp hregister hcarried true true
        fun _ => show (1 : Int) < maxTokenNum by decide)
      (AbilityMessage.apply_written hp hregister hcarried true true 6))
      (AbilityMessage.noWrap_written hp hcallback trivial true true trivial)
      (AbilityMessage.apply_written hp hcallback trivial true true 5),
      rfl, ⟨1, eventConnect, rfl, _, rfl, rfl⟩, rfl, rfl, rfl, rfl⟩
  obtain ⟨-, -, hmessage, -⟩ := messages_isolated hr
  have hfirst := (AbilityMessage.apply_written hp hother trivial true true 6).trans hfirst
  have hsecond := (AbilityMessage.apply_written hp hown trivial true true 6).trans hsecond
  exact ⟨h, other, own, htokens, hnotifier,
    ⟨h₁, hfirst, htokens₁, (hmessage _ _ _ _ _ _ _ hfirst).2 5 (by decide)⟩,
    h₂, hsecond, htokens₂, (hmessage _ _ _ _ _ _ _ hsecond).2 5 (by decide)⟩

end DistributedSched

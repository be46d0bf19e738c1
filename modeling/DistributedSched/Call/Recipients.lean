import DistributedSched.Library.Runs
import DistributedSched.Service.Call
import DistributedSched.Service.ConnectFromRemote

/-!
# Call — the death recipient of a callee's entry

The device of a called ability adds `callerDeathRecipient_` to the caller's connect object after
every start, and takes it off when the ability is released.  IPC keeps a recipient once for each
time it was added to a live object; when the object dies, `ProcessCallerDied` runs that often.

* `Watched`: on a live connect object the recipient is registered once when `calleeMap_` has the
  object, and not at all when it has not.
* `watched_iff`: a step keeps this exactly when it is `Safe`.  A start that finds an entry adds
  a second recipient, and the death of a callee leaves the recipient of its entry behind.
* `recipient_follows_callee`: in a run of safe steps the recipient follows the table, and the
  death of a caller releases what the table holds for it and nothing else.
* `callee_death_leaves_recipient`: one callee dies, and it does not.
-/

namespace DistributedSched

open Std (ExtTreeMap)
open DistributedSchedService

/-- The callee's device, with what IPC keeps for the connect objects. -/
structure CalleeDevice where
  service : DistributedSchedService := {}
  /-- the objects whose process has died -/
  dead : List RemoteObject := []
  /-- the objects with `callerDeathRecipient_`, once for each time it is registered -/
  registered : List RemoteObject := []

namespace CalleeDevice

/-- `AddDeathRecipient` and `RemoveDeathRecipient` of `callerDeathRecipient_`. -/
def deliver (s : CalleeDevice) : Effect → CalleeDevice
  | .addDeathRecipient object .caller =>
    if object ∈ s.dead then s else { s with registered := object :: s.registered }
  | .removeDeathRecipient object .caller => { s with registered := s.registered.erase object }
  | _ => s

/-- The device after an operation that leaves the service and the effects. -/
def after (s : CalleeDevice) (service : DistributedSchedService) (es : List Effect) :
    CalleeDevice :=
  es.foldl deliver { s with service := service }

end CalleeDevice

/-- A sequential operation of the callee's device. -/
inductive CalleeStep where
  | startAbilityByCallFromRemote (env : Env) (want : Want) (connect : Option RemoteObject)
      (callerInfo : CallerInfo) (accountInfo : AccountInfo)
  | releaseAbilityFromRemote (env : Env) (connect : Option RemoteObject) (element : ElementName)
      (callerInfo : CallerInfo)
  /-- the process of a connect object dies -/
  | callerDied (env : Env) (connect : RemoteObject)
  | processCalleeDied (env : Env) (connect : Option RemoteObject)

namespace CalleeStep

/-- `ProcessCallerDied`, once for each recipient that fires. -/
def fire (env : Env) (connect : RemoteObject) :
    Nat → DistributedSchedService → DistributedSchedService × List Effect
  | 0, service => (service, [])
  | n + 1, service =>
    let r := service.processCallerDied env (some connect) .callee
    let r' := fire env connect n r.1
    (r'.1, r.2 ++ r'.2)

/-- The device after a step, with the effects of the step. -/
def run (s : CalleeDevice) : CalleeStep → Option (CalleeDevice × List Effect)
  | startAbilityByCallFromRemote env want connect callerInfo accountInfo =>
    let o := s.service.startAbilityByCallFromRemote env want connect callerInfo accountInfo
    some (s.after o.service o.effects, o.effects)
  | releaseAbilityFromRemote env connect element callerInfo =>
    let o := s.service.releaseAbilityFromRemote env connect element callerInfo
    some (s.after o.service o.effects, o.effects)
  | callerDied env connect =>
    if connect ∈ s.dead then none
    else
      let r := fire env connect (s.registered.count connect) s.service
      let s := { s with
        dead := connect :: s.dead, registered := s.registered.filter fun o => o ≠ connect }
      some (s.after r.1 r.2, r.2)
  | processCalleeDied env connect =>
    let r := s.service.processCalleeDied env connect
    some (s.after r.1 r.2, r.2)

def apply (s : CalleeDevice) (step : CalleeStep) : Option CalleeDevice := (step.run s).map (·.1)

/-- The checks of `StartAbilityByCallFromRemote` pass and the ability manager starts the
ability. -/
def Starts (env : Env) (want : Want) (callerInfo : CallerInfo) (accountInfo : AccountInfo) :
    Prop :=
  ∃ localDeviceId,
    env.checkedLocalIdFromRemote want.element.deviceId callerInfo.sourceDeviceId =
      some localDeviceId ∧
    DistributedSchedPermission.checkGetCallerPermission env want callerInfo accountInfo
      localDeviceId = errOk ∧
    env.amsConnect = errOk ∧ env.amsStartAbilityByCall want = errOk

/-- No ability is started through a live object that has an entry, and no callee dies of an
entry whose object is alive. -/
def Safe (s : CalleeDevice) : CalleeStep → Prop
  | startAbilityByCallFromRemote env want connect callerInfo accountInfo =>
    ∀ c, connect = some c → c ∉ s.dead → Starts env want callerInfo accountInfo →
      s.service.calleeMap[c]? = none
  | processCalleeDied _ connect =>
    ∀ c, connect = some c → c ∉ s.dead → s.service.calleeMap[c]? = none
  | _ => True

end CalleeStep

namespace CalleeDevice

/-- The recipient is registered once on a live object that is a key of `calleeMap_`, and not at
all on one that is not. -/
def Watched (s : CalleeDevice) : Prop :=
  ∀ c, c ∉ s.dead → s.registered.count c = if s.service.calleeMap.contains c then 1 else 0

variable {s : CalleeDevice}

/-! ### Effects that leave the recipients -/

@[simp] theorem foldl_deliver_report {connectInfo : ConnectInfo} {env : Env}
    {listener : Option RemoteObject} {connect : RemoteObject} {changeType : ChangeType}
    {componentType : ComponentType} {deviceType : DeviceType} :
    (connectInfo.reportDistributedComponentChange env listener connect changeType componentType
      deviceType).foldl deliver s = s := by
  cases listener <;> rfl

@[simp] theorem foldl_deliver_startAbilityByCall {env : Env} {want : Want}
    {connect : RemoteObject} :
    (DistributedSchedAdapter.startAbilityByCall env want connect).2.foldl deliver s = s := by
  unfold DistributedSchedAdapter.startAbilityByCall
  split <;> rfl

@[simp] theorem foldl_deliver_releaseAbility {env : Env} {connect : RemoteObject}
    {element : ElementName} :
    (DistributedSchedAdapter.releaseAbility env connect element).2.foldl deliver s = s := by
  unfold DistributedSchedAdapter.releaseAbility
  split <;> rfl

@[simp] theorem foldl_deliver_eraseCallee {env : Env} {service : DistributedSchedService}
    {connect : RemoteObject} :
    (service.eraseCallee env connect).2.foldl deliver s = s := by
  unfold eraseCallee
  split <;> simp

@[simp] theorem foldl_deliver_fire {env : Env} {connect : RemoteObject} (n : Nat)
    (service : DistributedSchedService) :
    (CalleeStep.fire env connect n service).2.foldl deliver s = s := by
  induction n generalizing service with
  | zero => rfl
  | succ n ih =>
      simp only [CalleeStep.fire, processCallerDied, List.foldl_append, foldl_deliver_eraseCallee,
        foldl_deliver_releaseAbility, ih]

/-! ### The table after each operation -/

/-- The block that `ProcessCallerDied` and `ProcessCalleeDied` share erases the entry. -/
theorem eraseCallee_calleeMap (env : Env) (service : DistributedSchedService)
    (connect c : RemoteObject) :
    (service.eraseCallee env connect).1.calleeMap[c]? =
      if connect = c then none else service.calleeMap[c]? := by
  unfold eraseCallee
  split
  · rename_i hn
    split
    · rename_i hc; exact hc ▸ hn
    · rfl
  · simp [ExtTreeMap.getElem?_erase]

theorem fire_calleeMap (env : Env) {connect c : RemoteObject} (hc : connect ≠ c) (n : Nat)
    (service : DistributedSchedService) :
    (CalleeStep.fire env connect n service).1.calleeMap[c]? = service.calleeMap[c]? := by
  induction n generalizing service with
  | zero => rfl
  | succ n ih =>
      simp only [CalleeStep.fire, processCallerDied, ih, eraseCallee_calleeMap, if_neg hc]

theorem startAbilityByCall_ok {env : Env} {want : Want} {connect : RemoteObject} :
    (DistributedSchedAdapter.startAbilityByCall env want connect).1 = errOk ↔
      env.amsConnect = errOk ∧ env.amsStartAbilityByCall want = errOk := by
  unfold DistributedSchedAdapter.startAbilityByCall
  split
  · rename_i h
    exact iff_of_false h fun h' => h h'.1
  · rename_i h
    exact (and_iff_right (Decidable.not_not.mp h)).symm

/-- The ability manager refuses and nothing is recorded; or it starts the ability, and the
recipient is added whether or not `emplace` takes effect. -/
theorem startByCallChecked_cases (env : Env) (s : CalleeDevice) (want : Want)
    (connect : RemoteObject) (callerInfo : CallerInfo) :
    let o := s.service.startByCallChecked env want connect callerInfo
    (¬(env.amsConnect = errOk ∧ env.amsStartAbilityByCall want = errOk) ∧ o.result ≠ errOk ∧
      (s.after o.service o.effects).dead = s.dead ∧
      (s.after o.service o.effects).registered = s.registered ∧
      o.service.calleeMap = s.service.calleeMap) ∨
    (env.amsConnect = errOk ∧ env.amsStartAbilityByCall want = errOk) ∧ o.result = errOk ∧
      (s.after o.service o.effects).dead = s.dead ∧
      (s.after o.service o.effects).registered =
        (if connect ∈ s.dead then s.registered else connect :: s.registered) ∧
      ∃ callbackWrapper, o.service.calleeMap =
        s.service.calleeMap.insertIfNew connect ⟨callerInfo, callbackWrapper, want.element⟩ := by
  have hl : (s.service.lookupCallee connect).2.calleeMap = s.service.calleeMap := by
    unfold lookupCallee
    split <;> rfl
  simp only [startByCallChecked]
  split
  · rename_i ha
    refine .inl ⟨mt startAbilityByCall_ok.mpr ha, ha, ?_, ?_, hl⟩ <;>
      simp only [after, foldl_deliver_startAbilityByCall]
  · rename_i ha
    have ha := Decidable.not_not.mp ha
    refine .inr ⟨startAbilityByCall_ok.mp ha, ha, ?_, ?_, _, by rw [← hl]; rfl⟩ <;>
    · simp only [after, recordCallee, List.foldl_append, foldl_deliver_startAbilityByCall,
        foldl_deliver_report, List.foldl_cons, List.foldl_nil, deliver]
      split <;> rfl

/-- A start fails and leaves the table, or it is one that `Starts`. -/
theorem startFromRemote_cases (env : Env) (s : CalleeDevice) (want : Want)
    (connect : RemoteObject) (callerInfo : CallerInfo) (accountInfo : AccountInfo) :
    let o := s.service.startAbilityByCallFromRemote env want (some connect) callerInfo accountInfo
    (¬ CalleeStep.Starts env want callerInfo accountInfo ∧ o.result ≠ errOk ∧
      (s.after o.service o.effects).dead = s.dead ∧
      (s.after o.service o.effects).registered = s.registered ∧
      o.service.calleeMap = s.service.calleeMap) ∨
    CalleeStep.Starts env want callerInfo accountInfo ∧ o.result = errOk ∧
      (s.after o.service o.effects).dead = s.dead ∧
      (s.after o.service o.effects).registered =
        (if connect ∈ s.dead then s.registered else connect :: s.registered) ∧
      ∃ callbackWrapper, o.service.calleeMap =
        s.service.calleeMap.insertIfNew connect ⟨callerInfo, callbackWrapper, want.element⟩ := by
  simp only [startAbilityByCallFromRemote]
  cases hl : env.checkedLocalIdFromRemote want.element.deviceId callerInfo.sourceDeviceId with
  | none =>
      refine .inl ⟨?_, show invalidRemoteParametersErr ≠ errOk by decide, rfl, rfl, rfl⟩
      rintro ⟨_, hs, -⟩
      rw [hl] at hs
      cases hs
  | some localDeviceId =>
      by_cases hp : DistributedSchedPermission.checkGetCallerPermission env want callerInfo
          accountInfo localDeviceId = errOk
      · simp only [if_neg (not_not_intro hp)]
        rcases startByCallChecked_cases env s want connect callerInfo with
          ⟨hn, h⟩ | ⟨⟨ha, ha'⟩, h⟩
        · exact .inl ⟨fun ⟨_, _, _, hs⟩ => hn hs, h⟩
        · exact .inr ⟨⟨localDeviceId, hl, hp, ha, ha'⟩, h⟩
      · simp only [if_pos hp]
        refine .inl ⟨?_, hp, rfl, rfl, trivial⟩
        rintro ⟨_, hs, hs', -⟩
        rw [hl] at hs
        cases hs
        exact hp hs'

theorem after_service (s : CalleeDevice) (service : DistributedSchedService) (es : List Effect) :
    (s.after service es).service = service := by
  suffices h : ∀ s : CalleeDevice, (es.foldl deliver s).service = s.service from h _
  induction es with
  | nil => exact fun s => rfl
  | cons e es ih =>
      intro s
      rw [List.foldl_cons, ih]
      unfold deliver
      split
      · split <;> rfl
      · rfl
      · rfl

/-! ### What a step keeps -/

/-- A step that leaves the recipients and the table. -/
theorem Watched.congr (h : s.Watched) {s' : CalleeDevice} (hd : s'.dead = s.dead)
    (hr : s'.registered = s.registered)
    (hm : s'.service.calleeMap = s.service.calleeMap) : s'.Watched := by
  intro c hc
  rw [hr, hm]
  exact h c (hd ▸ hc)

/-- A start keeps it exactly when it finds no entry, or fails, or its object is dead. -/
theorem watched_start (h : s.Watched) (env : Env) (want : Want) (connect : Option RemoteObject)
    (callerInfo : CallerInfo) (accountInfo : AccountInfo) :
    let o := s.service.startAbilityByCallFromRemote env want connect callerInfo accountInfo
    (s.after o.service o.effects).Watched ↔
      (CalleeStep.startAbilityByCallFromRemote env want connect callerInfo accountInfo).Safe s := by
  cases connect with
  | none => exact iff_of_true h fun c hc => by cases hc
  | some connect =>
      simp only [CalleeStep.Safe, Option.some.injEq, forall_eq']
      rcases startFromRemote_cases env s want connect callerInfo accountInfo with
        ⟨hn, -, hd, hr, hm⟩ | ⟨hstarts, -, hd, hr, callbackWrapper, hm⟩
      · exact iff_of_true (h.congr hd hr (by rw [after_service, hm])) fun _ hs => absurd hs hn
      simp only [Watched, hd, hr, after_service, hm, ExtTreeMap.contains_insertIfNew]
      constructor
      · intro hw hc _
        by_contra hne
        have hw := hw connect hc
        rw [if_neg hc, List.count_cons_self, h connect hc,
          ExtTreeMap.contains_iff_ne_none.mpr hne] at hw
        simp at hw
      · intro hs c hc
        by_cases he : connect = c
        · subst he
          rw [if_neg hc, List.count_cons_self, h connect hc,
            ExtTreeMap.contains_eq_false_iff.mpr (hs hc hstarts)]
          simp
        · have hcount : (if connect ∈ s.dead then s.registered
              else connect :: s.registered).count c = s.registered.count c := by
            split
            · rfl
            · exact List.count_cons_of_ne he
          rw [hcount, h c hc]
          simp [he]

theorem watched_release (h : s.Watched) (env : Env) (connect : Option RemoteObject)
    (element : ElementName) (callerInfo : CallerInfo) :
    let o := s.service.releaseAbilityFromRemote env connect element callerInfo
    (s.after o.service o.effects).Watched := by
  unfold releaseAbilityFromRemote
  split
  · exact h
  rename_i connect
  split
  · exact h
  split
  · exact h
  -- the entry and its recipient go together
  simp only [after, List.foldl_append, foldl_deliver_report, List.foldl_cons, List.foldl_nil,
    deliver, foldl_deliver_releaseAbility]
  intro c hc
  simp only [List.count_erase, h c hc, ExtTreeMap.contains_erase]
  by_cases he : connect = c
  · subst he
    simp
    split <;> rfl
  · simp [he]

theorem watched_callerDied (h : s.Watched) (env : Env) (connect : RemoteObject) (n : Nat) :
    let r := CalleeStep.fire env connect n s.service
    (CalleeDevice.after
      { s with dead := connect :: s.dead,
               registered := s.registered.filter fun o => o ≠ connect } r.1 r.2).Watched := by
  simp only [after, foldl_deliver_fire]
  intro c hc
  obtain ⟨hne, hc⟩ := not_or.mp (mt List.mem_cons.mpr hc)
  simp only [ExtTreeMap.contains_eq_isSome_getElem?, fire_calleeMap env (Ne.symm hne)]
  rw [← ExtTreeMap.contains_eq_isSome_getElem?, ← h c hc]
  exact List.count_filter (by simpa using hne)

/-- The death of a callee keeps it exactly when there is no entry, or its object is dead. -/
theorem watched_calleeDied (h : s.Watched) (env : Env) (connect : Option RemoteObject) :
    let r := s.service.processCalleeDied env connect
    (s.after r.1 r.2).Watched ↔ (CalleeStep.processCalleeDied env connect).Safe s := by
  simp only [processCalleeDied, CalleeStep.Safe]
  cases connect with
  | none => exact iff_of_true h fun c hc => by cases hc
  | some connect =>
      simp only [after, foldl_deliver_eraseCallee, Option.some.injEq, forall_eq', Watched,
        ExtTreeMap.contains_eq_isSome_getElem?, eraseCallee_calleeMap]
      constructor
      · intro hw hc
        by_contra hne
        have hw := hw connect hc
        rw [h connect hc, ExtTreeMap.contains_iff_ne_none.mpr hne, if_pos rfl] at hw
        simp at hw
      · intro hs c hc
        rw [h c hc, ExtTreeMap.contains_eq_isSome_getElem?]
        by_cases he : connect = c
        · subst he
          rw [if_pos rfl, hs hc]
        · rw [if_neg he]

/-- **A step keeps the recipients in step with the table exactly when it is safe.** -/
theorem watched_iff (h : s.Watched) {step : CalleeStep} {s' : CalleeDevice}
    (hs : step.apply s = some s') : s'.Watched ↔ step.Safe s := by
  cases step with
  | startAbilityByCallFromRemote env want connect callerInfo accountInfo =>
      cases hs
      exact watched_start h env want connect callerInfo accountInfo
  | releaseAbilityFromRemote env connect element callerInfo =>
      cases hs
      exact iff_of_true (watched_release h env connect element callerInfo) trivial
  | callerDied env connect =>
      simp only [CalleeStep.apply, CalleeStep.run] at hs
      split at hs
      · cases hs
      · cases hs
        exact iff_of_true (watched_callerDied h env connect _) trivial
  | processCalleeDied env connect =>
      cases hs
      exact watched_calleeDied h env connect

theorem init_watched : Watched {} := by
  intro c _
  simp

/-! ### The death of a caller -/

/-- The releases among the effects of an operation. -/
def releases : List Effect → List (RemoteObject × ElementName) :=
  List.filterMap fun
    | .ams (.releaseAbility connect element) => some (connect, element)
    | _ => none

theorem releases_report {connectInfo : ConnectInfo} {env : Env} {listener : Option RemoteObject}
    {connect : RemoteObject} {changeType : ChangeType} {componentType : ComponentType}
    {deviceType : DeviceType} :
    releases (connectInfo.reportDistributedComponentChange env listener connect changeType
      componentType deviceType) = [] := by
  cases listener <;> rfl

/-- What `ReleaseAbility` is called with for an entry. -/
def released (connectInfo : ConnectInfo) : RemoteObject × ElementName :=
  (connectInfo.callbackWrapper,
    { bundleName := connectInfo.element.bundleName
      abilityName := connectInfo.element.abilityName })

/-- A recipient that fires releases the entry, in one call. -/
theorem releases_processCallerDied (env : Env) {service : DistributedSchedService}
    {connect : RemoteObject} {info : ConnectInfo}
    (hm : service.calleeMap[connect]? = some info) :
    releases (service.processCallerDied env (some connect) .callee).2 =
      if env.amsConnect = errOk then [released info] else [] := by
  simp only [processCallerDied, eraseCallee, hm, DistributedSchedAdapter.releaseAbility, releases,
    List.filterMap_append]
  rw [show List.filterMap _ (ConnectInfo.reportDistributedComponentChange ..) = [] from
    releases_report]
  by_cases ha : env.amsConnect = errOk
  · rw [if_pos ha, if_neg (not_not_intro ha)]
    rfl
  · rw [if_neg ha, if_pos ha]
    rfl

/-- When the recipient follows the table, the death of a caller releases what it holds. -/
theorem releases_callerDied (h : s.Watched) {env : Env} {connect : RemoteObject}
    {r : CalleeDevice × List Effect} (hr : CalleeStep.run s (.callerDied env connect) = some r) :
    releases r.2 = if env.amsConnect = errOk then
      (s.service.calleeMap[connect]?.map released).toList else [] := by
  simp only [CalleeStep.run] at hr
  split at hr
  · cases hr
  rename_i hc
  cases hr
  rw [h connect hc]
  cases hm : s.service.calleeMap[connect]? with
  | none =>
      rw [ExtTreeMap.contains_eq_false_iff.mpr hm]
      exact (ite_self _).symm
  | some info =>
      rw [ExtTreeMap.contains_of_getElem? hm]
      simp only [if_true, CalleeStep.fire, List.append_nil]
      exact releases_processCallerDied env hm

end CalleeDevice

/-- **The recipient follows the table.**  In a run of safe steps, `callerDeathRecipient_` is
registered once on a live connect object that is a key of `calleeMap_`, and not on one that is
not; and the death of a caller makes one release, of the ability that the table holds for it, or
none. -/
theorem recipient_follows_callee {s : CalleeDevice}
    (h : Runs.Reach CalleeStep.apply CalleeStep.Safe {} s) (c : RemoteObject) (hc : c ∉ s.dead) :
    s.registered.count c = (if s.service.calleeMap.contains c then 1 else 0) ∧
    ∀ env r, CalleeStep.run s (.callerDied env c) = some r →
      CalleeDevice.releases r.2 = if env.amsConnect = errOk then
        (s.service.calleeMap[c]?.map CalleeDevice.released).toList else [] := by
  have hw : s.Watched := h.invariant CalleeDevice.init_watched
    fun s step s' hw hsafe hs => (CalleeDevice.watched_iff hw hs).mpr hsafe
  exact ⟨hw c hc, fun env r hr => CalleeDevice.releases_callerDied hw hr⟩

/-- A start by call through connect object 7 of device "A". -/
def startThroughSeven : CalleeStep :=
  .startAbilityByCallFromRemote calleeEnv { element := { deviceId := "B", bundleName := "app" } }
    (some 7) { sourceDeviceId := "A" } { accountType := sameAccountType }

/-- One ability is started, and its caller dies. -/
theorem recipient_follows_callee_one : ∃ s : CalleeDevice, s.registered.count 7 = 1 ∧
    ∃ r, CalleeStep.run s (.callerDied calleeEnv 7) = some r ∧
      (CalleeDevice.releases r.2).length = 1 := by
  refine ⟨_, (recipient_follows_callee (.next .init (l := startThroughSeven) ?_ rfl) 7
    List.not_mem_nil).1, _, rfl, ?_⟩
  · rintro c hc - -
    cases hc
    rfl
  · rw [(recipient_follows_callee (.next .init (l := startThroughSeven) ?_ rfl) 7
      List.not_mem_nil).2 calleeEnv _ rfl]
    · rfl
    · rintro c hc - -
      cases hc
      rfl

/-- **A callee dies and the recipient stays.**  The entry is gone, the recipient is not, and when
the caller dies `ReleaseAbility` is called for an ability that is not held. -/
theorem callee_death_leaves_recipient : ∃ s r,
    Runs.exec CalleeStep.apply {} [startThroughSeven, .processCalleeDied calleeEnv (some 7)] =
        some s ∧
      s.dead = [] ∧ s.service.calleeMap.contains 7 = false ∧ s.registered = [7] ∧
      CalleeStep.run s (.callerDied calleeEnv 7) = some r ∧
      CalleeDevice.releases r.2 = [(7, {})] := by
  refine ⟨_, _, rfl, ?_, ?_, ?_, rfl, ?_⟩ <;> decide

end DistributedSched

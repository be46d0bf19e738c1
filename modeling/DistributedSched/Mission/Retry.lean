import DistributedSched.Mission.Agreement
import DistributedSched.Mission.Cache

/-!
# Mission — the retry of a start

`StartSyncRemoteMissions` does not find the service of the other device, and posts a delayed task
that tries again and posts the next one.  One such chain is followed from the start that failed,
with what each of its tasks found and did; between the tasks anything else may happen.

* `RetryAttempt.Right`: a task that finds a listener and the service sends the request.
* `RetryChain.Follows`: every task was right, and the next one is posted as long as a listener was
  there and the service was not.
* `RetryStep.Safe`: a task that finds a listener finds its `called` flag set.
* `retry_follows_iff_safe`: in runs of safe tasks the chain follows, and the next task keeps that
  exactly when it is safe.
* `retry_gives_up`: the first task of a chain ends it, although a listener and the service are
  there.
-/

namespace DistributedSched

open Std (ExtTreeMap)
open Runs (Reach Reachable)
open DistributedSchedMissionManager

/-- What one task of the chain found and did. -/
structure RetryAttempt where
  retryTimes : Nat
  /-- a listener is registered for the device -/
  listened : Bool
  /-- `GetRemoteDms` finds the service -/
  found : Bool
  /-- `StartSyncMissionsFromRemote` goes to the device -/
  sent : Bool
  /-- it answers `ERR_NONE` -/
  answered : Bool
  /-- the flag after the task -/
  called : Bool

/-- The request goes out exactly when there is a listener and the service, and the flag is set
when it succeeds. -/
structure RetryAttempt.Right (a : RetryAttempt) : Prop where
  sent_iff : a.sent = true ↔ a.listened = true ∧ a.found = true
  called : a.sent = true → a.answered = true → a.called = true

/-- A task that is to be followed by another one. -/
def RetryAttempt.goesOn (a : RetryAttempt) : Bool := a.listened && !a.found

structure RetryChain where
  manager : DistributedSchedMissionManager
  /-- the `retryTimes` of the task that is posted -/
  pending : Option Nat
  attempts : List RetryAttempt := []

/-- The task of the chain that a call posts. -/
def postedRetry (d : String) (effects : List MissionEffect) : Option Nat :=
  effects.findSome? fun
    | .post (.retryStartSync dstDeviceId retryTimes) =>
      if dstDeviceId = d then some retryTimes else none
    | _ => none

/-- A call sends the request to the device. -/
def sendsStart (d : String) (effects : List MissionEffect) : Bool :=
  effects.any fun
    | .startSyncMissionsFromRemote deviceId _ => deviceId = d
    | _ => false

namespace RetryChain

/-- The chain that `StartSyncRemoteMissions` leaves. -/
def start (env : MissionEnv) (m : DistributedSchedMissionManager) (d : String) : RetryChain :=
  let o := m.startSyncRemoteMissions env d
  ⟨o.manager, postedRetry d o.effects, []⟩

/-- The chain is what it should be: the tasks so far have the numbers from 0 on and were right,
and the next one is posted, up to `MAX_RETRY_TIMES`, when all of them were to go on. -/
structure Follows (c : RetryChain) : Prop where
  attempts : ∀ (i : Nat) (a : RetryAttempt), c.attempts[i]? = some a →
    a.retryTimes = i ∧ a.Right
  pending : c.pending =
    if c.attempts.all RetryAttempt.goesOn ∧ c.attempts.length < maxRetryTimes then
      some c.attempts.length
    else none

end RetryChain

/-- The task that is posted, or anything else. -/
inductive RetryStep where
  | task (env : MissionEnv)
  | other (op : CacheOp)
  | otherTask (env : MissionEnv) (posted : MissionTask)

namespace RetryStep

def apply (d : String) (c : RetryChain) : RetryStep → Option RetryChain
  | task env =>
    match c.pending with
    | none => none
    | some retryTimes =>
      let r := c.manager.runRetryStartSync env d retryTimes
      some {
        manager := r.1
        pending := postedRetry d r.2
        attempts := c.attempts ++ [{
          retryTimes := retryTimes
          listened := c.manager.listenDeviceMap[d]?.isSome
          found := env.getRemoteDms d
          sent := sendsStart d r.2
          answered := env.generateCallerInfo.any fun callerInfo =>
            (env.startSyncMissionsFromRemote d callerInfo).1 = errOk
          called := r.1.hasSyncListener d }] }
  | other op => some { c with manager := op.run c.manager }
  | otherTask env posted => some { c with manager := (c.manager.runTask env posted).1 }

/-- The condition on a task, by the state before it: where there is a listener, its flag is set
and the caller's info is there when the service is; or the last task does not find the service. -/
def Safe (d : String) (c : RetryChain) : RetryStep → Prop
  | task env =>
    ∀ (retryTimes : Nat) (info : ListenerInfo), c.pending = some retryTimes →
      c.manager.listenDeviceMap[d]? = some info →
        info.called = true ∧ (env.getRemoteDms d = true → env.generateCallerInfo ≠ none) ∨
          env.getRemoteDms d = false ∧ maxRetryTimes ≤ retryTimes + 1
  | _ => True

end RetryStep

/-! ### One task -/

section task

variable {d : String} {env : MissionEnv} {m : DistributedSchedMissionManager}

@[simp] theorem postedRetry_nil : postedRetry d [] = none := rfl

@[simp] theorem sendsStart_nil : sendsStart d [] = false := rfl

theorem postedRetry_retryStartSync (retryTimes : Nat) :
    postedRetry d (retryStartSync d retryTimes) =
      if retryTimes < maxRetryTimes then some retryTimes else none := by
  unfold retryStartSync
  split
  · simp [postedRetry]
  · rfl

theorem sendsStart_retryStartSync (retryTimes : Nat) :
    sendsStart d (retryStartSync d retryTimes) = false := by
  unfold retryStartSync
  split <;> rfl

/-- Nobody listens, or the sync was not started: the task does nothing. -/
theorem runRetryStartSync_unlistened (h : m.hasSyncListener d = false) (retryTimes : Nat) :
    m.runRetryStartSync env d retryTimes = (m, []) := by
  rw [runRetryStartSync, h]
  rfl

/-- The service is not found: the next task is posted. -/
theorem runRetryStartSync_unfound (h : m.hasSyncListener d = true)
    (hdms : env.getRemoteDms d = false) (retryTimes : Nat) :
    m.runRetryStartSync env d retryTimes = (m, retryStartSync d (retryTimes + 1)) := by
  rw [runRetryStartSync, h, hdms]
  rfl

theorem runRetryStartSync_found (h : m.hasSyncListener d = true)
    (hdms : env.getRemoteDms d = true) (retryTimes : Nat) :
    m.runRetryStartSync env d retryTimes =
      ((m.startSyncAt env d).manager, (m.startSyncAt env d).effects) := by
  rw [runRetryStartSync, h, hdms]
  rfl

theorem startSyncAt_effects (env : MissionEnv) (m : DistributedSchedMissionManager) (d : String) :
    (m.startSyncAt env d).effects =
      (env.generateCallerInfo.map fun callerInfo =>
        MissionEffect.startSyncMissionsFromRemote d callerInfo).toList := by
  unfold startSyncAt
  split
  · rename_i hg
    rw [hg]
    rfl
  · rename_i hg
    rw [hg]
    rfl

theorem startSyncAt_listenDeviceMap (env : MissionEnv) (m : DistributedSchedMissionManager)
    (d : String) : (m.startSyncAt env d).manager.listenDeviceMap = m.listenDeviceMap := by
  unfold startSyncAt
  split
  · rfl
  · dsimp only
    split
    · unfold rebornMissionCache
      dsimp only
      split <;> rfl
    · rfl

/-- A request that is sent posts no task, and leaves the flag. -/
theorem runRetryStartSync_sends (h : m.hasSyncListener d = true)
    (hdms : env.getRemoteDms d = true) (retryTimes : Nat) :
    sendsStart d (m.runRetryStartSync env d retryTimes).2 = env.generateCallerInfo.isSome ∧
      postedRetry d (m.runRetryStartSync env d retryTimes).2 = none ∧
      (m.runRetryStartSync env d retryTimes).1.hasSyncListener d = true := by
  rw [runRetryStartSync_found h hdms, startSyncAt_effects]
  have hflag : (m.startSyncAt env d).manager.hasSyncListener d = true := by
    rw [MissionPair.hasSyncListener_congr (m := m) (by rw [startSyncAt_listenDeviceMap])]
    exact h
  cases env.generateCallerInfo with
  | none => exact ⟨rfl, rfl, hflag⟩
  | some callerInfo => exact ⟨by simp [sendsStart], rfl, hflag⟩

end task

/-! ### The chain -/

namespace RetryChain

variable {d : String} {c c' : RetryChain}

/-- One more task at the end of a chain that follows. -/
theorem Follows.snoc_iff (h : c.Follows) {retryTimes : Nat} (hp : c.pending = some retryTimes)
    {manager : DistributedSchedMissionManager} {pending : Option Nat} {a : RetryAttempt}
    (ha : a.retryTimes = retryTimes) :
    Follows ⟨manager, pending, c.attempts ++ [a]⟩ ↔
      a.Right ∧ pending =
        if a.goesOn ∧ retryTimes + 1 < maxRetryTimes then some (retryTimes + 1) else none := by
  have hpending := h.pending
  rw [hp] at hpending
  split at hpending
  case isFalse => cases hpending
  rename_i hall
  obtain rfl := Option.some.inj hpending
  have hgoes : (c.attempts ++ [a]).all RetryAttempt.goesOn = a.goesOn := by
    rw [List.all_append, hall.1, Bool.true_and, List.all_cons, List.all_nil, Bool.and_true]
  constructor
  · intro hf
    refine ⟨(hf.attempts c.attempts.length a (by simp)).2, ?_⟩
    have hnext := hf.pending
    rwa [hgoes, List.length_append, List.length_singleton] at hnext
  · rintro ⟨hright, rfl⟩
    refine ⟨fun i a' hi => ?_, ?_⟩
    · by_cases hlt : i < c.attempts.length
      · rw [List.getElem?_append_left hlt] at hi
        exact h.attempts i a' hi
      · obtain rfl : i = c.attempts.length := by
          have hlen := (List.getElem?_eq_some_iff.mp hi).1
          rw [List.length_append, List.length_singleton] at hlen
          omega
        obtain rfl : a = a' := by simpa using hi
        exact ⟨ha, hright⟩
    · simp only
      rw [hgoes, List.length_append, List.length_singleton]

theorem safe_task_none (env : MissionEnv) (hk : c.manager.listenDeviceMap[d]? = none) :
    (RetryStep.task env).Safe d c := by
  intro retryTimes info _ hi
  rw [hk] at hi
  cases hi

theorem safe_task_some {env : MissionEnv} {retryTimes : Nat} {info : ListenerInfo}
    (hp : c.pending = some retryTimes) (hk : c.manager.listenDeviceMap[d]? = some info) :
    (RetryStep.task env).Safe d c ↔
      info.called = true ∧ (env.getRemoteDms d = true → env.generateCallerInfo ≠ none) ∨
        env.getRemoteDms d = false ∧ maxRetryTimes ≤ retryTimes + 1 := by
  constructor
  · intro hs
    exact hs retryTimes info hp hk
  · intro hs retryTimes' info' hp' hk'
    obtain rfl := Option.some.inj (hp.symm.trans hp')
    obtain rfl := Option.some.inj (hk.symm.trans hk')
    exact hs

/-- **A task keeps the chain exactly when it is safe.** -/
theorem Follows.task_iff (h : c.Follows) {env : MissionEnv}
    (hs : (RetryStep.task env).apply d c = some c') :
    c'.Follows ↔ (RetryStep.task env).Safe d c := by
  simp only [RetryStep.apply] at hs
  split at hs
  · cases hs
  rename_i retryTimes hp
  cases hs
  rw [h.snoc_iff hp rfl]
  cases hk : c.manager.listenDeviceMap[d]? with
  | none =>
      -- nobody listens: the chain ends
      have hsync : c.manager.hasSyncListener d = false := by simp [hasSyncListener, hk]
      rw [runRetryStartSync_unlistened hsync]
      exact iff_of_true ⟨⟨by simp, by simp⟩, by simp [RetryAttempt.goesOn]⟩ (safe_task_none env hk)
  | some info =>
      have hsync : c.manager.hasSyncListener d = info.called := by simp [hasSyncListener, hk]
      rw [safe_task_some hp hk]
      cases hc : info.called with
      | false =>
          -- the task does not see the listener, and ends the chain
          rw [hc] at hsync
          rw [runRetryStartSync_unlistened hsync]
          cases hdms : env.getRemoteDms d with
          | true =>
              refine iff_of_false (fun hr => ?_) (by simp)
              have hsent := hr.1.sent_iff
              simp at hsent
          | false =>
              constructor
              · intro hr
                refine .inr ⟨rfl, Nat.le_of_not_lt fun hlt => ?_⟩
                have hpending := hr.2
                rw [if_pos ⟨rfl, hlt⟩] at hpending
                cases hpending
              · rintro (⟨⟨⟩, -⟩ | ⟨-, hle⟩)
                exact ⟨⟨by simp, by simp⟩, (if_neg fun hlt => Nat.not_lt.mpr hle hlt.2).symm⟩
      | true =>
          rw [hc] at hsync
          cases hdms : env.getRemoteDms d with
          | true =>
              obtain ⟨hsent, hposted, hflag⟩ := runRetryStartSync_sends hsync hdms retryTimes
              rw [hsent, hposted, hflag]
              cases hg : env.generateCallerInfo with
              | none =>
                  refine iff_of_false (fun hr => ?_) (by simp)
                  have hsent := hr.1.sent_iff
                  simp at hsent
              | some callerInfo =>
                  exact iff_of_true ⟨⟨by simp, by simp⟩, by simp [RetryAttempt.goesOn]⟩ (by simp)
          | false =>
              -- the next task is posted
              rw [runRetryStartSync_unfound hsync hdms, postedRetry_retryStartSync,
                sendsStart_retryStartSync]
              exact iff_of_true ⟨⟨by simp, by simp⟩, by simp [RetryAttempt.goesOn]⟩ (by simp)

theorem Follows.apply (h : c.Follows) {step : RetryStep} (hsafe : step.Safe d c)
    (hs : step.apply d c = some c') : c'.Follows := by
  cases step with
  | task env => exact (h.task_iff hs).mpr hsafe
  | other op =>
      cases hs
      exact { h with }
  | otherTask env posted =>
      cases hs
      exact { h with }

/-- A start that does not find the service leaves everything, and posts the first task. -/
theorem start_eq {env : MissionEnv} {m : DistributedSchedMissionManager}
    (hdms : env.getRemoteDms d = false)
    (hfail : (m.startSyncRemoteMissions env d).result = getRemoteDmsFail) :
    start env m d = ⟨m, some 0, []⟩ := by
  have hinvalid : invalidParametersErr ≠ getRemoteDmsFail := by decide
  have hok : errOk ≠ getRemoteDmsFail := by decide
  unfold start
  unfold startSyncRemoteMissions at hfail ⊢
  split at hfail
  · exact absurd hfail hinvalid
  rename_i hremote
  rw [if_neg hremote]
  unfold startSyncListened at hfail ⊢
  split at hfail
  · exact absurd hfail hok
  rename_i info hk
  simp only
  split at hfail
  · exact absurd hfail hok
  rename_i hcalled
  rw [if_neg hcalled, hdms]
  simp only [Bool.not_false, if_true, postedRetry_retryStartSync]
  rfl

theorem start_follows (m : DistributedSchedMissionManager) : Follows ⟨m, some 0, []⟩ where
  attempts i a hi := by simp at hi
  pending := rfl

end RetryChain

/-- **The retry of a start.**  A chain that starts when `StartSyncRemoteMissions` does not find
the service does what it is for, as long as its tasks are safe; a task keeps that exactly when it
is safe. -/
theorem retry_follows_iff_safe {d : String} {env₀ : MissionEnv}
    {m₀ : DistributedSchedMissionManager} (hdms : env₀.getRemoteDms d = false)
    (hfail : (m₀.startSyncRemoteMissions env₀ d).result = getRemoteDmsFail) {c : RetryChain}
    (hr : Reach (RetryStep.apply d) (fun c step => step.Safe d c) (.start env₀ m₀ d) c) :
    c.Follows ∧ ∀ env c', (RetryStep.task env).apply d c = some c' →
      (c'.Follows ↔ (RetryStep.task env).Safe d c) := by
  rw [RetryChain.start_eq hdms hfail] at hr
  have hfollows : c.Follows := hr.invariant (RetryChain.start_follows m₀)
    fun _ _ _ ih hsafe hs => ih.apply hsafe hs
  exact ⟨hfollows, fun env c' hs => hfollows.task_iff hs⟩

/-- The environment of device "A" while it does not find device "B". -/
def unfoundEnv : MissionEnv := { listeningEnv with getRemoteDms := fun _ => false }

/-- Another start has succeeded before the first task, which does not find the service either. -/
theorem retry_follows_iff_safe_again : ∃ c : RetryChain, c.pending = some 1 ∧ c.Follows ∧
    ∀ env c', (RetryStep.task env).apply "B" c = some c' →
      (c'.Follows ↔ (RetryStep.task env).Safe "B" c) := by
  let m : DistributedSchedMissionManager :=
    ((DistributedSchedMissionManager.registerMissionListener listeningEnv {}) "B" (some 1)).manager
  obtain ⟨c, hr, hpending⟩ : ∃ c, Reach (RetryStep.apply "B") (fun c step => step.Safe "B" c)
      (.start unfoundEnv m "B") c ∧ c.pending = some 1 := by
    refine ⟨_, .next (.next .init (l := .other (.startSyncRemoteMissions listeningEnv "B"))
      trivial rfl) (l := .task unfoundEnv) (fun _ info _ hk => ?_) rfl, rfl⟩
    obtain rfl := Option.some.inj hk
    exact .inl ⟨rfl, fun hdms => absurd hdms Bool.false_ne_true⟩
  exact ⟨c, hpending, @retry_follows_iff_safe "B" unfoundEnv m rfl rfl c hr⟩

/-- **A retry that gives up.**  An application listens to device "B" and starts the sync, which
does not find the service.  When the first task runs, the listener and the service are there: it
sends nothing, and no task is left. -/
theorem retry_gives_up :
    ∃ m : DistributedSchedMissionManager, Runs.exec CacheOp.apply {}
        [.registerMissionListener listeningEnv "B" (some 1)] = some m ∧
      (m.startSyncRemoteMissions unfoundEnv "B").result = getRemoteDmsFail ∧
      ∃ c : RetryChain, Reachable (RetryStep.apply "B") (.start unfoundEnv m "B") c ∧
        c.manager.listenDeviceMap["B"]? ≠ none ∧ c.pending = none ∧
        (∃ a, c.attempts = [a] ∧ a.listened = true ∧ a.found = true ∧ a.sent = false) ∧
        ¬ c.Follows := by
  refine ⟨_, rfl, rfl, _, .next .init (l := .task listeningEnv) trivial rfl,
    Option.some_ne_none _, rfl, ⟨_, rfl, rfl, rfl, rfl⟩, fun hf => ?_⟩
  have hsent := (hf.attempts 0 _ rfl).2.sent_iff
  exact absurd (hsent.mpr ⟨rfl, rfl⟩) Bool.false_ne_true

end DistributedSched

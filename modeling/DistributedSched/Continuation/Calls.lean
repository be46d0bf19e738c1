import DistributedSched.Library.Runs
import DistributedSched.Service.Continuation

/-!
# Continuation — calls in progress

`ContinueLocalMission` and `NotifyContinuationCallbackResult` are sequences of blocks, each of
which holds `continuationLock_`, or sends or removes events, or uses nothing of
`DSchedContinuation` (`ContinuationCall`).  Calls run side by side.  They are numbered, and the
number of a call of `ContinueLocalMission` stands for its callback.

* `ContinuationCall.block`: the block that a call executes next.
* `continueLocalMission_blocks`, `notifyContinuationCallbackResult_blocks`: the blocks of one
  call, with nothing in between, are the function.
* `ContinuationStep`: a step of the system is a new call, a block of one that is in progress, or
  a timeout event that is handed to its handler.
-/

namespace DistributedSched

open DSchedContinuation

/-- A call in progress, by the block it executes next. -/
inductive ContinuationCall where
  /-- `ContinueLocalMission` is called -/
  | isInProgress (dstDeviceId : String) (missionId : Int32) (wantParams : Map String WantParam)
  | pushCallback (dstDeviceId : String) (missionId : Int32) (wantParams : Map String WantParam)
  | setTimeOut (dstDeviceId : String) (missionId : Int32) (route : ContinuationRoute)
  | continueAbility (dstDeviceId : String) (missionId : Int32) (versionCode : Nat)
  | checkInstall (missionId : Int32) (want : Want)
  /-- the bundle cannot be installed -/
  | removeTimeOut (missionId : Int32)
  | popCallback (missionId : Int32)
  /-- `NotifyContinuationCallbackResult` is called -/
  | notify (missionId : Int32) (isSuccess : Int)
  | popResult (missionId : Int32) (isSuccess : Int)
  | removeResultTimeOut (missionId : Int32) (isSuccess : Int) (callback : Option Nat)
  | sendResult (callback : Nat) (isSuccess : Int)
  /-- no continuation is in progress -/
  | removeOther (missionId : Int32)

/-- What a block leaves behind: the table, the call at its next block, what
`ContinueLocalMission` returns, the callback that the result is sent to, and the effects. -/
structure ContinuationBlock where
  continuation : DSchedContinuation Nat Nat
  next : Option ContinuationCall := none
  returned : Option Int := none
  sent : Option Nat := none
  effects : List Effect := []

namespace ContinuationRoute

def isFreeInstall : ContinuationRoute → Bool
  | installed _ => false
  | freeInstall _ => true

def timeout : ContinuationRoute → Int
  | installed _ => continuationTimeout
  | freeInstall _ => checkRemoteInstallAbility

end ContinuationRoute

namespace ContinuationCall

/-- The next block of call `i`. -/
def block (env : Env) (i : Nat) (c : DSchedContinuation Nat Nat) :
    ContinuationCall → ContinuationBlock
  | isInProgress dstDeviceId missionId wantParams =>
    if c.isInContinuationProgress missionId.toInt then
      { continuation := c, returned := some invalidParametersErr }
    else { continuation := c, next := some (pushCallback dstDeviceId missionId wantParams) }
  | pushCallback dstDeviceId missionId wantParams =>
    match continuationRoute env dstDeviceId missionId.toInt wantParams with
    | .error result => { continuation := c, returned := some result }
    | .ok route =>
      -- what `PushCallback` answers is dropped
      { continuation := (c.pushCallback missionId.toInt (some i) dstDeviceId
          route.isFreeInstall).2
        next := some (setTimeOut dstDeviceId missionId route) }
  | setTimeOut dstDeviceId missionId route =>
    { continuation := c.setTimeOut env.sendEvent missionId.toInt i route.timeout
      next := some (match route with
        | .installed versionCode => continueAbility dstDeviceId missionId versionCode
        | .freeInstall want => checkInstall missionId want) }
  | continueAbility dstDeviceId missionId versionCode =>
    { continuation := c, returned := some env.amsContinueAbility
      effects := [.ams (.continueAbility dstDeviceId missionId.toInt versionCode)] }
  | checkInstall missionId want =>
    if !env.checkIfRemoteCanInstall want missionId.toInt then
      { continuation := c, next := some (removeTimeOut missionId) }
    else { continuation := c, returned := some errOk }
  | removeTimeOut missionId =>
    { continuation := c.removeTimeOut missionId.toInt, next := some (popCallback missionId) }
  | popCallback missionId =>
    { continuation := (c.popCallback missionId.toInt).2, returned := some invalidParametersErr }
  | notify missionId isSuccess =>
    if c.isInContinuationProgress missionId.toInt then
      { continuation := c, next := some (popResult missionId isSuccess)
        effects := if isSuccess = 0 then [.ams (.cleanMission missionId.toInt)] else [] }
    else
      { continuation := c, next := some (removeOther missionId)
        effects := [.ams (.notifyContinuationResult missionId.toInt isSuccess)] }
  | popResult missionId isSuccess =>
    let p := c.popCallback missionId.toInt
    { continuation := p.2, next := some (removeResultTimeOut missionId isSuccess p.1) }
  | removeResultTimeOut missionId isSuccess callback =>
    { continuation := c.removeTimeOut missionId.toInt
      next := callback.map fun callback => sendResult callback isSuccess }
  | sendResult callback _ =>
    { continuation := c, sent := if env.parcelWrites then some callback else none }
  | removeOther missionId => { continuation := c.removeTimeOut missionId.toInt }

/-- Call `i` runs by itself to its end, in at most `n` blocks. -/
def alone (env : Env) (i : Nat) :
    Nat → DSchedContinuation Nat Nat → ContinuationCall → Option ContinuationBlock
  | 0, _, _ => none
  | n + 1, c, call =>
    let b := call.block env i c
    match b.next with
    | none => some b
    | some call' => (alone env i n b.continuation call').map fun b' =>
        { b' with effects := b.effects ++ b'.effects }

end ContinuationCall

/-! ### One call by itself -/

section alone

variable (env : Env) (i : Nat) (c : DSchedContinuation Nat Nat)

theorem popResult_blocks (missionId : Int32) (isSuccess : Int) :
    ContinuationCall.alone env i 3 c (.popResult missionId isSuccess) =
      some { continuation := (c.notifyMissionCenterResult env.parcelWrites missionId.toInt).2
             sent := (c.notifyMissionCenterResult env.parcelWrites missionId.toInt).1 } := by
  simp only [ContinuationCall.alone, ContinuationCall.block, notifyMissionCenterResult]
  cases (c.popCallback missionId.toInt).1 with
  | none => rfl
  | some callback => cases hw : env.parcelWrites <;> simp [Option.filter]

/-- The blocks of `NotifyContinuationCallbackResult`. -/
theorem notifyContinuationCallbackResult_blocks (missionId : Int32) (isSuccess : Int) :
    ContinuationCall.alone env i 4 c (.notify missionId isSuccess) =
      some { continuation :=
               (c.notifyContinuationCallbackResult env missionId.toInt isSuccess).2.1
             sent := (c.notifyContinuationCallbackResult env missionId.toInt isSuccess).1
             effects :=
               (c.notifyContinuationCallbackResult env missionId.toInt isSuccess).2.2 } := by
  rw [ContinuationCall.alone, ContinuationCall.block,
    DSchedContinuation.notifyContinuationCallbackResult]
  by_cases hp : c.isInContinuationProgress missionId.toInt = true
  · simp only [hp, if_true, popResult_blocks, Option.map_some, List.append_nil]
  · simp only [if_neg hp]
    rfl

theorem setTimeOut_blocks (dstDeviceId : String) (missionId : Int32) (route : ContinuationRoute) :
    let c' := c.setTimeOut env.sendEvent missionId.toInt i route.timeout
    ContinuationCall.alone env i 4 c (.setTimeOut dstDeviceId missionId route) =
      some (match route with
        | .installed versionCode =>
          { continuation := c', returned := some env.amsContinueAbility
            effects := [.ams (.continueAbility dstDeviceId missionId.toInt versionCode)] }
        | .freeInstall want =>
          if !env.checkIfRemoteCanInstall want missionId.toInt then
            { continuation := ((c'.removeTimeOut missionId.toInt).popCallback missionId.toInt).2
              returned := some invalidParametersErr }
          else { continuation := c', returned := some errOk }) := by
  cases route with
  | installed versionCode => rfl
  | freeInstall want =>
      rw [ContinuationCall.alone, ContinuationCall.block]
      simp only
      rw [ContinuationCall.alone, ContinuationCall.block]
      cases hi : env.checkIfRemoteCanInstall want missionId.toInt <;> rfl

/-- The blocks of `ContinueLocalMission`. -/
theorem continueLocalMission_blocks (dstDeviceId : String) (missionId : Int32)
    (wantParams : Map String WantParam) :
    let r := c.continueLocalMission env i dstDeviceId missionId.toInt (some i) wantParams
    ContinuationCall.alone env i 6 c (.isInProgress dstDeviceId missionId wantParams) =
      some { continuation := r.2.1, returned := some r.1, effects := r.2.2 } := by
  simp only [DSchedContinuation.continueLocalMission]
  rw [ContinuationCall.alone, ContinuationCall.block]
  by_cases hp : c.isInContinuationProgress missionId.toInt = true
  · simp only [if_pos hp]
  simp only [if_neg hp]
  rw [ContinuationCall.alone, ContinuationCall.block]
  cases continuationRoute env dstDeviceId missionId.toInt wantParams with
  | error result => rfl
  | ok route =>
      cases route with
      | installed versionCode =>
          simp only [setTimeOut_blocks]
          rfl
      | freeInstall want =>
          simp only [setTimeOut_blocks]
          split <;> rfl

end alone

/-! ### Calls side by side -/

structure Continuations where
  continuation : DSchedContinuation Nat Nat := {}
  calls : Map Nat ContinuationCall := ∅
  /-- the number of calls so far -/
  started : Nat := 0
  /-- the calls of `ContinueLocalMission` that returned `ERR_OK` -/
  accepted : List Nat := []
  /-- the callbacks that a result was sent to -/
  sent : List Nat := []

inductive ContinuationStep where
  | continueLocalMission (dstDeviceId : String) (missionId : Int32)
      (wantParams : Map String WantParam)
  | notifyContinuationCallbackResult (missionId : Int32) (isSuccess : Int)
  /-- the pending event at `k` is handed to the handler -/
  | timeout (k : Nat)
  /-- the next block of call `i` -/
  | block (i : Nat) (env : Env)

namespace Continuations

variable (s : Continuations)

def start (call : ContinuationCall) : Continuations :=
  { s with calls := s.calls.put s.started (some call), started := s.started + 1 }

/-- The system after a block of call `i`. -/
def after (i : Nat) (b : ContinuationBlock) : Continuations :=
  { s with
    continuation := b.continuation, calls := s.calls.put i b.next
    accepted := if b.returned = some errOk then s.accepted ++ [i] else s.accepted
    sent := s.sent ++ b.sent.toList }

end Continuations

namespace ContinuationStep

def apply (s : Continuations) : ContinuationStep → Option Continuations
  | continueLocalMission dstDeviceId missionId wantParams =>
    some (s.start (.isInProgress dstDeviceId missionId wantParams))
  | notifyContinuationCallbackResult missionId isSuccess =>
    some (s.start (.notify missionId isSuccess))
  | timeout k =>
    match s.continuation.continuationHandler.pending[k]? with
    | none => none
    | some event =>
      let c := s.continuation
      let s := { s with continuation :=
        { c with continuationHandler := c.continuationHandler.take k } }
      match processEvent event.innerEventId with
      | none => some s
      | some missionId =>
        some (s.start (.notify (Int32.ofInt missionId) continueAbilityTimeoutErr))
  | block i env =>
    match s.calls[i]? with
    | none => none
    | some call => some (s.after i (call.block env i s.continuation))

end ContinuationStep

end DistributedSched

import DistributedSched.Ability.Registry

/-!
# Ability — calls in progress

The calls of the continuation manager and the tasks of its handler, side by side.  A call is a
sequence of blocks, each under one lock (`AbilityCall`); `IsNotifierRegistered`, which two calls
read without the lock, is a block of its own.  What a call posts for the panel or for a notifier
leaves the maps, and only the disconnecting is kept as an effect.

* `AbilityRequest.check`: the first block of a call, which reads only.
* `AbilityCall.block`: the block that a call executes next.
* `unregister_blocks` and the others: the blocks of one call, with nothing in between, are the
  function.
* `AbilityMove`: a step of the system is a new call, or a block of one that is in progress.
-/

namespace DistributedSched

/-- A call, or a task of the handler, with what it is given; the flags say whether the handler
takes a task, and whether the panel is there or can be connected. -/
inductive AbilityRequest where
  | register (continuationMode : Option Int) (accessToken : Nat)
  | unregister (postTask : Bool) (accessToken : Nat) (token : Int)
  | registerDeviceSelectionCallback (errNullObject : Int) (accessToken : Nat) (token : Int)
      (cbType : String) (notifier : RemoteObject)
  | unregisterDeviceSelectionCallback (accessToken : Nat) (token : Int) (cbType : String)
  | updateConnectStatus (errNullObject : Int) (accessToken : Nat) (token : Int)
      (deviceId : String) (deviceConnectStatus : Int)
  | startDeviceManager (panel : Bool) (continuationMode : Option Int) (accessToken : Nat)
      (token : Int)
  | onDeviceConnect (postDisconnect postNotify : Bool) (token : Int)
  | onDeviceDisconnect (postDisconnect postNotify : Bool) (token : Int)
  /-- the task of `HandleNotifierDied` -/
  | notifierDied (postTask : Bool) (notifier : RemoteObject)

/-- A call in progress, by the block it executes next. -/
inductive AbilityCall where
  | requested (request : AbilityRequest)
  | storeToken (accessToken : Nat)
  | emplaceToken (accessToken : Nat) (token : Int)
  /-- `Unregister`, or the task of `HandleNotifierDied`, which returns nothing -/
  | eraseCallback (token : Int) (postTask : Bool) (result : Option Int)
  | eraseToken (token : Int) (postTask : Bool) (result : Option Int)
  | checkNotRegistered (errNullObject : Int) (token : Int) (cbType : String)
      (notifier : RemoteObject)
  | setNotifier (errNullObject : Int) (token : Int) (cbType : String) (notifier : RemoteObject)
  | checkRegistered (token : Int) (cbType : String)
  | deleteNotifier (token : Int) (cbType : String)
  | checkUpdate (token : Int) (connectStatusInfo : ConnectStatusInfo)
  | setConnectStatusInfo (token : Int) (connectStatusInfo : ConnectStatusInfo)
  | checkStart (panel : Bool) (token : Int)
  /-- the task of `HandleStartDeviceManager` -/
  | getConnectStatusInfo (token : Int)
  | getNotifier (postNotify : Bool) (token : Int) (cbType : String)

/-- What a block leaves behind: the maps, the call at its next block, what the call returns, the
token that `Register` gives out, the effects, and whether it went through a null pointer. -/
structure AbilityBlock where
  service : DistributedAbilityManagerService
  next : Option AbilityCall := none
  returned : Option Int := none
  token : Option Int := none
  effects : List AbilityEffect := []
  nullAccess : Bool := false

namespace AbilityBlock

/-- The call returns. -/
def stop (s : DistributedAbilityManagerService) (result : Int) : AbilityBlock :=
  { service := s, returned := some result }

/-- The call goes on, with the maps as they are. -/
def goOn (s : DistributedAbilityManagerService) (call : AbilityCall) : AbilityBlock :=
  { service := s, next := some call }

end AbilityBlock

namespace AbilityRequest

open AbilityBlock

/-- `OnDeviceConnect` and `OnDeviceDisconnect`. -/
def checkNotifier (s : DistributedAbilityManagerService) (postDisconnect postNotify : Bool)
    (token : Int) (cbType : String) : AbilityBlock :=
  if !postDisconnect then stop s disconnectAbilityFailed
  else if !s.isNotifierRegisteredLocked token cbType then
    { stop s callbackHasNotRegistered with effects := [.disconnectAbility] }
  else { goOn s (.getNotifier postNotify token cbType) with effects := [.disconnectAbility] }

/-- The first block. -/
def check (s : DistributedAbilityManagerService) : AbilityRequest → AbilityBlock
  | register continuationMode accessToken =>
    if continuationMode.any fun continuationMode => !isContinuationModeValid continuationMode then
      stop s invalidContinuationMode
    else if s.isExceededRegisterMaxNum accessToken then stop s registerExceedMaxTimes
    else goOn s (.storeToken accessToken)
  | unregister postTask accessToken token =>
    if !s.isTokenRegistered accessToken token then stop s tokenHasNotRegistered
    else goOn s (.eraseCallback token postTask (some errOk))
  | registerDeviceSelectionCallback errNullObject accessToken token cbType notifier =>
    if !isCallbackType cbType then stop s unknownCallbackType
    else if !s.isTokenRegistered accessToken token then stop s tokenHasNotRegistered
    else goOn s (.checkNotRegistered errNullObject token cbType notifier)
  | unregisterDeviceSelectionCallback accessToken token cbType =>
    if !isCallbackType cbType then stop s unknownCallbackType
    else if !s.isTokenRegistered accessToken token then stop s tokenHasNotRegistered
    else goOn s (.checkRegistered token cbType)
  | updateConnectStatus errNullObject accessToken token deviceId deviceConnectStatus =>
    if deviceId = "" then stop s errNullObject
    else if !isConnectStatusValid deviceConnectStatus then stop s invalidConnectStatus
    else if !s.isTokenRegistered accessToken token then stop s tokenHasNotRegistered
    else goOn s (.checkUpdate token ⟨deviceId, deviceConnectStatus⟩)
  | startDeviceManager panel continuationMode accessToken token =>
    if continuationMode.any fun continuationMode => !isContinuationModeValid continuationMode then
      stop s invalidContinuationMode
    else if !s.isTokenRegistered accessToken token then stop s tokenHasNotRegistered
    else goOn s (.checkStart panel token)
  | onDeviceConnect postDisconnect postNotify token =>
    checkNotifier s postDisconnect postNotify token eventConnect
  | onDeviceDisconnect postDisconnect postNotify token =>
    checkNotifier s postDisconnect postNotify token eventDisconnect
  | notifierDied postTask notifier =>
    match s.queryTokenByNotifier notifier with
    | none => { service := s }
    | some token => goOn s (.eraseCallback token postTask none)

end AbilityRequest

namespace AbilityCall

open AbilityBlock

/-- The next block. -/
def block (s : DistributedAbilityManagerService) : AbilityCall → AbilityBlock
  | requested request => request.check s
  | storeToken accessToken => goOn s.storeToken (emplaceToken accessToken s.nextToken)
  | emplaceToken accessToken token =>
    { stop (s.emplaceToken accessToken token) errOk with token := some token }
  | eraseCallback token postTask result =>
    { goOn (s.eraseCallback token).1 (eraseToken token postTask result) with
      effects := (s.eraseCallback token).2 }
  | eraseToken token postTask result =>
    { service := s.eraseToken token, returned := result
      effects := if postTask then [.disconnectAbility] else [] }
  | checkNotRegistered errNullObject token cbType notifier =>
    if s.isNotifierRegisteredLocked token cbType then stop s callbackHasRegistered
    else goOn s (setNotifier errNullObject token cbType notifier)
  | setNotifier errNullObject token cbType notifier =>
    let o := s.setNotifier token cbType notifier errNullObject
    { stop o.service o.result with effects := o.effects }
  | checkRegistered token cbType =>
    if !s.isNotifierRegisteredLocked token cbType then stop s callbackHasNotRegistered
    else goOn s (deleteNotifier token cbType)
  | deleteNotifier token cbType =>
    match s.deleteNotifier token cbType with
    | some r => { stop r.1 errOk with effects := r.2 }
    | none => { service := s, nullAccess := true }
  | checkUpdate token connectStatusInfo =>
    if !s.isNotifierRegistered token then stop s callbackHasNotRegistered
    else goOn s (setConnectStatusInfo token connectStatusInfo)
  | setConnectStatusInfo token connectStatusInfo =>
    let r := s.setConnectStatusInfo token connectStatusInfo
    { service := r.1, returned := r.2.map fun _ => errOk, nullAccess := r.2.isNone }
  | checkStart panel token =>
    if !s.isNotifierRegistered token then stop s callbackHasNotRegistered
    else if !panel then stop s connectAbilityFailed
    -- the call returns, and the task is still to run
    else { stop s errOk with next := some (getConnectStatusInfo token) }
  | getConnectStatusInfo token =>
    let r := s.getConnectStatusInfo token
    { service := r.1, nullAccess := r.2.isNone }
  | getNotifier postNotify token cbType =>
    let r := s.getNotifier token cbType
    { service := r.1, nullAccess := r.2.isNone
      returned := r.2.map fun _ => if postNotify then errOk else invalidParametersErr }

/-- The call runs by itself to its end, in at most `n` blocks. -/
def alone : Nat → DistributedAbilityManagerService → AbilityCall → Option AbilityBlock
  | 0, _, _ => none
  | n + 1, s, call =>
    let b := call.block s
    match b.next with
    | none => some b
    | some call' => (alone n b.service call').map fun b' =>
        { b' with effects := b.effects ++ b'.effects }

end AbilityCall

/-! ### One call by itself -/

section alone

variable (s : DistributedAbilityManagerService)

open DistributedAbilityManagerService AbilityBlock

/-- The blocks of `Register`. -/
theorem register_blocks (continuationMode : Option Int) (accessToken : Nat) :
    AbilityCall.alone 3 s (.requested (.register continuationMode accessToken)) =
      some { service := (s.register continuationMode accessToken).2
             returned := some (s.register continuationMode accessToken).1.1
             token := (s.register continuationMode accessToken).1.2 } := by
  rw [AbilityCall.alone, AbilityCall.block, AbilityRequest.check,
    DistributedAbilityManagerService.register]
  split_ifs <;> rfl

theorem erase_blocks (token : Int) (postTask : Bool) (result : Option Int) :
    AbilityCall.alone 2 s (.eraseCallback token postTask result) =
      some { service := (s.eraseCallback token).1.eraseToken token, returned := result
             effects := (s.eraseCallback token).2 ++
               if postTask then [.disconnectAbility] else [] } := rfl

/-- The blocks of `Unregister`. -/
theorem unregister_blocks (postTask : Bool) (accessToken : Nat) (token : Int) :
    AbilityCall.alone 3 s (.requested (.unregister postTask accessToken token)) =
      some { service := (s.unregister postTask accessToken token).service
             returned := some (s.unregister postTask accessToken token).result
             effects := (s.unregister postTask accessToken token).effects } := by
  rw [AbilityCall.alone, AbilityCall.block, AbilityRequest.check,
    DistributedAbilityManagerService.unregister]
  by_cases ht : (!s.isTokenRegistered accessToken token) = true
  · simp only [if_pos ht, stop]
  · simp only [if_neg ht, goOn, erase_blocks, Option.map_some, List.nil_append]

/-- The blocks of the task of `HandleNotifierDied`. -/
theorem runNotifierDied_blocks (postTask : Bool) (notifier : RemoteObject) :
    AbilityCall.alone 3 s (.requested (.notifierDied postTask notifier)) =
      some { service := (s.runNotifierDied postTask notifier).1
             effects := (s.runNotifierDied postTask notifier).2 } := by
  rw [AbilityCall.alone, AbilityCall.block, AbilityRequest.check, runNotifierDied]
  cases s.queryTokenByNotifier notifier <;> rfl

/-- The blocks of `RegisterDeviceSelectionCallback`. -/
theorem registerDeviceSelectionCallback_blocks (errNullObject : Int) (accessToken : Nat)
    (token : Int) (cbType : String) (notifier : RemoteObject) :
    let o := s.registerDeviceSelectionCallback errNullObject accessToken token cbType notifier
    AbilityCall.alone 3 s (.requested
        (.registerDeviceSelectionCallback errNullObject accessToken token cbType notifier)) =
      some { service := o.service, returned := some o.result, effects := o.effects } := by
  rw [AbilityCall.alone, AbilityCall.block, AbilityRequest.check,
    DistributedAbilityManagerService.registerDeviceSelectionCallback]
  by_cases hc : (!isCallbackType cbType) = true
  · simp only [if_pos hc, stop]
  by_cases ht : (!s.isTokenRegistered accessToken token) = true
  · simp only [if_neg hc, if_pos ht, stop]
  simp only [if_neg hc, if_neg ht, goOn]
  rw [AbilityCall.alone, AbilityCall.block]
  by_cases hn : s.isNotifierRegisteredLocked token cbType = true
  · simp only [if_pos hn, stop, Option.map_some, List.nil_append]
  · simp only [if_neg hn]
    rfl

/-- The blocks of `UnregisterDeviceSelectionCallback`, which has no result when it goes through a
null pointer. -/
theorem unregisterDeviceSelectionCallback_blocks {o : AbilityOutcome} (accessToken : Nat)
    (token : Int) (cbType : String)
    (ho : s.unregisterDeviceSelectionCallback accessToken token cbType = some o) :
    AbilityCall.alone 3 s (.requested
        (.unregisterDeviceSelectionCallback accessToken token cbType)) =
      some { service := o.service, returned := some o.result, effects := o.effects } := by
  rw [AbilityCall.alone, AbilityCall.block, AbilityRequest.check]
  unfold DistributedAbilityManagerService.unregisterDeviceSelectionCallback at ho
  by_cases hc : (!isCallbackType cbType) = true
  · simp only [if_pos hc, Option.some.injEq] at ho ⊢
    subst ho
    rfl
  by_cases ht : (!s.isTokenRegistered accessToken token) = true
  · simp only [if_neg hc, if_pos ht, Option.some.injEq] at ho ⊢
    subst ho
    rfl
  simp only [if_neg hc, if_neg ht, goOn] at ho ⊢
  rw [AbilityCall.alone, AbilityCall.block]
  by_cases hn : (!s.isNotifierRegisteredLocked token cbType) = true
  · simp only [if_pos hn, Option.some.injEq] at ho ⊢
    subst ho
    rfl
  · simp only [if_neg hn, goOn] at ho ⊢
    obtain ⟨r, hr, rfl⟩ := Option.map_eq_some_iff.mp ho
    simp only [AbilityCall.alone, AbilityCall.block, hr]
    rfl

end alone

/-! ### Calls side by side -/

structure AbilityCalls where
  service : DistributedAbilityManagerService := {}
  calls : Map Nat AbilityCall := ∅
  /-- the number of calls so far -/
  started : Nat := 0
  /-- a null pointer was dereferenced -/
  crashed : Bool := false

inductive AbilityMove where
  | call (request : AbilityRequest)
  /-- the next block of call `i` -/
  | block (i : Nat)

namespace AbilityCalls

variable (s : AbilityCalls)

def start (request : AbilityRequest) : AbilityCalls :=
  { s with
    calls := s.calls.put s.started (some (.requested request)), started := s.started + 1 }

/-- The system after a block of call `i`. -/
def after (i : Nat) (b : AbilityBlock) : AbilityCalls :=
  { s with service := b.service, calls := s.calls.put i b.next, crashed := b.nullAccess }

end AbilityCalls

/-- After a crash there are no more steps. -/
def AbilityMove.apply (s : AbilityCalls) : AbilityMove → Option AbilityCalls
  | call request => if s.crashed then none else some (s.start request)
  | block i =>
    if s.crashed then none
    else match s.calls[i]? with
      | none => none
      | some c => some (s.after i (c.block s.service))

end DistributedSched

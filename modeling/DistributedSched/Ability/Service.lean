import DistributedSched.Base.Types
import DistributedSched.Library.TreeWalk

/-!
# Ability — DistributedAbilityManagerService

The continuation manager: `tokenMap_`, the tokens of each access token, and `callbackMap_`, the
notifiers that an application has registered under a token, one for each event type.  A block
that holds `tokenMapMutex_` or `callbackMapMutex_` is a function of its own, and the calls are
made of the blocks.  `callbackMap_` holds pointers: `none` is `nullptr`, which `operator[]` puts
under a key that is missing (`access`), and a block that goes through it has no result.
-/

namespace DistributedSched

open Std (ExtTreeMap)

def registerExceedMaxTimes : Int := 29360207
def tokenHasNotRegistered : Int := 29360208
def callbackHasRegistered : Int := 29360209
def callbackHasNotRegistered : Int := 29360210
def connectAbilityFailed : Int := 29360211
def disconnectAbilityFailed : Int := 29360212
def unknownCallbackType : Int := 29360214
def invalidConnectStatus : Int := 29360215
def invalidContinuationMode : Int := 29360216

def maxTokenNum : Int := 100000000
def maxRegisterNum : Nat := 600

def eventConnect : String := "deviceConnect"
def eventDisconnect : String := "deviceDisconnect"

structure ConnectStatusInfo where
  deviceId : String
  deviceConnectStatus : Int
deriving DecidableEq

structure NotifierInfo where
  notifierMap : Map String RemoteObject := ∅
  connectStatusInfo : Option ConnectStatusInfo := none

inductive AbilityEffect where
  /-- `notifierDeathRecipient_` -/
  | addDeathRecipient (notifier : RemoteObject)
  | removeDeathRecipient (notifier : RemoteObject)
  /-- the task of `HandleDisconnectAbility` -/
  | disconnectAbility
deriving DecidableEq

namespace NotifierInfo

variable (info : NotifierInfo)

def getNotifier (cbType : String) : Option RemoteObject := info.notifierMap[cbType]?

def setNotifier (cbType : String) (notifier : RemoteObject) : NotifierInfo :=
  { info with notifierMap := info.notifierMap.insert cbType notifier }

def deleteNotifier (cbType : String) : NotifierInfo :=
  { info with notifierMap := info.notifierMap.erase cbType }

def queryNotifier (notifier : RemoteObject) : Bool :=
  info.notifierMap.toList.any fun e => e.2 = notifier

def isNotifierMapEmpty : Bool := info.notifierMap.isEmpty

/-- `RemoveDeathRecipient`; the empty event type stands for all. -/
def removeDeathRecipient (cbType : String) : List AbilityEffect :=
  if cbType = "" then info.notifierMap.toList.map fun e => .removeDeathRecipient e.2
  else match info.notifierMap[cbType]? with
    | some notifier => [.removeDeathRecipient notifier]
    | none => []

end NotifierInfo

structure DistributedAbilityManagerService where
  token : Int := 0
  tokenMap : Map Nat (List Int) := ∅
  callbackMap : Map Int (Option NotifierInfo) := ∅

/-- What a call leaves. -/
structure AbilityOutcome where
  result : Int
  service : DistributedAbilityManagerService
  effects : List AbilityEffect := []

def isContinuationModeValid (continuationMode : Int) : Bool :=
  !(continuationMode < 0 || 1 < continuationMode)

def isConnectStatusValid (deviceConnectStatus : Int) : Bool :=
  !(deviceConnectStatus < 0 || 3 < deviceConnectStatus)

def isCallbackType (cbType : String) : Bool := cbType = eventConnect || cbType = eventDisconnect

/-- One round of the loop that erases a token: `true` once the loop has been left. -/
def eraseTokenFrom (token : Int) (left : Bool) (_accessToken : Nat) (tokens : List Int) :
    Bool × Option (List Int) :=
  if left then (true, some tokens)
  else
    let tokens := tokens.filter fun n => n ≠ token
    if tokens.isEmpty then (true, none) else (false, some tokens)

/-- The loop of `QueryTokenByNotifier`. -/
def findNotifier (notifier : RemoteObject) : List (Int × Option NotifierInfo) → Option Int
  | [] => none
  | (_, none) :: _ => none
  | (token, some info) :: rest =>
    if info.queryNotifier notifier then some token else findNotifier notifier rest

namespace DistributedAbilityManagerService

variable (s : DistributedAbilityManagerService)

/-! ### The blocks -/

def isExceededRegisterMaxNum (accessToken : Nat) : Bool :=
  match s.tokenMap[accessToken]? with
  | some tokens => maxRegisterNum ≤ tokens.length
  | none => false

def isTokenRegistered (accessToken : Nat) (token : Int) : Bool :=
  match s.tokenMap[accessToken]? with
  | some tokens => tokens.contains token
  | none => false

def isNotifierRegistered (token : Int) : Bool :=
  match s.callbackMap[token]? with
  | some (some _) => true
  | _ => false

def isNotifierRegisteredLocked (token : Int) (cbType : String) : Bool :=
  match s.callbackMap[token]? with
  | some (some info) => (info.getNotifier cbType).isSome
  | _ => false

/-- The token that `Register` gives out. -/
def nextToken : Int := if maxTokenNum < s.token + 1 then 1 else s.token + 1

/-- The `tokenMutex_` block of `Register`. -/
def storeToken : DistributedAbilityManagerService := { s with token := s.nextToken }

/-- `tokenMap_[accessToken].emplace_back(token)`. -/
def emplaceToken (accessToken : Nat) (token : Int) : DistributedAbilityManagerService :=
  { s with tokenMap :=
      s.tokenMap.insert accessToken (s.tokenMap[accessToken]?.getD [] ++ [token]) }

/-- The `callbackMapMutex_` block of `Unregister` and of `HandleNotifierDied`. -/
def eraseCallback (token : Int) : DistributedAbilityManagerService × List AbilityEffect :=
  match s.callbackMap[token]? with
  | some (some info) =>
    ({ s with callbackMap := s.callbackMap.erase token }, info.removeDeathRecipient "")
  | _ => (s, [])

/-- Their `tokenMapMutex_` block. -/
def eraseToken (token : Int) : DistributedAbilityManagerService :=
  { s with tokenMap := (s.tokenMap.walk (eraseTokenFrom token) false).2 }

/-- The block of `RegisterDeviceSelectionCallback`. -/
def setNotifier (token : Int) (cbType : String) (notifier : RemoteObject) (errNullObject : Int) :
    AbilityOutcome :=
  match s.callbackMap[token]? with
  -- registered at least once
  | some none => ⟨errNullObject, s, []⟩
  | some (some info) =>
    ⟨errOk, { s with
      callbackMap := s.callbackMap.insert token (some (info.setNotifier cbType notifier)) }, []⟩
  -- never registered
  | none =>
    ⟨errOk, { s with
      callbackMap :=
        s.callbackMap.insert token (some (({} : NotifierInfo).setNotifier cbType notifier)) },
      [.addDeathRecipient notifier]⟩

/-- The block of `UnregisterDeviceSelectionCallback`. -/
def deleteNotifier (token : Int) (cbType : String) :
    Option (DistributedAbilityManagerService × List AbilityEffect) :=
  match s.callbackMap[token]? with
  | none => some (s, [])
  | some none => none
  | some (some info) =>
    some ({ s with callbackMap :=
        if (info.deleteNotifier cbType).isNotifierMapEmpty then s.callbackMap.erase token
        else s.callbackMap.insert token (some (info.deleteNotifier cbType)) },
      info.removeDeathRecipient cbType)

/-- `callbackMap_[token]`. -/
def access (token : Int) : DistributedAbilityManagerService × Option NotifierInfo :=
  match s.callbackMap[token]? with
  | some info => (s, info)
  | none => ({ s with callbackMap := s.callbackMap.insert token none }, none)

/-- `callbackMap_[token]->SetConnectStatusInfo(connectStatusInfo)`. -/
def setConnectStatusInfo (token : Int) (connectStatusInfo : ConnectStatusInfo) :
    DistributedAbilityManagerService × Option Unit :=
  match s.access token with
  | (s, some info) =>
    ({ s with callbackMap :=
        s.callbackMap.insert token (some { info with connectStatusInfo := connectStatusInfo }) },
      some ())
  | (s, none) => (s, none)

/-- `callbackMap_[token]->GetNotifier(cbType)`. -/
def getNotifier (token : Int) (cbType : String) :
    DistributedAbilityManagerService × Option (Option RemoteObject) :=
  match s.access token with
  | (s, some info) => (s, some (info.getNotifier cbType))
  | (s, none) => (s, none)

/-- The block of the task of `HandleStartDeviceManager`. -/
def getConnectStatusInfo (token : Int) :
    DistributedAbilityManagerService × Option (Option ConnectStatusInfo) :=
  if s.isNotifierRegistered token then
    match s.access token with
    | (s, some info) => (s, some info.connectStatusInfo)
    | (s, none) => (s, none)
  else (s, some none)

def queryTokenByNotifier (notifier : RemoteObject) : Option Int :=
  findNotifier notifier s.callbackMap.toList

/-! ### The calls -/

/-- `Register`, with the token it gives out; only the mode of the parameters is looked at. -/
def register (continuationMode : Option Int) (accessToken : Nat) :
    (Int × Option Int) × DistributedAbilityManagerService :=
  if continuationMode.any fun continuationMode => !isContinuationModeValid continuationMode then
    ((invalidContinuationMode, none), s)
  else if s.isExceededRegisterMaxNum accessToken then ((registerExceedMaxTimes, none), s)
  else ((errOk, some s.nextToken), s.storeToken.emplaceToken accessToken s.nextToken)

/-- `Unregister`; `postTask` says whether `continuationHandler_` takes the last task. -/
def unregister (postTask : Bool) (accessToken : Nat) (token : Int) : AbilityOutcome :=
  if !s.isTokenRegistered accessToken token then ⟨tokenHasNotRegistered, s, []⟩
  else
    let r := s.eraseCallback token
    ⟨errOk, r.1.eraseToken token, r.2 ++ if postTask then [.disconnectAbility] else []⟩

def registerDeviceSelectionCallback (errNullObject : Int) (accessToken : Nat) (token : Int)
    (cbType : String) (notifier : RemoteObject) : AbilityOutcome :=
  if !isCallbackType cbType then ⟨unknownCallbackType, s, []⟩
  else if !s.isTokenRegistered accessToken token then ⟨tokenHasNotRegistered, s, []⟩
  else if s.isNotifierRegisteredLocked token cbType then ⟨callbackHasRegistered, s, []⟩
  else s.setNotifier token cbType notifier errNullObject

def unregisterDeviceSelectionCallback (accessToken : Nat) (token : Int) (cbType : String) :
    Option AbilityOutcome :=
  if !isCallbackType cbType then some ⟨unknownCallbackType, s, []⟩
  else if !s.isTokenRegistered accessToken token then some ⟨tokenHasNotRegistered, s, []⟩
  else if !s.isNotifierRegisteredLocked token cbType then some ⟨callbackHasNotRegistered, s, []⟩
  else (s.deleteNotifier token cbType).map fun r => ⟨errOk, r.1, r.2⟩

/-- The task of `HandleNotifierDied`. -/
def runNotifierDied (postTask : Bool) (notifier : RemoteObject) :
    DistributedAbilityManagerService × List AbilityEffect :=
  match s.queryTokenByNotifier notifier with
  | none => (s, [])
  | some token =>
    let r := s.eraseCallback token
    (r.1.eraseToken token, r.2 ++ if postTask then [.disconnectAbility] else [])

end DistributedAbilityManagerService

end DistributedSched

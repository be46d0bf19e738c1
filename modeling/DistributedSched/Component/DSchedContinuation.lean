import DistributedSched.Base.EventHandler
import DistributedSched.Library.TreeWalk

/-!
# Component — DSchedContinuation

The table of continuations in progress on the source device: the mission center's callback, the
target device and the free-install flag of each mission, and the handler that holds the
timeouts.  The table only stores and returns callbacks, so their type `κ` is a parameter, and
so is the type `π` of the timeouts' parameters.  Each function is one `continuationLock_` block
or one call of the handler; `notifyMissionCenterResult` is one after the other.
-/

namespace DistributedSched

/-- The state after `Init`: `continuationHandler_` is there. -/
structure DSchedContinuation (κ π : Type) where
  callbackMap : Map Int κ := ∅
  continuationDevices : Map Int String := ∅
  freeInstall : Map Int Bool := ∅
  continuationHandler : EventHandler π := {}

namespace DSchedContinuation

variable {κ π : Type}

/-- A timeout is posted under the id of the mission. -/
def setTimeOut (c : DSchedContinuation κ π) (sent : Bool) (missionId : Int) (param : π)
    (timeout : Int) : DSchedContinuation κ π :=
  { c with continuationHandler := c.continuationHandler.sendEvent sent missionId param timeout }

/-- All timeouts of the mission are taken back. -/
def removeTimeOut (c : DSchedContinuation κ π) (missionId : Int) : DSchedContinuation κ π :=
  { c with continuationHandler := c.continuationHandler.removeEvent missionId }

/-- The flag of the mission; `false` when there is none. -/
def isFreeInstall (c : DSchedContinuation κ π) (missionId : Int) : Bool :=
  c.freeInstall[missionId]?.getD false

/-- A mission is in progress while it has a callback. -/
def isInContinuationProgress (c : DSchedContinuation κ π) (missionId : Int) : Bool :=
  c.callbackMap.contains missionId

/-- The device of the mission; empty when there is none. -/
def getTargetDevice (c : DSchedContinuation κ π) (missionId : Int) : String :=
  c.continuationDevices[missionId]?.getD ""

/-- Refused for a null callback, or while the mission is in progress.  The device is emplaced, so
that an old one would stay, and only a flag that is true is written. -/
def pushCallback (c : DSchedContinuation κ π) (missionId : Int) (callback : Option κ)
    (deviceId : String) (isFreeInstall : Bool) : Bool × DSchedContinuation κ π :=
  match callback with
  | none => (false, c)
  | some callback =>
    if c.callbackMap.contains missionId then (false, c)
    else
      (true, { c with
        callbackMap := c.callbackMap.insertIfNew missionId callback
        continuationDevices := c.continuationDevices.insertIfNew missionId deviceId
        freeInstall :=
          if isFreeInstall then c.freeInstall.insert missionId isFreeInstall else c.freeInstall })

/-- The callback, which leaves with the device and the flag; null when there is none. -/
def popCallback (c : DSchedContinuation κ π) (missionId : Int) :
    Option κ × DSchedContinuation κ π :=
  match c.callbackMap[missionId]? with
  | none => (none, c)
  | some callback =>
    (some callback, { c with
      callbackMap := c.callbackMap.erase missionId
      continuationDevices := c.continuationDevices.erase missionId
      freeInstall := c.freeInstall.erase missionId })

/-- `NotifyMissionCenterResult`: the callback that the result is sent to, when there is one and
the parcel is written. -/
def notifyMissionCenterResult (c : DSchedContinuation κ π) (parcelWrites : Bool)
    (missionId : Int) : Option κ × DSchedContinuation κ π :=
  let (callback, c) := c.popCallback missionId
  (callback.filter fun _ => parcelWrites, c.removeTimeOut missionId)

/-- `ContinuationHandler::ProcessEvent`: the mission the timeout callback is called with, for
ids that are positive as `int32_t`. -/
def processEvent (eventId : Nat) : Option Int :=
  if uint32ToInt32 eventId ≤ 0 then none else some (uint32ToInt32 eventId)

/-! ### What each function does -/

section functions

variable {c : DSchedContinuation κ π} {missionId : Int}

theorem isInContinuationProgress_iff :
    c.isInContinuationProgress missionId = true ↔ c.callbackMap[missionId]? ≠ none := by
  rw [isInContinuationProgress, Std.ExtTreeMap.contains_iff_ne_none]

/-- A mission that is not in progress is accepted. -/
theorem pushCallback_of_none (h : c.callbackMap[missionId]? = none) (callback : κ)
    (deviceId : String) (isFreeInstall : Bool) :
    c.pushCallback missionId (some callback) deviceId isFreeInstall = (true, { c with
      callbackMap := c.callbackMap.insert missionId callback
      continuationDevices := c.continuationDevices.insertIfNew missionId deviceId
      freeInstall := if isFreeInstall then c.freeInstall.insert missionId isFreeInstall
        else c.freeInstall }) := by
  have hn : c.callbackMap.contains missionId = false :=
    Std.ExtTreeMap.contains_eq_false_iff.mpr h
  simp only [pushCallback, hn, Std.ExtTreeMap.insertIfNew_eq_insert h]
  rfl

/-- What is returned is what was there. -/
theorem popCallback_fst : (c.popCallback missionId).1 = c.callbackMap[missionId]? := by
  unfold popCallback
  split <;> simp [*]

/-- The other missions keep their callbacks. -/
theorem popCallback_getElem? (k : Int) :
    (c.popCallback missionId).2.callbackMap[k]? =
      if missionId = k then none else c.callbackMap[k]? := by
  unfold popCallback
  split
  · rename_i hn
    split
    · rename_i hk; exact hk ▸ hn
    · rfl
  · simp [Std.ExtTreeMap.getElem?_erase]

@[simp] theorem popCallback_continuationHandler :
    (c.popCallback missionId).2.continuationHandler = c.continuationHandler := by
  unfold popCallback
  split <;> rfl

end functions

end DSchedContinuation

end DistributedSched

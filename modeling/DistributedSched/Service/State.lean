import DistributedSched.Component.DmsCallbackTask
import DistributedSched.Component.DSchedContinuation

/-!
# Service — the state of DistributedSchedService

The four tables of connections, the counter of connections of each uid, the listener of
component changes, and the two components.  A void function of the service answers the new
service with its effects; a function with a result answers an `Outcome`.

`trackingUidMap_` counts in a `uint32_t`.  Every increment adds a key to
`distributedConnectAbilityMap_`, the address of a live object, so the counter is a `Nat`.
-/

namespace DistributedSched

/-! ### Records of the tables -/

structure ConnectAbilitySession where
  sourceDeviceId : String
  destinationDeviceId : String
  callerInfo : CallerInfo
  targetComponent : TargetComponent := .harmonyComponent
  elementsList : List ElementName := []
deriving DecidableEq

namespace ConnectAbilitySession

def addElement (session : ConnectAbilitySession) (element : ElementName) :
    ConnectAbilitySession :=
  if element ∈ session.elementsList then session
  else { session with elementsList := session.elementsList ++ [element] }

def isSameCaller (session : ConnectAbilitySession) (callerInfo : CallerInfo) : Bool :=
  callerInfo.uid = session.callerInfo.uid &&
    callerInfo.pid = session.callerInfo.pid &&
    callerInfo.sourceDeviceId = session.callerInfo.sourceDeviceId &&
    callerInfo.callerType = session.callerInfo.callerType

/-- The loop of `RemoteConnectAbilityMappingLocked` and `SaveCallerComponent`: the element goes
to the session with the remote device, or to a new session at the end. -/
def addToSessions (localDeviceId remoteDeviceId : String) (element : ElementName)
    (callerInfo : CallerInfo) (targetComponent : TargetComponent) :
    List ConnectAbilitySession → List ConnectAbilitySession
  | [] =>
    [addElement { sourceDeviceId := localDeviceId, destinationDeviceId := remoteDeviceId,
                  callerInfo := callerInfo, targetComponent := targetComponent } element]
  | session :: sessionsList =>
    if remoteDeviceId = session.destinationDeviceId then
      session.addElement element :: sessionsList
    else
      session ::
        addToSessions localDeviceId remoteDeviceId element callerInfo targetComponent sessionsList

end ConnectAbilitySession

structure ConnectInfo where
  callerInfo : CallerInfo
  callbackWrapper : RemoteObject
  element : ElementName
deriving DecidableEq

structure ProcessDiedNotifyInfo where
  remoteDeviceId : String
  callerInfo : CallerInfo
  targetComponent : TargetComponent
deriving DecidableEq

/-! ### The service -/

structure DistributedSchedService where
  distributedConnectAbilityMap : Map RemoteObject (List ConnectAbilitySession) := ∅
  trackingUidMap : Map Int Nat := ∅
  connectAbilityMap : Map RemoteObject ConnectInfo := ∅
  callerMap : Map RemoteObject (List ConnectAbilitySession) := ∅
  calleeMap : Map RemoteObject ConnectInfo := ∅
  distributedComponentListener : Option RemoteObject := none
  dmsCallbackTask : DmsCallbackTask := {}
  dschedContinuation : DSchedContinuation RemoteObject Int := {}
  /-- the address of the next object the service creates -/
  newObject : RemoteObject := 0

/-- What a call leaves: its result, the service, and its effects in their order. -/
structure Outcome where
  result : Int
  service : DistributedSchedService
  effects : List Effect := []

/-! ### Component reports -/

/-- `ReportDistributedComponentChange` of a caller. -/
def CallerInfo.reportDistributedComponentChange (callerInfo : CallerInfo)
    (listener : Option RemoteObject) (connect : RemoteObject) (changeType : ChangeType)
    (componentType : ComponentType) (deviceType : DeviceType) : List Effect :=
  match listener with
  | none => []
  | some _ =>
    [.report connect
      { pid := some callerInfo.pid, uid := callerInfo.uid,
        bundleName := callerInfo.bundleNames.headD "",
        componentType := componentType, deviceType := deviceType, changeType := changeType }]

/-- `ReportDistributedComponentChange` of a connect info. -/
def ConnectInfo.reportDistributedComponentChange (connectInfo : ConnectInfo) (env : Env)
    (listener : Option RemoteObject) (connect : RemoteObject) (changeType : ChangeType)
    (componentType : ComponentType) (deviceType : DeviceType) : List Effect :=
  match listener with
  | none => []
  | some _ =>
    [.report connect
      { pid := none, uid := env.getUidFromBms connectInfo.element.bundleName,
        bundleName := connectInfo.element.bundleName,
        componentType := componentType, deviceType := deviceType, changeType := changeType }]

@[simp] theorem CallerInfo.mem_reportDistributedComponentChange {callerInfo : CallerInfo}
    {listener : Option RemoteObject} {connect : RemoteObject} {changeType : ChangeType}
    {componentType : ComponentType} {deviceType : DeviceType} {e : Effect} :
    e ∈ callerInfo.reportDistributedComponentChange listener connect changeType componentType
        deviceType ↔
      listener ≠ none ∧ e = .report connect
        { pid := some callerInfo.pid, uid := callerInfo.uid,
          bundleName := callerInfo.bundleNames.headD "",
          componentType := componentType, deviceType := deviceType, changeType := changeType } := by
  cases listener <;> simp [reportDistributedComponentChange]

@[simp] theorem ConnectInfo.mem_reportDistributedComponentChange {connectInfo : ConnectInfo}
    {env : Env} {listener : Option RemoteObject} {connect : RemoteObject}
    {changeType : ChangeType} {componentType : ComponentType} {deviceType : DeviceType}
    {e : Effect} :
    e ∈ connectInfo.reportDistributedComponentChange env listener connect changeType componentType
        deviceType ↔
      listener ≠ none ∧ e = .report connect
        { pid := none, uid := env.getUidFromBms connectInfo.element.bundleName,
          bundleName := connectInfo.element.bundleName,
          componentType := componentType, deviceType := deviceType, changeType := changeType } := by
  cases listener <;> simp [reportDistributedComponentChange]

namespace DistributedSchedService

def registerDistributedComponentListener (s : DistributedSchedService)
    (callback : Option RemoteObject) : Outcome :=
  match callback with
  | none => ⟨invalidParametersErr, s, []⟩
  | some callback => ⟨errOk, { s with distributedComponentListener := some callback }, []⟩

end DistributedSchedService

end DistributedSched

import DistributedSched.Service.State

/-!
# Service — the component list

`GetDistributedComponentList` lists the connects of the four tables, as the reports of the listener
name them: the caller of a connect that this device has made, the bundle of one that was made to it.
-/

namespace DistributedSched

/-- What is listed of a connect: a report without the change. -/
structure Component where
  pid : Option Int
  uid : Int
  bundleName : String
  componentType : ComponentType
  deviceType : DeviceType
deriving DecidableEq

def ComponentInfo.component (info : ComponentInfo) : Component :=
  ⟨info.pid, info.uid, info.bundleName, info.componentType, info.deviceType⟩

def CallerInfo.component (callerInfo : CallerInfo) (componentType : ComponentType) : Component :=
  ⟨some callerInfo.pid, callerInfo.uid, callerInfo.bundleNames.headD "", componentType, .caller⟩

def ConnectInfo.component (connectInfo : ConnectInfo) (getUidFromBms : String → Int)
    (componentType : ComponentType) : Component :=
  ⟨none, getUidFromBms connectInfo.element.bundleName, connectInfo.element.bundleName,
    componentType, .callee⟩

/-- The caller of the first session; an entry without sessions is passed over. -/
def sessionsComponent (componentType : ComponentType) (sessionsList : List ConnectAbilitySession) :
    Option Component :=
  sessionsList.head?.map fun session => session.callerInfo.component componentType

namespace DistributedSchedService

/-- The body of `GetConnectComponentList` and `GetCallComponentList`. -/
def componentList (getUidFromBms : String → Int) (componentType : ComponentType)
    (callers : Map RemoteObject (List ConnectAbilitySession))
    (callees : Map RemoteObject ConnectInfo) (distributedComponents : List Component) :
    List Component :=
  distributedComponents ++
    callers.toList.filterMap (fun iter => sessionsComponent componentType iter.2) ++
    callees.toList.map fun iter => iter.2.component getUidFromBms componentType

variable (getUidFromBms : String → Int) (s : DistributedSchedService)

def getConnectComponentList (distributedComponents : List Component) : List Component :=
  componentList getUidFromBms .connect s.distributedConnectAbilityMap s.connectAbilityMap
    distributedComponents

def getCallComponentList (distributedComponents : List Component) : List Component :=
  componentList getUidFromBms .call s.callerMap s.calleeMap distributedComponents

def getDistributedComponentList (distributedComponents : List Component) : Int × List Component :=
  (errOk, s.getCallComponentList getUidFromBms
    (s.getConnectComponentList getUidFromBms distributedComponents))

end DistributedSchedService

end DistributedSched

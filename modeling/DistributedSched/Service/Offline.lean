import DistributedSched.Service.Call
import DistributedSched.Service.Connect
import DistributedSched.Service.ConnectFromRemote

/-!
# Service — a device goes offline

`ProcessDeviceOffline` goes through the four tables that can name the device, one lock after
the other.
-/

namespace DistributedSched.DistributedSchedService

variable (env : Env) (s : DistributedSchedService)

def processFreeInstallOffline (deviceId : String) : DistributedSchedService × List Effect :=
  let r := DmsCallbackTask.notifyDeviceOffline env s.dmsCallbackTask deviceId
  ({ s with dmsCallbackTask := r.1 }, r.2)

def processDeviceOffline (deviceId : String) : DistributedSchedService × List Effect :=
  match env.checkedLocalId deviceId with
  | none => (s, [])
  | some _ =>
    let distributed := s.processDistributedOffline env deviceId
    let connect := distributed.1.processConnectOffline env deviceId
    let callee := connect.1.processCalleeOffline deviceId
    let freeInstall := callee.1.processFreeInstallOffline env deviceId
    (freeInstall.1, distributed.2 ++ connect.2 ++ callee.2 ++ freeInstall.2)

end DistributedSched.DistributedSchedService

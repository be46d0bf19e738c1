import DistributedSched.Ability.LiveTokens
import DistributedSched.Ability.Messages
import DistributedSched.Ability.Panel
import DistributedSched.Ability.Selection
import DistributedSched.Ability.Watch
import DistributedSched.Access.RemoteCallers
import DistributedSched.Access.Rules
import DistributedSched.Call.Releases
import DistributedSched.Connect.Agreement
import DistributedSched.Connect.Components
import DistributedSched.Connect.Counter
import DistributedSched.Connect.Death
import DistributedSched.Connect.Limit
import DistributedSched.Connect.Offline
import DistributedSched.Connect.Reports
import DistributedSched.Connect.Wrappers
import DistributedSched.Continuation.Answers
import DistributedSched.Continuation.Callbacks
import DistributedSched.Continuation.Rejected
import DistributedSched.Continuation.Results
import DistributedSched.Device.InfoStorage
import DistributedSched.Device.Softbus
import DistributedSched.FreeInstall.Answers
import DistributedSched.FreeInstall.Continuations
import DistributedSched.FreeInstall.Rejected
import DistributedSched.FreeInstall.Timers
import DistributedSched.Mission.Agreement
import DistributedSched.Mission.Cache
import DistributedSched.Mission.Convergence
import DistributedSched.Mission.Listeners
import DistributedSched.Mission.Registration
import DistributedSched.Mission.RemoteDms
import DistributedSched.Mission.Retry
import DistributedSched.Mission.Served
import DistributedSched.Mission.SnapshotChanges
import DistributedSched.Mission.SnapshotStore
import DistributedSched.Network.FreeInstalls
import DistributedSched.Wire.Refusals
import DistributedSched.Wire.RoundTrip
import DistributedSched.Wire.Rpc
import DistributedSched.Wire.SnapshotBytes

import DistributedSched.Library.Refresh
import DistributedSched.Library.Runs
import DistributedSched.Mission.Manager
import DistributedSched.Mission.SnapshotKeys
import DistributedSched.Wire.SnapshotBytes

/-!
# Mission — the store of snapshots

A device that shares its missions keeps their snapshots in the distributed store, where the others
read them.  The ability manager tells the listener of each change.  The listener posts a task to
`missionChangeHandler_`, for a created mission a delayed one, and the task reads the snapshot from
the ability manager and puts it into the store, or deletes it.  When the listener is registered,
`InitAllSnapshots` does the same on `missionHandler_` for the missions of a list.

A task that reads and then puts is two steps, so anything may come in between.

* `SnapshotShare.missed`: the missions that are not kept up, because a change was not told, a task
  failed, or `InitAllSnapshots` put what had been replaced since it was read.
* `stored_snapshots_follow`: of any other mission of which nothing is under way, the store has
  exactly the snapshot that the ability manager has, and another device makes the same of it.
* `destroyed_mission_stored`: a mission that is destroyed while `InitAllSnapshots` holds its
  snapshot stays in the store.
-/

namespace DistributedSched

open Std (ExtTreeMap)
open ChangeNotice (Follows)
open Coding (wordBytes)

/-- What the tasks are answered. -/
structure StoreEnv extends MissionEnv where
  /-- of `GetMissionSnapshot` -/
  getMissionSnapshot : Int := errOk
  /-- whether the status of `Put` and of `Delete` is `SUCCESS` -/
  status : Bool := true

/-! ### DistributedDataStorage -/

structure DistributedDataStorage where
  /-- whether it is not null -/
  kvStorePtr : Bool := false
  store : Map String (List UInt8) := ∅

namespace DistributedDataStorage

variable (env : StoreEnv) (s : DistributedDataStorage)

def insertInnerLocked (uuid : String) (missionId : Int) (byteStream : List UInt8) :
    Option DistributedDataStorage :=
  if !s.kvStorePtr then none
  else if !env.status then none
  else some { s with store := s.store.insert (generateKey uuid missionId) byteStream }

def insert (networkId : String) (missionId : Int) (byteStream : List UInt8) :
    Option DistributedDataStorage :=
  if networkId = "" then none
  else if missionId < 0 then none
  else
    let uuid := env.getUuidByNetworkId networkId
    if uuid = "" then none else s.insertInnerLocked env uuid missionId byteStream

def deleteInnerLocked (uuid : String) (missionId : Int) : Option DistributedDataStorage :=
  if !s.kvStorePtr then none
  else if !env.status then none
  else some { s with store := s.store.erase (generateKey uuid missionId) }

def delete (networkId : String) (missionId : Int) : Option DistributedDataStorage :=
  if networkId = "" then none
  else if missionId < 0 then none
  else
    let uuid := env.getUuidByNetworkId networkId
    if uuid = "" then none else s.deleteInnerLocked env uuid missionId

end DistributedDataStorage

/-! ### A task of the mission manager -/

/-- `ConvertToSnapshot`. -/
def SnapshotConverter.convertToSnapshot {π : Type} (pixelMap : π) : FullSnapshot π :=
  { version := 200, orientation := 0, rect := some {}, reducedResolution := true, scale := 0
    isRealSnapshot := true, windowingMode := 0, systemUiVisibility := 0, isTranslucent := true
    windowBounds := some {}, appLabel := [], abilityLabel := [], icon := [], secAppLabel := []
    secAbilityLabel := [], secIcon := [], sourceDeviceTips := [], pixelMap := some pixelMap }

section functions

variable (p : ParcelPrimitives) {π : Type} (images : ImageFramework π) (env : StoreEnv)

/-- `MissionSnapshotSequence` of a snapshot with an image, from an empty parcel. -/
def missionSnapshotSequence (snapshot : SnapshotInfo) (pixelMap : π) : Option (List UInt8) :=
  (writeSnapshotInfo p snapshot []).bind (writePixelMap p images pixelMap)

/-- The bytes that a task makes of what the ability manager gives. -/
def byteStreamOf (pixelMap : π) : Option (List UInt8) :=
  missionSnapshotSequence p images
    (SnapshotConverter.convertToSnapshot pixelMap).toSnapshotInfo pixelMap

/-- `GetLocalMissionSnapshotInfo`, of a mission whose snapshot is `snapshot`. -/
def getLocalMissionSnapshotInfo (snapshot : Option π) : Except Int π :=
  if env.getMissionSnapshot ≠ errOk then .error env.getMissionSnapshot
  else match snapshot with
    | none => .error env.errNullObject.1
    | some pixelMap => .ok pixelMap

/-- A snapshot on its way into the store. -/
structure Refresh where
  missionId : Int
  networkId : String
  byteStream : List UInt8
deriving DecidableEq

/-- `MissionSnapshotChanged`, as far as the bytes to be stored. -/
def missionSnapshotChanged (missionId : Int) (snapshot : Option π) : Except Int Refresh :=
  match env.localDeviceId with
  | none => .error invalidParametersErr
  | some networkId =>
    match getLocalMissionSnapshotInfo env snapshot with
    | .error errCode => .error errCode
    | .ok pixelMap =>
      match byteStreamOf p images pixelMap with
      | none => .error env.errFlattenObject.1
      | some byteStream => .ok { missionId, networkId, byteStream }

/-- `StoreSnapshotInfo`: the storage, or the error. -/
def storeSnapshotInfo (storage : Option DistributedDataStorage) (refresh : Refresh) :
    Except Int DistributedDataStorage :=
  match storage with
  | none => .error env.errNullObject.1
  | some s =>
    match s.insert env refresh.networkId refresh.missionId refresh.byteStream with
    | none => .error invalidParametersErr
    | some s => .ok s

/-- `RemoveSnapshotInfo`. -/
def removeSnapshotInfo (storage : Option DistributedDataStorage) (deviceId : String)
    (missionId : Int) : Except Int DistributedDataStorage :=
  match storage with
  | none => .error env.errNullObject.1
  | some s =>
    match s.delete env deviceId missionId with
    | none => .error invalidParametersErr
    | some s => .ok s

def missionSnapshotDestroyed (storage : Option DistributedDataStorage) (missionId : Int) :
    Except Int DistributedDataStorage :=
  match env.localDeviceId with
  | none => .error invalidParametersErr
  | some networkId => removeSnapshotInfo env storage networkId missionId

end functions

/-! ### A device that shares its missions -/

/-- A call of the listener that the ability manager makes, and the task it posts. -/
inductive MissionNotice where
  | created (missionId : Int)
  | destroyed (missionId : Int)
  | snapshotChanged (missionId : Int)
deriving DecidableEq

namespace MissionNotice

def missionId : MissionNotice → Int
  | created missionId => missionId
  | destroyed missionId => missionId
  | snapshotChanged missionId => missionId

/-- `NotifyMissionSnapshotCreated` posts a delayed task. -/
def change : MissionNotice → ChangeNotice Int
  | created missionId => .refresh missionId true
  | destroyed missionId => .remove missionId
  | snapshotChanged missionId => .refresh missionId false

end MissionNotice

structure SnapshotShare (π : Type) where
  manager : DistributedSchedMissionManager := {}
  distributedDataStorage : Option DistributedDataStorage := none
  /-- the snapshots of the ability manager -/
  snapshots : Map Int π := ∅
  /-- whether `missonChangeListener_` is registered there -/
  listening : Bool := false
  /-- the calls that are on their way to the listener -/
  notices : List MissionNotice := []
  /-- the tasks of `missionChangeHandler_`, as they were posted -/
  changeTasks : List MissionNotice := []
  /-- what the running one has read -/
  refreshing : Option Refresh := none
  /-- what `InitAllSnapshots` has left to read, and what it has read -/
  initialising : List Int := []
  initRefresh : Option Refresh := none
  missed : List Int := []

/-- The device by its network id and its uuid. -/
structure LocalDevice where
  networkId : String
  uuid : String

namespace SnapshotShare

section functions

variable (p : ParcelPrimitives) {π : Type} (images : ImageFramework π) (device : LocalDevice)
  (env : StoreEnv) (w : SnapshotShare π)

/-- What the store has for a mission of the device. -/
def stored (missionId : Int) : Option (List UInt8) :=
  w.distributedDataStorage.bind fun s => s.store[generateKey device.uuid missionId]?

/-- The ability manager has a snapshot of the mission with these bytes, or it has none. -/
def Shows (missionId : Int) (byteStream : Option (List UInt8)) : Prop :=
  byteStream.map some = w.snapshots[missionId]?.map (byteStreamOf p images)

instance (missionId : Int) (byteStream : Option (List UInt8)) :
    Decidable (w.Shows p images missionId byteStream) :=
  inferInstanceAs (Decidable (_ = _))

/-- The store has the snapshot of the mission, or neither has one. -/
def Agrees (missionId : Int) : Prop := w.Shows p images missionId (w.stored device missionId)

/-- A notice, a task or a snapshot that was read is under way. -/
def UnderWay (missionId : Int) : Prop :=
  missionId ∈ (w.changeTasks ++ w.notices).map MissionNotice.missionId ∨
    w.refreshing.any (·.missionId = missionId) = true

instance (missionId : Int) : Decidable (w.UnderWay missionId) :=
  inferInstanceAs (Decidable (_ ∨ _))

def miss (missionId : Int) : SnapshotShare π := { w with missed := missionId :: w.missed }

def caughtUp (missionId : Int) : SnapshotShare π :=
  { w with missed := w.missed.filter (· ≠ missionId) }

/-- A mission is kept up again when the ability manager still has what was put, or still has
nothing, and nothing else comes. -/
def settle (missionId : Int) (byteStream : Option (List UInt8)) : SnapshotShare π :=
  if w.Shows p images missionId byteStream ∧ ¬ w.UnderWay missionId then w.caughtUp missionId
  else w

/-! #### The ability manager -/

/-- A change that the listener is told, when it is registered. -/
def tell (notice : MissionNotice) : SnapshotShare π :=
  if w.listening then { w.caughtUp notice.missionId with notices := w.notices ++ [notice] }
  else w.miss notice.missionId

/-- A mission is created; its snapshot may come later. -/
def createMission (missionId : Int) : Option π → SnapshotShare π
  | none => if w.listening then { w with notices := w.notices ++ [.created missionId] } else w
  | some snapshot =>
    { w with snapshots := w.snapshots.insert missionId snapshot }.tell (.created missionId)

def changeSnapshot (missionId : Int) (snapshot : π) : SnapshotShare π :=
  { w with snapshots := w.snapshots.insert missionId snapshot }.tell (.snapshotChanged missionId)

def destroyMission (missionId : Int) : SnapshotShare π :=
  { w with snapshots := w.snapshots.erase missionId }.tell (.destroyed missionId)

/-- The listener is called, and posts its task when `PostTask` succeeds. -/
def onMission (posted : Bool) : Option (SnapshotShare π) :=
  match w.notices with
  | [] => none
  | notice :: notices =>
    if posted then
      some { w with notices := notices, changeTasks := w.changeTasks ++ [notice] }
    else some ({ w with notices := notices }.miss notice.missionId)

/-! #### The handlers -/

/-- `InitDataStorage`. -/
def initDataStorage : SnapshotShare π :=
  match w.distributedDataStorage with
  | none => { w with distributedDataStorage := some {} }
  | some _ => w

/-- `GetKvStore`, with what `kvStorePtr_` is after it. -/
def getKvStore (kvStorePtr : Bool) : SnapshotShare π :=
  { w with distributedDataStorage := w.distributedDataStorage.map fun s => { s with kvStorePtr } }

/-- What the effects of a task do to the registration. -/
def hear (listening : Bool) : MissionEffect → Bool
  | .amsRegisterMissionListener => listening || env.amsRegisterMissionListener = errOk
  | .amsUnRegisterMissionListener => listening && env.amsUnRegisterMissionListener ≠ errOk
  | _ => listening

def MissionEffect.initialises : MissionEffect → List Int
  | .initAllSnapshots missionInfos => missionInfos.map DstbMissionInfo.id
  | _ => []

/-- A task of `missionHandler_`, which runs one at a time. -/
def runMissionTask (task : MissionTask) : Option (SnapshotShare π) :=
  if w.initialising = [] ∧ w.initRefresh = none then
    let r := w.manager.runTask env.toMissionEnv task
    some { w with
      manager := r.1
      listening := r.2.foldl (hear env) w.listening
      initialising := r.2.flatMap MissionEffect.initialises }
  else none

/-- `InitAllSnapshots` reads the snapshot of the next mission. -/
def initRead : Option (SnapshotShare π) :=
  if w.initRefresh = none then
    match w.initialising with
    | [] => none
    | missionId :: missionIds =>
      let w := { w with initialising := missionIds }
      match missionSnapshotChanged p images env missionId w.snapshots[missionId]? with
      | .error _ => some w
      | .ok refresh => some { w with initRefresh := some refresh }
  else none

/-- It stores what it has read. -/
def initStore : Option (SnapshotShare π) :=
  match w.initRefresh with
  | none => none
  | some refresh =>
    let w := { w with initRefresh := none }
    match storeSnapshotInfo env w.distributedDataStorage refresh with
    | .error _ => some w
    | .ok s =>
      let w := { w with distributedDataStorage := some s }
      if w.Shows p images refresh.missionId refresh.byteStream then
        some (w.settle p images refresh.missionId refresh.byteStream)
      else some (w.miss refresh.missionId)

/-- A task of `missionChangeHandler_` that reads. -/
def refresh (missionId : Int) : SnapshotShare π :=
  match missionSnapshotChanged p images env missionId w.snapshots[missionId]? with
  | .error _ => if w.snapshots.contains missionId then w.miss missionId else w
  | .ok refresh => { w with refreshing := some refresh }

/-- The task of `NotifyMissionSnapshotDestroyed`. -/
def remove (missionId : Int) : SnapshotShare π :=
  match missionSnapshotDestroyed env w.distributedDataStorage missionId with
  | .error _ => w.miss missionId
  | .ok s => { w with distributedDataStorage := some s }.settle p images missionId none

def runNotice : MissionNotice → SnapshotShare π
  | .created missionId => w.refresh p images env missionId
  | .snapshotChanged missionId => w.refresh p images env missionId
  | .destroyed missionId => w.remove p images env missionId

/-- A task of `missionChangeHandler_` runs: none but delayed ones were posted before it. -/
def runChangeTask (i : Nat) : Option (SnapshotShare π) :=
  if w.refreshing = none ∧ ∀ task ∈ w.changeTasks.take i, task.change.delayed = true then
    match w.changeTasks[i]? with
    | none => none
    | some task =>
      some ({ w with changeTasks := w.changeTasks.eraseIdx i }.runNotice p images env task)
  else none

/-- The running task stores what it has read. -/
def storeRefresh : Option (SnapshotShare π) :=
  match w.refreshing with
  | none => none
  | some refresh =>
    let w := { w with refreshing := none }
    match storeSnapshotInfo env w.distributedDataStorage refresh with
    | .error _ => some (w.miss refresh.missionId)
    | .ok s =>
      some ({ w with distributedDataStorage := some s }.settle p images refresh.missionId
        refresh.byteStream)

end functions

end SnapshotShare

inductive ShareStep (π : Type) where
  | createMission (missionId : Int) (snapshot : Option π)
  | changeSnapshot (missionId : Int) (snapshot : π)
  | destroyMission (missionId : Int)
  | onMission (posted : Bool)
  | initDataStorage
  | getKvStore (kvStorePtr : Bool)
  | runMissionTask (env : StoreEnv) (task : MissionTask)
  | initRead (env : StoreEnv)
  | initStore (env : StoreEnv)
  | runChangeTask (env : StoreEnv) (i : Nat)
  | storeRefresh (env : StoreEnv)

namespace ShareStep

section apply

variable (p : ParcelPrimitives) {π : Type} (images : ImageFramework π)

def apply (w : SnapshotShare π) : ShareStep π → Option (SnapshotShare π)
  | createMission missionId snapshot => some (w.createMission missionId snapshot)
  | changeSnapshot missionId snapshot => some (w.changeSnapshot missionId snapshot)
  | destroyMission missionId => some (w.destroyMission missionId)
  | onMission posted => w.onMission posted
  | initDataStorage => some w.initDataStorage
  | getKvStore kvStorePtr => some (w.getKvStore kvStorePtr)
  | runMissionTask env task => w.runMissionTask env task
  | initRead env => w.initRead p images env
  | initStore env => w.initStore p images env
  | runChangeTask env i => w.runChangeTask p images env i
  | storeRefresh env => w.storeRefresh p images env

end apply

/-- The answers about the device itself: its ids, or that they are not known. -/
def IsLocal (device : LocalDevice) (env : StoreEnv) : Prop :=
  (env.localDeviceId = none ∨ env.localDeviceId = some device.networkId) ∧
    (env.getUuidByNetworkId device.networkId = "" ∨
      env.getUuidByNetworkId device.networkId = device.uuid)

instance (device : LocalDevice) (env : StoreEnv) : Decidable (IsLocal device env) :=
  inferInstanceAs (Decidable ((_ ∨ _) ∧ (_ ∨ _)))

/-- Every step is answered so. -/
def OnDevice {π : Type} (device : LocalDevice) : ShareStep π → Prop
  | initRead env => IsLocal device env
  | initStore env => IsLocal device env
  | runChangeTask env _ => IsLocal device env
  | storeRefresh env => IsLocal device env
  | _ => True

instance {π : Type} (device : LocalDevice) :
    (step : ShareStep π) → Decidable (step.OnDevice device)
  | initRead env | initStore env | runChangeTask env _ | storeRefresh env =>
    inferInstanceAs (Decidable (IsLocal device env))
  | createMission .. | changeSnapshot .. | destroyMission _ | onMission _ | initDataStorage
  | getKvStore _ | runMissionTask .. => isTrue trivial

end ShareStep

/-! ### The tasks -/

section tasks

variable {p : ParcelPrimitives} {π : Type} {images : ImageFramework π} {device : LocalDevice}
  {env : StoreEnv} {missionId : Int}

/-- Missions of one device have keys of their own. -/
theorem generateKey_inj (uuid : String) {i j : Int} (h : generateKey uuid i = generateKey uuid j) :
    i = j := by
  rw [generateKey_eq, generateKey_eq] at h
  have htext := congrArg String.toList h
  rw [toList_generateKeyInfo, toList_generateKeyInfo] at htext
  obtain ⟨-, hid⟩ := List.cons.inj (List.append_cancel_left htext)
  exact Int.repr_injective (String.toList_injective hid)

theorem getLocalMissionSnapshotInfo_ok {snapshot : Option π} {pixelMap : π}
    (h : getLocalMissionSnapshotInfo env snapshot = .ok pixelMap) : snapshot = some pixelMap := by
  unfold getLocalMissionSnapshotInfo at h
  split at h
  · cases h
  · cases snapshot <;> cases h
    rfl

/-- A task reads the snapshot that the ability manager has then. -/
theorem missionSnapshotChanged_ok {snapshot : Option π} {refresh : Refresh}
    (h : missionSnapshotChanged p images env missionId snapshot = .ok refresh) :
    env.localDeviceId = some refresh.networkId ∧ refresh.missionId = missionId ∧
      snapshot.map (byteStreamOf p images) = some (some refresh.byteStream) := by
  unfold missionSnapshotChanged at h
  split at h
  · cases h
  split at h
  · cases h
  split at h <;> cases h
  rename_i networkId hid _ pixelMap hs _ byteStream hb
  rw [getLocalMissionSnapshotInfo_ok hs, Option.map_some, hb]
  exact ⟨hid, rfl, rfl⟩

/-- A snapshot is stored under the key of its mission. -/
theorem storeSnapshotInfo_ok {storage : Option DistributedDataStorage} {refresh : Refresh}
    {s' : DistributedDataStorage} (h : storeSnapshotInfo env storage refresh = .ok s') :
    env.getUuidByNetworkId refresh.networkId ≠ "" ∧ ∃ s, storage = some s ∧
      s'.store = s.store.insert (generateKey (env.getUuidByNetworkId refresh.networkId)
        refresh.missionId) refresh.byteStream := by
  cases storage with
  | none => cases h
  | some s =>
      simp only [storeSnapshotInfo] at h
      cases hi : s.insert env refresh.networkId refresh.missionId refresh.byteStream with
      | none =>
          rw [hi] at h
          cases h
      | some s₁ =>
          rw [hi] at h
          cases h
          unfold DistributedDataStorage.insert at hi
          obtain ⟨-, hi⟩ := Option.ite_none_left_eq_some.mp hi
          obtain ⟨-, hi⟩ := Option.ite_none_left_eq_some.mp hi
          obtain ⟨huuid, hi⟩ := Option.ite_none_left_eq_some.mp hi
          obtain ⟨-, hi⟩ := Option.ite_none_left_eq_some.mp hi
          obtain ⟨-, hi⟩ := Option.ite_none_left_eq_some.mp hi
          cases hi
          exact ⟨huuid, s, rfl, rfl⟩

theorem missionSnapshotDestroyed_ok {storage : Option DistributedDataStorage}
    {s' : DistributedDataStorage}
    (h : missionSnapshotDestroyed env storage missionId = .ok s') :
    ∃ networkId, env.localDeviceId = some networkId ∧ env.getUuidByNetworkId networkId ≠ "" ∧
      ∃ s, storage = some s ∧
        s'.store = s.store.erase (generateKey (env.getUuidByNetworkId networkId) missionId) := by
  unfold missionSnapshotDestroyed at h
  split at h
  · cases h
  rename_i networkId hid
  cases storage with
  | none => cases h
  | some s =>
      simp only [removeSnapshotInfo] at h
      cases hd : s.delete env networkId missionId with
      | none =>
          rw [hd] at h
          cases h
      | some s₁ =>
          rw [hd] at h
          cases h
          unfold DistributedDataStorage.delete at hd
          obtain ⟨-, hd⟩ := Option.ite_none_left_eq_some.mp hd
          obtain ⟨-, hd⟩ := Option.ite_none_left_eq_some.mp hd
          obtain ⟨huuid, hd⟩ := Option.ite_none_left_eq_some.mp hd
          obtain ⟨-, hd⟩ := Option.ite_none_left_eq_some.mp hd
          obtain ⟨-, hd⟩ := Option.ite_none_left_eq_some.mp hd
          cases hd
          exact ⟨networkId, hid, huuid, s, rfl, rfl⟩

end tasks

namespace ShareStep.IsLocal

variable {device : LocalDevice} {env : StoreEnv}

theorem networkId (h : ShareStep.IsLocal device env) {networkId : String}
    (hid : env.localDeviceId = some networkId) : networkId = device.networkId := by
  rcases h.1 with hnone | hsome
  · rw [hnone] at hid
    cases hid
  · exact Option.some.inj (hid.symm.trans hsome)

theorem uuid (h : ShareStep.IsLocal device env)
    (huuid : env.getUuidByNetworkId device.networkId ≠ "") :
    env.getUuidByNetworkId device.networkId = device.uuid :=
  h.2.resolve_left huuid

end ShareStep.IsLocal

/-! ### What is kept -/

namespace SnapshotShare

variable {p : ParcelPrimitives} {π : Type} {images : ImageFramework π} {device : LocalDevice}
  {env : StoreEnv} {w : SnapshotShare π} {i : Int}

section definitions

variable (p images device) (w : SnapshotShare π) (missionId : Int)

/-- What the ability manager has for a mission. -/
def source : Option (Option (List UInt8)) := w.snapshots[missionId]?.map (byteStreamOf p images)

/-- What the store has, or is about to have. -/
def due : Option (Option (List UInt8)) :=
  match w.refreshing with
  | some refresh =>
    if refresh.missionId = missionId then some (some refresh.byteStream)
    else (w.stored device missionId).map some
  | none => (w.stored device missionId).map some

/-- The changes that are to be handled, in their order. -/
def changes : List (ChangeNotice Int) := (w.changeTasks ++ w.notices).map MissionNotice.change

def Kept : Prop :=
  Follows missionId (w.source p images missionId) (w.due device missionId) w.changes

structure Inv : Prop where
  kept : ∀ i ∉ w.missed, w.Kept p images device i
  refreshing : ∀ r : Refresh, w.refreshing = some r → r.networkId = device.networkId
  initRefresh : ∀ r : Refresh, w.initRefresh = some r → r.networkId = device.networkId

end definitions

theorem Inv.init : Inv p images device ({} : SnapshotShare π) where
  kept i _ := .inr rfl
  refreshing r h := by cases h
  initRefresh r h := by cases h

@[simp] theorem key_change (n : MissionNotice) : n.change.key = n.missionId := by
  cases n <;> rfl

/-- A mission that fell behind is put on the list. -/
theorem Inv.miss (hk : ∀ j ∉ w.missed, j ≠ i → w.Kept p images device j)
    (hr : ∀ r : Refresh, w.refreshing = some r → r.networkId = device.networkId)
    (hi : ∀ r : Refresh, w.initRefresh = some r → r.networkId = device.networkId) :
    (w.miss i).Inv p images device where
  kept j hj := hk j (fun hm => hj (List.mem_cons_of_mem _ hm)) fun h => hj (h ▸ List.mem_cons_self)
  refreshing := hr
  initRefresh := hi

theorem not_mem_caughtUp {j : Int} (hj : j ∉ (w.caughtUp i).missed) : j = i ∨ j ∉ w.missed := by
  by_cases h : j = i
  · exact .inl h
  · exact .inr fun hm => hj (List.mem_filter.mpr ⟨hm, decide_eq_true h⟩)

/-- Of a mission that has its snapshot, nothing must be under way. -/
theorem Inv.settle (h : w.Inv p images device) {i : Int} {byteStream : Option (List UInt8)}
    (hstored : w.stored device i = byteStream) :
    (w.settle p images i byteStream).Inv p images device := by
  unfold SnapshotShare.settle
  split
  · rename_i hs
    obtain ⟨hshows, hno⟩ := hs
    refine ⟨fun j hj => ?_, h.refreshing, h.initRefresh⟩
    rcases not_mem_caughtUp hj with rfl | hj
    · have hdue : w.due device j = (w.stored device j).map some := by
        unfold due
        cases hr : w.refreshing with
        | none => rfl
        | some r =>
            simp only [UnderWay, hr] at hno
            exact if_neg fun heq => hno (.inr (by simpa using heq))
      rw [hstored] at hdue
      refine ChangeNotice.Follows.of_eq (hdue.trans hshows) fun n hn heq => hno (.inl ?_)
      obtain ⟨notice, hm, rfl⟩ := List.mem_map.mp hn
      exact List.mem_map.mpr ⟨notice, hm, (key_change notice).symm.trans heq⟩
    · exact h.kept j hj
  · exact h

/-! #### The ability manager -/

/-- A notice is told behind the others. -/
theorem changes_append (w : SnapshotShare π) (notice : MissionNotice) :
    (w.changeTasks ++ (w.notices ++ [notice])).map MissionNotice.change =
      w.changes ++ [notice.change] := by
  rw [← List.append_assoc, List.map_append]
  rfl

/-- A change of one snapshot, with its notice. -/
theorem Inv.tell (h : w.Inv p images device) {snapshots : Map Int π} (notice : MissionNotice)
    (hother : ∀ j, j ≠ notice.missionId → snapshots[j]? = w.snapshots[j]?)
    (hnotice : ∀ due l, Follows notice.missionId
      (snapshots[notice.missionId]?.map (byteStreamOf p images)) due (l ++ [notice.change])) :
    ({ w with snapshots }.tell notice).Inv p images device := by
  have hsource : ∀ j, j ≠ notice.missionId →
      snapshots[j]?.map (byteStreamOf p images) = w.source p images j := fun j hj => by
    rw [source, hother j hj]
  unfold SnapshotShare.tell
  split
  · refine ⟨fun j hj => ?_, h.refreshing, h.initRefresh⟩
    show Follows j (snapshots[j]?.map (byteStreamOf p images)) (w.due device j)
      ((w.changeTasks ++ (w.notices ++ [notice])).map MissionNotice.change)
    rw [changes_append]
    by_cases hne : j = notice.missionId
    · subst hne
      exact hnotice _ _
    · rw [hsource j hne]
      refine (h.kept j ((not_mem_caughtUp hj).resolve_left hne)).other ?_
      rw [key_change]
      exact Ne.symm hne
  · refine .miss (fun j hj hne => ?_) h.refreshing h.initRefresh
    show Follows j (snapshots[j]?.map (byteStreamOf p images)) (w.due device j) w.changes
    rw [hsource j hne]
    exact h.kept j hj

theorem getElem?_insert_of_ne (m : Map Int π) (v : π) {j : Int} (hj : j ≠ i) :
    (m.insert i v)[j]? = m[j]? := by
  rw [ExtTreeMap.getElem?_insert, if_neg (by simpa using Ne.symm hj)]

theorem Inv.createMission (h : w.Inv p images device) (i : Int) (snapshot : Option π) :
    (w.createMission i snapshot).Inv p images device := by
  cases snapshot with
  | none =>
      show (if w.listening then { w with notices := w.notices ++ [.created i] } else w).Inv _ _ _
      split
      · refine ⟨fun j hj => ?_, h.refreshing, h.initRefresh⟩
        show Follows j (w.source p images j) (w.due device j)
          ((w.changeTasks ++ (w.notices ++ [MissionNotice.created i])).map MissionNotice.change)
        rw [changes_append]
        by_cases hne : i = j
        · subst hne
          exact (h.kept i hj).again
        · exact (h.kept j hj).other hne
      · exact h
  | some snapshot =>
      refine h.tell (.created i) (fun j hj => getElem?_insert_of_ne _ _ hj) fun due l => ?_
      rw [MissionNotice.missionId, ExtTreeMap.getElem?_insert_self]
      exact .set

theorem Inv.changeSnapshot (h : w.Inv p images device) (i : Int) (snapshot : π) :
    (w.changeSnapshot i snapshot).Inv p images device := by
  refine h.tell (.snapshotChanged i) (fun j hj => getElem?_insert_of_ne _ _ hj)
    fun due l => ?_
  rw [MissionNotice.missionId, ExtTreeMap.getElem?_insert_self]
  exact .set

theorem Inv.destroyMission (h : w.Inv p images device) (i : Int) :
    (w.destroyMission i).Inv p images device := by
  refine h.tell (.destroyed i) (fun j hj => ?_) fun due l => ?_
  · have hne : i ≠ j := Ne.symm hj
    rw [ExtTreeMap.getElem?_erase, if_neg (by simpa using hne)]
  · rw [MissionNotice.missionId, ExtTreeMap.getElem?_erase_self]
    exact .unset

/-! #### The handlers -/

/-- The call of a notice that is lost. -/
theorem Kept.lost (hk : w.Kept p images device i) {w' : SnapshotShare π} {n : MissionNotice}
    {l l' : List (ChangeNotice Int)} (hs : w'.source p images i = w.source p images i)
    (hd : w'.due device i = w.due device i) (hc : w.changes = l ++ n.change :: l')
    (hc' : w'.changes = l ++ l') (hne : n.missionId ≠ i) : w'.Kept p images device i := by
  rw [Kept, hs, hd, hc']
  rw [Kept, hc] at hk
  exact hk.skip ((key_change n).trans_ne hne)

theorem Inv.onMission (h : w.Inv p images device) {posted : Bool} {w' : SnapshotShare π}
    (hs : w.onMission posted = some w') : w'.Inv p images device := by
  unfold SnapshotShare.onMission at hs
  cases hn : w.notices with
  | nil =>
      rw [hn] at hs
      cases hs
  | cons notice notices =>
      simp only [hn] at hs
      split at hs <;> cases hs
      · refine ⟨fun j hj => ?_, h.refreshing, h.initRefresh⟩
        show Follows j (w.source p images j) (w.due device j)
          ((w.changeTasks ++ [notice] ++ notices).map MissionNotice.change)
        rw [List.append_assoc, List.singleton_append, ← hn]
        exact h.kept j hj
      · have hchanges : w.changes = w.changeTasks.map MissionNotice.change ++
            notice.change :: notices.map MissionNotice.change := by
          rw [changes, hn, List.map_append, List.map_cons]
        exact .miss (fun j hj hne => (h.kept j hj).lost rfl rfl hchanges List.map_append
          (Ne.symm hne)) h.refreshing h.initRefresh

/-- What is stored after a snapshot was put. -/
theorem stored_put (hl : ShareStep.IsLocal device env) {r : Refresh} {s : DistributedDataStorage}
    (hr : r.networkId = device.networkId)
    (hs : storeSnapshotInfo env w.distributedDataStorage r = .ok s) (j : Int) :
    { w with distributedDataStorage := some s }.stored device j =
      if r.missionId = j then some r.byteStream else w.stored device j := by
  obtain ⟨huuid, s₀, hs₀, hstore⟩ := storeSnapshotInfo_ok hs
  rw [hr] at huuid hstore
  rw [hl.uuid huuid] at hstore
  simp only [stored, hs₀, Option.bind_some, hstore, ExtTreeMap.getElem?_insert]
  by_cases hj : r.missionId = j
  · subst hj
    simp
  · have hkey : generateKey device.uuid r.missionId ≠ generateKey device.uuid j :=
      fun h => hj (generateKey_inj _ h)
    simp [hj, hkey]

/-- What is stored after a snapshot was deleted. -/
theorem stored_delete (hl : ShareStep.IsLocal device env) {s : DistributedDataStorage}
    (hs : missionSnapshotDestroyed env w.distributedDataStorage i = .ok s) (j : Int) :
    { w with distributedDataStorage := some s }.stored device j =
      if i = j then none else w.stored device j := by
  obtain ⟨networkId, hid, huuid, s₀, hs₀, hstore⟩ := missionSnapshotDestroyed_ok hs
  rw [hl.networkId hid] at huuid hstore
  rw [hl.uuid huuid] at hstore
  simp only [stored, hs₀, Option.bind_some, hstore, ExtTreeMap.getElem?_erase]
  by_cases hj : i = j
  · subst hj
    simp
  · have hkey : generateKey device.uuid i ≠ generateKey device.uuid j :=
      fun h => hj (generateKey_inj _ h)
    simp [hj, hkey]

/-- What is in hand is due. -/
theorem due_of_refreshing {r : Refresh} (h : w.refreshing = some r) :
    w.due device i = if r.missionId = i then some (some r.byteStream)
      else (w.stored device i).map some := by
  rw [due, h]

theorem due_of_not (h : ¬ ∃ r, w.refreshing = some r ∧ r.missionId = i) :
    w.due device i = (w.stored device i).map some := by
  rw [due]
  split
  · rename_i r hr
    exact if_neg fun hi => h ⟨r, hr, hi⟩
  · rfl

theorem due_congr {w' : SnapshotShare π} (hr : w'.refreshing = w.refreshing)
    (hs : w'.stored device i = w.stored device i) : w'.due device i = w.due device i := by
  rw [due, due, hr, hs]

/-- Where nothing but the store changes, and for a mission not at all, it is kept. -/
theorem Kept.congr (hk : w.Kept p images device i) {w' : SnapshotShare π}
    (hs : w'.snapshots = w.snapshots) (hd : w'.due device i = w.due device i)
    (hc : w'.changes = w.changes) : w'.Kept p images device i := by
  rw [Kept, source, hs, hd, hc]
  exact hk

theorem Inv.initDataStorage (h : w.Inv p images device) :
    w.initDataStorage.Inv p images device := by
  unfold SnapshotShare.initDataStorage
  split
  · rename_i hnone
    refine ⟨fun j hj => (h.kept j hj).congr rfl ?_ rfl, h.refreshing, h.initRefresh⟩
    simp [due, stored, hnone]
  · exact h

theorem Inv.getKvStore (h : w.Inv p images device) (kvStorePtr : Bool) :
    (w.getKvStore kvStorePtr).Inv p images device := by
  refine ⟨fun j hj => (h.kept j hj).congr rfl ?_ rfl, h.refreshing, h.initRefresh⟩
  cases hs : w.distributedDataStorage <;>
    simp [SnapshotShare.getKvStore, due, stored, hs]

theorem Inv.runMissionTask (h : w.Inv p images device) {task : MissionTask}
    {w' : SnapshotShare π} (hs : w.runMissionTask env task = some w') :
    w'.Inv p images device := by
  obtain ⟨-, hs⟩ := Option.ite_none_right_eq_some.mp hs
  cases hs
  exact ⟨h.kept, h.refreshing, h.initRefresh⟩

theorem Inv.initRead (h : w.Inv p images device) (hl : ShareStep.IsLocal device env)
    {w' : SnapshotShare π} (hs : w.initRead p images env = some w') :
    w'.Inv p images device := by
  obtain ⟨-, hs⟩ := Option.ite_none_right_eq_some.mp hs
  split at hs
  · cases hs
  dsimp only at hs
  split at hs <;> cases hs
  · exact ⟨h.kept, h.refreshing, h.initRefresh⟩
  · rename_i refresh hread
    refine ⟨h.kept, h.refreshing, fun r hr => ?_⟩
    cases hr
    exact hl.networkId (missionSnapshotChanged_ok hread).1

/-- The store got what the source has. -/
theorem Kept.put (hk : w.Kept p images device i) {w' : SnapshotShare π}
    (hs : w'.snapshots = w.snapshots) (hc : w'.changes = w.changes)
    (hr : w'.refreshing = w.refreshing) (hagrees : w'.Agrees p images device i) :
    w'.Kept p images device i := by
  by_cases hand : ∃ r, w.refreshing = some r ∧ r.missionId = i
  · obtain ⟨r, hw, hi⟩ := hand
    refine hk.congr hs ?_ hc
    rw [due_of_refreshing (hr.trans hw), due_of_refreshing hw, if_pos hi, if_pos hi]
  · rw [Kept, due_of_not (hr ▸ hand), hagrees, hc, ← source, source, hs]
    exact ChangeNotice.Follows.put hk

/-- What `InitAllSnapshots` puts brings its mission to what the source has, or the mission is
missed; it does not matter whether a task is about to put its own. -/
theorem Inv.put (h : w.Inv p images device) {s : DistributedDataStorage} {r : Refresh}
    (hstored : ∀ j, { w with distributedDataStorage := some s }.stored device j =
      if r.missionId = j then some r.byteStream else w.stored device j) :
    let w₁ := { w with distributedDataStorage := some s }
    (if w₁.Shows p images r.missionId r.byteStream then
        w₁.settle p images r.missionId r.byteStream
      else w₁.miss r.missionId).Inv p images device := by
  intro w₁
  have hother : ∀ j ∉ w.missed, j ≠ r.missionId → w₁.Kept p images device j := by
    intro j hj hne
    refine (h.kept j hj).congr rfl (due_congr rfl ?_) rfl
    rw [hstored, if_neg (Ne.symm hne)]
  have hput : w₁.stored device r.missionId = some r.byteStream := by rw [hstored, if_pos rfl]
  split
  · rename_i hshows
    have hagrees : w₁.Agrees p images device r.missionId := by
      rw [SnapshotShare.Agrees, hput]
      exact hshows
    have h₁ : w₁.Inv p images device := by
      refine ⟨fun j hj => ?_, h.refreshing, h.initRefresh⟩
      by_cases hne : j = r.missionId
      · subst hne
        exact (h.kept r.missionId hj).put rfl rfl rfl hagrees
      · exact hother j hj hne
    exact h₁.settle hput
  · exact .miss hother h.refreshing h.initRefresh

theorem Inv.initStore (h : w.Inv p images device) (hl : ShareStep.IsLocal device env)
    {w' : SnapshotShare π} (hs : w.initStore p images env = some w') :
    w'.Inv p images device := by
  unfold SnapshotShare.initStore at hs
  cases hr : w.initRefresh with
  | none =>
      rw [hr] at hs
      cases hs
  | some r =>
      have h₀ : { w with initRefresh := none }.Inv p images device :=
        ⟨h.kept, h.refreshing, fun r hr => by cases hr⟩
      simp only [hr] at hs
      cases hput : storeSnapshotInfo env w.distributedDataStorage r with
      | error errCode =>
          simp only [hput] at hs
          cases hs
          exact h₀
      | ok s =>
          simp only [hput] at hs
          rw [← apply_ite some] at hs
          cases hs
          exact h₀.put (stored_put hl (h.initRefresh r hr) hput)

/-- The snapshot in hand is put. -/
theorem Inv.storeRefresh (h : w.Inv p images device) (hl : ShareStep.IsLocal device env)
    {w' : SnapshotShare π} (hs : w.storeRefresh p images env = some w') :
    w'.Inv p images device := by
  unfold SnapshotShare.storeRefresh at hs
  cases hr : w.refreshing with
  | none =>
      rw [hr] at hs
      cases hs
  | some r =>
      have hnone : ∀ r : Refresh, (none : Option Refresh) = some r →
          r.networkId = device.networkId := fun r h => by cases h
      simp only [hr] at hs
      cases hput : storeSnapshotInfo env w.distributedDataStorage r with
      | error errCode =>
          simp only [hput] at hs
          cases hs
          refine .miss (fun j hj hne => (h.kept j hj).congr rfl ?_ rfl) hnone h.initRefresh
          rw [due_of_refreshing hr, if_neg (Ne.symm hne)]
          exact due_of_not fun ⟨_, h, _⟩ => by cases h
      | ok s =>
          simp only [hput] at hs
          cases hs
          have h₁ : { w with refreshing := none, distributedDataStorage := some s }.Inv p images
              device := by
            refine ⟨fun j hj => (h.kept j hj).congr rfl ?_ rfl, hnone, h.initRefresh⟩
            rw [due_of_refreshing hr]
            refine (due_of_not ?_).trans ?_
            · rintro ⟨_, hr', -⟩
              cases hr'
            · refine (congrArg _ (stored_put hl (h.refreshing r hr) hput j)).trans ?_
              rw [apply_ite (Option.map some)]
              rfl
          refine h₁.settle ((stored_put hl (h.refreshing r hr) hput r.missionId).trans ?_)
          exact if_pos rfl

/-! #### A task of a change runs -/

/-- The changes, around a task. -/
theorem changes_around {k : Nat} {task : MissionNotice} (ht : w.changeTasks[k]? = some task) :
    w.changes = (w.changeTasks.take k).map MissionNotice.change ++ task.change ::
        (w.changeTasks.drop (k + 1) ++ w.notices).map MissionNotice.change ∧
      { w with changeTasks := w.changeTasks.eraseIdx k }.changes =
        (w.changeTasks.take k).map MissionNotice.change ++
          (w.changeTasks.drop (k + 1) ++ w.notices).map MissionNotice.change := by
  obtain ⟨hlt, htask⟩ := List.getElem?_eq_some_iff.mp ht
  have hsplit : w.changeTasks = w.changeTasks.take k ++ task :: w.changeTasks.drop (k + 1) := by
    rw [← htask, List.getElem_cons_drop, List.take_append_drop]
  constructor
  · conv_lhs => rw [changes, hsplit]
    simp
  · simp [changes, List.eraseIdx_eq_take_drop_succ]

/-- `w` is `w₀` without a task, which runs now; `l` are the tasks before it. -/
structure Taken (w₀ w : SnapshotShare π) (l : List (ChangeNotice Int)) (n : ChangeNotice Int)
    (l' : List (ChangeNotice Int)) : Prop where
  same : w = { w₀ with changeTasks := w.changeTasks }
  idle : w₀.refreshing = none
  before : ∀ n ∈ l, n.delayed = true
  changes₀ : w₀.changes = l ++ n :: l'
  changes : w.changes = l ++ l'

namespace Taken

variable {w₀ : SnapshotShare π} {n : ChangeNotice Int} {l l' : List (ChangeNotice Int)}

theorem idle' (ht : w₀.Taken w l n l') : w.refreshing = none := by
  rw [ht.same]
  exact ht.idle

theorem source_eq (ht : w₀.Taken w l n l') : w.source p images i = w₀.source p images i := by
  rw [ht.same]
  rfl

theorem due_eq (ht : w₀.Taken w l n l') : w.due device i = w₀.due device i := by
  rw [ht.same]
  rfl

/-- Nothing is in hand, so what is stored is due. -/
theorem stored_eq (ht : w₀.Taken w l n l') {s : Option DistributedDataStorage} :
    { w with distributedDataStorage := s }.due device i =
      ({ w with distributedDataStorage := s }.stored device i).map some := by
  refine due_of_not ?_
  rintro ⟨r, hr, -⟩
  cases hr.symm.trans ht.idle'

theorem kept (ht : w₀.Taken w l n l') (h : w₀.Inv p images device) (hi : i ∉ w.missed) :
    Follows i (w.source p images i) (w.due device i) (l ++ n :: l') := by
  rw [ht.source_eq, ht.due_eq, ← ht.changes₀]
  refine h.kept i ?_
  rw [ht.same] at hi
  exact hi

/-- A mission that the task is not about. -/
theorem other (ht : w₀.Taken w l n l') (h : w₀.Inv p images device) (hi : i ∉ w.missed)
    (hne : i ≠ n.key) : w.Kept p images device i := by
  rw [Kept, ht.changes]
  exact (ht.kept h hi).skip (Ne.symm hne)

theorem refreshing (ht : w₀.Taken w l n l') (r : Refresh) (hr : w.refreshing = some r) :
    r.networkId = device.networkId := by
  cases hr.symm.trans ht.idle'

theorem initRefresh (ht : w₀.Taken w l n l') (h : w₀.Inv p images device) (r : Refresh)
    (hr : w.initRefresh = some r) : r.networkId = device.networkId := by
  rw [ht.same] at hr
  exact h.initRefresh r hr

/-- A task reads. -/
theorem refresh {d : Bool} (ht : w₀.Taken w l (.refresh i d) l') (h : w₀.Inv p images device)
    (hl : ShareStep.IsLocal device env) : (w.refresh p images env i).Inv p images device := by
  unfold SnapshotShare.refresh
  cases hread : missionSnapshotChanged p images env i w.snapshots[i]? with
  | error errCode =>
      by_cases hlive : w.snapshots.contains i
      · rw [if_pos hlive]
        exact .miss (fun j hj hne => ht.other h hj hne) ht.refreshing (ht.initRefresh h)
      · -- the mission is gone, and what removes it from the store comes or has come
        rw [if_neg hlive]
        refine ⟨fun j hj => ?_, ht.refreshing, ht.initRefresh h⟩
        by_cases hne : j = i
        · subst hne
          have hsource : w.source p images j = none := by
            rw [ExtTreeMap.contains_eq_isSome_getElem?] at hlive
            rw [source, Option.not_isSome_iff_eq_none.mp hlive, Option.map_none]
          have hk := ht.kept h hj
          rw [hsource] at hk
          rw [Kept, hsource, ht.changes]
          exact hk.readNone
        · exact ht.other h hj hne
  | ok r =>
      obtain ⟨hid, hmission, hbytes⟩ := missionSnapshotChanged_ok hread
      refine ⟨fun j hj => ?_, fun r' hr' => ?_, ht.initRefresh h⟩
      · by_cases hne : j = i
        · subst hne
          have hsource : w.source p images j = some (some r.byteStream) := hbytes
          have hk := ht.kept h hj
          rw [hsource] at hk
          rw [Kept, due_of_refreshing rfl, if_pos hmission]
          show Follows j (w.source p images j) _ w.changes
          rw [hsource, ht.changes]
          exact hk.read ht.before
        · refine (ht.other h hj hne).congr rfl ?_ rfl
          rw [due_of_refreshing rfl, if_neg (hmission ▸ Ne.symm hne)]
          exact (ht.stored_eq (s := w.distributedDataStorage)).symm
      · cases hr'
        exact hl.networkId hid

/-- A task deletes. -/
theorem remove (ht : w₀.Taken w l (.remove i) l') (h : w₀.Inv p images device)
    (hl : ShareStep.IsLocal device env) :
    (w.remove p images env i).Inv p images device := by
  unfold SnapshotShare.remove
  cases hdelete : missionSnapshotDestroyed env w.distributedDataStorage i with
  | error errCode =>
      exact .miss (fun j hj hne => ht.other h hj hne) ht.refreshing (ht.initRefresh h)
  | ok s =>
      have h₁ : { w with distributedDataStorage := some s }.Inv p images device := by
        refine ⟨fun j hj => ?_, ht.refreshing, ht.initRefresh h⟩
        have hstored := stored_delete hl hdelete j
        by_cases hne : j = i
        · subst hne
          rw [if_pos rfl] at hstored
          rw [Kept, ht.stored_eq, hstored]
          show Follows j (w.source p images j) none w.changes
          rw [ht.changes]
          exact (ht.kept h hj).drop
        · rw [if_neg (Ne.symm hne)] at hstored
          refine (ht.other h hj hne).congr rfl ?_ rfl
          rw [ht.stored_eq, hstored]
          exact (ht.stored_eq (s := w.distributedDataStorage)).symm
      exact h₁.settle ((stored_delete hl hdelete i).trans (if_pos rfl))

end Taken

theorem Inv.runChangeTask (h : w.Inv p images device) (hl : ShareStep.IsLocal device env)
    {k : Nat} {w' : SnapshotShare π} (hs : w.runChangeTask p images env k = some w') :
    w'.Inv p images device := by
  obtain ⟨⟨hidle, hdelayed⟩, hs⟩ := Option.ite_none_right_eq_some.mp hs
  cases ht : w.changeTasks[k]? with
  | none =>
      rw [ht] at hs
      cases hs
  | some task =>
      simp only [ht] at hs
      cases hs
      obtain ⟨hc₀, hc⟩ := changes_around ht
      have hbefore : ∀ n ∈ (w.changeTasks.take k).map MissionNotice.change, n.delayed = true := by
        intro n hn
        obtain ⟨t, ht, rfl⟩ := List.mem_map.mp hn
        exact hdelayed t ht
      have htaken := Taken.mk rfl hidle hbefore hc₀ hc
      cases task with
      | created i => exact htaken.refresh h hl
      | snapshotChanged i => exact htaken.refresh h hl
      | destroyed i => exact htaken.remove h hl

theorem Inv.step (h : w.Inv p images device) {step : ShareStep π} (hok : step.OnDevice device)
    {w' : SnapshotShare π} (hs : step.apply p images w = some w') :
    w'.Inv p images device := by
  cases step with
  | createMission missionId snapshot => cases hs; exact h.createMission missionId snapshot
  | changeSnapshot missionId snapshot => cases hs; exact h.changeSnapshot missionId snapshot
  | destroyMission missionId => cases hs; exact h.destroyMission missionId
  | onMission posted => exact h.onMission hs
  | initDataStorage => cases hs; exact h.initDataStorage
  | getKvStore kvStorePtr => cases hs; exact h.getKvStore kvStorePtr
  | runMissionTask env task => exact h.runMissionTask hs
  | initRead env => exact h.initRead hok hs
  | initStore env => exact h.initStore hok hs
  | runChangeTask env k => exact h.runChangeTask hok hs
  | storeRefresh env => exact h.storeRefresh hok hs

/-- A mission that is kept up, and of which nothing is under way, is stored as it is. -/
theorem Inv.agrees (h : w.Inv p images device) (hi : i ∉ w.missed) (hno : ¬ w.UnderWay i) :
    w.Agrees p images device i := by
  have hdue : w.due device i = (w.stored device i).map some := by
    refine due_of_not fun ⟨r, hr, heq⟩ => hno (.inr ?_)
    simp [hr, heq]
  refine hdue.symm.trans ((h.kept i hi).settled fun n hn heq => hno (.inl ?_))
  obtain ⟨notice, hm, rfl⟩ := List.mem_map.mp hn
  exact List.mem_map.mpr ⟨notice, hm, (key_change notice).symm.trans heq⟩

end SnapshotShare

/-! ### What another device reads -/

/-- Bytes that a task stores are read back. -/
theorem create_byteStream {p : ParcelPrimitives} (hp : p.Lawful) {π : Type}
    {images : ImageFramework π} {pixelMap : π} {bytes : List UInt8} (getTickCount : Int)
    (hne : images.pack pixelMap ≠ []) (hbytes : byteStreamOf p images pixelMap = some bytes) :
    ∃ r, create p images getTickCount bytes = some (some r) ∧
      r.toSnapshotInfo = (SnapshotConverter.convertToSnapshot pixelMap).toSnapshotInfo ∧
      r.pixelMap = images.decode (images.pack pixelMap) := by
  generalize hs : (SnapshotConverter.convertToSnapshot pixelMap).toSnapshotInfo = s
  simp only [byteStreamOf, hs] at hbytes
  obtain ⟨data₁, hinfo, hpixels⟩ := Option.bind_eq_some_iff.mp hbytes
  obtain ⟨info, hfields, hparcel, hlt, rfl⟩ := writeSnapshotInfo_eq_some hp hinfo
  obtain ⟨hmax, rfl⟩ := writePixelMap_eq_some hpixels
  have hpos : (images.pack pixelMap).length ≠ 0 := fun h => hne (List.length_eq_zero_iff.mp h)
  unfold pixelMapMaxBufferSize at hmax
  generalize hframe : [] ++ (wordBytes info.length ++ info) ++
    (wordBytes (images.pack pixelMap).length ++ ParcelPrimitives.padded (images.pack pixelMap)) =
      written
  have hframed : Framed written info (images.pack pixelMap)
      (.replicate ((4 - (images.pack pixelMap).length % 4) % 4) 0) := by
    refine ⟨?_, hlt, by omega⟩
    rw [← hframe, List.nil_append, List.append_assoc]
    rfl
  obtain ⟨hacc, hmsg, hbuffer⟩ := hframed.accepted (by rw [List.length_replicate]; omega)
  have hfill : fillSnapShot p info = .ok (s, []) := by
    have h := fillSnapShot_mirrors hp s info hfields []
    rwa [List.append_nil] at h
  refine ⟨{ s with pixelMap := images.decode (images.pack pixelMap)
                   createdTime := getTickCount
                   lastAccessTime := getTickCount }, ?_, rfl, rfl⟩
  rw [create_eq, if_pos hacc, hmsg, hbuffer, frameSnapshot, hparcel]
  simp only [hfill, createPixelMap, if_neg hpos]

/-- **What is stored follows what the ability manager has**, over every run in which the device
knows itself by one pair of ids or not at all.  A mission that is not missed, and of which no call
of the listener, no task and no snapshot is under way, is in the store exactly when the ability
manager has a snapshot of it; what is stored are the bytes of that snapshot, and unless its image
is packed to nothing, `Create` makes a snapshot of them with the same fields and with what the
decoder makes of the image. -/
theorem stored_snapshots_follow {p : ParcelPrimitives} (hp : p.Lawful) {π : Type}
    {images : ImageFramework π} {device : LocalDevice} {w : SnapshotShare π}
    (h : Runs.Reach (ShareStep.apply p images) (fun _ step => step.OnDevice device) {} w)
    {missionId : Int} (hmissed : missionId ∉ w.missed) (hno : ¬ w.UnderWay missionId) :
    match w.snapshots[missionId]? with
    | none => w.stored device missionId = none
    | some pixelMap => ∃ bytes, w.stored device missionId = some bytes ∧
        byteStreamOf p images pixelMap = some bytes ∧
        (images.pack pixelMap ≠ [] → ∀ getTickCount, ∃ r,
          create p images getTickCount bytes = some (some r) ∧
          r.toSnapshotInfo = (SnapshotConverter.convertToSnapshot pixelMap).toSnapshotInfo ∧
          r.pixelMap = images.decode (images.pack pixelMap)) := by
  have hinv : w.Inv p images device :=
    h.invariant .init fun w step w' hw hok hs => hw.step hok hs
  have hagrees := hinv.agrees hmissed hno
  unfold SnapshotShare.Agrees SnapshotShare.Shows at hagrees
  cases hs : w.snapshots[missionId]? with
  | none =>
      rw [hs] at hagrees
      exact Option.map_eq_none_iff.mp hagrees
  | some pixelMap =>
      rw [hs, Option.map_some] at hagrees
      obtain ⟨bytes, hstored, hbytes⟩ := Option.map_eq_some_iff.mp hagrees
      exact ⟨bytes, hstored, hbytes.symm, fun hne getTickCount =>
        create_byteStream hp getTickCount hne hbytes.symm⟩

def shareDevice : LocalDevice := ⟨"a", "ua"⟩

/-- The answers to a device that knows itself. -/
def shareEnv : StoreEnv :=
  { localDeviceId := some "a", getUuidByNetworkId := fun _ => "ua" }

/-- A run of steps that are answered so. -/
def shareRun (steps : List (ShareStep (List UInt8))) : Option (SnapshotShare (List UInt8)) :=
  Runs.exec (fun w step => if step.OnDevice shareDevice then
    step.apply plainParcel plainImages w else none) {} steps

/-- The listener is registered, with mission 5 on the list, and `InitAllSnapshots` reads it. -/
def shareStarts : List (ShareStep (List UInt8)) :=
  [.createMission 5 (some [7]), .initDataStorage, .getKvStore true,
    .runMissionTask shareEnv (.registerMissionListener [{ id := 5 }]), .initRead shareEnv]

/-- Mission 5 is destroyed, and the task of this runs. -/
def shareEnds : List (ShareStep (List UInt8)) :=
  [.destroyMission 5, .onMission true, .runChangeTask shareEnv 0]

/-- Mission 6 is created, and gets its snapshot after that. -/
def shareChanges : List (ShareStep (List UInt8)) :=
  [.createMission 6 none, .onMission true, .changeSnapshot 6 [8], .onMission true,
    .runChangeTask shareEnv 1, .storeRefresh shareEnv, .runChangeTask shareEnv 0,
    .storeRefresh shareEnv]

/-- Both missions are as they should be: one is gone, and the other has the later snapshot. -/
theorem stored_snapshots_follow_both : ∃ w : SnapshotShare (List UInt8),
    w.stored shareDevice 5 = none ∧ ∃ bytes r, w.stored shareDevice 6 = some bytes ∧
      create plainParcel plainImages 25 bytes = some (some r) ∧ r.pixelMap = some [8] := by
  have hrun : (shareRun (shareStarts ++ [.initStore shareEnv] ++ shareEnds ++ shareChanges)).any
      (fun w => w.missed = [] ∧ ¬ w.UnderWay 5 ∧ ¬ w.UnderWay 6 ∧
        w.snapshots[(5 : Int)]? = none ∧ w.snapshots[(6 : Int)]? = some [8]) = true := by
    decide +kernel
  obtain ⟨w, hw, hend⟩ := (Option.any_eq_true _ _).mp hrun
  obtain ⟨hmissed, h₅, h₆, hs₅, hs₆⟩ := of_decide_eq_true hend
  have hreach := Runs.Reach.of_exec_checked hw
  have hgone := stored_snapshots_follow plainParcel_lawful hreach
    (hmissed ▸ List.not_mem_nil) h₅
  have hthere := stored_snapshots_follow plainParcel_lawful hreach
    (hmissed ▸ List.not_mem_nil) h₆
  rw [hs₅] at hgone
  rw [hs₆] at hthere
  obtain ⟨bytes, hstored, -, hread⟩ := hthere
  obtain ⟨r, hcreate, -, hpixelMap⟩ := hread (List.cons_ne_nil _ _) 25
  exact ⟨w, hgone, bytes, r, hstored, hcreate, hpixelMap⟩

/-- **A destroyed mission that is stored.**  It is destroyed when `InitAllSnapshots` has read its
snapshot and not put it yet; the task of this deletes what is not there, and every answer is a
good one. -/
theorem destroyed_mission_stored : ∃ w : SnapshotShare (List UInt8),
    shareRun (shareStarts ++ shareEnds ++ [.initStore shareEnv]) = some w ∧ ¬ w.UnderWay 5 ∧
      w.initRefresh = none ∧ w.snapshots[(5 : Int)]? = none ∧ w.stored shareDevice 5 ≠ none := by
  have hrun : (shareRun (shareStarts ++ shareEnds ++ [.initStore shareEnv])).any
      (fun w => ¬ w.UnderWay 5 ∧ w.initRefresh = none ∧ w.snapshots[(5 : Int)]? = none ∧
        w.stored shareDevice 5 ≠ none) = true := by
    decide +kernel
  obtain ⟨w, hw, hend⟩ := (Option.any_eq_true _ _).mp hrun
  exact ⟨w, hw, of_decide_eq_true hend⟩

end DistributedSched

import Std.Data.ExtTreeSet
import DistributedSched.Base.Types
import DistributedSched.Library.Runs
import DistributedSched.Library.TreeWalk

/-!
# Device — uuids and network ids

`DtbschedmgrDeviceInfoStorage`: the devices that are online, by network id, and the network id
of each device, by uuid.  An event posts a task to `networkIdMgrHandler_`, which runs its tasks
in order, and a task asks softbus for the uuid.  softbus knows the uuid of a network id
(`uuidOf`), or fails, at each call.

* `DeviceStep`: an event, or the next task with whether softbus answers it.
* `UuidMapInv`: what the two maps are to say of the devices.
* `DeviceStep.Safe`: softbus answers for a device that comes online; a device goes offline with
  an answer only when no other network id of the same uuid is online, and without one only when
  it is not the one that is mapped.
* `uuid_map_consistent`: in runs of safe steps the maps are consistent in every state, and a
  safe step is exactly one that keeps them so.
* `new_network_id_first`: a device comes back under a new network id before the old one is
  reported offline, and is not mapped any more.
-/

namespace DistributedSched

open Std (ExtTreeMap ExtTreeSet)

/-! ### The storage -/

structure DmsDeviceInfo where
  deviceName : String := ""
  deviceType : Int := 0
  deviceId : String := ""

/-- A task of `networkIdMgrHandler_`. -/
inductive NetworkIdTask where
  | nodeOnline (devInfo : DmsDeviceInfo)
  | nodeOffline (deviceId : String)

/-- The state after `InitNetworkIdManager`: `networkIdMgrHandler_` is there. -/
structure DtbschedmgrDeviceInfoStorage where
  uuidNetworkIdMap : Map String String := ∅
  remoteDevices : Map String DmsDeviceInfo := ∅
  networkIdMgrHandler : List NetworkIdTask := []

/-- `DnetworkAdapter::GetUuidByNetworkId`; `none` is a failure of `GetNodeKeyInfo`. -/
def getUuidByNetworkId (getNodeKeyInfo : Option String) (networkId : String) : String :=
  if networkId = "" then "" else getNodeKeyInfo.getD ""

namespace DtbschedmgrDeviceInfoStorage

variable (s : DtbschedmgrDeviceInfoStorage)

def registerUuidNetworkIdMap (uuid networkId : String) : DtbschedmgrDeviceInfoStorage :=
  { s with uuidNetworkIdMap := s.uuidNetworkIdMap.insert uuid networkId }

def unregisterUuidNetworkIdMap (uuid : String) : DtbschedmgrDeviceInfoStorage :=
  { s with uuidNetworkIdMap := s.uuidNetworkIdMap.erase uuid }

def deviceOnlineNotify (posted : Bool) (devInfo : Option DmsDeviceInfo) :
    DtbschedmgrDeviceInfoStorage :=
  match devInfo with
  | none => s
  | some devInfo =>
    if posted then { s with networkIdMgrHandler := s.networkIdMgrHandler ++ [.nodeOnline devInfo] }
    else s

def deviceOfflineNotify (posted : Bool) (deviceId : String) : DtbschedmgrDeviceInfoStorage :=
  if deviceId = "" then s
  else if posted then
    { s with networkIdMgrHandler := s.networkIdMgrHandler ++ [.nodeOffline deviceId] }
  else s

/-- A task, with what softbus answers to its `RegisterUuidNetworkIdMap` or its opposite; the
uuid is asked for once more for the log. -/
def runTask (getNodeKeyInfo : Option String) : NetworkIdTask → DtbschedmgrDeviceInfoStorage
  | .nodeOnline devInfo =>
    let s := s.registerUuidNetworkIdMap (getUuidByNetworkId getNodeKeyInfo devInfo.deviceId)
      devInfo.deviceId
    { s with remoteDevices := s.remoteDevices.insert devInfo.deviceId devInfo }
  | .nodeOffline deviceId =>
    let s := s.unregisterUuidNetworkIdMap (getUuidByNetworkId getNodeKeyInfo deviceId)
    { s with remoteDevices := s.remoteDevices.erase deviceId }

end DtbschedmgrDeviceInfoStorage

/-! ### The system -/

/-- The storage, with the devices whose uuid was found when they came online. -/
structure DeviceNodes where
  storage : DtbschedmgrDeviceInfoStorage := {}
  found : ExtTreeSet String compare := ∅

inductive DeviceStep where
  | deviceOnlineNotify (posted : Bool) (devInfo : Option DmsDeviceInfo)
  | deviceOfflineNotify (posted : Bool) (deviceId : String)
  /-- the next task runs; `answers` says whether `GetNodeKeyInfo` succeeds -/
  | runTask (answers : Bool)

/-- What softbus answers. -/
def softbus (uuidOf : String → String) (answers : Bool) (networkId : String) : Option String :=
  if answers then some (uuidOf networkId) else none

/-- The uuid that a task gets. -/
def uuidFound (uuidOf : String → String) (answers : Bool) (networkId : String) : String :=
  getUuidByNetworkId (softbus uuidOf answers networkId) networkId

namespace DeviceStep

def apply (uuidOf : String → String) (s : DeviceNodes) : DeviceStep → Option DeviceNodes
  | deviceOnlineNotify posted devInfo =>
    some { s with storage := s.storage.deviceOnlineNotify posted devInfo }
  | deviceOfflineNotify posted deviceId =>
    some { s with storage := s.storage.deviceOfflineNotify posted deviceId }
  | runTask answers =>
    match s.storage.networkIdMgrHandler with
    | [] => none
    | .nodeOnline devInfo :: rest =>
      let storage := { s.storage with networkIdMgrHandler := rest }
      some {
        storage := storage.runTask (softbus uuidOf answers devInfo.deviceId) (.nodeOnline devInfo)
        found := if uuidFound uuidOf answers devInfo.deviceId ≠ "" then
            s.found.insert devInfo.deviceId
          else s.found.erase devInfo.deviceId }
    | .nodeOffline deviceId :: rest =>
      let storage := { s.storage with networkIdMgrHandler := rest }
      some {
        storage := storage.runTask (softbus uuidOf answers deviceId) (.nodeOffline deviceId)
        found := s.found.erase deviceId }

/-- The condition on a step, by the state before it. -/
def Safe (uuidOf : String → String) (s : DeviceNodes) : DeviceStep → Prop
  | runTask answers =>
    match s.storage.networkIdMgrHandler with
    | [] => True
    | .nodeOnline devInfo :: _ => uuidFound uuidOf answers devInfo.deviceId ≠ ""
    | .nodeOffline deviceId :: _ =>
      if uuidFound uuidOf answers deviceId ≠ "" then
        ∀ n, s.storage.remoteDevices[n]? ≠ none → n ∈ s.found → uuidOf n = uuidOf deviceId →
          n = deviceId
      else s.storage.uuidNetworkIdMap[uuidOf deviceId]? ≠ some deviceId
  | _ => True

end DeviceStep

/-- What the two maps say: no uuid is empty, a uuid is mapped to an online network id of its
device, and a device whose uuid was found when it came online is mapped. -/
structure UuidMapInv (uuidOf : String → String) (s : DeviceNodes) : Prop where
  unnamed : s.storage.uuidNetworkIdMap[""]? = none
  online : ∀ u n : String, s.storage.uuidNetworkIdMap[u]? = some n →
    s.storage.remoteDevices[n]? ≠ none ∧ uuidOf n = u
  mapped : ∀ n : String, s.storage.remoteDevices[n]? ≠ none → n ∈ s.found →
    s.storage.uuidNetworkIdMap[uuidOf n]? ≠ none

section Tasks

variable {uuidOf : String → String} {s : DeviceNodes}

theorem uuidFound_eq {answers : Bool} {n : String} (h : uuidFound uuidOf answers n ≠ "") :
    uuidFound uuidOf answers n = uuidOf n := by
  unfold uuidFound getUuidByNetworkId softbus at h ⊢
  by_cases hn : n = ""
  · rw [if_pos hn] at h
    exact absurd rfl h
  · cases answers with
    | false => simp [hn] at h
    | true => simp [hn]

/-- Two states with the same maps. -/
theorem UuidMapInv.congr {s' : DeviceNodes} (h : UuidMapInv uuidOf s)
    (hmap : s'.storage.uuidNetworkIdMap = s.storage.uuidNetworkIdMap)
    (hdevices : s'.storage.remoteDevices = s.storage.remoteDevices) (hfound : s'.found = s.found) :
    UuidMapInv uuidOf s' where
  unnamed := hmap ▸ h.unnamed
  online u n := by
    rw [hmap, hdevices]
    exact h.online u n
  mapped n := by
    rw [hmap, hdevices, hfound]
    exact h.mapped n

/-- A device that comes online is mapped from its uuid when the uuid is found, and from the empty
text when it is not. -/
theorem online_inv_iff (h : UuidMapInv uuidOf s) (devInfo : DmsDeviceInfo)
    {answers : Bool} {s' : DeviceNodes}
    (hmap : s'.storage.uuidNetworkIdMap = s.storage.uuidNetworkIdMap.insert
      (uuidFound uuidOf answers devInfo.deviceId) devInfo.deviceId)
    (hdevices : s'.storage.remoteDevices = s.storage.remoteDevices.insert devInfo.deviceId devInfo)
    (hfound : s'.found = if uuidFound uuidOf answers devInfo.deviceId ≠ "" then
      s.found.insert devInfo.deviceId else s.found.erase devInfo.deviceId) :
    UuidMapInv uuidOf s' ↔ uuidFound uuidOf answers devInfo.deviceId ≠ "" := by
  constructor
  · intro h' he
    have hnone := h'.unnamed
    rw [hmap, he, ExtTreeMap.getElem?_insert_self] at hnone
    cases hnone
  · intro hne
    have hu := uuidFound_eq hne
    rw [hu] at hmap
    rw [if_pos hne] at hfound
    rw [hu] at hne
    have hkept : ∀ n : String, s.storage.remoteDevices[n]? ≠ none →
        s'.storage.remoteDevices[n]? ≠ none := by
      intro n hn
      rw [hdevices, ExtTreeMap.getElem?_insert]
      split
      · exact Option.some_ne_none _
      · exact hn
    refine ⟨?_, fun u n hk => ?_, fun n hn hf => ?_⟩
    · rw [hmap, ExtTreeMap.getElem?_insert_of_ne hne]
      exact h.unnamed
    · by_cases hu' : uuidOf devInfo.deviceId = u
      · rw [hmap, hu', ExtTreeMap.getElem?_insert_self] at hk
        obtain rfl := Option.some.inj hk
        refine ⟨?_, hu'⟩
        rw [hdevices, ExtTreeMap.getElem?_insert_self]
        exact Option.some_ne_none _
      · rw [hmap, ExtTreeMap.getElem?_insert_of_ne hu'] at hk
        exact ⟨hkept n (h.online u n hk).1, (h.online u n hk).2⟩
    · rw [hmap]
      by_cases hu' : uuidOf devInfo.deviceId = uuidOf n
      · rw [hu', ExtTreeMap.getElem?_insert_self]
        exact Option.some_ne_none _
      · have hne' : devInfo.deviceId ≠ n := fun he => hu' (congrArg uuidOf he)
        rw [ExtTreeMap.getElem?_insert_of_ne hu']
        rw [hdevices, ExtTreeMap.getElem?_insert_of_ne hne'] at hn
        rw [hfound] at hf
        have hold := ExtTreeSet.mem_of_mem_insert hf
        exact h.mapped n hn (hold fun hc => hne' (Std.LawfulEqCmp.eq_of_compare hc))

/-- A device that goes offline is not found any more. -/
theorem mem_found_erase {found : Std.ExtTreeSet String} {deviceId n : String} :
    n ∈ found.erase deviceId ↔ n ≠ deviceId ∧ n ∈ found := by
  rw [ExtTreeSet.mem_erase]
  exact and_congr_left fun _ =>
    ⟨fun hc he => hc (he ▸ Std.ReflCmp.compare_self), fun hn hc =>
      hn (Std.LawfulEqCmp.eq_of_compare hc).symm⟩

section offline

variable {deviceId : String} {s' : DeviceNodes}

/-- A device that goes offline takes the entry of its uuid, which may be online under another
network id. -/
theorem offline_found_inv_iff (h : UuidMapInv uuidOf s) (hne : uuidOf deviceId ≠ "")
    (hmap : s'.storage.uuidNetworkIdMap = s.storage.uuidNetworkIdMap.erase (uuidOf deviceId))
    (hdevices : s'.storage.remoteDevices = s.storage.remoteDevices.erase deviceId)
    (hfound : s'.found = s.found.erase deviceId) :
    UuidMapInv uuidOf s' ↔
      ∀ n : String, s.storage.remoteDevices[n]? ≠ none → n ∈ s.found →
        uuidOf n = uuidOf deviceId → n = deviceId := by
  constructor
  · intro h' n hn hf hsame
    by_contra hother
    refine h'.mapped n ?_ ?_ ?_
    · rw [hdevices]
      exact ExtTreeMap.getElem?_erase_ne_none.mpr ⟨hother, hn⟩
    · rw [hfound]
      exact mem_found_erase.mpr ⟨hother, hf⟩
    · rw [hmap, hsame, ExtTreeMap.getElem?_erase_self]
  · intro honly
    have hgone : ∀ u : String, uuidOf deviceId ≠ u →
        s'.storage.uuidNetworkIdMap[u]? = s.storage.uuidNetworkIdMap[u]? := by
      intro u hu
      rw [hmap, ExtTreeMap.getElem?_erase_of_ne hu]
    refine ⟨?_, fun u n hk => ?_, fun n hn hf => ?_⟩
    · rw [hgone "" hne]
      exact h.unnamed
    · by_cases hu : uuidOf deviceId = u
      · rw [hmap, hu, ExtTreeMap.getElem?_erase_self] at hk
        cases hk
      · rw [hgone u hu] at hk
        obtain ⟨hn, hsame⟩ := h.online u n hk
        rw [hdevices]
        refine ⟨ExtTreeMap.getElem?_erase_ne_none.mpr ⟨?_, hn⟩, hsame⟩
        rintro rfl
        exact hu hsame
    · rw [hdevices] at hn
      rw [hfound] at hf
      obtain ⟨hother, hn⟩ := ExtTreeMap.getElem?_erase_ne_none.mp hn
      have hf := (mem_found_erase.mp hf).2
      rw [hgone _ fun hsame => hother (honly n hn hf hsame.symm)]
      exact h.mapped n hn hf

/-- A device that goes offline without a uuid leaves its entry. -/
theorem offline_unfound_inv_iff (h : UuidMapInv uuidOf s)
    (hmap : s'.storage.uuidNetworkIdMap = s.storage.uuidNetworkIdMap)
    (hdevices : s'.storage.remoteDevices = s.storage.remoteDevices.erase deviceId)
    (hfound : s'.found = s.found.erase deviceId) :
    UuidMapInv uuidOf s' ↔ s.storage.uuidNetworkIdMap[uuidOf deviceId]? ≠ some deviceId := by
  constructor
  · intro h' hk
    rw [← hmap] at hk
    have hstays := (h'.online _ _ hk).1
    rw [hdevices] at hstays
    exact (ExtTreeMap.getElem?_erase_ne_none.mp hstays).1 rfl
  · intro hk
    refine ⟨hmap ▸ h.unnamed, fun u n hu => ?_, fun n hn hf => ?_⟩
    · rw [hmap] at hu
      obtain ⟨hn, hsame⟩ := h.online u n hu
      rw [hdevices]
      refine ⟨ExtTreeMap.getElem?_erase_ne_none.mpr ⟨?_, hn⟩, hsame⟩
      rintro rfl
      exact hk (hsame ▸ hu)
    · rw [hdevices] at hn
      rw [hfound] at hf
      rw [hmap]
      exact h.mapped n (ExtTreeMap.getElem?_erase_ne_none.mp hn).2 (mem_found_erase.mp hf).2

/-- Which of the two it is, goes by the uuid that is found. -/
theorem offline_inv_iff (h : UuidMapInv uuidOf s) {answers : Bool}
    (hmap : s'.storage.uuidNetworkIdMap = s.storage.uuidNetworkIdMap.erase
      (uuidFound uuidOf answers deviceId))
    (hdevices : s'.storage.remoteDevices = s.storage.remoteDevices.erase deviceId)
    (hfound : s'.found = s.found.erase deviceId) :
    UuidMapInv uuidOf s' ↔
      if uuidFound uuidOf answers deviceId ≠ "" then
        ∀ n : String, s.storage.remoteDevices[n]? ≠ none → n ∈ s.found →
          uuidOf n = uuidOf deviceId → n = deviceId
      else s.storage.uuidNetworkIdMap[uuidOf deviceId]? ≠ some deviceId := by
  by_cases hne : uuidFound uuidOf answers deviceId ≠ ""
  · rw [if_pos hne]
    rw [uuidFound_eq hne] at hmap
    exact offline_found_inv_iff h (uuidFound_eq hne ▸ hne) hmap hdevices hfound
  · -- nothing is mapped from the empty text, so the map stays
    rw [if_neg hne]
    rw [not_not.mp hne, ExtTreeMap.erase_eq_self h.unnamed] at hmap
    exact offline_unfound_inv_iff h hmap hdevices hfound

end offline

/-- A task that is posted leaves the maps as they are. -/
theorem deviceOnlineNotify_keeps (storage : DtbschedmgrDeviceInfoStorage) (posted : Bool)
    (devInfo : Option DmsDeviceInfo) :
    (storage.deviceOnlineNotify posted devInfo).uuidNetworkIdMap = storage.uuidNetworkIdMap ∧
    (storage.deviceOnlineNotify posted devInfo).remoteDevices = storage.remoteDevices := by
  unfold DtbschedmgrDeviceInfoStorage.deviceOnlineNotify
  split
  · exact ⟨rfl, rfl⟩
  · split <;> exact ⟨rfl, rfl⟩

theorem deviceOfflineNotify_keeps (storage : DtbschedmgrDeviceInfoStorage) (posted : Bool)
    (deviceId : String) :
    (storage.deviceOfflineNotify posted deviceId).uuidNetworkIdMap = storage.uuidNetworkIdMap ∧
    (storage.deviceOfflineNotify posted deviceId).remoteDevices = storage.remoteDevices := by
  unfold DtbschedmgrDeviceInfoStorage.deviceOfflineNotify
  split
  · exact ⟨rfl, rfl⟩
  · split <;> exact ⟨rfl, rfl⟩

/-- A step keeps the maps consistent exactly when it is safe. -/
theorem apply_inv_iff (h : UuidMapInv uuidOf s) {step : DeviceStep} {s' : DeviceNodes}
    (hs : step.apply uuidOf s = some s') : UuidMapInv uuidOf s' ↔ step.Safe uuidOf s := by
  cases step with
  | deviceOnlineNotify posted devInfo =>
      cases hs
      obtain ⟨hmap, hdevices⟩ := deviceOnlineNotify_keeps s.storage posted devInfo
      exact iff_of_true (h.congr hmap hdevices rfl) trivial
  | deviceOfflineNotify posted deviceId =>
      cases hs
      obtain ⟨hmap, hdevices⟩ := deviceOfflineNotify_keeps s.storage posted deviceId
      exact iff_of_true (h.congr hmap hdevices rfl) trivial
  | runTask answers =>
      simp only [DeviceStep.apply] at hs
      simp only [DeviceStep.Safe]
      cases hq : s.storage.networkIdMgrHandler with
      | nil =>
          rw [hq] at hs
          cases hs
      | cons task rest =>
          rw [hq] at hs
          cases task with
          | nodeOnline devInfo =>
              cases hs
              exact online_inv_iff h devInfo rfl rfl rfl
          | nodeOffline deviceId =>
              cases hs
              exact offline_inv_iff h rfl rfl rfl

end Tasks

/-- **The map of uuids.**  In a run of safe steps the maps are consistent in every state, in
particular when all tasks have run; and a step from such a state keeps them consistent exactly
when it is safe. -/
theorem uuid_map_consistent {uuidOf : String → String} {s : DeviceNodes}
    (h : Runs.Reach (DeviceStep.apply uuidOf) (fun s step => step.Safe uuidOf s) {} s) :
    UuidMapInv uuidOf s ∧ ∀ step s', DeviceStep.apply uuidOf s step = some s' →
      (UuidMapInv uuidOf s' ↔ step.Safe uuidOf s) := by
  have hinv : UuidMapInv uuidOf s := by
    refine h.invariant ⟨rfl, fun u n hk => ?_, fun n hn => ?_⟩ fun s step s' hi hok hs => ?_
    · cases hk
    · exact absurd rfl hn
    · exact (apply_inv_iff hi hs).mpr hok
  exact ⟨hinv, fun step s' hs => apply_inv_iff hinv hs⟩

/-- The uuids of two devices. -/
def twoUuids (networkId : String) : String := if networkId = "n1" then "u1" else "u2"

/-- Both devices come online, and the first goes offline. -/
def onlineTwo : List DeviceStep :=
  [.deviceOnlineNotify true (some { deviceId := "n1" }),
    .deviceOnlineNotify true (some { deviceId := "n2" }), .runTask true,
    .deviceOfflineNotify true "n1", .runTask true, .runTask true]

/-- The first is not mapped any more, and the second is still. -/
theorem uuid_map_consistent_online : ∃ s : DeviceNodes,
    Runs.exec (DeviceStep.apply twoUuids) {} onlineTwo = some s ∧
    s.storage.uuidNetworkIdMap["u1"]? = none ∧ s.storage.remoteDevices["n1"]? = none ∧
    s.storage.uuidNetworkIdMap["u2"]? = some "n2" ∧ s.storage.remoteDevices["n2"]? ≠ none := by
  refine ⟨_, rfl, rfl, rfl, rfl, ((@uuid_map_consistent twoUuids _ (.next (.next (.next (.next
    (.next (.next .init
    (l := .deviceOnlineNotify true (some { deviceId := "n1" })) trivial rfl)
    (l := .deviceOnlineNotify true (some { deviceId := "n2" })) trivial rfl)
    (l := .runTask true) (show uuidFound twoUuids true "n1" ≠ "" by decide) rfl)
    (l := .deviceOfflineNotify true "n1") trivial rfl)
    (l := .runTask true) (show uuidFound twoUuids true "n2" ≠ "" by decide) rfl)
    (l := .runTask true) ?_ rfl)).1.online "u2" "n2" rfl).1⟩
  -- no other network id has the uuid of the one that goes
  intro n _ _ hu
  by_contra hn
  rw [twoUuids, if_neg hn] at hu
  exact absurd hu (by decide)

/-- **A new network id first.**  The device comes back as "n2" before "n1" is reported offline:
"n2" is online, its uuid was found, and the uuid is not mapped.  With softbus failing at the end,
"n1" stays mapped after it has gone. -/
theorem new_network_id_first :
    (∃ s : DeviceNodes, Runs.exec (DeviceStep.apply fun _ => "u") {}
        [.deviceOnlineNotify true (some { deviceId := "n1" }),
          .deviceOnlineNotify true (some { deviceId := "n2" }), .deviceOfflineNotify true "n1",
          .runTask true, .runTask true, .runTask true] = some s ∧
      s.storage.networkIdMgrHandler = [] ∧ s.storage.remoteDevices["n2"]? ≠ none ∧
      "n2" ∈ s.found ∧ s.storage.uuidNetworkIdMap["u"]? = none) ∧
    ∃ s : DeviceNodes, Runs.exec (DeviceStep.apply fun _ => "u") {}
        [.deviceOnlineNotify true (some { deviceId := "n1" }), .deviceOfflineNotify true "n1",
          .runTask true, .runTask false] = some s ∧
      s.storage.networkIdMgrHandler = [] ∧ s.storage.remoteDevices["n1"]? = none ∧
      s.storage.uuidNetworkIdMap["u"]? = some "n1" := by
  refine ⟨⟨_, rfl, rfl, ?_, ?_, rfl⟩, _, rfl, rfl, rfl, rfl⟩
  · exact Option.some_ne_none _
  · decide

end DistributedSched

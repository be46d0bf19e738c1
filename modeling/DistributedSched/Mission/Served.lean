import DistributedSched.Mission.Cache
import DistributedSched.Wire.Lists

/-!
# Mission — the missions that are served

What `GetMissionInfos` gives an application is what the other device sent: the reader of its list,
the cache, the prefix and the converter, in a row.  The reader accepts a record whose `Want` is
absent, and the converter dereferences it.

* `convertToMissionInfos_eq_some`: the converter ends well exactly when every `Want` is there.
* `getMissionInfos_served`: what an application gets of a list in the cache.
* `serves_iff_wants`: the law for every list that was read, and for those of a peer.
-/

namespace DistributedSched

namespace MissionInfoConverter

/-- What `ConvertToDstbMissionInfos` makes of a mission. -/
def toDstbMissionInfo (info : MissionInfo) : DstbMissionInfo :=
  { id := info.id, runingState := info.runningState, lockedState := info.lockedState,
    label := info.label, iconPath := info.iconPath, baseWant := some info.want,
    continuable := if info.continuable then 1 else 0 }

def convertToDstbMissionInfos : List MissionInfo → List DstbMissionInfo → List DstbMissionInfo
  | [], dstbMissionInfos => dstbMissionInfos
  | info :: missionInfos, dstbMissionInfos =>
    convertToDstbMissionInfos missionInfos (dstbMissionInfos ++ [toDstbMissionInfo info])

/-- What `ConvertToMissionInfos` makes of a record, unless it dereferences a null pointer. -/
def toMissionInfo (info : DstbMissionInfo) : Option MissionInfo :=
  info.baseWant.map fun want =>
    { id := info.id, runningState := info.runingState, lockedState := info.lockedState,
      label := info.label, iconPath := info.iconPath, want, continuable := info.continuable == 1 }

def convertToMissionInfos : List DstbMissionInfo → List MissionInfo → Option (List MissionInfo)
  | [], missionInfos => some missionInfos
  | info :: dstbMissionInfos, missionInfos =>
    (toMissionInfo info).bind fun missionInfo =>
      convertToMissionInfos dstbMissionInfos (missionInfos ++ [missionInfo])

end MissionInfoConverter

open MissionInfoConverter

/-- `GetMissionInfos` with the vector of the caller: its result and the vector, unless it
dereferences a null pointer. -/
def DistributedSchedMissionManager.getMissionInfosInto (env : MissionEnv)
    (m : DistributedSchedMissionManager) (deviceId : String) (numMissions : Int)
    (missionInfos : List MissionInfo) : Option (Int × List MissionInfo) :=
  match m.getMissionInfos env deviceId numMissions with
  | .error ret => some (ret, missionInfos)
  | .ok dstbMissionInfos =>
    (convertToMissionInfos dstbMissionInfos missionInfos).map (errOk, ·)

/-! ### The converters -/

/-- The mission is the record in all that is converted. -/
structure SameMission (info : DstbMissionInfo) (missionInfo : MissionInfo) : Prop where
  id : missionInfo.id = info.id
  runningState : missionInfo.runningState = info.runingState
  lockedState : missionInfo.lockedState = info.lockedState
  label : missionInfo.label = info.label
  iconPath : missionInfo.iconPath = info.iconPath
  want : info.baseWant = some missionInfo.want
  continuable : missionInfo.continuable = true ↔ info.continuable = 1

theorem toMissionInfo_eq_some {info : DstbMissionInfo} {missionInfo : MissionInfo} :
    toMissionInfo info = some missionInfo ↔ SameMission info missionInfo := by
  constructor
  · intro h
    obtain ⟨want, hw, rfl⟩ := Option.map_eq_some_iff.mp h
    exact ⟨rfl, rfl, rfl, rfl, rfl, hw, beq_iff_eq⟩
  · intro h
    obtain ⟨id, runningState, lockedState, label, iconPath, want, continuable⟩ := missionInfo
    obtain ⟨rfl, rfl, rfl, rfl, rfl, hw, hc⟩ := h
    have hcontinuable : (info.continuable == 1) = continuable :=
      Bool.eq_iff_iff.mpr (beq_iff_eq.trans hc.symm)
    rw [toMissionInfo, hw, Option.map_some, hcontinuable]

theorem convertToMissionInfos_eq_some {infos : List DstbMissionInfo}
    {out missionInfos : List MissionInfo} :
    convertToMissionInfos infos out = some missionInfos ↔
      ∃ converted, missionInfos = out ++ converted ∧ List.Forall₂ SameMission infos converted := by
  induction infos generalizing out with
  | nil =>
      rw [convertToMissionInfos, Option.some.injEq]
      constructor
      · rintro rfl
        exact ⟨[], (List.append_nil _).symm, .nil⟩
      · rintro ⟨converted, rfl, hc⟩
        cases hc
        rw [List.append_nil]
  | cons info infos ih =>
      rw [convertToMissionInfos, Option.bind_eq_some_iff]
      constructor
      · rintro ⟨a, ha, h⟩
        obtain ⟨converted, rfl, hc⟩ := ih.mp h
        exact ⟨a :: converted, by rw [List.append_assoc, List.singleton_append],
          .cons (toMissionInfo_eq_some.mp ha) hc⟩
      · rintro ⟨converted, rfl, hc⟩
        cases hc with
        | @cons _ a _ converted ha hc =>
          refine ⟨a, toMissionInfo_eq_some.mpr ha, ih.mpr ⟨converted, ?_, hc⟩⟩
          rw [List.append_assoc, List.singleton_append]

/-- A record is converted when its `Want` is there, and a list when every one is. -/
theorem exists_converted_iff {infos : List DstbMissionInfo} :
    (∃ converted, List.Forall₂ SameMission infos converted) ↔
      ∀ info ∈ infos, info.baseWant ≠ none := by
  induction infos with
  | nil => exact iff_of_true ⟨[], .nil⟩ fun _ hm => absurd hm List.not_mem_nil
  | cons info infos ih =>
      rw [List.forall_mem_cons, ← ih]
      constructor
      · rintro ⟨_, hc⟩
        cases hc with
        | cons ha hc => exact ⟨ha.want ▸ Option.some_ne_none _, _, hc⟩
      · rintro ⟨hw, converted, hc⟩
        obtain ⟨want, hwant⟩ := Option.ne_none_iff_exists'.mp hw
        obtain ⟨a, ha⟩ : ∃ a, toMissionInfo info = some a := by
          rw [toMissionInfo, hwant]
          exact ⟨_, rfl⟩
        exact ⟨a :: converted, .cons (toMissionInfo_eq_some.mp ha) hc⟩

/-- A mission comes back from its record. -/
theorem sameMission_toDstbMissionInfo (info : MissionInfo) :
    SameMission (toDstbMissionInfo info) info := by
  refine ⟨rfl, rfl, rfl, rfl, rfl, rfl, ?_⟩
  show info.continuable = true ↔ (if info.continuable then 1 else 0 : Int) = 1
  cases info.continuable with
  | true => simp
  | false => simp

theorem convertToDstbMissionInfos_eq (missionInfos : List MissionInfo)
    (out : List DstbMissionInfo) :
    convertToDstbMissionInfos missionInfos out = out ++ missionInfos.map toDstbMissionInfo := by
  induction missionInfos generalizing out with
  | nil => exact (List.append_nil out).symm
  | cons info missionInfos ih =>
      rw [convertToDstbMissionInfos, ih, List.append_assoc, List.singleton_append, List.map_cons]

/-! ### What an application gets -/

namespace DistributedSchedMissionManager

variable {env : MissionEnv} {m : DistributedSchedMissionManager} {deviceId : String}

/-- The beginning of the list in the cache, converted. -/
theorem getMissionInfos_served (hd : deviceId ≠ "") (hknown : env.getDeviceInfoById deviceId = true)
    (huuid : env.getUuidByNetworkId deviceId ≠ "") {numMissions : Int} (hn : 0 < numMissions)
    {infos : List DstbMissionInfo}
    (hstored : m.deviceMissionInfos[env.getUuidByNetworkId deviceId]? = some infos)
    (out : List MissionInfo) :
    m.getMissionInfosInto env deviceId numMissions out =
      (convertToMissionInfos (infos.take numMissions.toNat) out).map (errOk, ·) := by
  have hget : m.getMissionInfos env deviceId numMissions = .ok (infos.take numMissions.toNat) := by
    rw [getMissionInfos, if_neg (by simp [hd, hknown]), if_neg (Int.not_le.mpr hn),
      fetchCachedRemoteMissions]
    simp only [if_neg huuid, hstored]
  rw [getMissionInfosInto, hget]

end DistributedSchedMissionManager

open DistributedSchedMissionManager

/-- **The missions that are served.**  A list that was read is in the cache.  An application gets
the first records of it, converted, exactly when each of them has its `Want`; of a list that the
peer made of its missions, it gets the first of these. -/
theorem serves_iff_wants {p : ParcelPrimitives} {lib : ListLibrary} {env : MissionEnv}
    {m₀ m : DistributedSchedMissionManager} {d : String} {numMissions : Int} (hd : d ≠ "")
    (hknown : env.getDeviceInfoById d = true) (huuid : env.getUuidByNetworkId d ≠ "")
    (hn : 0 < numMissions) {parcel rest : List UInt8} {infos : List DstbMissionInfo}
    (hread : readDstbMissionInfosFromParcel p lib [] parcel = (true, infos, rest))
    (hstored : m.deviceMissionInfos[env.getUuidByNetworkId d]? =
      (m₀.rebornMissionCache env d infos).deviceMissionInfos[env.getUuidByNetworkId d]?) :
    ((∃ out, m.getMissionInfosInto env d numMissions [] = some (errOk, out) ∧
        List.Forall₂ SameMission (infos.take numMissions.toNat) out) ↔
      ∀ info ∈ infos.take numMissions.toNat, info.baseWant ≠ none) ∧
    (p.Lawful → lib.Lawful → ∀ missionInfos bytes, missionInfos.length < 2 ^ 31 →
      (∀ info ∈ missionInfos, lib.Inverse info.label ∧ lib.Inverse info.iconPath) →
      writeDstbMissionInfosToParcel p lib (convertToDstbMissionInfos missionInfos []) =
        some bytes →
      parcel = bytes ++ rest →
      m.getMissionInfosInto env d numMissions [] =
        some (errOk, missionInfos.take numMissions.toNat)) := by
  rw [rebornMissionCache_getElem?, if_pos ⟨rfl, huuid⟩] at hstored
  have hserved := getMissionInfos_served hd hknown huuid hn hstored []
  constructor
  · rw [hserved, ← exists_converted_iff]
    constructor
    · rintro ⟨out, -, hc⟩
      exact ⟨out, hc⟩
    · rintro ⟨out, hc⟩
      exact ⟨out, Option.map_eq_some_iff.mpr
        ⟨out, convertToMissionInfos_eq_some.mpr ⟨out, rfl, hc⟩, rfl⟩, hc⟩
  · rintro hp hlib missionInfos bytes hlength hstrings hwrite rfl
    rw [convertToDstbMissionInfos_eq, List.nil_append] at hwrite
    have hroundTrips : ∀ info ∈ missionInfos.map toDstbMissionInfo,
        (DstbMissionInfo.parcelable p lib).RoundTrips info := by
      intro info hm
      obtain ⟨missionInfo, hmem, rfl⟩ := List.mem_map.mp hm
      exact DstbMissionInfo.roundTrips hp hlib (hstrings missionInfo hmem).1
        (hstrings missionInfo hmem).2
    have hwritten := readVector_written hp hlib hroundTrips (by rwa [List.length_map]) hwrite
      (fun _ => []) [] rest
    -- the vector was empty, so the list is read as it was written
    have hinfos : infos = missionInfos.map toDstbMissionInfo := by
      have heq := hread.symm.trans hwritten
      simp only [List.nil_append, Prod.mk.injEq, true_and, and_true] at heq
      rw [heq]
      split
      · rename_i hnil
        rw [hnil]
      · rfl
    have hconverted : List.Forall₂ SameMission (infos.take numMissions.toNat)
        (missionInfos.take numMissions.toNat) := by
      rw [hinfos, ← List.map_take, List.forall₂_map_left_iff, List.forall₂_same]
      exact fun info _ => sameMission_toDstbMissionInfo info
    rw [hserved, convertToMissionInfos_eq_some.mpr ⟨_, rfl, hconverted⟩]
    rfl

/-- Two missions of device "B", of which an application asks for one. -/
theorem serves_iff_wants_one : ∃ bytes infos,
    writeDstbMissionInfosToParcel plainParcel plainLibrary
      (convertToDstbMissionInfos [{ id := 7, continuable := true }, { id := 8 }] []) = some bytes ∧
    readDstbMissionInfosFromParcel plainParcel plainLibrary [] bytes = (true, infos, []) ∧
    getMissionInfosInto listeningEnv (rebornMissionCache listeningEnv {} "B" infos) "B" 1 [] =
      some (errOk, [{ id := 7, continuable := true }]) := by
  have hcross : (writeDstbMissionInfosToParcel plainParcel plainLibrary
      (convertToDstbMissionInfos [{ id := 7, continuable := true }, { id := 8 }] [])).map
        (readDstbMissionInfosFromParcel plainParcel plainLibrary []) =
      some (true, [{ id := 7, baseWant := some {}, continuable := 1 },
        { id := 8, baseWant := some {} }], []) := by
    decide +kernel
  obtain ⟨bytes, hwrite, hread⟩ := Option.map_eq_some_iff.mp hcross
  have hserves := @serves_iff_wants plainParcel plainLibrary listeningEnv {}
    (rebornMissionCache listeningEnv {} "B" [{ id := 7, baseWant := some {}, continuable := 1 },
      { id := 8, baseWant := some {} }]) "B" 1 (by decide) rfl (by decide) (by decide) bytes [] _
    hread rfl
  exact ⟨bytes, _, hwrite, hread, hserves.2 plainParcel_lawful plainLibrary_lawful
    [{ id := 7, continuable := true }, { id := 8 }] bytes (by decide) (by decide +kernel) hwrite
    (List.append_nil bytes).symm⟩

/-- **A `Want` that is absent.**  Device "B" sends a record without one, which is read and stored;
an application that asks for the missions makes the service dereference it. -/
theorem absent_want : ∃ bytes infos,
    writeDstbMissionInfosToParcel plainParcel plainLibrary [{ id := 7 }] = some bytes ∧
    readDstbMissionInfosFromParcel plainParcel plainLibrary [] bytes = (true, infos, []) ∧
    getMissionInfosInto listeningEnv (rebornMissionCache listeningEnv {} "B" infos) "B" 1 [] =
      none := by
  have hcross : (writeDstbMissionInfosToParcel plainParcel plainLibrary [{ id := 7 }]).map
      (readDstbMissionInfosFromParcel plainParcel plainLibrary []) =
      some (true, [{ id := 7 }], []) := by
    decide +kernel
  obtain ⟨bytes, hwrite, hread⟩ := Option.map_eq_some_iff.mp hcross
  exact ⟨bytes, _, hwrite, hread, rfl⟩

end DistributedSched

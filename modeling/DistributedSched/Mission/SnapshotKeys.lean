import Mathlib
import DistributedSched.Library.Separated
import DistributedSched.Mission.Snapshots

/-!
# Mission — the keys of snapshots

The distributed store and the cache name a snapshot by one text: the uuid of the device, '_' and
the mission id.  `ParseInfo` takes it apart, and `DeleteCachedSnapshotInfo` looks for a uuid
anywhere in it.

Uuids have one length, and neither '_' nor white space in them (`Uuid`).  A mission id is written
with at most eleven characters.  So where uuids are longer than that, a uuid that is found in a key
reaches neither over the '_' nor into the number: it is the uuid of the key.

* `SplitsAtUnderscores`, `InvertsToString`: what `SplitStr` and `StrToInt` do.
* `snapshot_keys`: there is one format, a key has one reading, which is the one that `ParseInfo`
  finds, and `DeleteCachedSnapshotInfo` removes the keys of the uuid and no others.
* `Uuid.named`: `OnChange` takes the snapshot out of the cache under the key that was changed.
-/

namespace DistributedSched

open Std (ExtTreeMap)

/-- `GenerateKey` of `DistributedDataStorage`. -/
def generateKey (uuid : String) (missionId : Int) : String :=
  (("".append uuid).append "_").append (toString missionId)

theorem generateKey_eq (uuid : String) (missionId : Int) :
    generateKey uuid missionId = generateKeyInfo uuid missionId := by
  show "" ++ uuid ++ "_" ++ toString missionId = uuid ++ "_" ++ toString missionId
  rw [String.empty_append]

theorem toList_generateKeyInfo (uuid : String) (missionId : Int) :
    (generateKeyInfo uuid missionId).toList =
      uuid.toList ++ '_' :: (toString missionId).toList := by
  simp [generateKeyInfo]

/-! ### Uuids and mission ids as text -/

/-- Text without '_' and white space. -/
def Plain (text : String) : Prop := ∀ c ∈ text.toList, c ≠ '_' ∧ c.isWhitespace = false

/-- A device uuid of the length that all uuids have. -/
@[ext]
structure Uuid (length : Nat) where
  value : String
  length_eq : value.length = length
  plain : Plain value
deriving DecidableEq

theorem plain_repr (n : Nat) : Plain n.repr := by
  intro c hc
  rw [Nat.toList_repr] at hc
  have hdigit : c.isDigit = true := Nat.isDigit_of_mem_toDigits (by decide) (by decide) hc
  constructor
  · rintro rfl
    cases hdigit
  · cases hw : c.isWhitespace with
    | false => rfl
    | true =>
        simp only [Char.isWhitespace, Bool.or_eq_true, decide_eq_true_eq] at hw
        rcases hw with ((rfl | rfl) | rfl) | rfl <;> cases hdigit

theorem plain_intRepr (i : Int) : Plain i.repr := by
  rw [Int.repr_eq_if]
  split
  · exact plain_repr _
  · intro c hc
    rw [String.toList_append] at hc
    rcases List.mem_append.mp hc with hc | hc
    · obtain rfl : c = '-' := by simpa using hc
      decide
    · exact plain_repr _ c hc

/-- The longest is that of `INT32_MIN`. -/
theorem length_toString_int32 (i : Int32) : (toString i.toInt).length ≤ 11 := by
  have hmin := Int32.le_toInt i
  have hmax := Int32.toInt_lt i
  show (Int.repr i.toInt).length ≤ 11
  rw [Int.repr_eq_if]
  split
  · rw [Nat.length_repr_le_iff (by decide)]
    omega
  · rw [String.length_append]
    have hdigits : ((-i.toInt).toNat.repr).length ≤ 10 := by
      rw [Nat.length_repr_le_iff (by decide)]
      omega
    exact Nat.add_le_add (Nat.le_refl 1) hdigits

theorem intRepr_ne_empty (i : Int) : i.repr ≠ "" := by
  rw [Int.repr_eq_if]
  split
  · exact Nat.repr_ne_empty
  · intro h
    have hlength := congrArg String.length h
    rw [String.length_append] at hlength
    cases (Nat.add_eq_zero_iff.mp hlength).1

/-! ### The functions on texts -/

/-- `SplitStr` splits at each '_' and drops empty parts; on text without white space there is
nothing to trim. -/
def SplitsAtUnderscores (splitStr : String → List String) : Prop :=
  ∀ parts : List String, (∀ part ∈ parts, Plain part) →
    splitStr ("_".intercalate parts) = parts.filter fun part => part ≠ ""

/-- `StrToInt` reads what `to_string` writes. -/
def InvertsToString (strToInt : String → Option Int) : Prop :=
  ∀ i : Int32, strToInt (toString i.toInt) = some i.toInt

/-! ### Keys -/

section keys

variable {length : Nat} {env : SnapshotEnv}

theorem Uuid.length_toList_eq (uuid uuid' : Uuid length) :
    uuid.value.toList.length = uuid'.value.toList.length := by
  rw [String.length_toList, String.length_toList, uuid.length_eq, uuid'.length_eq]

theorem Uuid.ne_empty (hlength : 11 < length) (uuid : Uuid length) : uuid.value ≠ "" := by
  intro h
  have hempty := uuid.length_eq
  rw [h] at hempty
  subst hempty
  cases hlength

theorem parseInfo_generateKeyInfo (hlength : 11 < length)
    (hsplit : SplitsAtUnderscores env.splitStr) (hint : InvertsToString env.strToInt)
    (uuid : Uuid length) (missionId : Int32) :
    parseInfo env (generateKeyInfo uuid.value missionId.toInt) =
      some (uuid.value, missionId.toInt) := by
  have hkey : generateKeyInfo uuid.value missionId.toInt =
      "_".intercalate [uuid.value, toString missionId.toInt] := rfl
  have hplain : ∀ part ∈ [uuid.value, toString missionId.toInt], Plain part := by
    simp [uuid.plain, plain_intRepr]
  have hparts : env.splitStr (generateKeyInfo uuid.value missionId.toInt) =
      [uuid.value, toString missionId.toInt] := by
    rw [hkey, hsplit _ hplain]
    simp [uuid.ne_empty hlength, intRepr_ne_empty]
  rw [parseInfo, hparts]
  show (env.strToInt (toString missionId.toInt)).map _ = _
  rw [hint]
  rfl

theorem generateKeyInfo_inj {uuid uuid' : Uuid length} {missionId missionId' : Int32}
    (h : generateKeyInfo uuid.value missionId.toInt =
      generateKeyInfo uuid'.value missionId'.toInt) :
    uuid = uuid' ∧ missionId = missionId' := by
  have htext := congrArg String.toList h
  rw [toList_generateKeyInfo, toList_generateKeyInfo] at htext
  obtain ⟨huuid, hid⟩ := Separated.parts_inj (uuid.length_toList_eq uuid') htext
  have hrepr : missionId.toInt.repr = missionId'.toInt.repr := String.toList_injective hid
  exact ⟨Uuid.ext (String.toList_injective huuid), Int32.toInt_inj.mp (Int.repr_injective hrepr)⟩

/-- **A uuid is found in the keys of its device only.** -/
theorem contains_generateKeyInfo (hlength : 11 < length) (uuid uuid' : Uuid length)
    (missionId : Int32) :
    (generateKeyInfo uuid'.value missionId.toInt).contains uuid.value = true ↔ uuid' = uuid := by
  have hseparator : '_' ∉ uuid.value.toList := fun hs => (uuid.plain _ hs).1 rfl
  have hnumber : (toString missionId.toInt).toList.length < uuid.value.toList.length := by
    have hdigits := length_toString_int32 missionId
    rw [String.length_toList, String.length_toList, uuid.length_eq]
    omega
  rw [String.contains_string_iff, toList_generateKeyInfo,
    Separated.infix_iff_eq hseparator (uuid.length_toList_eq uuid') hnumber]
  constructor
  · intro h
    exact Uuid.ext (String.toList_injective h.symm)
  · rintro rfl
    rfl

/-- What `DeleteCachedSnapshotInfo` leaves under a key. -/
theorem getElem?_deleteCachedSnapshotInfo (hlength : 11 < length) {networkId : String}
    (hn : networkId ≠ "") {uuid : Uuid length}
    (huuid : env.getUuidByNetworkId networkId = uuid.value) (cached : Map String Snapshot)
    (uuid' : Uuid length) (missionId : Int32) :
    (deleteCachedSnapshotInfo env cached networkId)[generateKeyInfo uuid'.value missionId.toInt]? =
      if uuid' = uuid then none
      else cached[generateKeyInfo uuid'.value missionId.toInt]? := by
  unfold deleteCachedSnapshotInfo
  generalize env.getUuidByNetworkId networkId = text at huuid ⊢
  subst huuid
  rw [if_neg hn, if_neg (uuid.ne_empty hlength), ExtTreeMap.getElem?_filter']
  have hcontains := contains_generateKeyInfo hlength uuid uuid' missionId
  split
  · rename_i hu
    rw [hcontains.mpr hu]
    cases cached[generateKeyInfo uuid'.value missionId.toInt]? <;> rfl
  · rename_i hu
    rw [Bool.eq_false_iff.mpr (mt hcontains.mp hu)]
    cases cached[generateKeyInfo uuid'.value missionId.toInt]? <;> rfl

/-- The snapshot that `OnChange` takes out of the cache is the one of the key that was changed. -/
theorem Uuid.named (hlength : 11 < length) (hsplit : SplitsAtUnderscores env.splitStr)
    (hint : InvertsToString env.strToInt) (uuid : Uuid length) (missionId : Int32) :
    Named env (generateKey uuid.value missionId.toInt) := by
  rw [generateKey_eq]
  exact ⟨uuid.value, missionId.toInt, parseInfo_generateKeyInfo hlength hsplit hint uuid missionId,
    uuid.ne_empty hlength, rfl⟩

end keys

/-- **Keys of snapshots.**  With uuids of one length of more than eleven characters, the store and
the cache use one key; it has one reading, which is the one that `ParseInfo` finds; and
`DeleteCachedSnapshotInfo` removes the keys of the uuid and no others. -/
theorem snapshot_keys {length : Nat} (hlength : 11 < length) {env : SnapshotEnv}
    (hsplit : SplitsAtUnderscores env.splitStr) (hint : InvertsToString env.strToInt) :
    (∀ (uuid : Uuid length) (missionId : Int32),
      generateKey uuid.value missionId.toInt = generateKeyInfo uuid.value missionId.toInt) ∧
    (∀ (uuid uuid' : Uuid length) (missionId missionId' : Int32),
      generateKeyInfo uuid.value missionId.toInt = generateKeyInfo uuid'.value missionId'.toInt →
        uuid = uuid' ∧ missionId = missionId') ∧
    (∀ (uuid : Uuid length) (missionId : Int32),
      parseInfo env (generateKeyInfo uuid.value missionId.toInt) =
        some (uuid.value, missionId.toInt)) ∧
    (∀ (cached : Map String Snapshot) (networkId : String) (uuid : Uuid length),
      networkId ≠ "" → env.getUuidByNetworkId networkId = uuid.value →
        ∀ (uuid' : Uuid length) (missionId : Int32),
          (deleteCachedSnapshotInfo env cached networkId)[
              generateKeyInfo uuid'.value missionId.toInt]? =
            if uuid' = uuid then none
            else cached[generateKeyInfo uuid'.value missionId.toInt]?) := by
  refine ⟨fun uuid missionId => generateKey_eq _ _, fun uuid uuid' missionId missionId' h => ?_,
    fun uuid missionId => ?_, fun cached networkId uuid hn huuid uuid' missionId => ?_⟩
  · exact generateKeyInfo_inj h
  · exact parseInfo_generateKeyInfo hlength hsplit hint uuid missionId
  · exact getElem?_deleteCachedSnapshotInfo hlength hn huuid cached uuid' missionId

/-- The two functions on texts, with the uuids for network ids. -/
def keyEnv : SnapshotEnv :=
  { splitStr := fun text => ((text.split '_').toList.map (·.copy)).filter fun part => part ≠ ""
    strToInt := fun text => text.toInt?.filter fun i => -2 ^ 31 ≤ i ∧ i < 2 ^ 31 }

theorem keyEnv_splits : SplitsAtUnderscores keyEnv.splitStr := by
  intro parts hplain
  show ((("_".intercalate parts).split '_').toList.map (·.copy)).filter _ = _
  have hseparator : "_" = String.singleton '_' := rfl
  rw [hseparator, String.toList_split_intercalate fun part hp hu => (hplain part hp _ hu).1 rfl]
  split
  · rename_i hparts
    subst hparts
    rfl
  · rfl

theorem keyEnv_inverts : InvertsToString keyEnv.strToInt := by
  intro i
  show (i.toInt.repr.toInt?).filter _ = _
  rw [Int.toInt?_repr]
  exact Option.filter_eq_some_iff.mpr ⟨rfl, decide_eq_true ⟨Int32.le_toInt i, Int32.toInt_lt i⟩⟩

def firstUuid : Uuid 12 := ⟨"0123456789ab", by decide, by simp [Plain]⟩

def secondUuid : Uuid 12 := ⟨"0123456789ac", by decide, by simp [Plain]⟩

/-- Snapshots of mission -5 of both devices. -/
def twoDevices : Map String Snapshot :=
  ((∅ : Map String Snapshot).insert "0123456789ab_-5" { pixelMap := ⟨"0123456789ab_-5", 0⟩ }).insert
    "0123456789ac_-5" { pixelMap := ⟨"0123456789ac_-5", 1⟩ }

/-- The first device goes offline. -/
theorem snapshot_keys_offline :
    parseInfo keyEnv "0123456789ab_-5" = some ("0123456789ab", -5) ∧
    (deleteCachedSnapshotInfo keyEnv twoDevices "0123456789ab")["0123456789ab_-5"]? = none ∧
    ((deleteCachedSnapshotInfo keyEnv twoDevices "0123456789ab")["0123456789ac_-5"]?).isSome := by
  obtain ⟨-, -, hparse, hdelete⟩ :=
    @snapshot_keys 12 (by decide) keyEnv keyEnv_splits keyEnv_inverts
  refine ⟨hparse firstUuid (-5), ?_, ?_⟩
  · exact hdelete twoDevices "0123456789ab" firstUuid (by decide) rfl firstUuid (-5)
  · have hkept := hdelete twoDevices "0123456789ab" firstUuid (by decide) rfl secondUuid (-5)
    rw [if_neg (by decide)] at hkept
    exact congrArg Option.isSome hkept

-- eleven characters are not enough: the number of a key can be a uuid
example : (generateKeyInfo "0123456789a" (-2147483648)).contains "-2147483648" = true := by
  rw [String.contains_string_iff]
  decide

end DistributedSched

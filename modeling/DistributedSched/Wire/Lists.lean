import DistributedSched.Mission.State
import DistributedSched.Wire.Primitives

/-!
# Wire — lists of missions and of continuation results

`DstbMissionInfo`, `AAFwk::MissionInfo` and `ContinuationResult` cross in lists: a marker, and when
there are elements, how many and the elements.  The readers of missions clear the vector that they
are given only behind the marker, so that an empty list leaves what was in it; the reader of
continuation results clears it first.

* `DstbMissionInfo.roundTrips`: the fields are read as they are written.
* `readVector_written`: what a list leaves in the vector.
* `lists_exact_iff`: the three readers; those of missions leave the list alone exactly when it has
  elements or the vector was empty.
-/

namespace DistributedSched

open Reading Coding ParcelPrimitives

/-- The fields of `AAFwk::MissionInfo` that are converted. -/
structure MissionInfo where
  id : Int := -1
  runningState : Int := -1
  lockedState : Bool := false
  label : String := ""
  iconPath : String := ""
  want : Want := {}
  continuable : Bool := false
deriving DecidableEq

structure ContinuationResult where
  deviceId : String := ""
  deviceType : String := ""
  deviceName : String := ""
deriving DecidableEq

/-- `VALUE_NULL`: no object in the parcel. -/
def valueNull : Int := -1

/-- `VALUE_OBJECT`. -/
def valueObject : Int := 1

/-- What the elements are made of. -/
structure ListLibrary where
  want : Parcelable Want
  elementName : Parcelable ElementName
  missionInfo : Parcelable MissionInfo
  str8ToStr16 : String → List UInt16
  str16ToStr8 : List UInt16 → String
  /-- the least `max_size()` of the vectors -/
  maxSize : Nat

namespace ListLibrary

/-- The string comes back from its conversion. -/
def Inverse (lib : ListLibrary) (s : String) : Prop := lib.str16ToStr8 (lib.str8ToStr16 s) = s

instance (lib : ListLibrary) (s : String) : Decidable (lib.Inverse s) :=
  inferInstanceAs (Decidable (_ = _))

/-- Parcelables round-trip, and a vector takes every length of an `int32_t`. -/
structure Lawful (lib : ListLibrary) : Prop where
  want : ∀ a, lib.want.RoundTrips a
  elementName : ∀ a, lib.elementName.RoundTrips a
  missionInfo : ∀ a, lib.missionInfo.RoundTrips a
  le_maxSize : 2 ^ 31 ≤ lib.maxSize

end ListLibrary

section functions

variable (p : ParcelPrimitives) (lib : ListLibrary)

namespace DstbMissionInfo

def marshalling (info : DstbMissionInfo) : Option (List UInt8) :=
  concat [p.int32.write info.id, p.int32.write info.runingState, p.int32.write info.userId,
    p.int32.write info.missionStackId, p.int32Vector.write info.combinedMissionIds,
    p.int32.write info.windowMode, p.int32.write info.boundsLeft, p.int32.write info.boundsTop,
    p.int32.write info.boundsRight, p.int32.write info.boundsBottom,
    (p.parcelable lib.want).write info.baseWant,
    (p.parcelable lib.elementName).write info.topAbility,
    (p.parcelable lib.elementName).write info.baseAbility,
    (p.parcelable lib.elementName).write info.reservedAbility,
    p.int64.write info.lastMissionActiveTime, p.int32.write info.displayId,
    p.string16.write (lib.str8ToStr16 info.label), p.int32.write info.size,
    p.string16.write (lib.str8ToStr16 info.iconPath), p.int32.write info.continuable,
    p.int32.write info.windowType, p.bool.write info.lockedState,
    p.int32.write info.missionType, p.int32.write info.windowTypeMode]

/-- `ReadFromParcel` of a new object; `Unmarshalling` gives `nullptr` when it fails. -/
def readFromParcel : Reader UInt8 Unit DstbMissionInfo := do
  let id ← p.int32.readD 0
  let runingState ← p.int32.readD 0
  let userId ← p.int32.readD 0
  let missionStackId ← p.int32.readD 0
  let combinedMissionIds ← p.int32Vector.readOr ()
  let windowMode ← p.int32.readD 0
  let boundsLeft ← p.int32.readD 0
  let boundsTop ← p.int32.readD 0
  let boundsRight ← p.int32.readD 0
  let boundsBottom ← p.int32.readD 0
  let baseWant ← p.readParcelable lib.want
  let topAbility ← p.readParcelable lib.elementName
  let baseAbility ← p.readParcelable lib.elementName
  let reservedAbility ← p.readParcelable lib.elementName
  let lastMissionActiveTime ← p.int64.readD 0
  let displayId ← p.int32.readD 0
  let label ← p.string16.readD []
  let size ← p.int32.readD 0
  let iconPath ← p.string16.readD []
  let continuable ← p.int32.readD 0
  let windowType ← p.int32.readD 0
  let lockedState ← p.bool.readD false
  let missionType ← p.int32.readD 0
  let windowTypeMode ← p.int32.readD 0
  return { id, runingState, userId, missionStackId, combinedMissionIds, windowMode, boundsLeft,
           boundsTop, boundsRight, boundsBottom, baseWant, topAbility, baseAbility,
           reservedAbility, lastMissionActiveTime, displayId, label := lib.str16ToStr8 label,
           size, iconPath := lib.str16ToStr8 iconPath, continuable, windowType, lockedState,
           missionType, windowTypeMode }

def parcelable : Parcelable DstbMissionInfo := ⟨marshalling p lib, readFromParcel p lib⟩

end DstbMissionInfo

namespace ContinuationResult

/-- `WriteString16`; nobody looks whether it fails. -/
def writeString (s : String) : Option (List UInt8) :=
  some ((p.string16.write (lib.str8ToStr16 s)).getD [])

def marshalling (result : ContinuationResult) : Option (List UInt8) :=
  concat [writeString p lib result.deviceId, writeString p lib result.deviceType,
    writeString p lib result.deviceName]

def readFromParcel : Reader UInt8 Unit ContinuationResult := do
  let deviceId ← p.string16.readD []
  let deviceType ← p.string16.readD []
  let deviceName ← p.string16.readD []
  return { deviceId := lib.str16ToStr8 deviceId, deviceType := lib.str16ToStr8 deviceType,
           deviceName := lib.str16ToStr8 deviceName }

def parcelable : Parcelable ContinuationResult := ⟨marshalling p lib, readFromParcel p lib⟩

end ContinuationResult

/-! ### The lists -/

variable {α : Type} (c : Parcelable α)

/-- The loop of a reader; `emplace_back` puts an element behind those that are there. -/
def readElements : Nat → List α → List UInt8 → Bool × List α × List UInt8
  | 0, out, s => (true, out, s)
  | n + 1, out, s =>
    match (p.parcelable c).read s with
    | (some (some a), s) => readElements n (out ++ [a]) s
    | (_, s) => (false, out, s)

/-- A reader of a list, which does `onLength` to the vector before its loop: whether it returns
true, what the vector holds, and what is left of the parcel. -/
def readVector (onLength : List α → List α) (out : List α) (s : List UInt8) :
    Bool × List α × List UInt8 :=
  let readInt32 (s : List UInt8) := ((p.int32.read s).1.getD 0, (p.int32.read s).2)
  let (empty, s) := readInt32 s
  if empty ≠ valueObject then (true, out, s) else
  let (len, s) := readInt32 s
  if len < 0 then (false, out, s) else
  let size := len.toNat
  if s.length < size ∨ lib.maxSize < size then (false, out, s) else
  readElements p c size (onLength out) s

/-- A writer of a list. -/
def writeVector (as : List α) : Option (List UInt8) :=
  let size := as.length
  if size = 0 then p.int32.write valueNull else
  concat (p.int32.write valueObject :: p.int32.write (uint32ToInt32 (toUint32 size)) ::
    as.map fun a => (p.parcelable c).write (some a))

def readDstbMissionInfosFromParcel (missionInfos : List DstbMissionInfo) (parcel : List UInt8) :
    Bool × List DstbMissionInfo × List UInt8 :=
  readVector p lib (DstbMissionInfo.parcelable p lib) (fun _ => []) missionInfos parcel

def writeDstbMissionInfosToParcel : List DstbMissionInfo → Option (List UInt8) :=
  writeVector p (DstbMissionInfo.parcelable p lib)

def readMissionInfosFromParcel (missionInfos : List MissionInfo) (parcel : List UInt8) :
    Bool × List MissionInfo × List UInt8 :=
  readVector p lib lib.missionInfo (fun _ => []) missionInfos parcel

def writeMissionInfosToParcel : List MissionInfo → Option (List UInt8) :=
  writeVector p lib.missionInfo

/-- `ReadContinuationResultsFromParcel`, which clears the vector first. -/
def readContinuationResultsFromParcel (_continuationResults : List ContinuationResult)
    (parcel : List UInt8) : Bool × List ContinuationResult × List UInt8 :=
  readVector p lib (ContinuationResult.parcelable p lib) id [] parcel

def writeContinuationResultsToParcel : List ContinuationResult → Option (List UInt8) :=
  writeVector p (ContinuationResult.parcelable p lib)

end functions

variable {p : ParcelPrimitives} {lib : ListLibrary}

/-! ### One element -/

/-- The fields are read as they are written. -/
theorem DstbMissionInfo.roundTrips (hp : p.Lawful) (hlib : lib.Lawful) {info : DstbMissionInfo}
    (hlabel : lib.Inverse info.label) (hiconPath : lib.Inverse info.iconPath) :
    (DstbMissionInfo.parcelable p lib).RoundTrips info := by
  have hint32 : ∀ i, Mirrors (ε := Unit) (p.int32.write i) (p.int32.readD 0) i :=
    fun i => (hp.int32.roundTrips i).readD 0
  refine .cons (hint32 _) <| .cons (hint32 _) <| .cons (hint32 _) <| .cons (hint32 _) <|
    .cons ((hp.int32Vector.roundTrips _).readOr ()) <|
    .cons (hint32 _) <| .cons (hint32 _) <| .cons (hint32 _) <| .cons (hint32 _) <|
    .cons (hint32 _) <|
    .cons (hp.readParcelable fun want _ => hlib.want want) <|
    .cons (hp.readParcelable fun element _ => hlib.elementName element) <|
    .cons (hp.readParcelable fun element _ => hlib.elementName element) <|
    .cons (hp.readParcelable fun element _ => hlib.elementName element) <|
    .cons ((hp.int64.roundTrips _).readD 0) <| .cons (hint32 _) <|
    .cons ((hp.string16.roundTrips _).readD []) <| .cons (hint32 _) <|
    .cons ((hp.string16.roundTrips _).readD []) <| .cons (hint32 _) <| .cons (hint32 _) <|
    .cons ((hp.bool.roundTrips _).readD false) <| .cons (hint32 _) <| .cons (hint32 _) ?_
  rw [hlabel, hiconPath]
  exact .nil info

variable (p lib) in
/-- The parcel takes the string, and it comes back from its conversion. -/
structure Carries (s : String) : Prop where
  written : p.string16.write (lib.str8ToStr16 s) ≠ none
  inverse : lib.Inverse s

/-- A string that is carried is written, although nobody looks. -/
theorem Carries.mirrors (hp : p.Lawful) {s : String} (h : Carries p lib s) :
    Mirrors (ε := Unit) (ContinuationResult.writeString p lib s) (p.string16.readD [])
      (lib.str8ToStr16 s) := by
  obtain ⟨bytes, hs⟩ := Option.ne_none_iff_exists'.mp h.written
  have hmirrors := (hp.string16.roundTrips (lib.str8ToStr16 s)).readD (ε := Unit) []
  rw [ContinuationResult.writeString, hs]
  rwa [hs] at hmirrors

theorem ContinuationResult.roundTrips (hp : p.Lawful) {result : ContinuationResult}
    (hid : Carries p lib result.deviceId) (htype : Carries p lib result.deviceType)
    (hname : Carries p lib result.deviceName) :
    (ContinuationResult.parcelable p lib).RoundTrips result := by
  show Mirrors (ContinuationResult.marshalling p lib result)
    (ContinuationResult.readFromParcel p lib) result
  unfold ContinuationResult.marshalling ContinuationResult.readFromParcel
  refine .cons (hid.mirrors hp) ?_
  refine .cons (htype.mirrors hp) ?_
  refine .cons (hname.mirrors hp) ?_
  rw [hid.inverse, htype.inverse, hname.inverse]
  exact .nil result

/-! ### Any number of elements -/

section lists

variable {α : Type} {c : Parcelable α}

/-- The loop puts what was written behind what is there. -/
theorem readElements_written (hp : p.Lawful) {as : List α} (h : ∀ a ∈ as, c.RoundTrips a)
    {bytes : List UInt8}
    (hw : concat (as.map fun a => (p.parcelable c).write (some a)) = some bytes)
    (out : List α) (rest : List UInt8) :
    readElements p c as.length out (bytes ++ rest) = (true, out ++ as, rest) := by
  induction as generalizing bytes out with
  | nil =>
      cases hw
      rw [List.append_nil]
      rfl
  | cons a as ih =>
      obtain ⟨ha, has⟩ := List.forall_mem_cons.mp h
      obtain ⟨s₁, s₂, h₁, h₂, rfl⟩ := concat_cons_eq_some.mp hw
      have hread := hp.parcelable_some ha s₁ h₁ (s₂ ++ rest)
      rw [List.length_cons, readElements, List.append_assoc, hread]
      show readElements p c as.length (out ++ [a]) (s₂ ++ rest) = _
      rw [ih has h₂, List.append_assoc, List.singleton_append]

/-- **A list of any length.**  It is read to its end; an empty one leaves the vector as it was
before the marker was read. -/
theorem readVector_written (hp : p.Lawful) (hlib : lib.Lawful) {as : List α}
    (h : ∀ a ∈ as, c.RoundTrips a) (hlt : as.length < 2 ^ 31) {bytes : List UInt8}
    (hw : writeVector p c as = some bytes) (onLength : List α → List α) (out : List α)
    (rest : List UInt8) :
    readVector p lib c onLength out (bytes ++ rest) =
      (true, if as = [] then out else onLength out ++ as, rest) := by
  unfold writeVector at hw
  by_cases has : as = []
  · subst has
    have hread := hp.int32.roundTrips valueNull bytes hw rest
    unfold readVector
    simp only [hread, Option.getD_some]
    rfl
  · have hsize : as.length ≠ 0 := fun hz => has (List.length_eq_zero_iff.mp hz)
    rw [if_neg hsize] at hw
    obtain ⟨s₁, s', h₁, hw', rfl⟩ := concat_cons_eq_some.mp hw
    obtain ⟨s₂, s₃, h₂, h₃, rfl⟩ := concat_cons_eq_some.mp hw'
    have hlen : uint32ToInt32 (toUint32 as.length) = as.length :=
      uint32ToInt32_toUint32 (by omega)
    rw [hlen] at h₂
    have hmarker := hp.int32.roundTrips valueObject s₁ h₁ (s₂ ++ (s₃ ++ rest))
    have hlength := hp.int32.roundTrips as.length s₂ h₂ (s₃ ++ rest)
    -- the guard: an element is at least a byte long
    have hguard : as.length ≤ s₃.length := by
      refine (List.length_map _).symm.trans_le (length_le_of_concat (fun w hm s hs => ?_) h₃)
      obtain ⟨a, -, rfl⟩ := List.mem_map.mp hm
      rintro rfl
      exact hp.parcelable_ne_nil c (some a) hs
    have hmax := hlib.le_maxSize
    unfold readVector
    simp only [List.append_assoc, hmarker, hlength, Option.getD_some]
    rw [if_neg (fun hne => hne rfl), if_neg (by omega), if_neg ?_, if_neg has]
    · exact readElements_written hp h h₃ (onLength out) rest
    · rw [List.length_append, Int.toNat_natCast]
      omega

end lists

/-- **The three readers.**  Whatever the vector held, the readers of missions leave exactly the
list in it when and only when the list has elements or the vector was empty; the reader of
continuation results always does.  Each reads exactly what was written. -/
theorem lists_exact_iff (hp : p.Lawful) (hlib : lib.Lawful)
    {dstbMissionInfos dstbOut : List DstbMissionInfo} {missionInfos out : List MissionInfo}
    {results resultsOut : List ContinuationResult} {dstbBytes bytes resultBytes : List UInt8}
    (hdstbLength : dstbMissionInfos.length < 2 ^ 31) (hlength : missionInfos.length < 2 ^ 31)
    (hresultLength : results.length < 2 ^ 31)
    (hstrings : ∀ info ∈ dstbMissionInfos, lib.Inverse info.label ∧ lib.Inverse info.iconPath)
    (hcarried : ∀ result ∈ results, Carries p lib result.deviceId ∧
      Carries p lib result.deviceType ∧ Carries p lib result.deviceName)
    (hdstb : writeDstbMissionInfosToParcel p lib dstbMissionInfos = some dstbBytes)
    (hmission : writeMissionInfosToParcel p lib missionInfos = some bytes)
    (hresult : writeContinuationResultsToParcel p lib results = some resultBytes)
    (rest : List UInt8) :
    (readDstbMissionInfosFromParcel p lib dstbOut (dstbBytes ++ rest) =
        (true, dstbMissionInfos, rest) ↔ dstbMissionInfos ≠ [] ∨ dstbOut = []) ∧
      (readMissionInfosFromParcel p lib out (bytes ++ rest) = (true, missionInfos, rest) ↔
        missionInfos ≠ [] ∨ out = []) ∧
      readContinuationResultsFromParcel p lib resultsOut (resultBytes ++ rest) =
        (true, results, rest) := by
  have hclears : ∀ {α : Type} (as out : List α),
      (true, if as = [] then out else [] ++ as, rest) = (true, as, rest) ↔
        as ≠ [] ∨ out = [] := by
    intro α as out
    by_cases has : as = []
    · simp [has]
    · simp [has]
  refine ⟨?_, ?_, ?_⟩
  · rw [readDstbMissionInfosFromParcel, readVector_written hp hlib (fun info hm =>
      DstbMissionInfo.roundTrips hp hlib (hstrings info hm).1 (hstrings info hm).2)
      hdstbLength hdstb]
    exact hclears ..
  · rw [readMissionInfosFromParcel, readVector_written hp hlib (fun info _ =>
      hlib.missionInfo info) hlength hmission]
    exact hclears ..
  · rw [readContinuationResultsFromParcel, readVector_written hp hlib (fun result hm =>
      ContinuationResult.roundTrips hp (hcarried result hm).1 (hcarried result hm).2.1
        (hcarried result hm).2.2) hresultLength hresult]
    by_cases hr : results = []
    · rw [if_pos hr, hr]
    · rw [if_neg hr]
      rfl

/-- A `Want` that has nothing but flags. -/
def plainWant : Parcelable Want where
  marshalling want :=
    if want = { flags := want.flags } then concat [plainParcel.int32.write want.flags] else none
  unmarshalling := do
    let flags ← plainParcel.int32.readD 0
    return { flags := flags.toNat }

theorem plainWant_roundTrips (want : Want) : plainWant.RoundTrips want := by
  refine .ite fun hflags => ?_
  rw [hflags]
  exact .cons ((plainParcel_lawful.int32.roundTrips _).readD 0) (.nil _)

/-- A mission that has nothing but an id and a `Want`. -/
def plainMissionInfo : Parcelable MissionInfo where
  marshalling info :=
    if info = { id := info.id, want := info.want } then
      concat [plainParcel.int32.write info.id,
        (plainParcel.parcelable plainWant).write (some info.want)]
    else none
  unmarshalling := do
    let id ← plainParcel.int32.readD 0
    let want ← plainParcel.readParcelable plainWant
    return { id, want := want.getD {} }

theorem plainMissionInfo_roundTrips (info : MissionInfo) : plainMissionInfo.RoundTrips info := by
  refine .ite fun hinfo => ?_
  rw [hinfo]
  exact .cons ((plainParcel_lawful.int32.roundTrips _).readD 0) <|
    .cons (plainParcel_lawful.readParcelable fun want _ => plainWant_roundTrips want) (.nil _)

/-- A library for strings of ASCII, which writes no element names. -/
def plainLibrary : ListLibrary where
  want := plainWant
  elementName := ⟨fun _ => none, throw ()⟩
  missionInfo := plainMissionInfo
  str8ToStr16 s := s.toList.map fun c => .ofNat c.toNat
  str16ToStr8 s := .ofList (s.map fun c => .ofNat c.toNat)
  maxSize := 2 ^ 31

theorem plainLibrary_lawful : plainLibrary.Lawful where
  want := plainWant_roundTrips
  elementName _ := fun _ hs => by cases hs
  missionInfo := plainMissionInfo_roundTrips
  le_maxSize := Nat.le_refl _

/-- A mission with a `Want` and one without. -/
def twoMissions : List DstbMissionInfo :=
  [{ id := 7, label := "mail", baseWant := some { flags := 8 } }, { id := 9, continuable := 1 }]

/-- Lists of two missions of each kind and of a device, read into vectors that are not empty. -/
theorem lists_exact_iff_one : ∃ dstbBytes bytes resultBytes,
    writeDstbMissionInfosToParcel plainParcel plainLibrary twoMissions = some dstbBytes ∧
    writeMissionInfosToParcel plainParcel plainLibrary [{ id := 3, want := { flags := 2 } }, {}] =
      some bytes ∧
    writeContinuationResultsToParcel plainParcel plainLibrary [{ deviceId := "u" }] =
      some resultBytes ∧
    readDstbMissionInfosFromParcel plainParcel plainLibrary [{}, {}, {}] dstbBytes =
      (true, twoMissions, []) ∧
    readMissionInfosFromParcel plainParcel plainLibrary [{ id := 5 }] bytes =
      (true, [{ id := 3, want := { flags := 2 } }, {}], []) ∧
    readContinuationResultsFromParcel plainParcel plainLibrary [{}] resultBytes =
      (true, [{ deviceId := "u" }], []) := by
  obtain ⟨dstbBytes, hdstb⟩ := Option.isSome_iff_exists.mp (show
    (writeDstbMissionInfosToParcel plainParcel plainLibrary twoMissions).isSome
    by decide +kernel)
  obtain ⟨bytes, hmission⟩ := Option.isSome_iff_exists.mp (show
    (writeMissionInfosToParcel plainParcel plainLibrary
      [{ id := 3, want := { flags := 2 } }, {}]).isSome by decide +kernel)
  obtain ⟨resultBytes, hresult⟩ := Option.isSome_iff_exists.mp (show
    (writeContinuationResultsToParcel plainParcel plainLibrary [{ deviceId := "u" }]).isSome
    by decide +kernel)
  have hcarries : ∀ s ∈ ["u", ""], Carries plainParcel plainLibrary s := by
    intro s hs
    simp only [List.mem_cons, List.not_mem_nil, or_false] at hs
    rcases hs with rfl | rfl <;> exact ⟨by decide +kernel, by decide +kernel⟩
  obtain ⟨hdstbRead, hread, hresultRead⟩ := @lists_exact_iff plainParcel plainLibrary
    plainParcel_lawful plainLibrary_lawful twoMissions [{}, {}, {}]
    [{ id := 3, want := { flags := 2 } }, {}] [{ id := 5 }] [{ deviceId := "u" }] [{}] dstbBytes
    bytes resultBytes (by decide) (by decide) (by decide) (by decide +kernel)
    (List.forall_mem_singleton.mpr ⟨hcarries _ (by simp), hcarries _ (by simp),
      hcarries _ (by simp)⟩) hdstb hmission hresult []
  simp only [List.append_nil] at hdstbRead hread hresultRead
  exact ⟨dstbBytes, bytes, resultBytes, hdstb, hmission, hresult,
    hdstbRead.mpr (.inl (List.cons_ne_nil _ _)), hread.mpr (.inl (List.cons_ne_nil _ _)),
    hresultRead⟩

/-- **An empty list that leaves the old one.**  It is read into a vector that holds a mission. -/
theorem empty_list_kept : ∃ bytes,
    writeDstbMissionInfosToParcel plainParcel plainLibrary [] = some bytes ∧
    writeMissionInfosToParcel plainParcel plainLibrary [] = some bytes ∧
    readDstbMissionInfosFromParcel plainParcel plainLibrary [{ id := 7 }] bytes =
      (true, [{ id := 7 }], []) ∧
    readDstbMissionInfosFromParcel plainParcel plainLibrary [{ id := 7 }] bytes ≠ (true, [], []) ∧
    readMissionInfosFromParcel plainParcel plainLibrary [{ id := 7 }] bytes ≠ (true, [], []) :=
  ⟨wordBytes (toUint32 valueNull), rfl, rfl, rfl, by decide +kernel, by decide +kernel⟩

end DistributedSched

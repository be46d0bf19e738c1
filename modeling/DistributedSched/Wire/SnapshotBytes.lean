import DistributedSched.Wire.Primitives

/-!
# Wire — the bytes of a snapshot

`Snapshot` as the storage of a device writes it (`WriteSnapshotInfo`, `WritePixelMap`) and another
device makes it again (`Snapshot::Create`): a size, the fields, a size, the image.  The bytes come
from another device.  Each read of the vector goes through `readAt`, which has no value outside of
it; sizes wrap as `size_t` and `uint32_t` do.

* `fillSnapShot_mirrors`: the fields are read as they are written.
* `create_eq`: `Create` reads nothing outside of the vector, and makes what the two sizes frame
  when it accepts them (`Accepted`).
* `Accepted.framed`, `Framed.accepted`: sizes that are accepted frame bytes of the vector, and a
  frame that is not too long is accepted.
* `create_inverts_writer`: every vector, and what is written for any snapshot.
-/

namespace DistributedSched

open Reading Coding ParcelPrimitives

structure Rect where
  left : Int := 0
  top : Int := 0
  right : Int := 0
  bottom : Int := 0
deriving DecidableEq

/-- The fields of a `Snapshot` that `WriteSnapshotInfo` writes. -/
structure SnapshotInfo where
  version : Int := 0
  orientation : Int := 0
  rect : Option Rect := none
  reducedResolution : Bool := true
  scale : UInt32 := 0
  isRealSnapshot : Bool := true
  windowingMode : Int := 0
  systemUiVisibility : Int := 0
  isTranslucent : Bool := true
  windowBounds : Option Rect := none
  appLabel : List UInt16 := []
  abilityLabel : List UInt16 := []
  icon : List UInt8 := []
  secAppLabel : List UInt16 := []
  secAbilityLabel : List UInt16 := []
  secIcon : List UInt8 := []
  sourceDeviceTips : List UInt16 := []
deriving DecidableEq

/-- `Snapshot` with all that it holds. -/
structure FullSnapshot (π : Type) extends SnapshotInfo where
  pixelMap : Option π := none
  createdTime : Int := 0
  lastAccessTime : Int := 0

/-- `PIXEL_MAP_MAX_BUFFER_SIZE`. -/
def pixelMapMaxBufferSize : Nat := 600 * 1024

/-- The image framework: what `ImagePacker` packs into a stream as "image/jpeg", and what an
`ImageSource` of a buffer decodes. -/
structure ImageFramework (π : Type) where
  pack : π → List UInt8
  decode : List UInt8 → Option π

section functions

variable (p : ParcelPrimitives) {π : Type} (images : ImageFramework π)

namespace Rect

def marshalling (rect : Rect) : Option (List UInt8) :=
  concat [p.int32.write rect.left, p.int32.write rect.top, p.int32.write rect.right,
    p.int32.write rect.bottom]

def unmarshalling : Reader UInt8 Unit Rect := do
  let left ← p.int32.readD 0
  let top ← p.int32.readD 0
  let right ← p.int32.readD 0
  let bottom ← p.int32.readD 0
  return { left, top, right, bottom }

def parcelable : Parcelable Rect := ⟨marshalling p, unmarshalling p⟩

end Rect

/-- `FillSnapShot`; it leaves with `nullptr`. -/
def fillSnapShot : Reader UInt8 Unit SnapshotInfo := do
  let version ← p.int32.readOr ()
  let orientation ← p.int32.readOr ()
  let rect ← p.readParcelable (Rect.parcelable p)
  let reducedResolution ← p.bool.readOr ()
  let scale ← p.float.readOr ()
  let isRealSnapshot ← p.bool.readOr ()
  let windowingMode ← p.int32.readOr ()
  let systemUiVisibility ← p.int32.readOr ()
  let isTranslucent ← p.bool.readOr ()
  let windowBounds ← p.readParcelable (Rect.parcelable p)
  let appLabel ← p.string16.readD []
  let abilityLabel ← p.string16.readD []
  let icon ← p.uint8Vector.readOr ()
  let secAppLabel ← p.string16.readD []
  let secAbilityLabel ← p.string16.readD []
  let secIcon ← p.uint8Vector.readOr ()
  let sourceDeviceTips ← p.string16.readD []
  return { version, orientation, rect, reducedResolution, scale, isRealSnapshot, windowingMode,
           systemUiVisibility, isTranslucent, windowBounds, appLabel, abilityLabel, icon,
           secAppLabel, secAbilityLabel, secIcon, sourceDeviceTips }

/-- `CreatePixelMap` of a buffer that is not null. -/
def createPixelMap (buffer : List UInt8) : Option π :=
  if buffer.length = 0 then none else images.decode buffer

/-- `size` bytes of the vector, which must be there. -/
def readAt (data : List UInt8) (offset size : Nat) : Option (List UInt8) :=
  if offset + size ≤ data.length then some ((data.drop offset).take size) else none

/-- A sum of `size_t`. -/
def sizeAdd (m n : Nat) : Nat := (m + n) % 2 ^ 64

/-- `Snapshot::Create`, unless it reads outside of the vector.  The clock shows `getTickCount`. -/
def create (getTickCount : Int) (data : List UInt8) : Option (Option (FullSnapshot π)) := do
  let totalSize := data.length
  if totalSize < 4 then return none else
  let msgSize := wordOf (← readAt data 0 4)
  if totalSize ≤ msgSize ∨ totalSize ≤ sizeAdd msgSize 4 then return none else
  let msg ← readAt data 4 msgSize
  match p.writeBuffer 0 [] msg with
  | none => return none
  | some dataParcel =>
    match fillSnapShot p dataParcel with
    | .error _ => return none
    | .ok (info, _) =>
      let remainSize := toUint32 (totalSize - msgSize - 4 : Int)
      if remainSize < 4 then return none else
      let pixelmapLen := wordOf (← readAt data (4 + msgSize) 4)
      if remainSize ≤ pixelmapLen ∨ remainSize < sizeAdd pixelmapLen 4 then return none else
      let buffer ← readAt data (4 + msgSize + 4) pixelmapLen
      return some { info with
        pixelMap := createPixelMap images buffer
        createdTime := getTickCount
        lastAccessTime := getTickCount }

/-- The writes of the fields. -/
def SnapshotInfo.bytes (s : SnapshotInfo) : Option (List UInt8) :=
  concat [p.int32.write s.version, p.int32.write s.orientation,
    (p.parcelable (Rect.parcelable p)).write s.rect,
    p.bool.write s.reducedResolution, p.float.write s.scale, p.bool.write s.isRealSnapshot,
    p.int32.write s.windowingMode, p.int32.write s.systemUiVisibility,
    p.bool.write s.isTranslucent,
    (p.parcelable (Rect.parcelable p)).write s.windowBounds,
    p.string16.write s.appLabel, p.string16.write s.abilityLabel, p.uint8Vector.write s.icon,
    p.string16.write s.secAppLabel, p.string16.write s.secAbilityLabel,
    p.uint8Vector.write s.secIcon, p.string16.write s.sourceDeviceTips]

/-- `WriteSnapshotInfo`: the fields go into a parcel of their own first. -/
def writeSnapshotInfo (s : SnapshotInfo) (data : List UInt8) : Option (List UInt8) := do
  let info ← s.bytes p
  let infoBuffer ← p.append 0 [] info
  let data ← p.writeUint32 0 data (toUint32 infoBuffer.length)
  p.writeBuffer 0 data infoBuffer

/-- `WritePixelMap`. -/
def writePixelMap (pixelMap : π) (data : List UInt8) : Option (List UInt8) :=
  let byteStream := images.pack pixelMap
  let len := byteStream.length
  if pixelMapMaxBufferSize < len then none else
  let minCapacity := data.length + len + 4
  let minCapacity := if minCapacity % 4 ≠ 0 then minCapacity + 4 else minCapacity
  if p.getDataCapacity data < minCapacity ∧ ¬ p.setDataCapacity data minCapacity then none else do
    let capacity := max (p.getDataCapacity data) minCapacity
    let data ← p.writeUint32 capacity data (toUint32 len)
    p.writeBuffer capacity data byteStream

end functions

variable {p : ParcelPrimitives} {π : Type} {images : ImageFramework π}

/-! ### The fields -/

theorem Rect.roundTrips (hp : p.Lawful) (rect : Rect) : (Rect.parcelable p).RoundTrips rect :=
  .cons ((hp.int32.roundTrips _).readD 0) <| .cons ((hp.int32.roundTrips _).readD 0) <|
  .cons ((hp.int32.roundTrips _).readD 0) <| .cons ((hp.int32.roundTrips _).readD 0) <| .nil _

theorem Rect.multiple (hp : p.Lawful) (rect : Rect) : Multiple 4 (Rect.marshalling p rect) :=
  .cons (hp.int32.multiple _) <| .cons (hp.int32.multiple _) <|
  .cons (hp.int32.multiple _) <| .cons (hp.int32.multiple _) <| .nil

/-- The fields are read as they are written. -/
theorem fillSnapShot_mirrors (hp : p.Lawful) (s : SnapshotInfo) :
    Mirrors (s.bytes p) (fillSnapShot p) s :=
  .cons ((hp.int32.roundTrips _).readOr ()) <|
  .cons ((hp.int32.roundTrips _).readOr ()) <|
  .cons (hp.readParcelable fun rect _ => rect.roundTrips hp) <|
  .cons ((hp.bool.roundTrips _).readOr ()) <|
  .cons ((hp.float.roundTrips _).readOr ()) <|
  .cons ((hp.bool.roundTrips _).readOr ()) <|
  .cons ((hp.int32.roundTrips _).readOr ()) <|
  .cons ((hp.int32.roundTrips _).readOr ()) <|
  .cons ((hp.bool.roundTrips _).readOr ()) <|
  .cons (hp.readParcelable fun rect _ => rect.roundTrips hp) <|
  .cons ((hp.string16.roundTrips _).readD []) <|
  .cons ((hp.string16.roundTrips _).readD []) <|
  .cons ((hp.uint8Vector.roundTrips _).readOr ()) <|
  .cons ((hp.string16.roundTrips _).readD []) <|
  .cons ((hp.string16.roundTrips _).readD []) <|
  .cons ((hp.uint8Vector.roundTrips _).readOr ()) <|
  .cons ((hp.string16.roundTrips _).readD []) <|
  .nil s

theorem SnapshotInfo.bytes_multiple (hp : p.Lawful) (s : SnapshotInfo) :
    Multiple 4 (s.bytes p) := by
  have hrect : ∀ rect : Option Rect,
      Multiple 4 ((p.parcelable (Rect.parcelable p)).write rect) :=
    hp.parcelable_multiple (Rect.multiple hp)
  exact .cons (hp.int32.multiple _) <| .cons (hp.int32.multiple _) <| .cons (hrect _) <|
    .cons (hp.bool.multiple _) <| .cons (hp.float.multiple _) <| .cons (hp.bool.multiple _) <|
    .cons (hp.int32.multiple _) <| .cons (hp.int32.multiple _) <| .cons (hp.bool.multiple _) <|
    .cons (hrect _) <| .cons (hp.string16.multiple _) <| .cons (hp.string16.multiple _) <|
    .cons (hp.uint8Vector.multiple _) <| .cons (hp.string16.multiple _) <|
    .cons (hp.string16.multiple _) <| .cons (hp.uint8Vector.multiple _) <|
    .cons (hp.string16.multiple _) <| .nil

/-! ### The frame -/

section frame

variable (data : List UInt8)

/-- The sizes in the vector, and what lies behind them. -/
def frameMsgSize : Nat := wordOf (data.take 4)

def frameMsg : List UInt8 := (data.drop 4).take (frameMsgSize data)

def framePixelmapLen : Nat := wordOf ((data.drop (4 + frameMsgSize data)).take 4)

def frameBuffer : List UInt8 :=
  (data.drop (4 + frameMsgSize data + 4)).take (framePixelmapLen data)

def frameRemainSize : Nat := toUint32 (data.length - frameMsgSize data - 4 : Int)

/-- The checks of the sizes, without the wrapping of sums. -/
structure Accepted : Prop where
  msg_lt : frameMsgSize data + 4 < data.length
  pixelmap_le : framePixelmapLen data + 4 ≤ frameRemainSize data

instance : Decidable (Accepted data) :=
  decidable_of_iff (frameMsgSize data + 4 < data.length ∧
    framePixelmapLen data + 4 ≤ frameRemainSize data) ⟨fun h => ⟨h.1, h.2⟩, fun h => ⟨h.1, h.2⟩⟩

end frame

/-- The vector is a size and so many bytes, twice, and a rest. -/
structure Framed (data msg buffer rest : List UInt8) : Prop where
  eq : data = wordBytes msg.length ++ (msg ++ (wordBytes buffer.length ++ (buffer ++ rest)))
  msg_lt : msg.length < 2 ^ 32
  buffer_lt : buffer.length < 2 ^ 32

variable (p images) in
/-- The snapshot whose fields are in `msg` and whose image is in `buffer`. -/
def frameSnapshot (getTickCount : Int) (msg buffer : List UInt8) : Option (FullSnapshot π) :=
  match p.writeBuffer 0 [] msg with
  | none => none
  | some dataParcel =>
    match fillSnapShot p dataParcel with
    | .error _ => none
    | .ok (info, _) => some { info with
        pixelMap := createPixelMap images buffer
        createdTime := getTickCount
        lastAccessTime := getTickCount }

theorem readAt_of_le {data : List UInt8} {offset size : Nat} (h : offset + size ≤ data.length) :
    readAt data offset size = some ((data.drop offset).take size) :=
  if_pos h

theorem sizeAdd_of_lt {m n : Nat} (hm : m < 2 ^ 32) (hn : n < 2 ^ 32) : sizeAdd m n = m + n :=
  Nat.mod_eq_of_lt (by omega)

theorem frameMsgSize_lt (data : List UInt8) : frameMsgSize data < 2 ^ 32 := wordOf_lt _

theorem framePixelmapLen_lt (data : List UInt8) : framePixelmapLen data < 2 ^ 32 := wordOf_lt _

/-- No more remains than `remainSize` says. -/
theorem Accepted.buffer_le {data : List UInt8} (h : Accepted data) :
    4 + frameMsgSize data + 4 + framePixelmapLen data ≤ data.length := by
  have hlt := h.msg_lt
  have hle := h.pixelmap_le
  unfold frameRemainSize toUint32 at hle
  omega

/-- `Create` reads nothing outside of the vector, and it makes what the frame gives exactly when it
accepts the sizes. -/
theorem create_eq (getTickCount : Int) (data : List UInt8) :
    create p images getTickCount data = some
      (if Accepted data then
        frameSnapshot p images getTickCount (frameMsg data) (frameBuffer data)
      else none) := by
  unfold create
  by_cases htotal : data.length < 4
  · have hno : ¬ Accepted data := fun h => absurd h.msg_lt (by omega)
    rw [if_neg hno]
    exact if_pos htotal
  have hsize : readAt data 0 4 = some (data.take 4) := readAt_of_le (by omega)
  simp only [if_neg htotal, hsize, Option.bind_eq_bind, Option.bind_some]
  rw [← frameMsgSize, sizeAdd_of_lt (frameMsgSize_lt data) (by decide)]
  by_cases hmsg : data.length ≤ frameMsgSize data ∨ data.length ≤ frameMsgSize data + 4
  · have hno : ¬ Accepted data := fun h => absurd h.msg_lt (by omega)
    rw [if_neg hno]
    exact if_pos hmsg
  have hread : readAt data 4 (frameMsgSize data) = some (frameMsg data) := readAt_of_le (by omega)
  simp only [if_neg hmsg, hread, Option.bind_some, frameSnapshot]
  cases p.writeBuffer 0 [] (frameMsg data) with
  | none =>
      rw [ite_self]
      rfl
  | some dataParcel =>
  simp only
  cases fillSnapShot p dataParcel with
  | error e =>
      rw [ite_self]
      rfl
  | ok r =>
  -- the fields are there; what follows is the frame of the image
  simp only
  rw [← frameRemainSize]
  by_cases hremain : frameRemainSize data < 4
  · have hno : ¬ Accepted data := fun h => absurd h.pixelmap_le (by omega)
    rw [if_neg hno]
    exact if_pos hremain
  have hlen : readAt data (4 + frameMsgSize data) 4 =
      some ((data.drop (4 + frameMsgSize data)).take 4) := by
    refine readAt_of_le ?_
    unfold frameRemainSize toUint32 at hremain
    omega
  simp only [if_neg hremain, hlen, Option.bind_some]
  rw [← framePixelmapLen, sizeAdd_of_lt (framePixelmapLen_lt data) (by decide)]
  by_cases hacc : Accepted data
  · have hle := hacc.pixelmap_le
    have hbuffer : readAt data (4 + frameMsgSize data + 4) (framePixelmapLen data) =
        some (frameBuffer data) := readAt_of_le hacc.buffer_le
    rw [if_pos hacc, if_neg (by omega), hbuffer]
    rfl
  · have hlt : frameRemainSize data < framePixelmapLen data + 4 :=
      Nat.lt_of_not_le fun hle => hacc ⟨by omega, hle⟩
    rw [if_neg hacc]
    exact if_pos (Or.inr hlt)

/-- Sizes that are accepted frame the vector. -/
theorem Accepted.framed {data : List UInt8} (h : Accepted data) :
    ∃ rest, Framed data (frameMsg data) (frameBuffer data) rest := by
  have hle := h.buffer_le
  have hcut : ∀ offset size, (data.drop offset).take size ++ data.drop (offset + size) =
      data.drop offset := by
    intro offset size
    rw [← List.drop_drop, List.take_append_drop]
  have hmsg : (frameMsg data).length = frameMsgSize data :=
    List.length_take_of_le (by rw [List.length_drop]; omega)
  have hbuffer : (frameBuffer data).length = framePixelmapLen data :=
    List.length_take_of_le (by rw [List.length_drop]; omega)
  have hsize : wordBytes (frameMsg data).length = data.take 4 := by
    rw [hmsg, frameMsgSize, wordBytes_wordOf (List.length_take_of_le (by omega))]
  have hlen : wordBytes (frameBuffer data).length = (data.drop (4 + frameMsgSize data)).take 4 := by
    rw [hbuffer, framePixelmapLen, wordBytes_wordOf]
    exact List.length_take_of_le (by rw [List.length_drop]; omega)
  refine ⟨data.drop (4 + frameMsgSize data + 4 + framePixelmapLen data), ?_,
    hmsg ▸ frameMsgSize_lt data, hbuffer ▸ framePixelmapLen_lt data⟩
  rw [hsize, hlen, frameBuffer, hcut, hcut, frameMsg, hcut, List.take_append_drop]

/-- A frame that is not too long is accepted, and it is read as what it frames. -/
theorem Framed.accepted {data msg buffer rest : List UInt8} (h : Framed data msg buffer rest)
    (hrest : 4 + buffer.length + rest.length < 2 ^ 32) :
    Accepted data ∧ frameMsg data = msg ∧ frameBuffer data = buffer := by
  obtain ⟨rfl, hmsg, hbuffer⟩ := h
  generalize hd : wordBytes msg.length ++ (msg ++ (wordBytes buffer.length ++ (buffer ++ rest))) =
    data
  have hlength : data.length = 4 + msg.length + 4 + buffer.length + rest.length := by
    subst hd
    simp only [List.length_append, length_wordBytes]
    omega
  have hsize : frameMsgSize data = msg.length := by
    subst hd
    rw [frameMsgSize, List.take_left' (length_wordBytes _), wordOf_wordBytes hmsg]
  have hdrop : data.drop 4 = msg ++ (wordBytes buffer.length ++ (buffer ++ rest)) := by
    subst hd
    exact List.drop_left' (length_wordBytes _)
  have hlen : framePixelmapLen data = buffer.length := by
    rw [framePixelmapLen, hsize, ← List.drop_drop, hdrop, List.drop_left,
      List.take_left' (length_wordBytes _), wordOf_wordBytes hbuffer]
  refine ⟨⟨by omega, ?_⟩, ?_, ?_⟩
  · unfold frameRemainSize toUint32
    omega
  · rw [frameMsg, hsize, hdrop, List.take_left]
  · rw [frameBuffer, hlen, hsize, ← List.drop_drop, ← List.drop_drop, hdrop, List.drop_left,
      List.drop_left' (length_wordBytes _), List.take_left]

/-! ### The writer -/

/-- The info parcel holds the fields, and both sizes fit. -/
theorem writeSnapshotInfo_eq_some (hp : p.Lawful) {s : SnapshotInfo} {data data' : List UInt8}
    (h : writeSnapshotInfo p s data = some data') :
    ∃ info, s.bytes p = some info ∧ p.writeBuffer 0 [] info = some info ∧ info.length < 2 ^ 32 ∧
      data' = data ++ (wordBytes info.length ++ info) := by
  obtain ⟨info, hinfo, h⟩ := Option.bind_eq_some_iff.mp h
  obtain ⟨infoBuffer, hparcel, h⟩ := Option.bind_eq_some_iff.mp h
  obtain ⟨data₁, hsize, h⟩ := Option.bind_eq_some_iff.mp h
  have hlt := hp.length_lt hparcel
  obtain rfl : info = infoBuffer := (append_eq_some hparcel).symm
  have hpad : padded info = info := padded_of_dvd (s.bytes_multiple hp info hinfo)
  have htoUint32 : toUint32 info.length = info.length := by
    unfold toUint32
    omega
  refine ⟨info, hinfo, ?_, hlt, ?_⟩
  · rw [writeBuffer, hpad]
    exact hparcel
  · rw [append_eq_some h, append_eq_some hsize, hpad, htoUint32, List.append_assoc]

theorem writePixelMap_eq_some {pixelMap : π} {data data' : List UInt8}
    (h : writePixelMap p images pixelMap data = some data') :
    (images.pack pixelMap).length ≤ pixelMapMaxBufferSize ∧ data' = data ++
      (wordBytes (images.pack pixelMap).length ++ padded (images.pack pixelMap)) := by
  unfold writePixelMap at h
  by_cases hmax : pixelMapMaxBufferSize < (images.pack pixelMap).length
  · rw [if_pos hmax] at h
    cases h
  rw [if_neg hmax] at h
  obtain ⟨-, h⟩ := Option.ite_none_left_eq_some.mp h
  obtain ⟨data₁, hlen, h⟩ := Option.bind_eq_some_iff.mp h
  have hle := Nat.not_lt.mp hmax
  have htoUint32 : toUint32 (images.pack pixelMap).length = (images.pack pixelMap).length := by
    unfold pixelMapMaxBufferSize at hle
    unfold toUint32
    omega
  refine ⟨hle, ?_⟩
  rw [append_eq_some h, append_eq_some hlen, htoUint32, List.append_assoc]

/-! ### Every vector, every snapshot -/

/-- **`Create` on every vector, and on what the writer writes.**  `Create` reads nothing outside of
the vector.  It makes something only when it accepts the sizes, which then frame bytes of the
vector, and it is made of these.  A snapshot whose image is not empty nor too large comes back with
the same fields, and the decoder gets the bytes of the image. -/
theorem create_inverts_writer (hp : p.Lawful) (images : ImageFramework π) (getTickCount : Int) :
    (∀ data, create p images getTickCount data = some
        (if Accepted data then
          frameSnapshot p images getTickCount (frameMsg data) (frameBuffer data)
        else none) ∧
      (Accepted data → ∃ rest, Framed data (frameMsg data) (frameBuffer data) rest)) ∧
    ∀ (s : FullSnapshot π) (pixelMap : π) (data data₁ data₂ : List UInt8),
      s.pixelMap = some pixelMap → images.pack pixelMap ≠ [] →
      (images.pack pixelMap).length ≤ pixelMapMaxBufferSize →
      writeSnapshotInfo p s.toSnapshotInfo data = some data₁ →
      writePixelMap p images pixelMap data₁ = some data₂ →
      ∃ written r, data₂ = data ++ written ∧
        create p images getTickCount written = some (some r) ∧
        r.toSnapshotInfo = s.toSnapshotInfo ∧
        r.pixelMap = images.decode (images.pack pixelMap) := by
  constructor
  · exact fun data => ⟨create_eq getTickCount data, Accepted.framed⟩
  · intro s pixelMap data data₁ data₂ _ hne hmax hinfo hpixels
    obtain ⟨info, hbytes, hparcel, hlt, rfl⟩ := writeSnapshotInfo_eq_some hp hinfo
    obtain ⟨-, rfl⟩ := writePixelMap_eq_some hpixels
    have hpos : (images.pack pixelMap).length ≠ 0 := fun h => hne (List.length_eq_zero_iff.mp h)
    unfold pixelMapMaxBufferSize at hmax
    -- what is written is a frame, and the rest is the padding
    generalize hframe : wordBytes info.length ++ (info ++
      (wordBytes (images.pack pixelMap).length ++ padded (images.pack pixelMap))) = written
    have hframed : Framed written info (images.pack pixelMap)
        (.replicate ((4 - (images.pack pixelMap).length % 4) % 4) 0) :=
      ⟨hframe.symm, hlt, by omega⟩
    obtain ⟨hacc, hmsg, hbuffer⟩ := hframed.accepted (by rw [List.length_replicate]; omega)
    have hfill : fillSnapShot p info = .ok (s.toSnapshotInfo, []) := by
      have h := fillSnapShot_mirrors hp s.toSnapshotInfo info hbytes []
      rwa [List.append_nil] at h
    refine ⟨written, { s with pixelMap := images.decode (images.pack pixelMap)
                              createdTime := getTickCount
                              lastAccessTime := getTickCount }, ?_, ?_, rfl, rfl⟩
    · rw [← hframe, List.append_assoc, List.append_assoc]
    · rw [create_eq, if_pos hacc, hmsg, hbuffer, frameSnapshot, hparcel]
      simp only [hfill, createPixelMap, if_neg hpos]

/-- Images that are their own encoding. -/
def plainImages : ImageFramework (List UInt8) := { pack := id, decode := some }

/-- A snapshot with one rectangle, whose image is five bytes long. -/
def smallSnapshot : FullSnapshot (List UInt8) :=
  { version := 1, rect := some { left := -4, right := 720 }, scale := 0x3f800000
    pixelMap := some [0xff, 0xd8, 0xff, 0xe0, 7] }

/-- The image of `smallSnapshot` is padded by three bytes, which the decoder does not get. -/
theorem create_inverts_writer_small : ∃ data₁ data₂,
    writeSnapshotInfo plainParcel smallSnapshot.toSnapshotInfo [] = some data₁ ∧
    writePixelMap plainParcel plainImages [0xff, 0xd8, 0xff, 0xe0, 7] data₁ = some data₂ ∧
    ∃ r, create plainParcel plainImages 25 data₂ = some (some r) ∧
      r.toSnapshotInfo = smallSnapshot.toSnapshotInfo ∧
      r.pixelMap = some [0xff, 0xd8, 0xff, 0xe0, 7] := by
  obtain ⟨data₁, hinfo⟩ : ∃ data₁,
      writeSnapshotInfo plainParcel smallSnapshot.toSnapshotInfo [] = some data₁ := ⟨_, rfl⟩
  obtain ⟨data₂, hpixels⟩ : ∃ data₂,
      writePixelMap plainParcel plainImages [0xff, 0xd8, 0xff, 0xe0, 7] data₁ = some data₂ := by
    cases hinfo
    exact Option.isSome_iff_exists.mp (by decide +kernel)
  obtain ⟨written, r, rfl, hcreate, hsame, hdecoded⟩ :=
    (create_inverts_writer plainParcel_lawful plainImages 25).2 smallSnapshot
      [0xff, 0xd8, 0xff, 0xe0, 7] [] data₁ data₂ rfl (List.cons_ne_nil _ _) (by decide) hinfo
      hpixels
  exact ⟨data₁, _, hinfo, hpixels, r, hcreate, hsame, hdecoded⟩

end DistributedSched

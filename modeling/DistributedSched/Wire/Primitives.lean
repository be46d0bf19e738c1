import DistributedSched.Base.EventHandler
import DistributedSched.Library.Codec

/-!
# Wire — the bytes of a parcel

`Parcel` by its bytes.  How it writes a value of a type, and reads one, is a parameter
(`ParcelPrimitives`); the code relies on what `ParcelPrimitives.Lawful` says.

A write that fails leaves nothing behind: the code gives the parcel up then.

* `plainParcel`: a parcel that is lawful.
-/

namespace DistributedSched

open Reading Coding

/-- A class of objects that parcels carry; `Unmarshalling` may give `nullptr`. -/
structure Parcelable (α : Type) where
  marshalling : α → Option (List UInt8)
  unmarshalling : Reader UInt8 Unit α

/-- The object is read as it is written. -/
def Parcelable.RoundTrips {α : Type} (c : Parcelable α) (a : α) : Prop :=
  Mirrors (c.marshalling a) c.unmarshalling a

/-- What a parcel does with the values that are written to it and read from it. -/
structure ParcelPrimitives where
  int32 : Codec UInt8 Int
  int64 : Codec UInt8 Int
  bool : Codec UInt8 Bool
  /-- a `float`, by its bits -/
  float : Codec UInt8 UInt32
  string16 : Codec UInt8 (List UInt16)
  uint8Vector : Codec UInt8 (List UInt8)
  int32Vector : Codec UInt8 (List Int)
  /-- `WriteParcelable` and `ReadParcelable` -/
  parcelable : {α : Type} → Parcelable α → Codec UInt8 (Option α)
  /-- whether a parcel grows to that many bytes by itself -/
  writable : Nat → Bool
  getDataCapacity : List UInt8 → Nat
  setDataCapacity : List UInt8 → Nat → Bool

namespace ParcelPrimitives

/-- Primitives round-trip, they write multiples of four bytes, a parcelable writes something also
when it is null, and no parcel grows to 4 GiB. -/
structure Lawful (p : ParcelPrimitives) : Prop where
  int32 : p.int32.Lawful 4
  int64 : p.int64.Lawful 4
  bool : p.bool.Lawful 4
  float : p.float.Lawful 4
  string16 : p.string16.Lawful 4
  uint8Vector : p.uint8Vector.Lawful 4
  int32Vector : p.int32Vector.Lawful 4
  parcelable_null {α : Type} (c : Parcelable α) : (p.parcelable c).RoundTrips none
  parcelable_some {α : Type} {c : Parcelable α} {a : α} :
    c.RoundTrips a → (p.parcelable c).RoundTrips (some a)
  parcelable_multiple {α : Type} {c : Parcelable α} (h : ∀ a, Multiple 4 (c.marshalling a))
    (a : Option α) : Multiple 4 ((p.parcelable c).write a)
  parcelable_ne_nil {α : Type} (c : Parcelable α) (a : Option α) :
    (p.parcelable c).write a ≠ some []
  writable_lt : ∀ n, p.writable n = true → n < 2 ^ 32

variable (p : ParcelPrimitives)

/-- `ReadParcelable`: a read that fails gives `nullptr`. -/
def readParcelable {α : Type} (c : Parcelable α) : Reader UInt8 Unit (Option α) :=
  (p.parcelable c).readD none

/-- The bytes behind those that are there, when they fit into the capacity, or the parcel grows. -/
def append (capacity : Nat) (parcel bytes : List UInt8) : Option (List UInt8) :=
  if p.writable (parcel.length + bytes.length) ∨ parcel.length + bytes.length ≤ capacity then
    some (parcel ++ bytes)
  else none

/-- `WriteUint32`. -/
def writeUint32 (capacity : Nat) (parcel : List UInt8) (value : Nat) : Option (List UInt8) :=
  p.append capacity parcel (wordBytes value)

/-- Filled up to a multiple of four bytes. -/
def padded (bytes : List UInt8) : List UInt8 :=
  bytes ++ List.replicate ((4 - bytes.length % 4) % 4) 0

/-- `WriteBuffer`. -/
def writeBuffer (capacity : Nat) (parcel bytes : List UInt8) : Option (List UInt8) :=
  p.append capacity parcel (padded bytes)

variable {p}

theorem padded_of_dvd {bytes : List UInt8} (h : 4 ∣ bytes.length) : padded bytes = bytes := by
  have hpad : (4 - bytes.length % 4) % 4 = 0 := by omega
  rw [padded, hpad, List.replicate_zero, List.append_nil]

theorem append_eq_some {capacity : Nat} {parcel bytes parcel' : List UInt8}
    (h : p.append capacity parcel bytes = some parcel') : parcel' = parcel ++ bytes :=
  (Option.some.inj (Option.ite_none_right_eq_some.mp h).2).symm

/-- No parcel takes 4 GiB. -/
theorem Lawful.length_lt (hp : p.Lawful) {bytes parcel : List UInt8}
    (h : p.append 0 [] bytes = some parcel) : bytes.length < 2 ^ 32 := by
  obtain ⟨hw | hle, -⟩ := Option.ite_none_right_eq_some.mp h
  · have := hp.writable_lt _ hw
    exact Nat.lt_of_le_of_lt (Nat.le_add_left ..) this
  · have hle : bytes.length ≤ 0 := Nat.le_trans (Nat.le_add_left ..) hle
    exact Nat.lt_of_le_of_lt hle (Nat.two_pow_pos 32)

/-- A parcelable, null or not, is read as it is written. -/
theorem Lawful.readParcelable (hp : p.Lawful) {α : Type} {c : Parcelable α} {a : Option α}
    (h : ∀ b, a = some b → c.RoundTrips b) :
    Mirrors ((p.parcelable c).write a) (p.readParcelable c) a := by
  cases a with
  | none => exact (hp.parcelable_null c).readD none
  | some a => exact (hp.parcelable_some (h a rfl)).readD none

end ParcelPrimitives

/-! ### A lawful parcel -/

/-- Words are little-endian, and so are chars and the elements of a vector, each of which takes a
word here; a string ends with a word that is zero. -/
def plainParcel : ParcelPrimitives where
  int32 := Codec.word.convert
    (fun i => if -2 ^ 31 ≤ i ∧ i < 2 ^ 31 then some (toUint32 i) else none)
    (fun n => some (uint32ToInt32 n))
  int64 := .ofReader
    (fun i => if -2 ^ 63 ≤ i ∧ i < 2 ^ 63 then
      concat [Codec.word.write (i % 2 ^ 32).toNat, Codec.word.write (i / 2 ^ 32 % 2 ^ 32).toNat]
    else none)
    (do
      let low ← Codec.word.readOr ()
      let high ← Codec.word.readOr ()
      return low + 2 ^ 32 * uint32ToInt32 high)
  bool := Codec.word.convert (fun b => some b.toNat) (fun n => some (n != 0))
  float := Codec.word.convert (fun bits => some bits.toNat) (fun n => some (.ofNat n))
  string16 := (Codec.word.convert (fun c => some c.toNat) (fun n => some (.ofNat n))).listOf
    [0, 0, 0, 0]
  uint8Vector := (Codec.word.convert (fun b => some b.toNat) (fun n => some (.ofNat n))).listOf []
  int32Vector := (Codec.word.convert
    (fun i => if -2 ^ 31 ≤ i ∧ i < 2 ^ 31 then some (toUint32 i) else none)
    (fun n => some (uint32ToInt32 n))).listOf []
  parcelable c := .ofReader
    (fun
      | none => Codec.word.write 0
      | some a => concat [Codec.word.write 1, c.marshalling a])
    (do
      let size ← Codec.word.readOr ()
      if size = 0 then return none else
        let a ← c.unmarshalling
        return some a)
  writable n := n ≤ 204800
  getDataCapacity parcel := parcel.length
  setDataCapacity parcel capacity := parcel.length < capacity

theorem uint32ToInt32_toUint32 {i : Int} (h : -2 ^ 31 ≤ i ∧ i < 2 ^ 31) :
    uint32ToInt32 (toUint32 i) = i := by
  unfold uint32ToInt32 toUint32
  split <;> omega

theorem plainParcel_int32_lawful : plainParcel.int32.Lawful 4 :=
  Codec.word_lawful.convert fun i n hn => by
    obtain ⟨hi, hn⟩ := Option.ite_none_right_eq_some.mp hn
    cases hn
    rw [uint32ToInt32_toUint32 hi]

theorem plainParcel_int64_lawful : plainParcel.int64.Lawful 4 where
  roundTrips i := by
    refine Mirrors.roundTrips fun s hs rest => ?_
    obtain ⟨hi, hs⟩ := Option.ite_none_right_eq_some.mp hs
    have hvalue : ((i % 2 ^ 32).toNat : Int) +
        2 ^ 32 * uint32ToInt32 (i / 2 ^ 32 % 2 ^ 32).toNat = i := by
      unfold uint32ToInt32
      split <;> omega
    refine Mirrors.cons ((Codec.word_lawful.roundTrips _).readOr ()) (.cons
      ((Codec.word_lawful.roundTrips _).readOr ()) ?_) s hs rest
    rw [hvalue]
    exact .nil i
  multiple i := by
    intro s hs
    obtain ⟨-, hs⟩ := Option.ite_none_right_eq_some.mp hs
    exact Multiple.cons (Codec.word_lawful.multiple _)
      (.cons (Codec.word_lawful.multiple _) .nil) s hs

theorem plainParcel_lawful : plainParcel.Lawful where
  int32 := plainParcel_int32_lawful
  int64 := plainParcel_int64_lawful
  bool := Codec.word_lawful.convert fun b n hn => by
    cases hn
    cases b <;> rfl
  float := Codec.word_lawful.convert fun bits n hn => by
    cases hn
    rw [UInt32.ofNat_toNat]
  string16 := (Codec.word_lawful.convert fun c n hn => by
    cases hn
    rw [UInt16.ofNat_toNat]).listOf (Nat.dvd_refl 4)
  uint8Vector := (Codec.word_lawful.convert fun b n hn => by
    cases hn
    rw [UInt8.ofNat_toNat]).listOf (Nat.dvd_zero 4)
  int32Vector := plainParcel_int32_lawful.listOf (Nat.dvd_zero 4)
  parcelable_null c := by
    refine Mirrors.roundTrips fun s hs rest => ?_
    rw [run_bind_of_ok ((Codec.word_lawful.roundTrips 0).readOr () s hs rest)]
    rfl
  parcelable_some h := by
    refine Mirrors.roundTrips (.cons ((Codec.word_lawful.roundTrips 1).readOr ()) ?_)
    refine .cons h (.nil _)
  parcelable_multiple h a := by
    cases a with
    | none => exact Codec.word_lawful.multiple 0
    | some a => exact .cons (Codec.word_lawful.multiple 1) (.cons (h a) .nil)
  parcelable_ne_nil c a := by
    cases a with
    | none => exact fun h => List.cons_ne_nil _ _ (Option.some.inj h)
    | some a =>
        intro h
        change concat [Codec.word.write 1, c.marshalling a] = some [] at h
        obtain ⟨s₁, s₂, h₁, -, hs⟩ := concat_cons_eq_some.mp h
        have hlen : s₁.length = 0 := by rw [(List.append_eq_nil_iff.mp hs.symm).1, List.length_nil]
        cases h₁
        cases hlen
  writable_lt n hn := Nat.lt_of_le_of_lt (of_decide_eq_true hn) (by decide)

end DistributedSched

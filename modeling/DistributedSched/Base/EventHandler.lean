import Mathlib.Algebra.Group.Int.Defs
import Mathlib.Algebra.Group.Nat.Defs
import DistributedSched.Base.Types

/-!
# Base — delayed events

`AppExecFwk::EventHandler` as the service uses it: `SendEvent` posts a delayed event under a
32-bit unsigned id with a parameter that nothing reads, `RemoveEvent` takes back every pending
event of that id, and an event whose delay is over is handed to `ProcessEvent`.  The service
posts the parameter 0; its type is left open, so that a proof can tell events of one id apart.
-/

namespace DistributedSched

/-- A conversion to `uint32_t`. -/
def toUint32 (i : Int) : Nat := (i % 2 ^ 32).toNat

/-- `static_cast<int32_t>` of a `uint32_t`. -/
def uint32ToInt32 (n : Nat) : Int := if n < 2 ^ 31 then n else n - 2 ^ 32

structure InnerEvent (π : Type) where
  innerEventId : Nat
  param : π
  delayTime : Int
deriving DecidableEq

/-- The events that are pending, in the order in which they were sent. -/
structure EventHandler (π : Type) where
  pending : List (InnerEvent π) := []
deriving DecidableEq

namespace EventHandler

variable {π : Type}

/-- `SendEvent(id, param, delay)`; `sent` is its answer. -/
def sendEvent (h : EventHandler π) (sent : Bool) (id : Int) (param : π) (delay : Int) :
    EventHandler π :=
  if sent then ⟨h.pending ++ [⟨toUint32 id, param, delay⟩]⟩ else h

/-- `RemoveEvent(id)`. -/
def removeEvent (h : EventHandler π) (id : Int) : EventHandler π :=
  ⟨h.pending.filter fun e => e.innerEventId ≠ toUint32 id⟩

/-- The event at `i` leaves the queue; the handler processes it next. -/
def take (h : EventHandler π) (i : Nat) : EventHandler π := ⟨h.pending.eraseIdx i⟩

/-- An event with the id of `i` is pending. -/
def Armed (h : EventHandler π) (i : Int) : Prop := ∃ e ∈ h.pending, e.innerEventId = toUint32 i

instance (h : EventHandler π) (i : Int) : Decidable (h.Armed i) :=
  inferInstanceAs (Decidable (∃ e ∈ h.pending, e.innerEventId = toUint32 i))

/-- The pending events with the id of `i`. -/
def timersOf (h : EventHandler π) (i : Int) : List (InnerEvent π) :=
  h.pending.filter fun e => e.innerEventId = toUint32 i

/-- Taking back one id leaves the events of every other. -/
theorem timersOf_removeEvent {i j : Int} (hne : toUint32 i ≠ toUint32 j) (h : EventHandler π) :
    (h.removeEvent i).timersOf j = h.timersOf j := by
  simp only [removeEvent, timersOf, List.filter_filter]
  refine List.filter_congr fun e _ => ?_
  by_cases he : e.innerEventId = toUint32 j
  · simp [he, Ne.symm hne]
  · simp [he]

@[simp] theorem armed_sendEvent (h : EventHandler π) (i j : Int) (param : π) (delay : Int) :
    (h.sendEvent true i param delay).Armed j ↔ h.Armed j ∨ toUint32 i = toUint32 j := by
  simp [sendEvent, Armed, or_and_right, exists_or]

@[simp] theorem armed_removeEvent (h : EventHandler π) (i j : Int) :
    (h.removeEvent i).Armed j ↔ h.Armed j ∧ toUint32 i ≠ toUint32 j := by
  simp only [removeEvent, Armed, List.mem_filter, decide_eq_true_eq]
  constructor
  · rintro ⟨e, ⟨he, hne⟩, hj⟩
    exact ⟨⟨e, he, hj⟩, fun hij => hne (hj.trans hij.symm)⟩
  · rintro ⟨⟨e, he, hj⟩, hij⟩
    exact ⟨e, ⟨he, fun h => hij (h.symm.trans hj)⟩, hj⟩

theorem sendEvent_ne (h : EventHandler π) (i : Int) (param : π) (delay : Int) :
    h.sendEvent true i param delay ≠ h := by
  intro he
  have hlen := congrArg (List.length ∘ EventHandler.pending) he
  simp [sendEvent] at hlen

/-- Nothing is left of an event that was sent and taken back. -/
theorem removeEvent_sendEvent (h : EventHandler π) (sent : Bool) (i : Int) (param : π)
    (delay : Int) : (h.sendEvent sent i param delay).removeEvent i = h.removeEvent i := by
  cases sent with
  | false => rfl
  | true => simp [sendEvent, removeEvent]

theorem removeEvent_eq_self {h : EventHandler π} {i : Int} : h.removeEvent i = h ↔ ¬ h.Armed i := by
  obtain ⟨pending⟩ := h
  simp [removeEvent, Armed]

/-- Taking one event out leaves every id armed but its own. -/
theorem armed_take {h : EventHandler π} {i : Nat} {e : InnerEvent π} (he : h.pending[i]? = some e)
    {j : Int} (hj : h.Armed j) (hne : e.innerEventId ≠ toUint32 j) : (h.take i).Armed j := by
  obtain ⟨x, hx, hxj⟩ := hj
  obtain ⟨n, hn, rfl⟩ := List.mem_iff_getElem.mp hx
  refine ⟨_, List.mem_eraseIdx_iff_getElem.mpr ⟨n, hn, fun hin => hne ?_, rfl⟩, hxj⟩
  subst hin
  rw [List.getElem?_eq_getElem hn] at he
  exact Option.some.inj he ▸ hxj

theorem armed_of_take {h : EventHandler π} {i : Nat} {j : Int} (hj : (h.take i).Armed j) :
    h.Armed j := by
  obtain ⟨x, hx, hxj⟩ := hj
  exact ⟨x, List.mem_of_mem_eraseIdx hx, hxj⟩

end EventHandler

/-- Ids that fit 32 bits are told apart. -/
theorem toUint32_inj {i j : Int} (hi : 0 ≤ i) (hi' : i < 2 ^ 32) (hj : 0 ≤ j) (hj' : j < 2 ^ 32)
    (h : toUint32 i = toUint32 j) : i = j := by
  unfold toUint32 at h; omega

/-- So are values of `int32_t`. -/
theorem toUint32_int32_inj {i j : Int32} (h : toUint32 i.toInt = toUint32 j.toInt) : i = j := by
  have hi := i.le_toInt
  have hi' := i.toInt_lt
  have hj := j.le_toInt
  have hj' := j.toInt_lt
  refine Int32.toInt_inj.mp ?_
  unfold toUint32 at h; omega

theorem uint32ToInt32_toUint32_int32 (i : Int32) : uint32ToInt32 (toUint32 i.toInt) = i.toInt := by
  have hi := i.le_toInt
  have hi' := i.toInt_lt
  unfold uint32ToInt32 toUint32; split <;> omega

end DistributedSched

import Mathlib.Data.List.Perm.Basic
import Mathlib.Logic.Function.Basic

/-!
# Library — watched objects

Watchers register with an object.  A registration with a dead object fails; when an object dies,
one notice is sent for each registration, and none is left.  A notice stays until it is taken.

* `Watches held w`: a live object has as many registrations as `held` says, a dead one has none.
* `Covers kept w`: a dead object has at least as many notices as `kept` says.

Each of the four operations has a rule for each of the two.
-/

structure Watched (ω : Type*) where
  dead : List ω := []
  registered : ω → Nat := fun _ => 0
  notices : List ω := []

namespace Watched

variable {ω : Type*} [DecidableEq ω]

/-- A registration; an object that is dead takes none. -/
def add (w : Watched ω) (o : ω) : Watched ω :=
  if o ∈ w.dead then w
  else { w with registered := Function.update w.registered o (w.registered o + 1) }

/-- One registration is taken back, if there is any. -/
def remove (w : Watched ω) (o : ω) : Watched ω :=
  { w with registered := Function.update w.registered o (w.registered o - 1) }

/-- One notice of an object is taken. -/
def take (w : Watched ω) (o : ω) : Watched ω := { w with notices := w.notices.erase o }

/-- The object dies: its registrations become notices. -/
def die (w : Watched ω) (o : ω) : Watched ω :=
  { dead := o :: w.dead
    registered := Function.update w.registered o 0
    notices := w.notices ++ List.replicate (w.registered o) o }

/-- A live object has as many registrations as `held` says. -/
def Watches (held : ω → Nat) (w : Watched ω) : Prop :=
  ∀ o, w.registered o = if o ∈ w.dead then 0 else held o

/-- A dead object has at least as many notices as `kept` says. -/
def Covers (kept : ω → Nat) (w : Watched ω) : Prop :=
  ∀ o ∈ w.dead, kept o ≤ w.notices.count o

variable {w : Watched ω} {held held' kept kept' : ω → Nat} {o : ω}

@[simp] theorem add_dead : (w.add o).dead = w.dead := by
  unfold add
  split <;> rfl

@[simp] theorem add_notices : (w.add o).notices = w.notices := by
  unfold add
  split <;> rfl

/-- Only a live object counts a registration, and only the one it is for. -/
theorem add_registered (p : ω) :
    (w.add o).registered p = w.registered p + if o = p ∧ o ∉ w.dead then 1 else 0 := by
  unfold add
  by_cases ho : o ∈ w.dead
  · rw [if_pos ho, if_neg fun h => h.2 ho, Nat.add_zero]
  · rw [if_neg ho]
    by_cases hop : o = p
    · subst hop
      rw [if_pos ⟨rfl, ho⟩]
      exact Function.update_self ..
    · rw [if_neg fun h => hop h.1, Nat.add_zero]
      exact Function.update_of_ne (Ne.symm hop) ..

/-! ### Registrations -/

namespace Watches

/-- At the start nothing is registered. -/
theorem empty : Watches (fun _ => 0) ({} : Watched ω) := fun _ => rfl

theorem congr (h : Watches held w) (heq : ∀ p, held p = held' p) : Watches held' w := by
  obtain rfl : held = held' := funext heq
  exact h

/-- One more is held, and it is registered. -/
theorem add (h : Watches held w) (hheld : ∀ p, held' p = held p + if o = p then 1 else 0) :
    Watches held' (w.add o) := by
  intro p
  rw [add_dead, add_registered, h p, hheld]
  by_cases hop : o = p
  · subst hop
    by_cases ho : o ∈ w.dead
    · rw [if_pos ho, if_pos ho, if_neg fun h => h.2 ho]
    · rw [if_neg ho, if_neg ho, if_pos ⟨rfl, ho⟩, if_pos rfl]
  · simp only [hop, false_and, if_false, Nat.add_zero]

/-- One fewer is held, and its registration is taken back. -/
theorem remove (h : Watches held w) (hheld : ∀ p, held p = held' p + if o = p then 1 else 0) :
    Watches held' (w.remove o) := by
  intro p
  have hp := h p
  by_cases hop : o = p
  · subst hop
    show Function.update w.registered o (w.registered o - 1) o = _
    rw [Function.update_self, hp, hheld, if_pos rfl]
    by_cases ho : o ∈ w.dead
    · rw [if_pos ho, if_pos (show o ∈ (w.remove o).dead from ho)]
    · rw [if_neg ho, if_neg (show o ∉ (w.remove o).dead from ho), Nat.add_sub_cancel]
  · rw [hheld, if_neg hop, Nat.add_zero] at hp
    exact (Function.update_of_ne (Ne.symm hop) ..).trans hp

/-- Notices are no registrations. -/
theorem take (h : Watches held w) : Watches held (w.take o) := h

/-- What is held of a dead object does not count. -/
theorem die (h : Watches held w) : Watches held (w.die o) := by
  intro p
  show Function.update w.registered o 0 p = if p ∈ o :: w.dead then 0 else held p
  by_cases hop : p = o
  · rw [hop, Function.update_self, if_pos List.mem_cons_self]
  · rw [Function.update_of_ne hop, h p]
    simp only [List.mem_cons, hop, false_or]

end Watches

/-! ### Notices -/

namespace Covers

theorem empty : Covers kept ({} : Watched ω) := fun _ h => absurd h List.not_mem_nil

/-- Fewer are kept. -/
theorem mono (h : Covers kept w) (hle : ∀ p ∈ w.dead, kept' p ≤ kept p) : Covers kept' w :=
  fun p hp => Nat.le_trans (hle p hp) (h p hp)

/-- A registration makes no notice. -/
theorem add (h : Covers kept w) : Covers kept (w.add o) := by
  intro p hp
  rw [add_dead] at hp
  rw [add_notices]
  exact h p hp

theorem remove (h : Covers kept w) : Covers kept (w.remove o) := h

/-- A notice is taken for one that is no longer kept, or when none is. -/
theorem take (h : Covers kept w)
    (hkept : ∀ p ∈ w.dead, kept' p ≤ kept p - if o = p then 1 else 0) :
    Covers kept' (w.take o) := by
  intro p hp
  have hle := Nat.le_trans (hkept p hp) (Nat.sub_le_sub_right (h p hp) _)
  by_cases hop : o = p
  · subst hop
    rw [if_pos rfl] at hle
    show kept' o ≤ (w.notices.erase o).count o
    rwa [List.count_erase_self]
  · rw [if_neg hop, Nat.sub_zero] at hle
    show kept' p ≤ (w.notices.erase o).count p
    rwa [List.count_erase_of_ne (Ne.symm hop)]

/-- Every registration becomes a notice. -/
theorem die (h : Covers kept w) (ho : kept o ≤ w.registered o) : Covers kept (w.die o) := by
  intro p hp
  show kept p ≤ (w.notices ++ List.replicate (w.registered o) o).count p
  rw [List.count_append]
  by_cases hop : p = o
  · subst hop
    rw [List.count_replicate_self]
    omega
  · have hd := h p ((List.mem_cons.mp hp).resolve_left hop)
    omega

end Covers

end Watched

import Mathlib.Logic.Basic

/-!
# Library — readers

A reader takes items off the front of a list, and ends with a value and the items that are left,
or leaves with an exit `ε`.

* `read`, `readD`: one item, which must have the shape that is asked for, or for which a default
  stands in.
* `Avoids bad m s`: the reader `m` does not leave by an exit in `bad` when it reads `s`.  The
  rules say exactly when, one for each way to build a reader, so that they turn a program into
  the condition on its input.
* `Ends bad good m`: on any input, `m` leaves by an exit that is not in `bad`, or ends with a value
  in `good`.
* `run_bind_of_ok`, `run_read_bind`, `run_readD_bind`: a reader on an input that it accepts.
-/

namespace Reading

variable {ι ε α β : Type}

/-- A reader of items `ι`. -/
abbrev Reader (ι ε α : Type) := StateT (List ι) (Except ε) α

/-- The next item, when it has the shape `f`; the exit `e` otherwise. -/
def read (f : ι → Option α) (e : ε) : Reader ι ε α
  | [] => .error e
  | i :: s =>
    match f i with
    | some a => .ok (a, s)
    | none => .error e

/-- The next item, or `d` when there is none of the shape `f`. -/
def readD (f : ι → Option α) (d : α) : Reader ι ε α :=
  fun s => .ok ((s.head?.bind f).getD d, s.tail)

/-! ### Values -/

theorem read_eq_ok {f : ι → Option α} {e : ε} {s s' : List ι} {a : α} :
    read f e s = .ok (a, s') ↔ ∃ i, s = i :: s' ∧ f i = some a := by
  cases s with
  | nil => simp [read]
  | cons i s =>
      cases hf : f i with
      | none => simp [read, hf]
      | some b =>
          simp only [read, hf, Except.ok.injEq, Prod.mk.injEq, List.cons.injEq]
          constructor
          · rintro ⟨rfl, rfl⟩
            exact ⟨i, ⟨rfl, rfl⟩, hf⟩
          · rintro ⟨j, ⟨rfl, rfl⟩, hj⟩
            exact ⟨Option.some.inj (hf.symm.trans hj), rfl⟩

theorem run_bind_of_ok {m : Reader ι ε α} {k : α → Reader ι ε β} {s s' : List ι} {a : α}
    (h : m s = .ok (a, s')) : (m >>= k) s = k a s' := by
  show (m s >>= fun p => k p.1 p.2) = k a s'
  rw [h]
  rfl

theorem run_bind_of_error {m : Reader ι ε α} {k : α → Reader ι ε β} {s : List ι} {e : ε}
    (h : m s = .error e) : (m >>= k) s = .error e := by
  show (m s >>= fun p => k p.1 p.2) = .error e
  rw [h]
  rfl

/-! ### Exits -/

/-- The reader does not leave by an exit in `bad`. -/
def Avoids (bad : ε → Prop) (m : Reader ι ε α) (s : List ι) : Prop :=
  ∀ e, m s = .error e → ¬ bad e

variable {bad : ε → Prop} {s : List ι}

theorem avoids_pure (a : α) : Avoids bad (pure a : Reader ι ε α) s :=
  fun _ h => nomatch h

theorem avoids_throw (e : ε) : Avoids bad (throw e : Reader ι ε α) s ↔ ¬ bad e := by
  constructor
  · intro h
    exact h e rfl
  · intro h e' he
    cases he
    exact h

/-- **The rule of sequence.** -/
theorem avoids_bind {m : Reader ι ε α} {k : α → Reader ι ε β} :
    Avoids bad (m >>= k) s ↔
      Avoids bad m s ∧ ∀ a s', m s = .ok (a, s') → Avoids bad (k a) s' := by
  cases hm : m s with
  | error e =>
      have hb := run_bind_of_error (k := k) hm
      simp only [Avoids, hb, hm, Except.error.injEq, reduceCtorEq, false_implies, implies_true,
        and_true]
  | ok r =>
      obtain ⟨a, s'⟩ := r
      have hb := run_bind_of_ok (k := k) hm
      simp only [Avoids, hb, hm, reduceCtorEq, false_implies, implies_true, true_and,
        Except.ok.injEq, Prod.mk.injEq]
      constructor
      · rintro h a' s'' ⟨rfl, rfl⟩
        exact h
      · intro h
        exact h a s' ⟨rfl, rfl⟩

/-- An item that must be there. -/
theorem avoids_read_bind {f : ι → Option α} {e : ε} (he : ¬ bad e) {k : α → Reader ι ε β} :
    Avoids bad (read f e >>= k) s ↔ ∀ i a s', s = i :: s' → f i = some a → Avoids bad (k a) s' := by
  rw [avoids_bind]
  constructor
  · rintro ⟨-, h⟩ i a s' hs hf
    exact h a s' (read_eq_ok.mpr ⟨i, hs, hf⟩)
  · intro h
    refine ⟨fun e' hr => ?_, fun a s' hr => ?_⟩
    · have hee : e' = e := by
        unfold read at hr
        split at hr
        · exact (Except.error.inj hr).symm
        · split at hr
          · cases hr
          · exact (Except.error.inj hr).symm
      exact hee ▸ he
    · obtain ⟨i, hs, hf⟩ := read_eq_ok.mp hr
      exact h i a s' hs hf

/-- An item for which a default stands in. -/
theorem avoids_readD_bind {f : ι → Option α} {d : α} {k : α → Reader ι ε β} :
    Avoids bad (readD f d >>= k) s ↔ Avoids bad (k ((s.head?.bind f).getD d)) s.tail := by
  have hb : (readD f d >>= k) s = k ((s.head?.bind f).getD d) s.tail := run_bind_of_ok rfl
  simp only [Avoids, hb]

/-! ### Any input -/

/-- Whatever the reader is given, it leaves by an exit that is not in `bad`, or it ends with a value
in `good`. -/
def Ends (bad : ε → Prop) (good : α → Prop) (m : Reader ι ε α) : Prop :=
  ∀ s, (∀ e, m s = .error e → ¬ bad e) ∧ ∀ a s', m s = .ok (a, s') → good a

namespace Ends

variable {good : α → Prop} {good' : β → Prop}

theorem pure {a : α} (h : good a) : Ends bad good (Pure.pure a : Reader ι ε α) := by
  intro s
  refine ⟨fun e he => (by cases he), fun b s' hb => ?_⟩
  cases hb
  exact h

theorem throw {e : ε} (h : ¬ bad e) :
    Ends bad good (MonadExcept.throw e : Reader ι ε α) := by
  intro s
  refine ⟨fun e' he => ?_, fun b s' hb => (by cases hb)⟩
  cases he
  exact h

/-- **The rule of sequence.** -/
theorem bind {m : Reader ι ε α} {k : α → Reader ι ε β} (h : Ends bad good m)
    (hk : ∀ a, good a → Ends bad good' (k a)) : Ends bad good' (m >>= k) := by
  intro s
  cases hm : m s with
  | error e =>
      rw [run_bind_of_error hm]
      refine ⟨fun e' he => ?_, fun b s' hb => (by cases hb)⟩
      cases he
      exact (h s).1 e hm
  | ok r =>
      rw [run_bind_of_ok hm]
      exact hk r.1 ((h s).2 r.1 r.2 hm) r.2

end Ends

end Reading

import Mathlib.Data.List.Basic

/-!
# Library — a copy that is kept by notices

A source has at most one value for each key.  Each change of it leaves a notice: to read the key
again, or to remove it from the copy.  A notice is handled some time later, when every notice
before it is a delayed one; what was read is put into the copy later still.  So `due`, the value
that the copy has or that is about to be put there, may be behind the source.

* `Reread`: a key is read again, and not removed after that.
* `Follows`: where the copy is behind, a notice brings it up.

There is a rule for each thing that happens, and `Follows.settled` for a key of which no notice is
left.
-/

inductive ChangeNotice (κ : Type*) where
  | refresh (key : κ) (delayed : Bool)
  | remove (key : κ)
deriving DecidableEq

namespace ChangeNotice

variable {κ ω : Type*}

def key : ChangeNotice κ → κ
  | refresh k _ => k
  | remove k => k

def delayed : ChangeNotice κ → Bool
  | refresh _ d => d
  | remove _ => false

/-- There is a notice to read `k` again, and none behind it to remove it. -/
def Reread (k : κ) : List (ChangeNotice κ) → Prop
  | [] => False
  | refresh k' _ :: l => Reread k l ∨ (k' = k ∧ remove k ∉ l)
  | remove _ :: l => Reread k l

/-- What is due for `k` is what the source has, or there is a notice that makes it so. -/
def Follows (k : κ) (source due : Option ω) (pending : List (ChangeNotice κ)) : Prop :=
  match source with
  | none => remove k ∈ pending ∨ due = none
  | some v => Reread k pending ∨ (remove k ∉ pending ∧ due = some v)

variable {k : κ} {d : Bool} {n : ChangeNotice κ} {l l' : List (ChangeNotice κ)}

/-! ### Reading again -/

theorem reread_append : Reread k (l ++ l') ↔ Reread k l' ∨ (Reread k l ∧ remove k ∉ l') := by
  induction l with
  | nil => simp [Reread]
  | cons n l ih =>
      cases n with
      | refresh k' d =>
          simp only [List.cons_append, Reread, ih, List.mem_append, not_or]
          tauto
      | remove k' => simpa only [List.cons_append, Reread] using ih

theorem reread_concat : Reread k (l ++ [refresh k d]) :=
  reread_append.mpr (.inl (.inr ⟨rfl, List.not_mem_nil⟩))

/-- A notice of another key does not matter. -/
theorem reread_of_ne (hn : n.key ≠ k) : Reread k (n :: l) ↔ Reread k l := by
  cases n with
  | refresh k' d =>
      have hne : k' ≠ k := hn
      simp [Reread, hne]
  | remove k' => rfl

theorem not_reread (hk : ∀ n ∈ l, n.key ≠ k) : ¬ Reread k l := by
  induction l with
  | nil => exact id
  | cons n l ih =>
      rw [reread_of_ne (hk n List.mem_cons_self)]
      exact ih fun n hn => hk n (List.mem_cons_of_mem _ hn)

theorem remove_mem_cons_of_ne (hn : n.key ≠ k) : remove k ∈ n :: l ↔ remove k ∈ l := by
  have hne : remove k ≠ n := by
    rintro rfl
    exact hn rfl
  simp [hne]

/-- Delayed notices remove nothing. -/
theorem remove_not_mem (hl : ∀ n ∈ l, n.delayed = true) : remove k ∉ l :=
  fun h => Bool.false_ne_true (hl _ h)

/-! ### The rules -/

namespace Follows

variable {source due : Option ω} {v : ω}

/-- The source got a new value. -/
theorem set : Follows k (some v) due (l ++ [refresh k d]) := .inl reread_concat

/-- The source lost its value. -/
theorem unset : Follows k none due (l ++ [remove k]) := .inl List.mem_concat_self

/-- A notice that was not needed. -/
theorem again (h : Follows k source due l) : Follows k source due (l ++ [refresh k d]) := by
  cases source with
  | none => exact h.imp_left fun hm => List.mem_append_left _ hm
  | some v => exact .inl reread_concat

/-- A notice of another key comes. -/
theorem other (h : Follows k source due l) (hn : n.key ≠ k) :
    Follows k source due (l ++ [n]) := by
  have hne : remove k ∉ [n] := fun hm => List.not_mem_nil ((remove_mem_cons_of_ne hn).mp hm)
  cases source with
  | none => exact h.imp_left fun hm => List.mem_append_left _ hm
  | some v =>
      refine h.imp (fun hr => reread_append.mpr (.inr ⟨hr, hne⟩)) fun ⟨hm, hd⟩ =>
        ⟨fun hm' => ?_, hd⟩
      exact (List.mem_append.mp hm').elim hm hne

/-- A notice of another key goes. -/
theorem skip (h : Follows k source due (l ++ n :: l')) (hn : n.key ≠ k) :
    Follows k source due (l ++ l') := by
  have hmem : remove k ∈ l ++ n :: l' ↔ remove k ∈ l ++ l' := by
    rw [List.mem_append, List.mem_append, remove_mem_cons_of_ne hn]
  have hread : Reread k (l ++ n :: l') ↔ Reread k (l ++ l') := by
    rw [reread_append, reread_append, reread_of_ne hn, remove_mem_cons_of_ne hn]
  cases source with
  | none => exact h.imp_left hmem.mp
  | some v => exact h.imp hread.mp fun ⟨hm, hd⟩ => ⟨fun hm' => hm (hmem.mpr hm'), hd⟩

/-- A key is read again, when only delayed notices are before it. -/
theorem read (h : Follows k (some v) due (l ++ refresh k d :: l'))
    (hl : ∀ n ∈ l, n.delayed = true) : Follows k (some v) (some v) (l ++ l') := by
  have hno : remove k ∉ l := remove_not_mem hl
  by_cases hm : remove k ∈ l'
  · -- what reads `k` after that removal is still there
    refine .inl ?_
    obtain hr | ⟨hm', -⟩ := h
    · obtain (hr | ⟨-, hno'⟩) | ⟨-, hno'⟩ := reread_append.mp hr
      · exact reread_append.mpr (.inl hr)
      · exact absurd hm hno'
      · exact absurd (List.mem_cons_of_mem _ hm) hno'
    · exact absurd (List.mem_append_right _ (List.mem_cons_of_mem _ hm)) hm'
  · exact .inr ⟨fun hm' => (List.mem_append.mp hm').elim hno hm, rfl⟩

/-- There was nothing to read. -/
theorem readNone (h : Follows k (none : Option ω) due (l ++ refresh k d :: l')) :
    Follows k none due (l ++ l') := by
  refine h.imp_left fun hm => ?_
  rcases List.mem_append.mp hm with hm | hm
  · exact List.mem_append_left _ hm
  · rw [List.mem_cons] at hm
    exact List.mem_append_right _ (hm.resolve_left fun h => by cases h)

/-- A key is removed. -/
theorem drop (h : Follows k source due (l ++ remove k :: l')) :
    Follows k source none (l ++ l') := by
  cases source with
  | none => exact .inr rfl
  | some v =>
      obtain hr | ⟨hm, -⟩ := h
      · rcases reread_append.mp hr with hr | ⟨-, hno⟩
        · exact .inl (reread_append.mpr (.inl hr))
        · exact absurd List.mem_cons_self hno
      · exact absurd (List.mem_append_right _ List.mem_cons_self) hm

/-- What the source has is put into the copy. -/
theorem put (h : Follows k source due l) : Follows k source source l := by
  cases source with
  | none => exact .inr rfl
  | some v => exact h.imp_right fun ⟨hm, _⟩ => ⟨hm, rfl⟩

/-- With no notice of it left, a key has its value. -/
theorem settled (h : Follows k source due l) (hk : ∀ n ∈ l, n.key ≠ k) : due = source := by
  cases source with
  | none => exact h.resolve_left fun hm => hk _ hm rfl
  | some v => exact (h.resolve_left (not_reread hk)).2

/-- With no notice of it left, and nothing else to come, a key that has its value follows. -/
theorem of_eq (heq : due = source) (hk : ∀ n ∈ l, n.key ≠ k) : Follows k source due l := by
  subst heq
  cases due with
  | none => exact .inr rfl
  | some v => exact .inr ⟨fun hm => hk _ hm rfl, rfl⟩

end Follows

end ChangeNotice

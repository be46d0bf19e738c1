import DistributedSched.Library.TreeWalk

/-!
# Library — a counter kept in step with a map

A map `m` holds values that belong to classes (`cls`), and a table `t` counts, for each class,
the entries of that class.  `Tallies cls m t` says that the table is right and has no zero
entry.  Inserting a value of class `c` at a new key goes with `bump t c`, erasing one goes with
`drop t c`, and replacing a value by one of its class goes with no change of the table.
-/

namespace Std.ExtTreeMap

variable {α β γ : Type*} {cmp : α → α → Ordering} [TransCmp cmp] [LawfulEqCmp cmp]
variable {cmpc : γ → γ → Ordering} [TransCmp cmpc]

/-- The count of `c`; a missing entry counts zero. -/
def tally (t : ExtTreeMap γ Nat cmpc) (c : γ) : Nat := t[c]?.getD 0

/-- One more of class `c`. -/
def bump (t : ExtTreeMap γ Nat cmpc) (c : γ) : ExtTreeMap γ Nat cmpc :=
  t.insert c (t.tally c + 1)

/-- One less of class `c`; an entry that comes to zero is erased. -/
def drop (t : ExtTreeMap γ Nat cmpc) (c : γ) : ExtTreeMap γ Nat cmpc :=
  if t.tally c ≤ 1 then t.erase c else t.insert c (t.tally c - 1)

variable [DecidableEq γ]

theorem tally_bump [LawfulEqCmp cmpc] (t : ExtTreeMap γ Nat cmpc) (c d : γ) :
    (t.bump c).tally d = if c = d then t.tally c + 1 else t.tally d := by
  by_cases hc : c = d
  · rw [if_pos hc, ← hc, tally, bump, getElem?_insert_self]
    rfl
  · rw [if_neg hc, tally, bump, getElem?_insert_of_ne hc]
    rfl

theorem tally_drop [LawfulEqCmp cmpc] (t : ExtTreeMap γ Nat cmpc) (c d : γ) :
    (t.drop c).tally d = if c = d then t.tally c - 1 else t.tally d := by
  by_cases h : t.tally c ≤ 1
  · by_cases hc : c = d
    · rw [drop, if_pos h, if_pos hc, ← hc, tally, getElem?_erase_self]
      exact (Nat.sub_eq_zero_of_le h).symm
    · rw [drop, if_pos h, if_neg hc, tally, getElem?_erase_of_ne hc]
      rfl
  · by_cases hc : c = d
    · rw [drop, if_neg h, if_pos hc, ← hc, tally, getElem?_insert_self]
      rfl
    · rw [drop, if_neg h, if_neg hc, tally, getElem?_insert_of_ne hc]
      rfl

variable {cls : β → γ}

/-- `t` counts the entries of `m` by class, and has no zero entry. -/
structure Tallies (cls : β → γ) (m : ExtTreeMap α β cmp) (t : ExtTreeMap γ Nat cmpc) : Prop where
  agree : ∀ c, t.tally c = count (fun _ v => cls v = c) m
  nonzero : ∀ (c : γ) (n : Nat), t[c]? = some n → n ≠ 0

namespace Tallies

variable {m : ExtTreeMap α β cmp} {t : ExtTreeMap γ Nat cmpc} {k : α} {v w : β}

theorem empty : Tallies cls (∅ : ExtTreeMap α β cmp) (∅ : ExtTreeMap γ Nat cmpc) :=
  ⟨fun c => by simp [tally], fun c n h => by simp at h⟩

theorem insert_new [LawfulEqCmp cmpc] (h : Tallies cls m t) (hk : m[k]? = none) :
    Tallies cls (m.insert k v) (t.bump (cls v)) := by
  refine ⟨fun c => ?_, fun c n hn => ?_⟩
  · rw [tally_bump, count_insert_new hk]
    by_cases hc : cls v = c
    · subst hc; simp [h.agree]
    · simp [hc, h.agree c]
  · rw [bump, getElem?_insert] at hn
    split at hn
    · cases hn; omega
    · exact h.nonzero c n hn

theorem erase [LawfulEqCmp cmpc] (h : Tallies cls m t) (hk : m[k]? = some w) :
    Tallies cls (m.erase k) (t.drop (cls w)) := by
  refine ⟨fun c => ?_, fun c n hn => ?_⟩
  · rw [tally_drop, h.agree, h.agree, count_erase hk, count_erase hk]
    by_cases hc : cls w = c
    · subst hc; simp
    · simp [hc]
  · by_cases h1 : t.tally (cls w) ≤ 1
    · rw [drop, if_pos h1, getElem?_erase] at hn
      split at hn
      · cases hn
      · exact h.nonzero c n hn
    · rw [drop, if_neg h1, getElem?_insert] at hn
      split at hn
      · cases hn; omega
      · exact h.nonzero c n hn

theorem replace (h : Tallies cls m t) (hk : m[k]? = some w) (hv : cls v = cls w) :
    Tallies cls (m.insert k v) t := by
  refine ⟨fun c => ?_, h.nonzero⟩
  rw [h.agree, count_erase hk, count_insert_eq, hv]

/-- The class of an entry is counted. -/
theorem tracked (h : Tallies cls m t) (hk : m[k]? = some w) :
    ∃ n, t[cls w]? = some n ∧ n ≠ 0 := by
  have hp : 0 < t.tally (cls w) := by
    rw [h.agree]; exact count_pos hk (by simp)
  cases ht : t[cls w]? with
  | none => simp [tally, ht] at hp
  | some n => exact ⟨n, rfl, h.nonzero _ _ ht⟩

end Tallies

end Std.ExtTreeMap

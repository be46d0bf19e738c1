import Mathlib.Data.List.Nodup

/-!
# Library — a bounded cache that evicts what was stored least recently

`Lru κ ν cap` is a map with at most `cap` keys that knows the order in which they were stored, the
least recently stored first.  Its invariant is part of it.

* `enqueue` stores a value under a key and makes the key the most recent one.  When the key is new
  and the cache is full, the first key of the order is `evicted`.
* `dequeue` takes the value of a key out, and `remove` every key that a predicate holds of.
-/

structure Lru (κ ν : Type*) (cap : Nat) where
  cap_pos : 0 < cap
  /-- the least recently stored first -/
  order : List κ
  value : κ → Option ν
  nodup : order.Nodup
  mem_order : ∀ k, k ∈ order ↔ value k ≠ none
  length_le : order.length ≤ cap

namespace Lru

variable {κ ν : Type*} {cap : Nat}

def empty (hpos : 0 < cap) : Lru κ ν cap where
  cap_pos := hpos
  order := []
  value _ := none
  nodup := .nil
  mem_order _ := iff_of_false List.not_mem_nil fun h => h rfl
  length_le := Nat.zero_le cap

variable (c : Lru κ ν cap)

/-- Takes out every key of `p`. -/
def remove (p : κ → Bool) : Lru κ ν cap where
  cap_pos := c.cap_pos
  order := c.order.filter fun k => !p k
  value k := if p k then none else c.value k
  nodup := c.nodup.filter _
  mem_order k := by
    rw [List.mem_filter, c.mem_order]
    cases hp : p k with
    | true => simp
    | false => simp
  length_le := Nat.le_trans (List.length_filter_le ..) c.length_le

/-- The key that goes when `k` is stored. -/
def evicted (k : κ) : Option κ :=
  if (c.value k).isNone ∧ c.order.length = cap then c.order.head? else none

section evicted

variable {c}

theorem evicted_of_mem {k : κ} (h : c.value k ≠ none) : c.evicted k = none :=
  if_neg fun hc => h (Option.isNone_iff_eq_none.mp hc.1)

theorem evicted_of_lt {k : κ} (h : c.order.length ≠ cap) : c.evicted k = none :=
  if_neg fun hc => h hc.2

theorem evicted_of_full {k : κ} (hk : c.value k = none) (h : c.order.length = cap) :
    c.evicted k = c.order.head? :=
  if_pos ⟨Option.isNone_iff_eq_none.mpr hk, h⟩

end evicted

variable [DecidableEq κ]

/-- The value under the key, and the cache without it. -/
def dequeue (k : κ) : Option ν × Lru κ ν cap := (c.value k, c.remove fun k' => k' = k)

/-- The keys that stay beside `k` when it is stored, in their order. -/
def others (k : κ) : List κ := c.order.filter fun k' => k' ≠ k ∧ c.evicted k ≠ some k'

theorem mem_others {k k' : κ} :
    k' ∈ c.others k ↔ c.value k' ≠ none ∧ k' ≠ k ∧ c.evicted k ≠ some k' := by
  rw [others, List.mem_filter, c.mem_order, decide_eq_true_eq]

/-- There is room for one more. -/
theorem length_others_lt (k : κ) : (c.others k).length < cap := by
  have hle := List.length_filter_le (fun k' => decide (k' ≠ k ∧ c.evicted k ≠ some k')) c.order
  by_cases hfull : c.order.length = cap
  · -- one key of a full cache goes: `k`, or the first of the order
    have hout : ∃ k' ∈ c.order, ¬ (k' ≠ k ∧ c.evicted k ≠ some k') := by
      by_cases hk : c.value k = none
      · obtain ⟨first, rest, horder⟩ := List.exists_cons_of_length_pos (hfull ▸ c.cap_pos)
        refine ⟨first, by rw [horder]; exact List.mem_cons_self, fun h => h.2 ?_⟩
        rw [evicted_of_full hk hfull, horder]
        rfl
      · exact ⟨k, (c.mem_order k).mpr hk, fun h => h.1 rfl⟩
    obtain ⟨k', hm, hout⟩ := hout
    refine Nat.lt_of_lt_of_eq ?_ hfull
    exact List.length_filter_lt_length_iff_exists.mpr ⟨k', hm, by simpa using hout⟩
  · have := c.length_le
    exact Nat.lt_of_le_of_lt hle (by omega)

/-- Stores `v` under `k`. -/
def enqueue (k : κ) (v : ν) : Lru κ ν cap where
  cap_pos := c.cap_pos
  order := c.others k ++ [k]
  value k' := if k' = k then some v else if c.evicted k = some k' then none else c.value k'
  nodup := by
    refine List.nodup_append.mpr ⟨c.nodup.filter _, List.nodup_singleton k, ?_⟩
    intro a ha b hb hab
    obtain rfl := List.mem_singleton.mp hb
    exact (c.mem_others.mp ha).2.1 hab
  mem_order k' := by
    rw [List.mem_append, List.mem_singleton, mem_others]
    by_cases hk : k' = k
    · simp [hk]
    · by_cases he : c.evicted k = some k'
      · simp [hk, he]
      · simp [hk, he]
  length_le := by
    rw [List.length_append, List.length_singleton]
    exact c.length_others_lt k

theorem value_enqueue_self (k : κ) (v : ν) : (c.enqueue k v).value k = some v :=
  if_pos rfl

/-- No other key changes, but for the one that goes. -/
theorem value_enqueue_of_ne {k k' : κ} (h : k' ≠ k) (v : ν) :
    (c.enqueue k v).value k' = if c.evicted k = some k' then none else c.value k' :=
  if_neg h

end Lru

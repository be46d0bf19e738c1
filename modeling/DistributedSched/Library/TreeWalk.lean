import Std.Data.ExtTreeMap
import Mathlib.Data.List.Perm.Basic
import Mathlib.Data.List.Nodup

/-!
# Library — walking an ordered map while erasing from it

`Std.ExtTreeMap` is the ordered map.  Two things are added.

* `walk f s m` visits every entry of `m` once, in key order.  At each entry `f` sees an
  accumulator and answers a new one, together with the entry's new value, or `none` to erase
  the entry.  `walk_induction` is its rule: what one visit preserves, of the accumulator and
  of the map as it stands in the middle of the walk, the walk preserves.
* `count p m` is the number of entries that satisfy `p`, with its value after an insertion and
  after an erasure.

Where each visit appends to a list (`walk_append`), what is appended for one key can be read off
its entry (`countP_flatMap_toList`).
-/

namespace Std.ExtTreeMap

variable {α β σ : Type*} {cmp : α → α → Ordering} [TransCmp cmp]

/-! ### Whether a key is there -/

theorem contains_iff_ne_none {m : ExtTreeMap α β cmp} {k : α} :
    m.contains k = true ↔ m[k]? ≠ none := by
  rw [contains_eq_isSome_getElem?]
  exact Option.isSome_iff_ne_none

theorem not_contains_iff {m : ExtTreeMap α β cmp} {k : α} :
    ¬ m.contains k = true ↔ m[k]? = none := by
  rw [contains_iff_ne_none, ne_eq, not_not]

theorem contains_eq_false_iff {m : ExtTreeMap α β cmp} {k : α} :
    m.contains k = false ↔ m[k]? = none := by
  rw [← Bool.not_eq_true, not_contains_iff]

theorem getElem?_eq_none_iff {m : ExtTreeMap α β cmp} {k : α} : m[k]? = none ↔ k ∉ m := by
  rw [← not_contains_iff, mem_iff_contains]

theorem contains_of_getElem? {m : ExtTreeMap α β cmp} {k : α} {v : β} (h : m[k]? = some v) :
    m.contains k = true := by
  rw [contains_eq_isSome_getElem?, h, Option.isSome_some]

/-! ### Writing or erasing one entry -/

/-- Writes `v` at `k`, or erases `k`. -/
def put (m : ExtTreeMap α β cmp) (k : α) : Option β → ExtTreeMap α β cmp
  | some v => m.insert k v
  | none => m.erase k

@[simp] theorem put_some (m : ExtTreeMap α β cmp) (k : α) (v : β) :
    m.put k (some v) = m.insert k v := rfl

@[simp] theorem put_none (m : ExtTreeMap α β cmp) (k : α) : m.put k none = m.erase k := rfl

theorem getElem?_put (m : ExtTreeMap α β cmp) (k a : α) (o : Option β) :
    (m.put k o)[a]? = if cmp k a = .eq then o else m[a]? := by
  cases o with
  | none => simp only [put_none, getElem?_erase]
  | some v => simp only [put_some, getElem?_insert]

@[simp] theorem getElem?_put_self (m : ExtTreeMap α β cmp) (k : α) (o : Option β) :
    (m.put k o)[k]? = o := by
  rw [getElem?_put, if_pos ReflCmp.compare_self]

theorem getElem?_insert_of_ne [LawfulEqCmp cmp] {m : ExtTreeMap α β cmp} {k a : α} {v : β}
    (h : k ≠ a) : (m.insert k v)[a]? = m[a]? := by
  rw [getElem?_insert, if_neg fun hc => h (LawfulEqCmp.eq_of_compare hc)]

theorem getElem?_insertIfNew_of_ne [LawfulEqCmp cmp] {m : ExtTreeMap α β cmp} {k a : α} {v : β}
    (h : k ≠ a) : (m.insertIfNew k v)[a]? = m[a]? := by
  rw [getElem?_insertIfNew, if_neg fun hc => h (LawfulEqCmp.eq_of_compare hc.1)]

theorem getElem?_erase_of_ne [LawfulEqCmp cmp] {m : ExtTreeMap α β cmp} {k a : α} (h : k ≠ a) :
    (m.erase k)[a]? = m[a]? := by
  rw [getElem?_erase, if_neg fun hc => h (LawfulEqCmp.eq_of_compare hc)]

theorem getElem?_erase_ne_none [LawfulEqCmp cmp] {m : ExtTreeMap α β cmp} {k a : α} :
    (m.erase k)[a]? ≠ none ↔ a ≠ k ∧ m[a]? ≠ none := by
  by_cases h : k = a
  · rw [h, getElem?_erase_self]
    exact iff_of_false (fun hc => hc rfl) fun hc => hc.1 rfl
  · rw [getElem?_erase_of_ne h]
    exact ⟨fun hc => ⟨fun he => h he.symm, hc⟩, fun hc => hc.2⟩

theorem getElem?_put_of_ne [LawfulEqCmp cmp] (m : ExtTreeMap α β cmp) {k a : α} (h : k ≠ a)
    (o : Option β) : (m.put k o)[a]? = m[a]? := by
  rw [getElem?_put, if_neg fun hc => h (LawfulEqCmp.eq_of_compare hc)]

theorem getElem?_put_eq_some [LawfulEqCmp cmp] {m : ExtTreeMap α β cmp} {k a : α} {o : Option β}
    {v : β} : (m.put k o)[a]? = some v ↔ k = a ∧ o = some v ∨ k ≠ a ∧ m[a]? = some v := by
  by_cases h : k = a
  · subst h
    simp
  · simp [getElem?_put_of_ne m h, h]

theorem forall_getElem? {m : ExtTreeMap α β cmp} {k : α} {v : β} {P : β → Prop}
    (h : m[k]? = some v) (hv : P v) : ∀ w, m[k]? = some w → P w := by
  intro w hw
  obtain rfl := Option.some.inj (h.symm.trans hw)
  exact hv

/-- `emplace` of a key that is not there. -/
theorem insertIfNew_eq_insert [LawfulEqCmp cmp] {m : ExtTreeMap α β cmp} {k : α} (h : m[k]? = none)
    (v : β) : m.insertIfNew k v = m.insert k v := by
  have hk : k ∉ m := getElem?_eq_none_iff.mp h
  refine ext_getElem? fun a => ?_
  rw [getElem?_insertIfNew, getElem?_insert]
  by_cases ha : cmp k a = .eq
  · rw [if_pos ⟨ha, hk⟩, if_pos ha]
  · rw [if_neg fun h => ha h.1, if_neg ha]

/-- `emplace` of a key that is there. -/
theorem insertIfNew_eq_self [LawfulEqCmp cmp] {m : ExtTreeMap α β cmp} {k : α} {w : β}
    (h : m[k]? = some w) (v : β) : m.insertIfNew k v = m := by
  have hk : k ∈ m := isSome_getElem?_iff_mem.mp (by rw [h]; rfl)
  refine ext_getElem? fun a => ?_
  rw [getElem?_insertIfNew, if_neg fun h => h.2 hk]

theorem erase_eq_self [LawfulEqCmp cmp] {m : ExtTreeMap α β cmp} {k : α} (h : m[k]? = none) :
    m.erase k = m := by
  refine ext_getElem? fun a => ?_
  rw [getElem?_erase]
  split
  · rename_i hc; rw [← LawfulEqCmp.eq_of_compare hc, h]
  · rfl

theorem erase_eq_self_iff [LawfulEqCmp cmp] {m : ExtTreeMap α β cmp} {k : α} :
    m.erase k = m ↔ m[k]? = none := by
  constructor
  · intro h
    rw [← h, getElem?_erase, if_pos ReflCmp.compare_self]
  · exact erase_eq_self

/-- What was stored under a key is gone when the key is erased. -/
theorem erase_insert [LawfulEqCmp cmp] (m : ExtTreeMap α β cmp) (k : α) (v : β) :
    (m.insert k v).erase k = m.erase k := by
  refine ext_getElem? fun a => ?_
  rw [getElem?_erase, getElem?_erase, getElem?_insert]
  split <;> rfl

theorem erase_insertIfNew [LawfulEqCmp cmp] (m : ExtTreeMap α β cmp) (k : α) (v : β) :
    (m.insertIfNew k v).erase k = m.erase k := by
  refine ext_getElem? fun a => ?_
  rw [getElem?_erase, getElem?_erase, getElem?_insertIfNew]
  split
  · rfl
  · rename_i hc
    rw [if_neg fun h => hc h.1]

/-- Changing what is stored under each key commutes with `emplace` and with erasing. -/
theorem map_insertIfNew [LawfulEqCmp cmp] {γ : Type*} (f : β → γ) (m : ExtTreeMap α β cmp) (k : α)
    (v : β) :
    (m.insertIfNew k v).map (fun _ => f) = (m.map fun _ => f).insertIfNew k (f v) := by
  refine ext_getElem? fun a => ?_
  simp only [getElem?_map, getElem?_insertIfNew, mem_map]
  split <;> rfl

theorem map_erase [LawfulEqCmp cmp] {γ : Type*} (f : β → γ) (m : ExtTreeMap α β cmp) (k : α) :
    (m.erase k).map (fun _ => f) = (m.map fun _ => f).erase k := by
  refine ext_getElem? fun a => ?_
  rw [getElem?_map, getElem?_erase, getElem?_erase, getElem?_map]
  split <;> rfl

theorem insert_ne_self {m : ExtTreeMap α β cmp} {k : α} (h : m[k]? = none) (v : β) :
    m.insert k v ≠ m := by
  intro he
  have hk : (m.insert k v)[k]? = some v := by
    rw [getElem?_insert, if_pos ReflCmp.compare_self]
  rw [he, h] at hk
  cases hk

/-! ### The walk -/

/-- Visits the entries of `m` in key order; see the module's header. -/
def walk (f : σ → α → β → σ × Option β) (s : σ) (m : ExtTreeMap α β cmp) :
    σ × ExtTreeMap α β cmp :=
  m.toList.foldl (fun acc e =>
    let r := f acc.1 e.1 e.2
    (r.1, acc.2.put e.1 r.2)) (s, m)

/-- The accumulator of a walk does not depend on the map under the walk. -/
theorem walk_fst (f : σ → α → β → σ × Option β) (s : σ) (m : ExtTreeMap α β cmp) :
    (walk f s m).1 = m.toList.foldl (fun s e => (f s e.1 e.2).1) s := by
  suffices h : ∀ (es : List (α × β)) (s : σ) (m' : ExtTreeMap α β cmp),
      (es.foldl (fun acc e =>
        let r := f acc.1 e.1 e.2
        (r.1, acc.2.put e.1 r.2)) (s, m')).1 = es.foldl (fun s e => (f s e.1 e.2).1) s from
    h m.toList s m
  intro es
  induction es with
  | nil => intro s m'; rfl
  | cons e es ih => intro s m'; exact ih _ _

/-- Where a visit appends to a list that the accumulator carries, the walk appends what its
visits append, entry by entry. -/
theorem walk_append {ε : Type*} {f : σ → α → β → σ × Option β} {l : σ → List ε}
    {g : α → β → List ε} (hg : ∀ s k v, l (f s k v).1 = l s ++ g k v) (s : σ)
    (m : ExtTreeMap α β cmp) :
    l (walk f s m).1 = l s ++ m.toList.flatMap fun e => g e.1 e.2 := by
  rw [walk_fst]
  induction m.toList generalizing s with
  | nil => simp
  | cons e es ih => rw [List.foldl_cons, ih, hg, List.flatMap_cons, List.append_assoc]

variable [LawfulEqCmp cmp]

/-- **The rule for a walk.**  `P` relates the accumulator to the map as it stands: a visit
finds its entry still there, with the value the walk started from. -/
theorem walk_induction {f : σ → α → β → σ × Option β} {P : σ → ExtTreeMap α β cmp → Prop}
    {s : σ} {m : ExtTreeMap α β cmp} (h₀ : P s m)
    (hP : ∀ s m' k v, m[k]? = some v → m'[k]? = some v → P s m' →
      P (f s k v).1 (m'.put k (f s k v).2)) :
    P (walk f s m).1 (walk f s m).2 := by
  suffices h : ∀ (es : List (α × β)) (s : σ) (m' : ExtTreeMap α β cmp),
      es.Pairwise (fun a b => ¬ cmp a.1 b.1 = .eq) → (∀ e ∈ es, m[e.1]? = some e.2) →
      (∀ e ∈ es, m'[e.1]? = some e.2) → P s m' →
      let r := es.foldl (fun acc e =>
        let r := f acc.1 e.1 e.2
        (r.1, acc.2.put e.1 r.2)) (s, m')
      P r.1 r.2 by
    have mem : ∀ e ∈ m.toList, m[e.1]? = some e.2 :=
      fun e he => mem_toList_iff_getElem?_eq_some.mp he
    exact h m.toList s m distinct_keys_toList mem mem h₀
  intro es
  induction es with
  | nil => intro s m' _ _ _ h; exact h
  | cons e es ih =>
      intro s m' hd hm hm' h
      obtain ⟨hne, hd⟩ := List.pairwise_cons.mp hd
      refine ih _ _ hd (fun x hx => hm x (List.mem_cons_of_mem _ hx)) (fun x hx => ?_)
        (hP s m' e.1 e.2 (hm e List.mem_cons_self) (hm' e List.mem_cons_self) h)
      rw [getElem?_put, if_neg (hne x hx)]
      exact hm' x (List.mem_cons_of_mem _ hx)

/-- What a visit preserves of the accumulator, the walk preserves. -/
theorem walk_acc {f : σ → α → β → σ × Option β} {Q : σ → Prop} {s : σ} {m : ExtTreeMap α β cmp}
    (h₀ : Q s) (hQ : ∀ s k v, m[k]? = some v → Q s → Q (f s k v).1) : Q (walk f s m).1 :=
  walk_induction (P := fun s _ => Q s) h₀ fun s _ k v hk _ h => hQ s k v hk h

/-- Where the new value of an entry does not depend on the accumulator, the walk maps each
entry by itself. -/
theorem walk_getElem? {f : σ → α → β → σ × Option β} {g : α → β → Option β}
    (hg : ∀ s k v, (f s k v).2 = g k v) (s : σ) (m : ExtTreeMap α β cmp) (a : α) :
    (walk f s m).2[a]? = m[a]?.bind (g a) := by
  suffices h : ∀ (es : List (α × β)) (s : σ) (m' : ExtTreeMap α β cmp),
      es.Pairwise (fun a b => ¬ cmp a.1 b.1 = .eq) →
      (es.foldl (fun acc e =>
        let r := f acc.1 e.1 e.2
        (r.1, acc.2.put e.1 r.2)) (s, m')).2[a]? =
        match es.find? (fun e => cmp e.1 a = .eq) with
        | some e => g e.1 e.2
        | none => m'[a]? by
    refine (h m.toList s m distinct_keys_toList).trans ?_
    cases hf : m.toList.find? (fun e => cmp e.1 a = .eq) with
    | none =>
        have hn : m[a]? = none := by
          refine Option.eq_none_iff_forall_not_mem.mpr fun v hv => ?_
          have := List.find?_eq_none.mp hf _ (mem_toList_iff_getElem?_eq_some.mpr hv)
          simp [ReflCmp.compare_self] at this
        simp only [hn, Option.bind_none]
    | some e =>
        have he := List.mem_of_find?_eq_some hf
        have hc := List.find?_some hf
        have ha : e.1 = a := LawfulEqCmp.eq_of_compare (of_decide_eq_true hc)
        subst ha
        simp only [mem_toList_iff_getElem?_eq_some.mp he, Option.bind_some]
  intro es
  induction es with
  | nil => intro s m' _; rfl
  | cons e es ih =>
      intro s m' hd
      obtain ⟨hne, hd⟩ := List.pairwise_cons.mp hd
      rw [List.foldl_cons, ih _ _ hd]
      by_cases hc : cmp e.1 a = .eq
      · have ha : e.1 = a := LawfulEqCmp.eq_of_compare hc
        have hn : es.find? (fun x => cmp x.1 a = .eq) = none := by
          refine List.find?_eq_none.mpr fun x hx => ?_
          simpa [ha] using fun h => hne x hx (ha ▸ OrientedCmp.eq_comm.mp h)
        simp only [hn, List.find?_cons, hc, decide_true, getElem?_put, if_true, hg]
      · simp only [List.find?_cons, hc, decide_false, getElem?_put, if_false]

theorem walk_getElem?_none {f : σ → α → β → σ × Option β} {s : σ} {m : ExtTreeMap α β cmp} {a : α}
    (h : m[a]? = none) : (walk f s m).2[a]? = none := by
  refine walk_induction (P := fun _ m' => m'[a]? = none) h fun s m' k v hk _ hm' => ?_
  rw [getElem?_put_of_ne, hm']
  rintro rfl
  rw [h] at hk
  cases hk

/-- An entry is visited with an accumulator that the visits before it have left. -/
theorem walk_getElem?_some {f : σ → α → β → σ × Option β} {Q : σ → Prop} {s : σ}
    {m : ExtTreeMap α β cmp} {a : α} {v : β} (ha : m[a]? = some v) (h₀ : Q s)
    (hQ : ∀ s k w, m[k]? = some w → k ≠ a → Q s → Q (f s k w).1) :
    ∃ s', Q s' ∧ (walk f s m).2[a]? = (f s' a v).2 := by
  -- behind the entry nothing touches it; the entries before it keep `Q`
  have rest : ∀ (es : List (α × β)) (s : σ) (m' : ExtTreeMap α β cmp), (∀ e ∈ es, e.1 ≠ a) →
      (es.foldl (fun acc e =>
        let r := f acc.1 e.1 e.2
        (r.1, acc.2.put e.1 r.2)) (s, m')).2[a]? = m'[a]? := by
    intro es
    induction es with
    | nil => intro s m' _; rfl
    | cons e es ih =>
        intro s m' hne
        rw [List.foldl_cons, ih _ _ fun x hx => hne x (List.mem_cons_of_mem _ hx)]
        exact getElem?_put_of_ne _ (hne e List.mem_cons_self) _
  suffices h : ∀ (es : List (α × β)) (s : σ) (m' : ExtTreeMap α β cmp),
      es.Pairwise (fun a b => ¬ cmp a.1 b.1 = .eq) → (∀ e ∈ es, m[e.1]? = some e.2) →
      (a, v) ∈ es → Q s → ∃ s', Q s' ∧
      (es.foldl (fun acc e =>
        let r := f acc.1 e.1 e.2
        (r.1, acc.2.put e.1 r.2)) (s, m')).2[a]? = (f s' a v).2 from
    h m.toList s m distinct_keys_toList (fun e he => mem_toList_iff_getElem?_eq_some.mp he)
      (mem_toList_iff_getElem?_eq_some.mpr ha) h₀
  intro es
  induction es with
  | nil => intro s m' _ _ hm _; cases hm
  | cons e es ih =>
      intro s m' hd hm hmem hs
      obtain ⟨hne, hd⟩ := List.pairwise_cons.mp hd
      rcases List.mem_cons.mp hmem with rfl | hmem
      · refine ⟨s, hs, ?_⟩
        rw [List.foldl_cons, rest, getElem?_put_self]
        rintro x hx rfl
        exact hne x hx ReflCmp.compare_self
      · refine ih _ _ hd (fun x hx => hm x (List.mem_cons_of_mem _ hx)) hmem
          (hQ s e.1 e.2 (hm e List.mem_cons_self) ?_ hs)
        rintro rfl
        exact hne _ hmem ReflCmp.compare_self

/-! ### Counting entries -/

theorem nodup_toList (m : ExtTreeMap α β cmp) : m.toList.Nodup :=
  (distinct_keys_toList (t := m)).imp fun {a b} h e => h (by rw [e]; exact ReflCmp.compare_self)

theorem toList_insert_perm (m : ExtTreeMap α β cmp) (k : α) (v : β) :
    (m.insert k v).toList.Perm ((k, v) :: (m.erase k).toList) := by
  refine (List.perm_ext_iff_of_nodup (nodup_toList _) ?_).mpr fun e => ?_
  · refine List.nodup_cons.mpr ⟨fun h => ?_, nodup_toList _⟩
    simp [mem_toList_iff_getElem?_eq_some] at h
  · obtain ⟨a, b⟩ := e
    simp only [mem_toList_iff_getElem?_eq_some, getElem?_insert, List.mem_cons, Prod.mk.injEq,
      getElem?_erase, LawfulEqCmp.compare_eq_iff_eq]
    by_cases h : k = a
    · subst h; simp [eq_comm (a := b)]
    · simp [h, Ne.symm h]

theorem toList_perm_erase {m : ExtTreeMap α β cmp} {k : α} {v : β} (h : m[k]? = some v) :
    m.toList.Perm ((k, v) :: (m.erase k).toList) := by
  have he : m.insert k v = m := by
    refine ext_getElem? fun a => ?_
    rw [getElem?_insert]
    split
    · rename_i hc; rw [← LawfulEqCmp.eq_of_compare hc, h]
    · rfl
  simpa only [he] using toList_insert_perm m k v

/-- In a list made of one part for each entry, the elements that only the part of `k` can hold
are counted in that part. -/
theorem countP_flatMap_toList {ε : Type*} {g : α → β → List ε} {p : ε → Bool}
    {m : ExtTreeMap α β cmp} {k : α}
    (hg : ∀ a v, m[a]? = some v → a ≠ k → (g a v).countP p = 0) :
    (m.toList.flatMap fun e => g e.1 e.2).countP p =
      (m[k]?.map fun v => (g k v).countP p).getD 0 := by
  have hrest : ∀ es : List (α × β), (∀ e ∈ es, (g e.1 e.2).countP p = 0) →
      (es.flatMap fun e => g e.1 e.2).countP p = 0 := by
    intro es hes
    refine List.countP_eq_zero.mpr fun x hx => ?_
    obtain ⟨e, he, hx⟩ := List.mem_flatMap.mp hx
    exact List.countP_eq_zero.mp (hes e he) x hx
  cases hk : m[k]? with
  | none =>
      refine hrest _ fun e he => hg e.1 e.2 (mem_toList_iff_getElem?_eq_some.mp he) fun h => ?_
      have he := mem_toList_iff_getElem?_eq_some.mp he
      rw [h, hk] at he
      cases he
  | some v =>
      have hperm := (toList_perm_erase hk).flatMap_right fun e => g e.1 e.2
      rw [hperm.countP_eq, List.flatMap_cons, List.countP_append, hrest]
      · rfl
      intro e he
      have he := mem_toList_iff_getElem?_eq_some.mp he
      rw [getElem?_erase] at he
      split at he
      · cases he
      · rename_i hne
        exact hg e.1 e.2 he fun h => hne (by rw [h]; exact ReflCmp.compare_self)

/-- The number of entries that satisfy `p`. -/
def count (p : α → β → Bool) (m : ExtTreeMap α β cmp) : Nat :=
  m.toList.countP fun e => p e.1 e.2

variable {p q : α → β → Bool} {m : ExtTreeMap α β cmp} {k : α} {v w : β}

@[simp] theorem count_empty : count p (∅ : ExtTreeMap α β cmp) = 0 := by
  simp [count]

/-- A map's entry at `k`, and the rest. -/
theorem count_erase (h : m[k]? = some w) :
    count p m = count p (m.erase k) + if p k w then 1 else 0 := by
  rw [count, (toList_perm_erase h).countP_eq, List.countP_cons]; rfl

theorem count_insert_eq :
    count p (m.insert k v) = count p (m.erase k) + if p k v then 1 else 0 := by
  rw [count, (toList_insert_perm m k v).countP_eq, List.countP_cons]; rfl

theorem count_insert_new (h : m[k]? = none) :
    count p (m.insert k v) = count p m + if p k v then 1 else 0 := by
  rw [count_insert_eq, erase_eq_self h]

/-- Writing or erasing an entry replaces what it counts for. -/
theorem count_put (o : Option β) :
    count p (m.put k o) + (if m[k]?.any (p k) then 1 else 0) =
      count p m + if o.any (p k) then 1 else 0 := by
  have hold : count p m = count p (m.erase k) + if m[k]?.any (p k) then 1 else 0 := by
    cases hk : m[k]? with
    | none => rw [erase_eq_self hk]; rfl
    | some w => exact count_erase hk
  have hnew : count p (m.put k o) = count p (m.erase k) + if o.any (p k) then 1 else 0 := by
    cases o with
    | none => rfl
    | some v => exact count_insert_eq
  omega

/-- An entry that does not count is written or erased. -/
theorem count_put_of_false {o : Option β} (hold : ∀ v, m[k]? = some v → p k v = false)
    (hnew : ∀ v, o = some v → p k v = false) : count p (m.put k o) = count p m := by
  have hput := count_put (p := p) (m := m) (k := k) o
  have hm : m[k]?.any (p k) = false := by
    cases hk : m[k]? with
    | none => rfl
    | some w => exact hold w hk
  have ho : o.any (p k) = false := by
    cases ho : o with
    | none => rfl
    | some v => exact hnew v ho
  rwa [hm, ho, if_neg Bool.false_ne_true, Nat.add_zero] at hput

theorem count_congr (h : ∀ k v, m[k]? = some v → p k v = q k v) : count p m = count q m :=
  List.countP_congr fun e he => by rw [h e.1 e.2 (mem_toList_iff_getElem?_eq_some.mp he)]

/-- Where every entry of `m'` comes from the entry of `m` at its key, the entries of `m'` are
counted in `m`. -/
theorem count_of_getElem? {m' : ExtTreeMap α β cmp} {g : α → β → Option β}
    (h : ∀ a : α, m'[a]? = m[a]?.bind (g a)) :
    count p m' = count (fun k v => (g k v).any (p k)) m := by
  let f : α × β → Option (α × β) := fun e => (g e.1 e.2).map fun v => (e.1, v)
  have hnodup : (m.toList.filterMap f).Nodup := by
    refine List.Pairwise.filterMap f (fun a b hab x hx y hy hxy => ?_) distinct_keys_toList
    obtain ⟨v, -, rfl⟩ := Option.map_eq_some_iff.mp hx
    obtain ⟨w, -, rfl⟩ := Option.map_eq_some_iff.mp hy
    refine hab ?_
    rw [(Prod.mk.inj hxy).1]
    exact ReflCmp.compare_self
  have hperm : m'.toList.Perm (m.toList.filterMap f) := by
    refine (List.perm_ext_iff_of_nodup (nodup_toList _) hnodup).mpr fun ⟨a, b⟩ => ?_
    rw [mem_toList_iff_getElem?_eq_some, h, Option.bind_eq_some_iff, List.mem_filterMap]
    constructor
    · rintro ⟨v, hv, hg⟩
      exact ⟨(a, v), mem_toList_iff_getElem?_eq_some.mpr hv, by simp [f, hg]⟩
    · rintro ⟨⟨k, v⟩, hv, hg⟩
      obtain ⟨w, hw, he⟩ := Option.map_eq_some_iff.mp hg
      obtain ⟨rfl, rfl⟩ := Prod.mk.inj he
      exact ⟨v, mem_toList_iff_getElem?_eq_some.mp hv, hw⟩
  rw [count, hperm.countP_eq, List.countP_filterMap, count]
  refine List.countP_congr fun e _ => ?_
  cases hg : g e.1 e.2 <;> simp [f, hg]

omit [LawfulEqCmp cmp] in
theorem count_split (p q : α → β → Bool) (m : ExtTreeMap α β cmp) :
    count p m = count (fun k v => p k v && q k v) m + count (fun k v => p k v && !q k v) m := by
  simp only [count]
  rw [List.countP_eq_countP_filter_add m.toList (fun e => p e.1 e.2) fun e => q e.1 e.2,
    List.countP_filter, List.countP_filter]

theorem count_eq_zero : count p m = 0 ↔ ∀ k v, m[k]? = some v → p k v = false := by
  simp only [count, List.countP_eq_zero, Prod.forall, mem_toList_iff_getElem?_eq_some,
    Bool.not_eq_true]

theorem count_pos (h : m[k]? = some v) (hp : p k v = true) : 0 < count p m := by
  rw [count_erase h, if_pos hp]; omega

end Std.ExtTreeMap

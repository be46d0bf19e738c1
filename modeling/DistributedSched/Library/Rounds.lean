import Mathlib.Algebra.Order.Group.Unbundled.Int
import Mathlib.Algebra.Order.Ring.Int

/-!
# Library — a counter that starts again at 1

`next max c` is `c + 1`, or 1 after `max`.  The values that it gives come in rounds of `max`.

* `Given max c given`: `given` are values of the counter, the newest first; the counter is at `c`.
* `Given.live_next_iff`: the next value is one of those that are live exactly when the value given
  `max` values ago is one of them.
-/

namespace Rounds

variable {max c : Int} {given : List Int}

def next (max c : Int) : Int := if max < c + 1 then 1 else c + 1

theorem next_mem (hmax : 1 ≤ max) (hc : 0 ≤ c) : 1 ≤ next max c ∧ next max c ≤ max := by
  unfold next
  split
  · exact ⟨Int.le_refl 1, hmax⟩
  · omega

/-- The next value is the successor, up to whole rounds. -/
theorem dvd_next (hc : c ≤ max) : max ∣ c + 1 - next max c := by
  unfold next
  split
  · obtain rfl : c = max := by omega
    simp
  · simp

/-- Two values of one round are equal when they differ by whole rounds. -/
theorem eq_of_dvd_sub {a b : Int} (ha : 1 ≤ a) (ha' : a ≤ max) (hb : 1 ≤ b) (hb' : b ≤ max)
    (h : max ∣ a - b) : a = b := by
  have habs : |a - b| < max := abs_lt.mpr ⟨by omega, by omega⟩
  have := Int.eq_zero_of_abs_lt_dvd h habs
  omega

/-- The `k`-th newest value is `k` steps behind the counter. -/
structure Given (max c : Int) (given : List Int) : Prop where
  counter : 0 ≤ c ∧ c ≤ max
  values : ∀ (k : Nat) (v : Int), given[k]? = some v → 1 ≤ v ∧ v ≤ max ∧ max ∣ c - k - v

theorem Given.nil (h₀ : 0 ≤ c) (h₁ : c ≤ max) : Given max c [] :=
  ⟨⟨h₀, h₁⟩, fun k v hv => by simp at hv⟩

theorem Given.cons (hmax : 1 ≤ max) (h : Given max c given) :
    Given max (next max c) (next max c :: given) := by
  obtain ⟨hlo, hhi⟩ := next_mem hmax h.counter.1
  refine ⟨⟨by omega, hhi⟩, fun k v hv => ?_⟩
  cases k with
  | zero =>
      obtain rfl := Option.some.inj hv
      exact ⟨hlo, hhi, by simp⟩
  | succ k =>
      obtain ⟨hv₀, hv₁, hdvd⟩ := h.values k v hv
      refine ⟨hv₀, hv₁, ?_⟩
      have hsum : next max c - ↑(k + 1) - v = (c - k - v) - (c + 1 - next max c) := by
        omega
      rw [hsum]
      exact Int.dvd_sub hdvd (dvd_next h.counter.2)

/-- A value that comes again was given a whole round ago or earlier. -/
theorem Given.le_of_next (h : Given max c given) {k : Nat}
    (hk : given[k]? = some (next max c)) : max - 1 ≤ k := by
  obtain ⟨-, -, hdvd⟩ := h.values k _ hk
  have hsucc : max ∣ (k : Int) + 1 := by
    have hsum : (k : Int) + 1 = (c + 1 - next max c) - (c - k - next max c) := by omega
    rw [hsum]
    exact Int.dvd_sub (dvd_next h.counter.2) hdvd
  have := Int.le_of_dvd (by omega) hsucc
  omega

/-- The value given a whole round ago comes next. -/
theorem Given.eq_next (hmax : 1 ≤ max) (h : Given max c given) {v : Int}
    (hv : given[max.toNat - 1]? = some v) : v = next max c := by
  obtain ⟨hlo, hhi⟩ := next_mem hmax h.counter.1
  obtain ⟨hv₀, hv₁, hdvd⟩ := h.values _ v hv
  refine eq_of_dvd_sub hv₀ hv₁ hlo hhi ?_
  have hsum : v - next max c = (c + 1 - next max c) - (c - (max.toNat - 1 : Nat) - v) - max := by
    omega
  rw [hsum]
  exact Int.dvd_sub (Int.dvd_sub (dvd_next h.counter.2) hdvd) (Int.dvd_refl max)

/-- **The next value is a live one exactly when the value of the round before is live**, whatever
values that were given are live. -/
theorem Given.live_next_iff (hmax : 1 ≤ max) (h : Given max c given) {Live : Int → Prop}
    (hlive : ∀ v, Live v → v ∈ given) :
    Live (next max c) ↔ ∃ old, given[max.toNat - 1]? = some old ∧ Live old := by
  constructor
  · intro hnext
    obtain ⟨k, hk⟩ := List.mem_iff_getElem?.mp (hlive _ hnext)
    have hle := h.le_of_next hk
    obtain ⟨hlen, -⟩ := List.getElem?_eq_some_iff.mp hk
    have hround : max.toNat - 1 < given.length := by omega
    have hold := List.getElem?_eq_getElem hround
    refine ⟨_, hold, ?_⟩
    rwa [h.eq_next hmax hold]
  · rintro ⟨old, hold, hl⟩
    rwa [← h.eq_next hmax hold]

end Rounds

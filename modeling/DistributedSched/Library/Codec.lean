import Mathlib.Algebra.Order.Group.Nat
import DistributedSched.Library.Reader

/-!
# Library — codecs

A codec writes a value as a list of items, or refuses to, and reads a value off the front of a
list.  A message is a sequence of writes (`concat`), and its reader a sequence of reads.

* `Mirrors w r a`: what `w` writes, `r` reads as `a`, whatever follows.  The rules go from the
  writes and reads of a message to the whole of it: `Mirrors.nil`, `Mirrors.cons`, and
  `Mirrors.readMany` for a list of any length.
* `Multiple n w`: what `w` writes has a length that is a multiple of `n`.
* `Codec.Lawful n`: every value that is written is read back, in multiples of `n`.  A codec is
  lawful behind conversions (`Codec.Lawful.convert`) and element by element
  (`Codec.Lawful.listOf`).
* `wordBytes`, `wordOf`: a word as four bytes, the lowest first.
-/

namespace Coding

open Reading

variable {ι ε α β : Type}

structure Codec (ι α : Type) where
  write : α → Option (List ι)
  /-- the value, unless the read fails, and what is left -/
  read : List ι → Option α × List ι

namespace Codec

/-- A read that leaves with `e` when it fails. -/
def readOr (c : Codec ι α) (e : ε) : Reader ι ε α := fun s =>
  match c.read s with
  | (some a, rest) => .ok (a, rest)
  | (none, _) => .error e

/-- A read that gives `d` when it fails. -/
def readD (c : Codec ι α) (d : α) : Reader ι ε α := fun s =>
  .ok ((c.read s).1.getD d, (c.read s).2)

/-- What is written for `a` is read as `a`. -/
def RoundTrips (c : Codec ι α) (a : α) : Prop :=
  ∀ s, c.write a = some s → ∀ rest, c.read (s ++ rest) = (some a, rest)

def ofReader (w : α → Option (List ι)) (r : Reader ι Unit α) : Codec ι α where
  write := w
  read s :=
    match r s with
    | .ok (a, rest) => (some a, rest)
    | .error _ => (none, s)

/-- The codec behind two conversions, which may fail. -/
def convert (c : Codec ι α) (f : β → Option α) (g : α → Option β) : Codec ι β where
  write b := (f b).bind c.write
  read s := ((c.read s).1.bind g, (c.read s).2)

end Codec

/-- One write after another, unless one fails. -/
def concat : List (Option (List ι)) → Option (List ι)
  | [] => some []
  | w :: ws => w.bind fun s => (concat ws).map (s ++ ·)

/-- So many values, one after another. -/
def readMany (r : Reader ι ε α) : Nat → Reader ι ε (List α)
  | 0 => pure []
  | n + 1 => do
    let a ← r
    let as ← readMany r n
    return a :: as

theorem concat_cons_eq_some {w : Option (List ι)} {ws : List (Option (List ι))} {s : List ι} :
    concat (w :: ws) = some s ↔ ∃ s₁ s₂, w = some s₁ ∧ concat ws = some s₂ ∧ s = s₁ ++ s₂ := by
  constructor
  · intro h
    obtain ⟨s₁, hw, h⟩ := Option.bind_eq_some_iff.mp h
    obtain ⟨s₂, hws, rfl⟩ := Option.map_eq_some_iff.mp h
    exact ⟨s₁, s₂, hw, hws, rfl⟩
  · rintro ⟨s₁, s₂, rfl, hws, rfl⟩
    show (concat ws).map (s₁ ++ ·) = _
    rw [hws]
    rfl

/-! ### Writes and their reads -/

/-- What `w` writes, `r` reads as `a`, and it leaves what follows. -/
def Mirrors (w : Option (List ι)) (r : Reader ι ε α) (a : α) : Prop :=
  ∀ s, w = some s → ∀ rest, r (s ++ rest) = .ok (a, rest)

theorem Codec.RoundTrips.readOr {c : Codec ι α} {a : α} (h : c.RoundTrips a) (e : ε) :
    Mirrors (c.write a) (c.readOr e) a := by
  intro s hs rest
  simp only [Codec.readOr, h s hs rest]

theorem Codec.RoundTrips.readD {c : Codec ι α} {a : α} (h : c.RoundTrips a) (d : α) :
    Mirrors (ε := ε) (c.write a) (c.readD d) a := by
  intro s hs rest
  simp only [Codec.readD, h s hs rest, Option.getD_some]

namespace Mirrors

theorem roundTrips {w : α → Option (List ι)} {r : Reader ι Unit α} {a : α}
    (h : Mirrors (w a) r a) : (Codec.ofReader w r).RoundTrips a := by
  intro s hs rest
  simp only [Codec.ofReader, h s hs rest]

theorem nil (a : α) : Mirrors (ε := ε) (concat ([] : List (Option (List ι)))) (pure a) a := by
  intro s hs rest
  cases hs
  rfl

/-- **The rule of sequence.** -/
theorem cons {w : Option (List ι)} {ws : List (Option (List ι))} {r : Reader ι ε α} {a : α}
    {k : α → Reader ι ε β} {b : β} (h : Mirrors w r a) (hk : Mirrors (concat ws) (k a) b) :
    Mirrors (concat (w :: ws)) (r >>= k) b := by
  intro s hs rest
  obtain ⟨s₁, s₂, hw, hws, rfl⟩ := concat_cons_eq_some.mp hs
  rw [List.append_assoc, run_bind_of_ok (h s₁ hw (s₂ ++ rest))]
  exact hk s₂ hws rest

/-- A check that is passed reads nothing. -/
theorem check {w : Option (List ι)} {c : Reader ι ε Unit} {k : Unit → Reader ι ε β} {b : β}
    (hc : c = pure ()) (hk : Mirrors w (k ()) b) : Mirrors w (c >>= k) b := by
  rw [hc, pure_bind]
  exact hk

/-- What is written under a condition. -/
theorem ite {c : Prop} [Decidable c] {w : Option (List ι)} {r : Reader ι ε α} {a : α}
    (h : c → Mirrors w r a) : Mirrors (if c then w else none) r a := by
  intro s hs rest
  obtain ⟨hc, hs⟩ := Option.ite_none_right_eq_some.mp hs
  exact h hc s hs rest

theorem readMany {w : α → Option (List ι)} {r : Reader ι ε α} {as : List α}
    (h : ∀ a ∈ as, Mirrors (w a) r a) :
    Mirrors (concat (as.map w)) (Coding.readMany r as.length) as := by
  induction as with
  | nil => exact nil []
  | cons a as ih =>
      obtain ⟨ha, has⟩ := List.forall_mem_cons.mp h
      refine cons ha fun s hs rest => ?_
      rw [run_bind_of_ok (ih has s hs rest)]
      rfl

end Mirrors

/-- A codec's read, when nothing looks at what it gives but an exit that is not bad. -/
theorem ends_readOr {bad : ε → Prop} (c : Codec ι α) {e : ε} (he : ¬ bad e) :
    Ends bad (fun _ => True) (c.readOr e) := by
  intro s
  refine ⟨fun e' h => ?_, fun _ _ _ => trivial⟩
  unfold Codec.readOr at h
  split at h <;> cases h
  exact he

theorem ends_readD {bad : ε → Prop} (c : Codec ι α) (d : α) :
    Ends bad (fun _ => True) (c.readD d : Reader ι ε α) :=
  fun _ => ⟨fun _ h => (by cases h), fun _ _ _ => trivial⟩

/-! ### Lengths -/

/-- The length of what `w` writes is a multiple of `n`. -/
def Multiple (n : Nat) (w : Option (List ι)) : Prop :=
  ∀ s, w = some s → n ∣ s.length

namespace Multiple

variable {n : Nat}

theorem nil : Multiple n (concat ([] : List (Option (List ι)))) := by
  intro s hs
  cases hs
  exact Nat.dvd_zero n

theorem cons {w : Option (List ι)} {ws : List (Option (List ι))} (h : Multiple n w)
    (hws : Multiple n (concat ws)) : Multiple n (concat (w :: ws)) := by
  intro s hs
  obtain ⟨s₁, s₂, h₁, h₂, rfl⟩ := concat_cons_eq_some.mp hs
  rw [List.length_append]
  exact Nat.dvd_add (h s₁ h₁) (hws s₂ h₂)

theorem map {w : α → Option (List ι)} (h : ∀ a, Multiple n (w a)) (as : List α) :
    Multiple n (concat (as.map w)) := by
  induction as with
  | nil => exact nil
  | cons a as ih => exact cons (h a) ih

end Multiple

/-- Writes that write something write at least as many items as there are writes. -/
theorem length_le_of_concat {ws : List (Option (List ι))} {s : List ι}
    (h : ∀ w ∈ ws, ∀ s, w = some s → s ≠ []) (hs : concat ws = some s) : ws.length ≤ s.length := by
  induction ws generalizing s with
  | nil => exact Nat.zero_le _
  | cons w ws ih =>
      obtain ⟨hw, hws⟩ := List.forall_mem_cons.mp h
      obtain ⟨s₁, s₂, h₁, h₂, rfl⟩ := concat_cons_eq_some.mp hs
      have hpos : 0 < s₁.length := List.length_pos_iff.mpr (hw s₁ h₁)
      have := ih hws h₂
      rw [List.length_cons, List.length_append]
      omega

/-- A codec that reads back every value that it writes, in multiples of `n`. -/
structure Codec.Lawful (n : Nat) (c : Codec ι α) : Prop where
  roundTrips : ∀ a, c.RoundTrips a
  multiple : ∀ a, Multiple n (c.write a)

theorem Codec.Lawful.convert {n : Nat} {c : Codec ι α} (h : c.Lawful n) {f : β → Option α}
    {g : α → Option β} (hg : ∀ b a, f b = some a → g a = some b) : (c.convert f g).Lawful n where
  roundTrips b := by
    intro s hs rest
    obtain ⟨a, hf, hs⟩ := Option.bind_eq_some_iff.mp hs
    simp only [Codec.convert, h.roundTrips a s hs rest, Option.bind_some, hg b a hf]
  multiple b := by
    intro s hs
    obtain ⟨a, -, hs⟩ := Option.bind_eq_some_iff.mp hs
    exact h.multiple a s hs

/-! ### Words -/

/-- The word as four bytes, the lowest first. -/
def wordBytes (n : Nat) : List UInt8 :=
  [.ofNat n, .ofNat (n / 2 ^ 8), .ofNat (n / 2 ^ 16), .ofNat (n / 2 ^ 24)]

def wordOf : List UInt8 → Nat
  | [b₀, b₁, b₂, b₃] =>
    b₀.toNat + 2 ^ 8 * b₁.toNat + 2 ^ 16 * b₂.toNat + 2 ^ 24 * b₃.toNat
  | _ => 0

@[simp] theorem length_wordBytes (n : Nat) : (wordBytes n).length = 4 := rfl

theorem wordOf_wordBytes {n : Nat} (h : n < 2 ^ 32) : wordOf (wordBytes n) = n := by
  simp only [wordOf, wordBytes, UInt8.toNat_ofNat']
  omega

theorem wordOf_lt (s : List UInt8) : wordOf s < 2 ^ 32 := by
  unfold wordOf
  split
  · rename_i b₀ b₁ b₂ b₃
    have h₀ := b₀.toNat_lt
    have h₁ := b₁.toNat_lt
    have h₂ := b₂.toNat_lt
    have h₃ := b₃.toNat_lt
    omega
  · exact Nat.two_pow_pos 32

theorem wordBytes_wordOf {s : List UInt8} (h : s.length = 4) : wordBytes (wordOf s) = s := by
  match s, h with
  | [b₀, b₁, b₂, b₃], _ =>
    have h₀ := b₀.toNat_lt
    have h₁ := b₁.toNat_lt
    have h₂ := b₂.toNat_lt
    have h₃ := b₃.toNat_lt
    simp only [wordOf, wordBytes, List.cons.injEq, and_true, ← UInt8.toNat_inj,
      UInt8.toNat_ofNat']
    omega

/-- A word that is less than `2 ^ 32`. -/
def Codec.word : Codec UInt8 Nat where
  write n := if n < 2 ^ 32 then some (wordBytes n) else none
  read s := if 4 ≤ s.length then (some (wordOf (s.take 4)), s.drop 4) else (none, s)

theorem Codec.word_lawful : Codec.word.Lawful 4 where
  roundTrips n := by
    intro s hs rest
    obtain ⟨hn, hs⟩ := Option.ite_none_right_eq_some.mp hs
    cases hs
    have hlen : 4 ≤ (wordBytes n ++ rest).length := by simp
    simp only [Codec.word, if_pos hlen, List.take_left' (length_wordBytes n),
      List.drop_left' (length_wordBytes n), wordOf_wordBytes hn]
  multiple n := by
    intro s hs
    obtain ⟨-, hs⟩ := Option.ite_none_right_eq_some.mp hs
    cases hs
    exact Nat.dvd_refl 4

/-- The length, the elements and a terminator. -/
def Codec.listOf (c : Codec UInt8 α) (terminator : List UInt8) : Codec UInt8 (List α) :=
  .ofReader
    (fun as => concat [word.write as.length, concat (as.map c.write), some terminator])
    (do
      let length ← word.readOr ()
      let as ← readMany (c.readOr ()) length
      (fun s => .ok ((), s.drop terminator.length) : Reader UInt8 Unit Unit)
      return as)

theorem Codec.Lawful.listOf {c : Codec UInt8 α} (h : c.Lawful 4) {terminator : List UInt8}
    (ht : 4 ∣ terminator.length) : (c.listOf terminator).Lawful 4 where
  roundTrips as := by
    refine Mirrors.roundTrips (.cons ((Codec.word_lawful.roundTrips _).readOr ()) ?_)
    refine .cons (.readMany fun a _ => (h.roundTrips a).readOr ()) (.cons (a := ()) ?_ (.nil as))
    intro s hs rest
    cases hs
    show Except.ok ((), (terminator ++ rest).drop terminator.length) = _
    rw [List.drop_left]
  multiple as := by
    refine .cons (Codec.word_lawful.multiple _) (.cons (.map h.multiple as) (.cons ?_ .nil))
    intro s hs
    cases hs
    exact ht

end Coding

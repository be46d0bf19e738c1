import Mathlib.Logic.Function.Basic

/-!
# Library — things and their holders

`own : ω → Option α` says what each holder holds.  Holders take things in (`acquire`), pass them
on (`pass`) and give them up (`keep`).  `Exclusive own` says that no thing has two holders, and
`Held own a` that `a` has one.  Each of the three has a rule for each of the two.
-/

namespace Custody

variable {ω α : Type*}

/-- No thing has two holders. -/
def Exclusive (own : ω → Option α) : Prop :=
  ∀ (o o' : ω) (a : α), own o = some a → own o' = some a → o = o'

/-- Somebody holds the thing. -/
def Held (own : ω → Option α) (a : α) : Prop := ∃ o, own o = some a

variable {own : ω → Option α} {o o' : ω} {a b : α}

/-! ### Giving up -/

/-- The holders that fail `p` give up what they hold. -/
def keep (p : ω → Bool) (own : ω → Option α) (o : ω) : Option α := if p o then own o else none

theorem keep_eq_some {p : ω → Bool} : keep p own o = some a ↔ p o = true ∧ own o = some a := by
  unfold keep
  split <;> simp [*]

/-- Giving up shares nothing. -/
theorem Exclusive.keep (h : Exclusive own) (p : ω → Bool) : Exclusive (keep p own) :=
  fun o o' a ho ho' => h o o' a (keep_eq_some.mp ho).2 (keep_eq_some.mp ho').2

/-- What is still held is what no holder that gives up has held. -/
theorem Exclusive.held_keep (h : Exclusive own) {p : ω → Bool} :
    Held (Custody.keep p own) a ↔ Held own a ∧ ∀ o, p o = false → own o ≠ some a := by
  constructor
  · rintro ⟨o, ho⟩
    obtain ⟨hp, ho⟩ := keep_eq_some.mp ho
    refine ⟨⟨o, ho⟩, fun o' hp' ho' => ?_⟩
    rw [h o o' a ho ho', hp'] at hp
    cases hp
  · rintro ⟨⟨o, ho⟩, hn⟩
    cases hp : p o with
    | true => exact ⟨o, keep_eq_some.mpr ⟨hp, ho⟩⟩
    | false => exact absurd ho (hn o hp)

variable [DecidableEq ω]

/-- One holder gives up what it holds. -/
theorem keep_ne : keep (fun x => x ≠ o) own = Function.update own o none := by
  funext x
  rw [keep, Function.update_apply]
  by_cases hx : x = o <;> simp [hx]

/-! ### Taking in -/

/-- The holder takes the thing in. -/
def acquire (own : ω → Option α) (o : ω) (a : α) : ω → Option α := Function.update own o (some a)

/-- A thing that nobody holds may be taken in. -/
theorem Exclusive.acquire (h : Exclusive own) (ha : ¬ Held own a) :
    Exclusive (acquire own o a) := by
  intro x y b hx hy
  simp only [Custody.acquire, Function.update_apply] at hx hy
  split at hx <;> split at hy
  · rename_i hxo hyo; rw [hxo, hyo]
  · obtain rfl := Option.some.inj hx
    exact absurd ⟨y, hy⟩ ha
  · obtain rfl := Option.some.inj hy
    exact absurd ⟨x, hx⟩ ha
  · exact h x y b hx hy

/-- A holder with empty hands adds what it takes in. -/
theorem held_acquire (ho : own o = none) : Held (acquire own o a) b ↔ b = a ∨ Held own b := by
  constructor
  · rintro ⟨x, hx⟩
    simp only [acquire, Function.update_apply] at hx
    split at hx
    · exact .inl (Option.some.inj hx).symm
    · exact .inr ⟨x, hx⟩
  · rintro (rfl | ⟨x, hx⟩)
    · exact ⟨o, Function.update_self ..⟩
    · refine ⟨x, (Function.update_of_ne ?_ _ _).trans hx⟩
      rintro rfl
      rw [ho] at hx
      cases hx

/-! ### Passing on -/

/-- The second holder has what the first had. -/
def pass (own : ω → Option α) (o o' : ω) : ω → Option α :=
  Function.update (Function.update own o none) o' (own o)

theorem pass_eq_some (hne : o ≠ o') {x : ω} :
    pass own o o' x = some a ↔ x = o' ∧ own o = some a ∨ x ≠ o' ∧ x ≠ o ∧ own x = some a := by
  simp only [pass, Function.update_apply]
  by_cases hx : x = o'
  · simp [hx]
  · by_cases hxo : x = o <;> simp [hx, hxo, hne]

/-- Passing on, by what the two holders have afterwards. -/
theorem eq_pass {own' : ω → Option α} (ho : own' o = none) (ho' : own' o' = own o)
    (hother : ∀ x, x ≠ o → x ≠ o' → own' x = own x) : own' = pass own o o' := by
  funext x
  simp only [pass, Function.update_apply]
  by_cases hx' : x = o'
  · rw [if_pos hx', hx', ho']
  · by_cases hx : x = o
    · rw [if_neg hx', if_pos hx, hx, ho]
    · rw [if_neg hx', if_neg hx, hother x hx hx']

/-- What is passed on has one holder before and after. -/
theorem Exclusive.pass (h : Exclusive own) (hne : o ≠ o') : Exclusive (pass own o o') := by
  intro x y a hx hy
  rcases (pass_eq_some hne).mp hx with ⟨rfl, hox⟩ | ⟨-, hxo, hox⟩ <;>
    rcases (pass_eq_some hne).mp hy with ⟨rfl, hoy⟩ | ⟨-, hyo, hoy⟩
  · rfl
  · exact absurd (h y o a hoy hox) hyo
  · exact absurd (h x o a hox hoy) hxo
  · exact h x y a hox hoy

/-- Nothing is lost on the way to empty hands. -/
theorem held_pass (hne : o ≠ o') (ho' : own o' = none) : Held (pass own o o') a ↔ Held own a := by
  constructor
  · rintro ⟨x, hx⟩
    rcases (pass_eq_some hne).mp hx with ⟨-, hx⟩ | ⟨-, -, hx⟩
    · exact ⟨o, hx⟩
    · exact ⟨x, hx⟩
  · rintro ⟨x, hx⟩
    by_cases hxo : x = o
    · exact ⟨o', (pass_eq_some hne).mpr (.inl ⟨rfl, hxo ▸ hx⟩)⟩
    · refine ⟨x, (pass_eq_some hne).mpr (.inr ⟨?_, hxo, hx⟩)⟩
      rintro rfl
      rw [ho'] at hx
      cases hx

end Custody

import Mathlib.Logic.Basic

/-!
# Library — runs of a partial step function

A system is a function `step : σ → ℓ → Option σ`: the label carries every choice of the
environment, and `none` says that the label is not enabled.  `Reach step ok s₀` is the set of
states that runs from `s₀` reach by steps that meet `ok` in the state before them; with
`ok := fun _ _ => True` it is the set of all reachable states (`Reachable`).

* `Reach.invariant`: what holds first and is kept by every step that meets `ok` holds of every
  state reached.
* `exec`: a run along a list of labels, and `Reach.of_exec`, its state is reached;
  `Reach.of_exec_checked` when each step is checked for `ok`.
* `exec_map`: what forgets a part of the state, and commutes with the steps, commutes with runs.
* `traced`: a total operation that also emits events, as a step on states with the events
  emitted so far.
-/

namespace Runs

variable {σ ℓ ε : Type*}

/-- The states that steps meeting `ok` reach from `s₀`. -/
inductive Reach (step : σ → ℓ → Option σ) (ok : σ → ℓ → Prop) (s₀ : σ) : σ → Prop where
  | init : Reach step ok s₀ s₀
  | next {s s' : σ} {l : ℓ} (h : Reach step ok s₀ s) (hok : ok s l) (hs : step s l = some s') :
      Reach step ok s₀ s'

/-- The states that steps of any label reach from `s₀`. -/
abbrev Reachable (step : σ → ℓ → Option σ) (s₀ s : σ) : Prop :=
  Reach step (fun _ _ => True) s₀ s

namespace Reach

variable {step : σ → ℓ → Option σ} {ok : σ → ℓ → Prop} {s₀ s : σ}

/-- **The invariant rule.** -/
theorem invariant {P : σ → Prop} (h : Reach step ok s₀ s) (h₀ : P s₀)
    (hP : ∀ s l s', P s → ok s l → step s l = some s' → P s') : P s := by
  induction h with
  | init => exact h₀
  | next _ hok hs ih => exact hP _ _ _ ih hok hs

theorem trans {s' : σ} (h : Reach step ok s₀ s) (h' : Reach step ok s s') :
    Reach step ok s₀ s' := by
  induction h' with
  | init => exact h
  | next _ hok hs ih => exact .next ih hok hs

end Reach

/-- The run along `ls`, when every label of it is enabled. -/
def exec (step : σ → ℓ → Option σ) : σ → List ℓ → Option σ
  | s, [] => some s
  | s, l :: ls => (step s l).bind fun s' => exec step s' ls

theorem Reach.of_exec {step : σ → ℓ → Option σ} :
    ∀ {ls : List ℓ} {s s' : σ}, exec step s ls = some s' → Reachable step s s'
  | [], s, s', h => by
      obtain rfl : s = s' := Option.some.inj h
      exact .init
  | l :: ls, s, s', h => by
      obtain ⟨s₁, h₁, h₂⟩ := Option.bind_eq_some_iff.mp h
      exact (Reach.next .init trivial h₁).trans (Reach.of_exec h₂)

/-- So is the state of a run whose steps were checked one by one. -/
theorem Reach.of_exec_checked {step : σ → ℓ → Option σ} {ok : σ → ℓ → Prop}
    [∀ s l, Decidable (ok s l)] :
    ∀ {ls : List ℓ} {s s' : σ},
      exec (fun s l => if ok s l then step s l else none) s ls = some s' → Reach step ok s s'
  | [], s, s', h => by
      obtain rfl : s = s' := Option.some.inj h
      exact .init
  | l :: ls, s, s', h => by
      obtain ⟨s₁, h₁, h₂⟩ := Option.bind_eq_some_iff.mp h
      dsimp only at h₁
      split at h₁
      · rename_i hok
        exact (Reach.next .init hok h₁).trans (Reach.of_exec_checked h₂)
      · cases h₁

/-- Where every label is enabled, every list of labels has a run. -/
theorem exec_total {step : σ → ℓ → Option σ} (h : ∀ s l, ∃ s', step s l = some s') :
    ∀ (ls : List ℓ) (s : σ), ∃ s', exec step s ls = some s'
  | [], s => ⟨s, rfl⟩
  | l :: ls, s => by
      obtain ⟨s₁, h₁⟩ := h s l
      obtain ⟨s', h'⟩ := exec_total h ls s₁
      exact ⟨s', Option.bind_eq_some_iff.mpr ⟨s₁, h₁, h'⟩⟩

/-- What commutes with the steps commutes with runs. -/
theorem exec_map {τ : Type*} {step : σ → ℓ → Option σ} {step' : τ → ℓ → Option τ} {f : σ → τ}
    (h : ∀ s l, step' (f s) l = (step s l).map f) :
    ∀ (ls : List ℓ) (s : σ), exec step' (f s) ls = (exec step s ls).map f
  | [], _ => rfl
  | l :: ls, s => by
      rw [exec, exec, h]
      cases step s l with
      | none => rfl
      | some s₁ => exact exec_map h ls s₁

/-- An operation that returns the new state with the events it emits, as a step on states
paired with the events emitted so far. -/
def traced (op : σ → ℓ → σ × List ε) (s : σ × List ε) (l : ℓ) : Option (σ × List ε) :=
  some ((op s.1 l).1, s.2 ++ (op s.1 l).2)

end Runs

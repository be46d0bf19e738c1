import Mathlib.Data.List.Basic

/-!
# Library — what a log owes

A log is a list of events, the newest last.  `owes e` is what an event promises, and `pays e` is
what an event delivers.  `Owed owes pays log a` says that `a` was promised and has not been
delivered since.

* `owed_concat`: one more event.
* `delivered_of_not_owed`: with nothing owed, behind every promise stands a delivery.
-/

namespace Debts

variable {ε α : Type*}

/-- An event behind another one is the last of the log, or was behind it already. -/
theorem append_eq_append_cons {log pre post : List ε} {e e' : ε}
    (h : log ++ [e] = pre ++ e' :: post) :
    (∃ post', post = post' ++ [e] ∧ log = pre ++ e' :: post') ∨ post = [] ∧ e = e' := by
  rcases List.eq_nil_or_concat post with rfl | ⟨post', last, rfl⟩
  · obtain ⟨-, h⟩ := List.append_inj' h rfl
    exact .inr ⟨rfl, List.singleton_inj.mp h⟩
  · rw [List.concat_eq_append, ← List.cons_append, ← List.append_assoc] at h
    obtain ⟨hlog, hlast⟩ := List.append_inj' h rfl
    rw [List.singleton_inj.mp hlast]
    exact .inl ⟨post', List.concat_eq_append, hlog⟩

def Owed (owes pays : ε → Option α) (log : List ε) (a : α) : Prop :=
  ∃ pre e post, log = pre ++ e :: post ∧ owes e = some a ∧ ∀ e' ∈ post, pays e' ≠ some a

variable {owes pays : ε → Option α} {log : List ε} {e : ε} {a : α}

theorem not_owed_nil : ¬ Owed owes pays [] a := by
  rintro ⟨pre, e, post, h, -⟩
  simp at h

theorem owed_concat :
    Owed owes pays (log ++ [e]) a ↔ owes e = some a ∨ Owed owes pays log a ∧ pays e ≠ some a := by
  constructor
  · rintro ⟨pre, e', post, hlog, ho, hp⟩
    obtain ⟨post', rfl, hold⟩ | ⟨rfl, rfl⟩ := append_eq_append_cons hlog
    · refine .inr ⟨⟨pre, e', post', hold, ho, fun x hx => hp x ?_⟩, hp e ?_⟩
      · exact List.mem_append_left _ hx
      · exact List.mem_append_right _ (List.mem_singleton_self e)
    · exact .inl ho
  · rintro (ho | ⟨⟨pre, e', post, rfl, ho, hp⟩, he⟩)
    · exact ⟨log, e, [], rfl, ho, fun x hx => absurd hx List.not_mem_nil⟩
    · refine ⟨pre, e', post ++ [e], by rw [List.append_assoc, List.cons_append], ho, ?_⟩
      intro x hx
      obtain hx | hx := List.mem_append.mp hx
      · exact hp x hx
      · rwa [List.mem_singleton.mp hx]

/-- An event that promises nothing leaves at most what was owed. -/
theorem Owed.of_concat (h : Owed owes pays (log ++ [e]) a) (he : owes e ≠ some a) :
    Owed owes pays log a ∧ pays e ≠ some a :=
  (owed_concat.mp h).resolve_left he

theorem delivered_of_not_owed (h : ¬ Owed owes pays log a) {pre post : List ε}
    (hlog : log = pre ++ e :: post) (he : owes e = some a) : ∃ e' ∈ post, pays e' = some a := by
  by_contra hno
  exact h ⟨pre, e, post, hlog, he, fun e' he' hp => hno ⟨e', he', hp⟩⟩

end Debts

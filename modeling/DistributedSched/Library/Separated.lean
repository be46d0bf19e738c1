import Mathlib.Data.List.Basic

/-!
# Library — two texts with a separator between them

`left ++ separator :: right` is a key of two parts.  A text without the separator is found in it on
one side of the separator (`infix_iff`).  Where it is as long as the left part and longer than the
right one, it is found only where it is the left part (`infix_iff_eq`).
-/

namespace Separated

variable {α : Type*} {text left right left' right' : List α} {separator : α}

/-- Left parts of one length: the parts can be read off. -/
theorem parts_inj (hlength : left.length = left'.length)
    (h : left ++ separator :: right = left' ++ separator :: right') :
    left = left' ∧ right = right' := by
  obtain ⟨hleft, hrest⟩ := List.append_inj h hlength
  exact ⟨hleft, List.tail_eq_of_cons_eq hrest⟩

theorem infix_iff (hs : separator ∉ text) :
    text <:+: left ++ separator :: right ↔ text <:+: left ∨ text <:+: right := by
  constructor
  · intro h
    rcases List.infix_append_iff.mp h with hl | hr | ⟨text₁, text₂, rfl, hl, hr⟩
    · exact .inl hl
    · rcases List.infix_cons_iff.mp hr with hp | hr
      · -- a match that starts at the separator is empty
        cases text with
        | nil => exact .inr List.nil_infix
        | cons a text =>
            obtain rfl := (List.cons_prefix_cons.mp hp).1
            exact absurd List.mem_cons_self hs
      · exact .inr hr
    · -- so is what a match has of the separator and the right part
      cases text₂ with
      | nil =>
          rw [List.append_nil]
          exact .inl hl.isInfix
      | cons a text₂ =>
          obtain rfl := (List.cons_prefix_cons.mp hr).1
          exact absurd (List.mem_append_right _ List.mem_cons_self) hs
  · rintro (h | h)
    · exact List.infix_append_of_infix_left h
    · exact List.infix_append_of_infix_right (List.infix_cons h)

theorem infix_iff_eq (hs : separator ∉ text) (hleft : text.length = left.length)
    (hright : right.length < text.length) :
    text <:+: left ++ separator :: right ↔ text = left := by
  rw [infix_iff hs]
  constructor
  · rintro (h | h)
    · exact h.eq_of_length hleft
    · exact absurd h.length_le (Nat.not_le.mpr hright)
  · rintro rfl
    exact .inl (List.infix_refl _)

end Separated

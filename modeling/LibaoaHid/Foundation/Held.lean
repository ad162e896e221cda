import Mathlib.Algebra.Order.Ring.Int
import Mathlib.Data.List.Induction

/-!
# What a sequence leaves held

A sequence of steps, some of which set a thing and some of which clear it. The thing is held when
a step that sets it has no step behind it that clears it.

## Main definitions

* `Held`: a step sets and no later one clears.

## Main results

* `held_append_singleton`: one more step.
* `exists_clear_of_not_held`: when nothing is held, behind every step that sets there is one that
  clears, and none that sets comes after that.
-/

namespace LibaoaHid

variable {α : Type*} {sets clears : α → Prop} {l before after : List α} {x : α}

/-- A step of the sequence sets, and no later one clears. -/
def Held (sets clears : α → Prop) (l : List α) : Prop :=
  ∃ before x after, l = before ++ x :: after ∧ sets x ∧ ∀ y ∈ after, ¬clears y

theorem not_held_nil : ¬Held sets clears [] := by
  rintro ⟨before, x, after, heq, -⟩
  simp at heq

theorem held_append_singleton :
    Held sets clears (l ++ [x]) ↔ sets x ∨ Held sets clears l ∧ ¬clears x := by
  constructor
  · rintro ⟨before, y, after, heq, hy, hafter⟩
    rcases List.eq_nil_or_concat after with rfl | ⟨after', z, rfl⟩
    · obtain ⟨-, hx⟩ := List.append_inj' heq rfl
      cases hx
      exact Or.inl hy
    · rw [List.concat_eq_append, ← List.cons_append, ← List.append_assoc] at heq
      rw [List.concat_eq_append] at hafter
      obtain ⟨rfl, hx⟩ := List.append_inj' heq rfl
      cases hx
      refine Or.inr ⟨⟨before, y, after', rfl, hy, fun w hw => ?_⟩, ?_⟩
      · exact hafter w (List.mem_append_left _ hw)
      · exact hafter x (List.mem_append_right _ (List.mem_singleton_self x))
  · rintro (hx | ⟨⟨before, y, after, rfl, hy, hafter⟩, hx⟩)
    · exact ⟨l, x, [], rfl, hx, by simp⟩
    · refine ⟨before, y, after ++ [x], by simp, hy, fun w hw => ?_⟩
      rcases List.mem_append.mp hw with hw | hw
      · exact hafter w hw
      · rw [List.mem_singleton.mp hw]
        exact hx

/-- **Nothing is held.** Behind every step that sets there is one that clears, and no step that
sets comes after that. -/
theorem exists_clear_of_not_held (h : ¬Held sets clears l) (heq : l = before ++ x :: after)
    (hx : sets x) :
    ∃ mid y rest, after = mid ++ y :: rest ∧ clears y ∧ ∀ z ∈ rest, ¬sets z := by
  induction l using List.reverseRecOn generalizing after with
  | nil => simp at heq
  | append_singleton l z ih =>
    rw [held_append_singleton, not_or, not_and, not_not] at h
    obtain ⟨hz, hclear⟩ := h
    rcases List.eq_nil_or_concat after with rfl | ⟨after', w, rfl⟩
    · obtain ⟨-, hxz⟩ := List.append_inj' heq rfl
      cases hxz
      exact absurd hx hz
    · rw [List.concat_eq_append, ← List.cons_append, ← List.append_assoc] at heq
      rw [List.concat_eq_append]
      obtain ⟨hl, hzw⟩ := List.append_inj' heq rfl
      cases hzw
      by_cases hheld : Held sets clears l
      · exact ⟨after', z, [], rfl, hclear hheld, by simp⟩
      · obtain ⟨mid, y, rest, rfl, hy, hrest⟩ := ih hheld hl
        refine ⟨mid, y, rest ++ [z], by simp, hy, fun v hv => ?_⟩
        rcases List.mem_append.mp hv with hv | hv
        · exact hrest v hv
        · rw [List.mem_singleton.mp hv]
          exact hz

end LibaoaHid

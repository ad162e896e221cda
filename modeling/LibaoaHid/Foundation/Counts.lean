import Mathlib.Algebra.Order.Ring.Int
import Mathlib.Algebra.BigOperators.Group.List.Basic

/-!
# Counts over lists

How a count changes when one member of a list is replaced, and how members are counted by a key that
they carry.

## Main results

* `countP_set_add`: one member is replaced.
* `sum_countP_key`: the members with a key, counted key by key.
-/

variable {α β : Type*}

/-- A sum over a list is at least the part of each member. -/
theorem le_sum_of_mem (f : α → ℕ) {list : List α} {a : α} (h : a ∈ list) :
    f a ≤ (list.map f).sum := by
  induction list with
  | nil => cases h
  | cons first rest ih =>
    rw [List.map_cons, List.sum_cons]
    rcases List.mem_cons.mp h with rfl | h
    · exact Nat.le_add_right _ _
    · exact Nat.le_trans (ih h) (Nat.le_add_left _ _)

/-- A member of a list is replaced. -/
theorem countP_set_add (p : α → Bool) {list : List α} {i : ℕ} {a : α} (h : list[i]? = some a)
    (b : α) : (list.set i b).countP p + (if p a then 1 else 0) =
      list.countP p + if p b then 1 else 0 := by
  induction list generalizing i with
  | nil => simp at h
  | cons first rest ih =>
    cases i with
    | zero =>
      rw [List.getElem?_cons_zero, Option.some.injEq] at h
      rw [List.set_cons_zero, List.countP_cons, List.countP_cons, h]
      omega
    | succ i =>
      rw [List.getElem?_cons_succ] at h
      have := ih h
      rw [List.set_cons_succ, List.countP_cons, List.countP_cons]
      omega

/-- The places of a list behind one replacement. -/
theorem getElem?_set_cases {list : List α} {i j : ℕ} {a b c : α} (h : list[i]? = some a)
    (hc : (list.set i b)[j]? = some c) : j = i ∧ c = b ∨ j ≠ i ∧ list[j]? = some c := by
  by_cases hj : j = i
  · subst hj
    have hlt := (List.getElem?_eq_some_iff.mp h).1
    rw [List.getElem?_set_self hlt, Option.some.injEq] at hc
    exact .inl ⟨rfl, hc.symm⟩
  · rw [List.getElem?_set_ne (Ne.symm hj)] at hc
    exact .inr ⟨hj, hc⟩

/-- A key that occurs once among the keys. -/
theorem sum_eq_one_of_key [DecidableEq β] (key : α → β) {keys : List α}
    (hnodup : (keys.map key).Nodup) {k : β} (hmem : ∃ a ∈ keys, key a = k) :
    (keys.map fun a => if key a = k then 1 else 0).sum = 1 := by
  induction keys with
  | nil =>
    obtain ⟨a, ha, -⟩ := hmem
    cases ha
  | cons first rest ih =>
    rw [List.map_cons, List.nodup_cons] at hnodup
    rw [List.map_cons, List.sum_cons]
    by_cases hfirst : key first = k
    · have hrest : (rest.map fun a => if key a = k then 1 else 0).sum = 0 := by
        refine List.sum_eq_zero fun n hn => ?_
        obtain ⟨a, ha, rfl⟩ := List.mem_map.mp hn
        refine if_neg fun hsame => hnodup.1 ?_
        rw [hfirst, ← hsame]
        exact List.mem_map_of_mem ha
      rw [if_pos hfirst, hrest]
    · rw [if_neg hfirst, Nat.zero_add]
      obtain ⟨a, ha, hkey⟩ := hmem
      rcases List.mem_cons.mp ha with rfl | ha
      · exact absurd hkey hfirst
      · exact ih hnodup.2 ⟨a, ha, hkey⟩

/-- The members with a key, counted key by key. -/
theorem sum_countP_key [DecidableEq β] (key : α → β) {keys : List α}
    (hnodup : (keys.map key).Nodup) {γ : Type*} (p : γ → Bool) (of : γ → Option β)
    {list : List γ} (hkeys : ∀ c ∈ list, p c → ∃ a ∈ keys, of c = some (key a)) :
    (keys.map fun a => list.countP fun c => p c && of c = some (key a)).sum = list.countP p := by
  induction list with
  | nil => simp
  | cons first rest ih =>
    have hrest := ih fun c hc => hkeys c (List.mem_cons_of_mem _ hc)
    have hfirst : (keys.map fun a => if (p first && of first = some (key a)) = true then 1
        else 0).sum = if p first then 1 else 0 := by
      by_cases hp : p first
      · obtain ⟨a, ha, hof⟩ := hkeys first List.mem_cons_self hp
        have hone := sum_eq_one_of_key key hnodup ⟨a, ha, rfl⟩
        simpa [hp, hof, eq_comm] using hone
      · simp [hp]
    simp only [List.countP_cons, List.sum_map_add, hrest, hfirst]

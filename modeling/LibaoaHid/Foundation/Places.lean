import Mathlib.Algebra.Order.Ring.Int
import Mathlib.Data.List.Nodup

/-!
# Items and the places that hold them

Items that are opened one after the other, held in one place at a time, and released once. An item
is its place in the order of the opens, its cell counts its releases, and the list of the held items
joins all the places that may hold one.

## Main definitions

* `releases`: how often an item was released.
* `Placed`: every item that was opened is held once or was released once.

## Main results

* `Placed.push`, `Placed.perm`, `Placed.update`, `Placed.set`, `Placed.release`,
  `Placed.set_release`: the operations.
* `Placed.held_or_released`: what follows for one item.
-/

variable {α : Type*} {frees : α → ℕ} {cells : List α} {held : List ℕ}

/-- How often an item was released. -/
def releases (frees : α → ℕ) (cells : List α) (i : ℕ) : ℕ := (cells[i]?.map frees).getD 0

/-- **Every item that was opened is held in one place, or was released once.** -/
def Placed (frees : α → ℕ) (cells : List α) (held : List ℕ) : Prop :=
  ∀ i, held.count i + releases frees cells i = if i < cells.length then 1 else 0

theorem releases_of_get {i : ℕ} {a : α} (h : cells[i]? = some a) :
    releases frees cells i = frees a := by
  rw [releases, h]
  rfl

theorem releases_of_length_le {i : ℕ} (h : cells.length ≤ i) : releases frees cells i = 0 := by
  rw [releases, List.getElem?_eq_none h]
  rfl

/-- A cell behind a change of one. -/
theorem getElem?_modify_cases {f : α → α} {i j : ℕ} {a : α}
    (h : (cells.modify i f)[j]? = some a) :
    j = i ∧ (∃ b, cells[i]? = some b ∧ a = f b) ∨ j ≠ i ∧ cells[j]? = some a := by
  by_cases hj : i = j
  · subst hj
    rw [List.getElem?_modify_eq] at h
    obtain ⟨b, hb, rfl⟩ := Option.map_eq_some_iff.mp h
    exact .inl ⟨rfl, b, hb, rfl⟩
  · rw [List.getElem?_modify_ne _ _ hj] at h
    exact .inr ⟨Ne.symm hj, h⟩

/-- A change of one cell counts towards its item alone. -/
theorem releases_modify {f : α → α} {k : ℕ} (hf : ∀ a, frees (f a) = frees a + k) {i : ℕ}
    (hi : i < cells.length) (j : ℕ) :
    releases frees (cells.modify i f) j = releases frees cells j + if j = i then k else 0 := by
  by_cases hj : i = j
  · subst hj
    rw [if_pos rfl, releases, List.getElem?_modify_eq,
      releases_of_get (List.getElem?_eq_getElem hi), List.getElem?_eq_getElem hi]
    exact hf _
  · rw [if_neg (Ne.symm hj), releases, List.getElem?_modify_ne _ _ hj]
    rfl

/-- A new cell in the place of one. -/
theorem releases_set {k i : ℕ} {a b : α} (hget : cells[i]? = some a) (hb : frees b = frees a + k)
    (j : ℕ) :
    releases frees (cells.set i b) j = releases frees cells j + if j = i then k else 0 := by
  have hi := (List.getElem?_eq_some_iff.mp hget).1
  by_cases hj : i = j
  · subst hj
    rw [if_pos rfl, releases_of_get hget, releases_of_get (List.getElem?_set_self hi), hb]
  · rw [if_neg (Ne.symm hj), releases, List.getElem?_set_ne hj]
    rfl

namespace Placed

theorem nil : Placed frees [] [] := fun _ => rfl

variable (h : Placed frees cells held)

include h

theorem lt {i : ℕ} (hi : i ∈ held) : i < cells.length := by
  have := h i
  have := List.count_pos_iff.mpr hi
  split at * <;> omega

theorem nodup : held.Nodup := by
  refine List.nodup_iff_count_le_one.mpr fun i => ?_
  have := h i
  split at this <;> omega

/-- A held item was not released. -/
theorem unreleased {i : ℕ} {a : α} (hi : i ∈ held) (hget : cells[i]? = some a) : frees a = 0 := by
  have := h i
  have := List.count_pos_iff.mpr hi
  rw [releases_of_get hget] at *
  split at * <;> omega

/-- **An item is either held and not released, or released once and held no more.** -/
theorem held_or_released {i : ℕ} {a : α} (hget : cells[i]? = some a) :
    held.count i = 1 ∧ frees a = 0 ∨ held.count i = 0 ∧ frees a = 1 := by
  have := h i
  rw [releases_of_get hget, if_pos (List.getElem?_eq_some_iff.mp hget).1] at this
  omega

/-- An item moves from place to place. -/
theorem perm {held' : List ℕ} (hp : held.Perm held') : Placed frees cells held' := by
  intro i
  rw [← hp.count_eq]
  exact h i

/-- A new item is opened. -/
theorem push {a : α} (ha : frees a = 0) : Placed frees (cells ++ [a]) (cells.length :: held) := by
  intro i
  have := h i
  rw [List.length_append, List.length_singleton, List.count_cons]
  rcases Nat.lt_trichotomy i cells.length with hi | hi | hi
  · rw [releases, List.getElem?_append_left hi]
    rw [if_pos hi] at this
    rw [if_neg (by simp; omega), if_pos (by omega)]
    exact this
  · subst hi
    rw [if_neg (Nat.lt_irrefl _)] at this
    rw [releases_of_get (List.getElem?_concat_length ..), ha, if_pos (beq_self_eq_true _),
      if_pos (Nat.lt_succ_self _)]
    omega
  · rw [if_neg (by omega)] at this
    rw [releases_of_length_le (by simp; omega), if_neg (by simp; omega), if_neg (by omega)]
    omega

/-- A cell changes, and its item is not released. -/
theorem update {f : α → α} (hf : ∀ a, frees (f a) = frees a) (i : ℕ) :
    Placed frees (cells.modify i f) held := by
  intro j
  rw [List.length_modify]
  by_cases hi : i < cells.length
  · rw [releases_modify (k := 0) hf hi, ite_self, Nat.add_zero]
    exact h j
  · rw [List.modify_eq_self (Nat.le_of_not_lt hi)]
    exact h j

/-- A cell is replaced, and its item is not released. -/
theorem set {i : ℕ} {a b : α} (hget : cells[i]? = some a) (hb : frees b = frees a) :
    Placed frees (cells.set i b) held := by
  intro j
  rw [List.length_set, releases_set (k := 0) hget hb, ite_self, Nat.add_zero]
  exact h j

omit h

/-- New cells in which one held item is released. -/
theorem of_releases {cells' : List α} {i : ℕ} (h : Placed frees cells (i :: held))
    (hlength : cells'.length = cells.length)
    (hcells : ∀ j, releases frees cells' j = releases frees cells j + if j = i then 1 else 0) :
    Placed frees cells' held := by
  intro j
  have := h j
  rw [List.count_cons] at this
  rw [hlength, hcells, ← this]
  by_cases hj : j = i
  · subst hj
    rw [if_pos rfl, if_pos (beq_self_eq_true j)]
    omega
  · rw [if_neg hj, if_neg (by simpa using Ne.symm hj)]
    omega

/-- A held item is released. -/
theorem release {i : ℕ} (h : Placed frees cells (i :: held)) {f : α → α}
    (hf : ∀ a, frees (f a) = frees a + 1) : Placed frees (cells.modify i f) held :=
  h.of_releases (List.length_modify ..) (releases_modify hf (h.lt (List.mem_cons_self ..)))

/-- A held item is released with the new cell. -/
theorem set_release {i : ℕ} (h : Placed frees cells (i :: held)) {a b : α}
    (hget : cells[i]? = some a) (hb : frees b = frees a + 1) :
    Placed frees (cells.set i b) held :=
  h.of_releases (List.length_set ..) (releases_set hget hb)

end Placed

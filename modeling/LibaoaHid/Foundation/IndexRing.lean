import Mathlib.Algebra.Order.Ring.Int
import Mathlib.Data.Nat.ModEq

/-!
# A ring buffer with wrapping counters

A buffer of `2 ^ k` places between one producer and one consumer. The two counters run on modulo
`2 ^ 64` and are never reset; a place is a counter masked with the size less one. The size divides
`2 ^ 64`, so the places stay consecutive when a counter wraps.

## Main definitions

* `IndexRing`, `IndexRing.init`, `IndexRing.push`, `IndexRing.pop`.
* `IndexRing.Represents`: the list that a ring holds, the oldest value first.

## Main results

* `IndexRing.Represents.push`, `IndexRing.Represents.pop`: a ring is a bounded queue.
-/

/-- A ring over places for values. -/
structure IndexRing (α : Type*) where
  slots : List α
  head : ℕ := 0
  tail : ℕ := 0
deriving DecidableEq

namespace IndexRing

variable {α : Type*}

/-- The modulus of the counters. -/
def word : ℕ := 2 ^ 64

/-- A size, doubled until it is enough, as often as its bits allow. -/
def sizeFrom (capacity : ℕ) : ℕ → ℕ → ℕ
  | 0, size => size
  | bits + 1, size => if size < capacity then sizeFrom capacity bits (size * 2) else size

/-- A ring with at least `capacity` places. -/
def init (capacity : ℕ) (value : α) : IndexRing α where
  slots := List.replicate (sizeFrom capacity 64 1) value

/-- A doubled size is a power of two, enough, and no larger than it has to be. -/
theorem sizeFrom_two_pow {capacity n bits k : ℕ} (hk : k ≤ n) (hbits : n ≤ k + bits)
    (hcapacity : capacity ≤ 2 ^ n) :
    ∃ m ≤ n, sizeFrom capacity bits (2 ^ k) = 2 ^ m ∧ capacity ≤ 2 ^ m := by
  induction bits generalizing k with
  | zero =>
    obtain rfl : n = k := by omega
    exact ⟨n, Nat.le_refl _, rfl, hcapacity⟩
  | succ bits ih =>
    rw [sizeFrom]
    by_cases hlt : 2 ^ k < capacity
    · have hne : k ≠ n := by
        rintro rfl
        omega
      rw [if_pos hlt, ← Nat.pow_succ]
      exact ih (Nat.lt_of_le_of_ne hk hne) (by omega)
    · rw [if_neg hlt]
      exact ⟨k, hk, rfl, Nat.le_of_not_lt hlt⟩

/-- A value behind all others, if there is a place for it. -/
def push (ring : IndexRing α) (value : α) : Option (IndexRing α) :=
  if (ring.tail + word - ring.head) % word = ring.slots.length then none
  else
    some { ring with
      slots := ring.slots.set (ring.tail &&& (ring.slots.length - 1)) value
      tail := (ring.tail + 1) % word }

/-- The oldest value, and the ring without it. -/
def pop (ring : IndexRing α) : Option (α × IndexRing α) :=
  if ring.head = ring.tail then none
  else
    ring.slots[ring.head &&& (ring.slots.length - 1)]?.map fun value =>
      (value, { ring with head := (ring.head + 1) % word })

/-- A ring of a power of two of places, fewer than the counters can count, that holds the values of
a list, the oldest first. -/
structure Represents (ring : IndexRing α) (values : List α) : Prop where
  size_eq : ∃ k, k < 64 ∧ ring.slots.length = 2 ^ k
  head_lt : ring.head < word
  tail_eq : ring.tail = (ring.head + values.length) % word
  length_le : values.length ≤ ring.slots.length
  slots_eq : ∀ i < values.length,
    ring.slots[(ring.head + i) % ring.slots.length]? = values[i]?

namespace Represents

variable {ring : IndexRing α} {values : List α} {value : α}

/-- The mask of a counter is its remainder. -/
theorem and_mask (h : Represents ring values) (counter : ℕ) :
    counter &&& (ring.slots.length - 1) = counter % ring.slots.length := by
  obtain ⟨k, -, hk⟩ := h.size_eq
  rw [hk, Nat.and_two_pow_sub_one_eq_mod]

theorem size_pos (h : Represents ring values) : 0 < ring.slots.length := by
  obtain ⟨k, -, hk⟩ := h.size_eq
  rw [hk]
  exact Nat.two_pow_pos k

/-- The counters wrap at a multiple of the size. -/
theorem size_dvd (h : Represents ring values) : ring.slots.length ∣ word := by
  obtain ⟨k, hlt, hk⟩ := h.size_eq
  rw [hk]
  exact Nat.pow_dvd_pow 2 (Nat.le_of_lt hlt)

theorem size_lt (h : Represents ring values) : ring.slots.length < word := by
  obtain ⟨k, hlt, hk⟩ := h.size_eq
  rw [hk]
  exact Nat.pow_lt_pow_right (by decide) hlt

/-- The difference of the counters is the number of values. -/
theorem count_eq (h : Represents ring values) :
    (ring.tail + word - ring.head) % word = values.length := by
  have hlt : values.length < word := Nat.lt_of_le_of_lt h.length_le h.size_lt
  have hhead := h.head_lt
  rw [h.tail_eq]
  unfold word at *
  omega

/-- Distinct ages below the size have distinct places. -/
theorem place_ne {size counter i n : ℕ} (hi : i < n) (hn : n < size) :
    (counter + i) % size ≠ (counter + n) % size := by
  intro hsame
  have hmod : i ≡ n [MOD size] := Nat.ModEq.add_left_cancel' counter hsame
  rw [Nat.ModEq, Nat.mod_eq_of_lt (Nat.lt_trans hi hn), Nat.mod_eq_of_lt hn] at hmod
  omega

/-- **Push.** It succeeds while there is a place, and the value comes behind all others. -/
theorem push (h : Represents ring values) (hplace : values.length < ring.slots.length) :
    ∃ ring', ring.push value = some ring' ∧ ring'.slots.length = ring.slots.length ∧
      Represents ring' (values ++ [value]) := by
  have hcount : (ring.tail + word - ring.head) % word ≠ ring.slots.length := by
    rw [h.count_eq]
    omega
  have htail : ring.tail % ring.slots.length =
      (ring.head + values.length) % ring.slots.length := by
    rw [h.tail_eq, Nat.mod_mod_of_dvd _ h.size_dvd]
  refine ⟨_, if_neg hcount, List.length_set, ?_⟩
  constructor
  case size_eq => simpa only [List.length_set] using h.size_eq
  case head_lt => exact h.head_lt
  case tail_eq =>
    simp only [List.length_append, List.length_singleton]
    rw [h.tail_eq, Nat.mod_add_mod, Nat.add_assoc]
  case length_le =>
    simp only [List.length_append, List.length_singleton, List.length_set]
    omega
  case slots_eq =>
    intro i hi
    simp only [List.length_append, List.length_singleton] at hi
    simp only [List.length_set, h.and_mask, htail]
    rcases Nat.lt_or_eq_of_le (Nat.le_of_lt_succ hi) with hlt | rfl
    · rw [List.getElem?_set_ne (Ne.symm (place_ne hlt hplace)), h.slots_eq i hlt,
        List.getElem?_append_left hlt]
    · rw [List.getElem?_set_self (Nat.mod_lt _ h.size_pos), List.getElem?_concat_length]

/-- **Pop.** The oldest value leaves the ring. -/
theorem pop (h : Represents ring (value :: values)) :
    ∃ ring', ring.pop = some (value, ring') ∧ ring'.slots.length = ring.slots.length ∧
      Represents ring' values := by
  have hlt : (value :: values).length < word := Nat.lt_of_le_of_lt h.length_le h.size_lt
  have hne : ring.head ≠ ring.tail := by
    have hhead := h.head_lt
    rw [h.tail_eq]
    rw [List.length_cons] at hlt ⊢
    unfold word at *
    omega
  have hfirst := h.slots_eq 0 (Nat.succ_pos _)
  rw [Nat.add_zero, List.getElem?_cons_zero] at hfirst
  refine ⟨{ ring with head := (ring.head + 1) % word }, ?_, rfl, ?_⟩
  · rw [IndexRing.pop, if_neg hne, h.and_mask, hfirst]
    rfl
  · constructor
    case size_eq => exact h.size_eq
    case head_lt => exact Nat.mod_lt _ (by decide)
    case tail_eq =>
      rw [h.tail_eq, List.length_cons, Nat.mod_add_mod, Nat.add_right_comm, Nat.add_assoc]
    case length_le => exact Nat.le_of_succ_le h.length_le
    case slots_eq =>
      intro i hi
      have hnext := h.slots_eq (i + 1) (Nat.succ_lt_succ hi)
      rw [List.getElem?_cons_succ] at hnext
      have hplace : ((ring.head + 1) % word + i) % ring.slots.length =
          (ring.head + (i + 1)) % ring.slots.length := by
        rw [Nat.add_mod, Nat.mod_mod_of_dvd _ h.size_dvd, ← Nat.add_mod, Nat.add_assoc,
          Nat.add_comm 1 i]
      rw [← hnext]
      exact congrArg (ring.slots[·]?) hplace

/-- An empty ring has no value to give. -/
theorem pop_nil (h : Represents ring []) : ring.pop = none := by
  have htail := h.tail_eq
  rw [List.length_nil, Nat.add_zero, Nat.mod_eq_of_lt h.head_lt] at htail
  exact if_pos htail.symm

/-- A new ring is empty, and has the places that were asked for. -/
theorem init {capacity : ℕ} (hcapacity : capacity ≤ 2 ^ 63) (value : α) :
    Represents (IndexRing.init capacity value) [] ∧
      capacity ≤ (IndexRing.init capacity value).slots.length := by
  obtain ⟨m, hm, hsize, hle⟩ :=
    sizeFrom_two_pow (Nat.zero_le 63) (by decide : 63 ≤ 0 + 64) hcapacity
  rw [Nat.pow_zero] at hsize
  have hlength : (IndexRing.init capacity value).slots.length = 2 ^ m := by
    rw [IndexRing.init, List.length_replicate, hsize]
  refine ⟨?_, hlength ▸ hle⟩
  constructor
  case size_eq => exact ⟨m, by omega, hlength⟩
  case head_lt => exact Nat.two_pow_pos 64
  case tail_eq => rfl
  case length_le => exact Nat.zero_le _
  case slots_eq => exact fun i hi => absurd hi (Nat.not_lt_zero i)

end Represents

end IndexRing

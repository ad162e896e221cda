import LibaoaHid.Foundation.Counts
import LibaoaHid.Transport.Device
import Mathlib.Data.List.Nodup

/-!
# The transfer pool

The accounting of the transfer pool of a Device over every interleaving of the sections that touch
it. A ticket stands for one successful acquire: the callback of the slot carries its number, from
the acquire until the slot is given back, and with it the notice until its delivery.

A completion gives the slot back under the lock and is delivered behind it, so that between the two
the slot is free and its ticket neither delivered nor abandoned.

This module has the states and the steps, and what one slot does to the accounting.

## Main definitions

* `PoolState`, `PoolOp`, `PoolStep`, `PoolRun`.
* `PoolSound`: the accounting of the pool.

## Main results

* `PoolSound.opened`, `PoolSound.take`, `PoolSound.returnSlot`.
-/

namespace LibaoaHid.Transport

open Libusb

/-! ### Runs -/

/-- A Device with the history of its pool: the slot of each ticket, the notices that are to be
delivered, and the tickets whose completion was delivered or whose slot was abandoned. -/
structure PoolState where
  device : Device
  tickets : List ℕ := []
  notices : List Notice := []
  delivered : List ℕ := []
  abandoned : List ℕ := []

/-- The ticket of an acquired slot. -/
def preparedTicket (d : Device) (index : ℕ) : Option ℕ :=
  d.slots[index]?.bind fun slot => if slot.state = .prepared then slot.callback else none

/-- The sections that touch the pool. -/
inductive PoolOp
  | setReservation (hidId count : ℕ) (address : Option ℕ)
  | clearReservation (address : Option ℕ)
  | acquire
  | submit
  | abandon
  | transferFinished
  | deliver
  | cancelAll
  | observe (result : Result)
  | latchedError

/-- One section. -/
inductive PoolStep (s : PoolState) : PoolOp → PoolState → Prop
  | setReservation {hidId count : ℕ} {address : Option ℕ}
      (hfresh : ∀ a ∈ address, ∀ r ∈ s.device.reservations, r.address ≠ a) :
      PoolStep s (.setReservation hidId count address)
        { s with device := (s.device.setReservation hidId count address).2.2 }
  | clearReservation (address : Option ℕ) :
      PoolStep s (.clearReservation address)
        { s with device := (s.device.clearReservation address).2 }
  | acquire {hidId reportLength : ℕ} {token : Option ℕ} {outcome : Outcome} {taken : Option ℕ}
      {device : Device}
      (h : s.device.acquire hidId token reportLength (some s.tickets.length) =
        (outcome, taken, device)) :
      PoolStep s .acquire { s with
        device
        tickets := s.tickets ++ taken.toList }
  | submit {index reportLength reportId : ℕ} {submitStatus : ℤ} {outcome : Outcome}
      {notice : Option Notice} {device : Device}
      (h : s.device.submit index reportLength reportId submitStatus = (outcome, notice, device)) :
      PoolStep s .submit { s with
        device
        notices := s.notices ++ notice.toList }
  | abandon (index : ℕ) :
      PoolStep s .abandon { s with
        device := s.device.abandon index
        abandoned := s.abandoned ++ (preparedTicket s.device index).toList }
  | transferFinished {index actualLength : ℕ} {status : TransferStatus} {notice : Option Notice}
      {device : Device}
      (h : s.device.transferFinished index status actualLength = (notice, device)) :
      PoolStep s .transferFinished { s with
        device
        notices := s.notices ++ notice.toList }
  | deliver {notice : Notice} (hmem : notice ∈ s.notices) :
      PoolStep s .deliver { s with
        device := s.device.delivered
        notices := s.notices.erase notice
        delivered := s.delivered ++ [notice.callback] }
  | begin_cancel : PoolStep s .cancelAll { s with device := s.device.beginCancel }
  | cancel {index : ℕ} {notice : Option Notice} {device : Device}
      (h : s.device.cancelSlot index = (notice, device)) :
      PoolStep s .cancelAll { s with
        device
        notices := s.notices ++ notice.toList }
  | observe (result : Result) (lastError : ErrorInfo) :
      PoolStep s (.observe result)
        { s with device := s.device.observeControlResult result lastError }
  | latched : PoolStep s .latchedError { s with device := s.device.latchedError.2 }

/-- A run from the pool of an opened Device on. -/
inductive PoolRun (config : DeviceConfig) (handle poolSlots : ℕ) : PoolState → Prop
  | opened : PoolRun config handle poolSlots { device := .opened config handle poolSlots }
  | step {s s' : PoolState} {op : PoolOp} (h : PoolRun config handle poolSlots s)
      (hstep : PoolStep s op s') : PoolRun config handle poolSlots s'

/-! ### Counts -/

/-- A slot that is not free. -/
def Slot.busy (slot : Slot) : Bool := slot.state != .free

/-- The slots that are not free. -/
def heldSlots (slots : List Slot) : ℕ := slots.countP Slot.busy

/-- The slots that are counted against a reservation. -/
def countedSlots (slots : List Slot) : ℕ := slots.countP (·.reservationCounted)

/-- The slots that hold a reservation. -/
def slotsOf (slots : List Slot) (address : ℕ) : ℕ :=
  slots.countP (·.reservation = some address)

/-- The slots that are counted against one reservation. -/
def filledSlots (slots : List Slot) (address : ℕ) : ℕ :=
  slots.countP fun slot => slot.reservationCounted && slot.reservation = some address

/-- The slots with a ticket. -/
def slotsWith (slots : List Slot) (ticket : ℕ) : ℕ := slots.countP (·.callback = some ticket)

/-- **A slot is well formed.** A free slot is cleared; any other has a ticket, and is counted only
against a reservation that it holds. -/
structure Slot.Valid (slot : Slot) : Prop where
  free : slot.state = .free →
    slot.callback = none ∧ slot.reservation = none ∧ slot.reservationCounted = false
  busy : slot.state ≠ .free → slot.callback.isSome
  counted : slot.reservationCounted = true → slot.reservation.isSome

/-- **The accounting of the pool.** -/
structure PoolSound (d : Device) : Prop where
  nodup : d.freeStack.Nodup
  free : ∀ i, i ∈ d.freeStack ↔ ∃ slot, d.slots[i]? = some slot ∧ slot.state = .free
  slots : ∀ slot ∈ d.slots, slot.Valid
  live : ∀ slot ∈ d.slots, ∀ a, slot.reservation = some a → ∃ r ∈ d.reservations, r.address = a
  addresses : (d.reservations.map (·.address)).Nodup
  outstanding : d.outstanding = heldSlots d.slots
  inUse : ∀ r ∈ d.reservations, r.inUse = slotsOf d.slots r.address
  filled : ∀ r ∈ d.reservations, filledSlots d.slots r.address ≤ r.capacity
  total : d.reservedCapacityTotal = (d.reservations.map (·.capacity)).sum
  total_lt : d.reservedCapacityTotal < d.slots.length
  unfilled : d.unfilledReservedTotal + countedSlots d.slots = d.reservedCapacityTotal

variable {d d' : Device} {slot slot' : Slot} {index : ℕ}

/-- The counts of a pool in which one slot is replaced. -/
theorem counts_set (h : d.slots[index]? = some slot) (slot' : Slot) :
    heldSlots (d.slots.set index slot') + (if slot.busy then 1 else 0) =
        heldSlots d.slots + (if slot'.busy then 1 else 0) ∧
      countedSlots (d.slots.set index slot') + (if slot.reservationCounted then 1 else 0) =
        countedSlots d.slots + (if slot'.reservationCounted then 1 else 0) ∧
      (∀ a, slotsOf (d.slots.set index slot') a + (if slot.reservation = some a then 1 else 0) =
        slotsOf d.slots a + if slot'.reservation = some a then 1 else 0) ∧
      ∀ a, filledSlots (d.slots.set index slot') a +
          (if slot.reservationCounted && slot.reservation = some a then 1 else 0) =
        filledSlots d.slots a +
          if slot'.reservationCounted && slot'.reservation = some a then 1 else 0 := by
  refine ⟨countP_set_add _ h _, countP_set_add _ h _, fun a => ?_, fun a => countP_set_add _ h _⟩
  simpa [slotsOf] using
    countP_set_add (fun slot : Slot => decide (slot.reservation = some a)) h slot'

namespace PoolSound

/-- The counted slots, reservation by reservation. -/
theorem counted_eq (h : PoolSound d) :
    (d.reservations.map fun r => filledSlots d.slots r.address).sum = countedSlots d.slots := by
  refine sum_countP_key Reservation.address h.addresses Slot.reservationCounted Slot.reservation
    fun slot hmem hcounted => ?_
  obtain ⟨a, ha⟩ := Option.isSome_iff_exists.mp ((h.slots slot hmem).counted hcounted)
  obtain ⟨r, hr, rfl⟩ := h.live slot hmem a ha
  exact ⟨r, hr, ha⟩

/-- The pool of an opened Device. -/
theorem opened (config : DeviceConfig) (handle : ℕ) {poolSlots : ℕ} (hpos : 0 < poolSlots) :
    PoolSound (Device.opened config handle poolSlots) := by
  have hslot : ∀ slot ∈ (Device.opened config handle poolSlots).slots, slot = {} :=
    fun slot hmem => List.eq_of_mem_replicate hmem
  have hzero : ∀ p : Slot → Bool, p {} = false →
      (Device.opened config handle poolSlots).slots.countP p = 0 := by
    intro p hp
    refine List.countP_eq_zero.mpr fun slot hmem => ?_
    rw [hslot slot hmem, hp]
    exact Bool.false_ne_true
  constructor
  case nodup => exact List.nodup_reverse.mpr List.nodup_range
  case free =>
    intro i
    change i ∈ (List.range poolSlots).reverse ↔ ∃ slot, (List.replicate poolSlots ({} : Slot))[i]? =
      some slot ∧ slot.state = .free
    rw [List.mem_reverse, List.mem_range]
    constructor
    · exact fun hlt => ⟨{}, by rw [List.getElem?_replicate, if_pos hlt], rfl⟩
    · rintro ⟨slot, hget, -⟩
      by_contra hge
      rw [List.getElem?_replicate, if_neg hge] at hget
      cases hget
  case slots =>
    intro slot hmem
    rw [hslot slot hmem]
    exact ⟨fun _ => ⟨rfl, rfl, rfl⟩, fun hne => absurd rfl hne, nofun⟩
  case live =>
    intro slot hmem a ha
    rw [hslot slot hmem] at ha
    cases ha
  case addresses => exact .nil
  case outstanding => exact (hzero _ rfl).symm
  case inUse => nofun
  case filled => nofun
  case total => rfl
  case total_lt =>
    change 0 < (List.replicate poolSlots ({} : Slot)).length
    rwa [List.length_replicate]
  case unfilled =>
    rw [countedSlots, hzero _ rfl]
    rfl

/-- One slot is replaced, with what this does to the pool. -/
theorem replace (h : PoolSound d) (hslot : d.slots[index]? = some slot) (hvalid : slot'.Valid)
    (hslots : d'.slots = d.slots.set index slot') (inUse : Reservation → ℕ)
    (hreservations : d'.reservations = d.reservations.map fun r => { r with inUse := inUse r })
    (hnodup : d'.freeStack.Nodup)
    (hfree : ∀ i, i ∈ d'.freeStack ↔ if i = index then slot'.state = .free else i ∈ d.freeStack)
    (houtstanding : d'.outstanding + (if slot.busy then 1 else 0) =
      d.outstanding + if slot'.busy then 1 else 0)
    (hlive : ∀ a, slot'.reservation = some a → ∃ r ∈ d.reservations, r.address = a)
    (hinUse : ∀ r ∈ d.reservations, inUse r + (if slot.reservation = some r.address then 1 else 0) =
      r.inUse + if slot'.reservation = some r.address then 1 else 0)
    (hfilled : ∀ r ∈ d.reservations, filledSlots (d.slots.set index slot') r.address ≤ r.capacity)
    (htotal : d'.reservedCapacityTotal = d.reservedCapacityTotal)
    (hunfilled : d'.unfilledReservedTotal + (if slot'.reservationCounted then 1 else 0) =
      d.unfilledReservedTotal + if slot.reservationCounted then 1 else 0) : PoolSound d' := by
  obtain ⟨hheld, hcounted, hof, -⟩ := counts_set hslot slot'
  have hmap : ∀ r, r ∈ d'.reservations ↔
      ∃ r₀ ∈ d.reservations, { r₀ with inUse := inUse r₀ } = r := by
    intro r
    rw [hreservations, List.mem_map]
  constructor
  case nodup => exact hnodup
  case free =>
    intro i
    rw [hfree, hslots]
    by_cases hi : i = index
    · subst hi
      have hlt := (List.getElem?_eq_some_iff.mp hslot).1
      simp [List.getElem?_set_self hlt]
    · rw [if_neg hi, List.getElem?_set_ne (Ne.symm hi)]
      exact h.free i
  case slots =>
    intro s hs
    rw [hslots] at hs
    rcases List.mem_or_eq_of_mem_set hs with hs | rfl
    · exact h.slots s hs
    · exact hvalid
  case live =>
    intro s hs a ha
    have hlive' : ∃ r ∈ d.reservations, r.address = a := by
      rw [hslots] at hs
      rcases List.mem_or_eq_of_mem_set hs with hs | rfl
      · exact h.live s hs a ha
      · exact hlive a ha
    obtain ⟨r, hr, hra⟩ := hlive'
    exact ⟨_, (hmap _).mpr ⟨r, hr, rfl⟩, hra⟩
  case addresses =>
    rw [hreservations, List.map_map]
    exact h.addresses
  case outstanding =>
    rw [hslots]
    have := h.outstanding
    omega
  case inUse =>
    intro r hr
    obtain ⟨r₀, hr₀, rfl⟩ := (hmap r).mp hr
    have hcount := hof r₀.address
    have := hinUse r₀ hr₀
    have := h.inUse r₀ hr₀
    rw [hslots]
    dsimp only
    omega
  case filled =>
    intro r hr
    obtain ⟨r₀, hr₀, rfl⟩ := (hmap r).mp hr
    rw [hslots]
    exact hfilled r₀ hr₀
  case total =>
    rw [htotal, hreservations, List.map_map]
    exact h.total
  case total_lt =>
    rw [htotal, hslots, List.length_set]
    exact h.total_lt
  case unfilled =>
    have := h.unfilled
    rw [htotal, hslots]
    omega

/-! ### Slots that come back -/

/-- The reservation at an address. -/
theorem findReservation_eq (h : PoolSound d) {r : Reservation} (hr : r ∈ d.reservations) :
    d.findReservation r.address = some r := by
  have haddresses := h.addresses
  unfold Device.findReservation
  generalize d.reservations = reservations at hr haddresses ⊢
  induction reservations with
  | nil => cases hr
  | cons first rest ih =>
    rw [List.map_cons, List.nodup_cons] at haddresses
    rw [List.find?_cons]
    rcases List.mem_cons.mp hr with rfl | hr
    · simp
    · have hne : (first.address == r.address) = false := by
        rw [beq_eq_false_iff_ne]
        intro hsame
        exact haddresses.1 (hsame ▸ List.mem_map_of_mem hr)
      rw [hne]
      exact ih hr haddresses.2

/-- The slots that hold a reservation are counted by it. -/
theorem inUse_pos (h : PoolSound d) (hslot : slot ∈ d.slots) {r : Reservation}
    (hr : r ∈ d.reservations) (hholds : slot.reservation = some r.address) : 0 < r.inUse := by
  rw [h.inUse r hr, slotsOf, List.countP_pos_iff]
  exact ⟨slot, hslot, by simpa using hholds⟩

/-- `release_reservation_locked` counts the slot out of its reservation. -/
theorem releaseReservation_eq (h : PoolSound d) (hslot : slot ∈ d.slots) :
    d.releaseReservation slot = { d with
      reservations := d.reservations.map fun r =>
        { r with inUse := r.inUse - if slot.reservation = some r.address then 1 else 0 }
      unfilledReservedTotal := d.unfilledReservedTotal +
        if slot.reservationCounted then 1 else 0 } := by
  unfold Device.releaseReservation
  cases hreservation : slot.reservation with
  | none =>
    have hcounted : slot.reservationCounted = false := by
      by_contra hcounted
      have hsome := (h.slots slot hslot).counted (by simpa using hcounted)
      rw [hreservation] at hsome
      cases hsome
    simp [hcounted]
  | some a =>
    obtain ⟨r, hr, rfl⟩ := h.live slot hslot a hreservation
    have hpos := h.inUse_pos hslot hr hreservation
    rw [Option.bind_some, h.findReservation_eq hr]
    dsimp only
    rw [if_pos hpos]
    have hmap : (d.reservations.map fun r' => if r'.address = r.address then
        { r' with inUse := r'.inUse - 1 } else r') = d.reservations.map fun r' =>
          { r' with inUse := r'.inUse - if some r.address = some r'.address then 1 else 0 } := by
      refine List.map_congr_left fun r' _ => ?_
      by_cases hsame : r'.address = r.address
      · simp [hsame]
      · simp [hsame, Ne.symm hsame]
    simp only [Device.updateReservation, hmap]
    split <;> rfl

/-- **A slot comes back.** -/
theorem returnSlot (h : PoolSound d) (hslot : d.slots[index]? = some slot)
    (hbusy : slot.state ≠ .free) (hreservation : slot'.reservation = slot.reservation)
    (hcounted : slot'.reservationCounted = slot.reservationCounted) :
    PoolSound (d.returnSlot index slot') := by
  have hmem := List.mem_of_getElem? hslot
  have hrelease : d.releaseReservation slot' = d.releaseReservation slot := by
    unfold Device.releaseReservation
    rw [hreservation, hcounted]
  have hcleared : ∀ r : Reservation,
      (if (Device.Slot.cleared slot').reservation = some r.address then 1 else 0) = 0 :=
    fun r => if_neg nofun
  have hbusy' : slot.busy = true := by simpa [Slot.busy] using hbusy
  have hout : index ∉ d.freeStack := by
    intro hin
    obtain ⟨s, hs, hfree⟩ := (h.free index).mp hin
    rw [hslot, Option.some.injEq] at hs
    exact hbusy (hs ▸ hfree)
  rw [Device.returnSlot, hrelease, h.releaseReservation_eq hmem]
  refine @replace d _ slot (Device.Slot.cleared slot') index h hslot
    ⟨fun _ => ⟨rfl, rfl, rfl⟩, fun hne => absurd rfl hne, nofun⟩ rfl _ rfl ?_ (fun i => ?_) ?_ nofun
    (fun r hr => ?_) (fun r hr => ?_) rfl ?_
  · exact List.nodup_cons.mpr ⟨hout, h.nodup⟩
  · by_cases hi : i = index
    · simp [hi, Device.Slot.cleared]
    · simp [hi]
  · have hpos : 0 < d.outstanding := by
      rw [h.outstanding, heldSlots, List.countP_pos_iff]
      exact ⟨slot, hmem, hbusy'⟩
    rw [hbusy', if_pos rfl]
    change d.outstanding - 1 + 1 = d.outstanding + 0
    omega
  · rw [hcleared]
    by_cases hholds : slot.reservation = some r.address
    · have := h.inUse_pos hmem hr hholds
      simp only [if_pos hholds]
      omega
    · simp only [if_neg hholds]
      omega
  · obtain ⟨-, -, -, hfilled⟩ := counts_set hslot (Device.Slot.cleared slot')
    have hset := hfilled r.address
    have := h.filled r hr
    have hnone : (if (Device.Slot.cleared slot').reservationCounted &&
        (Device.Slot.cleared slot').reservation = some r.address then 1 else 0) = 0 := rfl
    omega
  · exact Nat.add_zero _

/-! ### Slots that are taken -/

/-- The reservations lack as many slots as the total says. -/
theorem unfilled_eq (h : PoolSound d) : d.unfilledReservedTotal =
    (d.reservations.map fun r => r.capacity - filledSlots d.slots r.address).sum := by
  have hsplit : (d.reservations.map fun r => filledSlots d.slots r.address).sum +
      (d.reservations.map fun r => r.capacity - filledSlots d.slots r.address).sum =
        (d.reservations.map (·.capacity)).sum := by
    rw [← List.sum_map_add]
    refine congrArg List.sum (List.map_congr_left fun r hr => ?_)
    exact Nat.add_sub_cancel' (h.filled r hr)
  have hcounted := h.counted_eq
  have := h.unfilled
  have := h.total
  omega

/-- What one reservation lacks is part of the total. -/
theorem lacks_le_unfilled (h : PoolSound d) {r : Reservation} (hr : r ∈ d.reservations) :
    r.capacity - filledSlots d.slots r.address ≤ d.unfilledReservedTotal := by
  rw [h.unfilled_eq]
  exact le_sum_of_mem (fun r => r.capacity - filledSlots d.slots r.address) hr

theorem filled_le_inUse (h : PoolSound d) {r : Reservation} (hr : r ∈ d.reservations) :
    filledSlots d.slots r.address ≤ r.inUse := by
  rw [h.inUse r hr]
  refine List.countP_mono_left fun slot _ hfilled => ?_
  exact (Bool.and_eq_true_iff.mp hfilled).2

/-- **A slot is taken.** -/
theorem take (h : PoolSound d) {rest : List ℕ} (hstack : d.freeStack = index :: rest)
    {own : Option Reservation} (hown : ∀ r ∈ own, r ∈ d.reservations) {filling : Bool}
    (hfilling : filling = true → ∃ r, own = some r ∧ r.inUse < r.capacity)
    (hidId reportLength callback : ℕ) :
    PoolSound (d.take index rest hidId own filling reportLength callback) := by
  obtain ⟨slot, hslot, hidle⟩ := (h.free index).mp (hstack ▸ List.mem_cons_self)
  obtain ⟨-, hnone, hcounted⟩ := (h.slots slot (List.mem_of_getElem? hslot)).free hidle
  have hbusy : slot.busy = false := by simp [Slot.busy, hidle]
  obtain ⟨hout, hnodup⟩ := List.nodup_cons.mp (hstack ▸ h.nodup)
  have hunfilled : filling = true → 0 < d.unfilledReservedTotal := by
    intro hfill
    obtain ⟨r, rfl, hlt⟩ := hfilling hfill
    have hr := hown r rfl
    have := h.lacks_le_unfilled hr
    have := h.filled_le_inUse hr
    omega
  let taken : Slot :=
    { state := .prepared
      callback := some callback
      hidId
      reportLength
      reservation := own.map (·.address)
      reservationCounted := filling }
  have htake : d.take index rest hidId own filling reportLength callback = { d with
      freeStack := rest
      slots := d.slots.set index taken
      outstanding := d.outstanding + 1
      reservations := d.reservations.map fun r =>
        { r with inUse := r.inUse + if own.map (·.address) = some r.address then 1 else 0 }
      unfilledReservedTotal := d.unfilledReservedTotal - if filling then 1 else 0 } := by
    unfold Device.take
    cases own with
    | none =>
      have hnot : filling = false := by
        by_contra hfill
        obtain ⟨r, hr, -⟩ := hfilling (by simpa using hfill)
        cases hr
      simp [hnot, taken]
    | some r =>
      have hmap : (d.reservations.map fun r' => if r'.address = r.address then
          { r' with inUse := r'.inUse + 1 } else r') = d.reservations.map fun r' =>
            { r' with inUse := r'.inUse + if some r.address = some r'.address then 1 else 0 } := by
        refine List.map_congr_left fun r' _ => ?_
        by_cases hsame : r'.address = r.address
        · simp [hsame]
        · simp [hsame, Ne.symm hsame]
      simp only [Device.updateReservation, hmap]
      split <;> rfl
  rw [htake]
  refine @replace d _ slot taken index h hslot
    ⟨nofun, fun _ => rfl, fun hfill => ?_⟩ rfl _ rfl hnodup (fun i => ?_) ?_ (fun a ha => ?_)
    (fun r hr => ?_) (fun r hr => ?_) rfl ?_
  · obtain ⟨r, rfl, -⟩ := hfilling hfill
    rfl
  · by_cases hi : i = index
    · rw [if_pos hi, hi]
      exact ⟨fun hin => absurd hin hout, nofun⟩
    · rw [if_neg hi, hstack, List.mem_cons]
      exact ⟨.inr, fun hin => hin.resolve_left hi⟩
  · rw [hbusy]
    rfl
  · obtain ⟨r, hr, rfl⟩ := Option.map_eq_some_iff.mp ha
    exact ⟨r, hown r hr, rfl⟩
  · rw [hnone]
    rfl
  · obtain ⟨-, -, -, hset⟩ := counts_set hslot taken
    have hset := hset r.address
    have hfilled := h.filled r hr
    rw [hcounted] at hset
    by_cases hmine : (taken.reservationCounted && taken.reservation = some r.address) = true
    · rw [if_pos hmine] at hset
      obtain ⟨hfill, hsame⟩ := Bool.and_eq_true_iff.mp hmine
      obtain ⟨r', rfl, hlt⟩ := hfilling hfill
      have hsame : r'.address = r.address := by simpa [taken] using hsame
      have hr' := hown r' rfl
      have hcount := h.filled_le_inUse hr'
      have heq : r' = r := by
        have hfound := h.findReservation_eq hr
        rw [← hsame, h.findReservation_eq hr'] at hfound
        exact Option.some.inj hfound
      rw [heq] at hlt hcount
      simp only [Bool.false_and, Bool.false_eq_true, if_false] at hset
      omega
    · rw [if_neg hmine] at hset
      simp only [Bool.false_and, Bool.false_eq_true, if_false] at hset
      omega
  · rw [hcounted]
    dsimp only [taken]
    by_cases hfill : filling = true
    · have := hunfilled hfill
      rw [if_pos hfill, if_neg Bool.false_ne_true]
      omega
    · rw [if_neg hfill, if_neg Bool.false_ne_true]
      rfl

/-- The fields that the accounting reads are the same. -/
structure Same (d d' : Device) : Prop where
  slots : d'.slots = d.slots
  freeStack : d'.freeStack = d.freeStack
  reservations : d'.reservations = d.reservations
  reservedCapacityTotal : d'.reservedCapacityTotal = d.reservedCapacityTotal
  unfilledReservedTotal : d'.unfilledReservedTotal = d.unfilledReservedTotal
  outstanding : d'.outstanding = d.outstanding

theorem congr (h : PoolSound d) (hsame : Same d d') : PoolSound d' := by
  obtain ⟨hslots, hstack, hreservations, htotal, hunfilled, houtstanding⟩ := hsame
  constructor
  case nodup => rw [hstack]; exact h.nodup
  case free => rw [hstack, hslots]; exact h.free
  case slots => rw [hslots]; exact h.slots
  case live => rw [hslots, hreservations]; exact h.live
  case addresses => rw [hreservations]; exact h.addresses
  case outstanding => rw [houtstanding, hslots]; exact h.outstanding
  case inUse => rw [hreservations, hslots]; exact h.inUse
  case filled => rw [hreservations, hslots]; exact h.filled
  case total => rw [htotal, hreservations]; exact h.total
  case total_lt => rw [htotal, hslots]; exact h.total_lt
  case unfilled => rw [hunfilled, hslots, htotal]; exact h.unfilled

end PoolSound

end LibaoaHid.Transport

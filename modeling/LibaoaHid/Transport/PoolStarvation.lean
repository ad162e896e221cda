import LibaoaHid.Transport.PoolRuns
import Mathlib.Data.List.Perm.Subperm

/-!
# Reserved slots

A Node that is opened with a reserved slot while no transfer is in flight finds a free slot as long
as the free slots cover what the reservations lack. Only a new reservation can break this, because
`set_reservation` tests the slots of the pool and not the free ones.

## Main definitions

* `Device.Covers`: a reservation finds the free slots that it counts on.
* `OthersRun`: the steps of other Nodes.

## Main results

* `OthersRun.acquire_ne_busy`.
-/

namespace LibaoaHid.Transport

variable {address : ℕ} {s₀ s : PoolState}

/-- A reservation that `set_reservation` accepts finds the free slots that it counts on, next to
those that the others lack. -/
def Device.Covers (d : Device) (hidId count : ℕ) (address : Option ℕ) : Prop :=
  hidId ≠ 0 → address ≠ none → d.present = true → d.closing = false →
    (∀ r ∈ d.reservations, r.hidId ≠ hidId) →
      d.reservedCapacityTotal + count < d.slots.length → 0 < count →
        d.unfilledReservedTotal + count ≤ d.freeStack.length

/-- The steps behind the reservation of a Node, which is not cleared; `allowed` says which. -/
inductive OthersRun (allowed : PoolState → PoolOp → Prop) (address : ℕ) (s₀ : PoolState) :
    PoolState → Prop
  | refl : OthersRun allowed address s₀ s₀
  | step {s s' : PoolState} {op : PoolOp} (h : OthersRun allowed address s₀ s)
      (hstep : PoolStep s op s') (hkept : op ≠ .clearReservation (some address))
      (hallowed : allowed s op) : OthersRun allowed address s₀ s'

/-- Each reservation is covered. -/
def Covered (s : PoolState) (op : PoolOp) : Prop :=
  ∀ hidId count address, op = .setReservation hidId count address →
    s.device.Covers hidId count address

/-- The reservation of a Node: its HID ID and its one slot. -/
def Reserved (d : Device) (address hidId : ℕ) : Prop :=
  ∃ r ∈ d.reservations, r.address = address ∧ r.hidId = hidId ∧ r.capacity = 1

/-- A reservation stays until it is cleared. -/
theorem Reserved.change {s' : PoolState} {op : PoolOp} {hidId : ℕ}
    (h : Reserved s.device address hidId) (hchange : PoolChange s op s')
    (hkept : op ≠ .clearReservation (some address)) :
    Reserved s'.device address hidId := by
  obtain ⟨r, hr, haddress, hid, hcapacity⟩ := h
  have hmapped : ∀ {d : Device} (inUse : Reservation → ℕ),
      d.reservations = s.device.reservations.map (fun r => { r with inUse := inUse r }) →
      Reserved d address hidId := by
    intro d inUse hd
    exact ⟨{ r with inUse := inUse r }, hd ▸ List.mem_map_of_mem hr, haddress, hid, hcapacity⟩
  cases hchange with
  | quiet hsame => exact ⟨r, hsame.reservations ▸ hr, haddress, hid, hcapacity⟩
  | handedOver => exact ⟨r, hr, haddress, hid, hcapacity⟩
  | @finished _ index _ slot' _ _ _ _ _ _ _ _ _ hfinish =>
    obtain ⟨-, d₀, hsame, -, rfl⟩ := Device.finish_cases hfinish
    obtain ⟨inUse, heq⟩ := d₀.returnSlot_reservations index slot'
    exact hmapped inUse (hsame.reservations ▸ heq)
  | @abandoned _ index slot _ _ =>
    obtain ⟨inUse, heq⟩ := s.device.returnSlot_reservations index slot
    exact hmapped inUse heq
  | @taken _ index rest own filling hidId reportLength _ _ _ _ =>
    obtain ⟨inUse, heq⟩ := s.device.take_reservations index rest hidId own filling reportLength
      s.tickets.length
    exact hmapped inUse heq
  | delivered => exact ⟨r, hr, haddress, hid, hcapacity⟩
  | reserved => exact ⟨r, List.mem_append_left _ hr, haddress, hid, hcapacity⟩
  | @cleared r' _ _ =>
    refine ⟨r, List.mem_filter.mpr ⟨hr, decide_eq_true fun hsame => hkept ?_⟩, haddress, hid,
      hcapacity⟩
    rw [← hsame, haddress]

/-- **A covered reservation leaves no slot missing.** -/
theorem PoolStep.covered {s' : PoolState} {op : PoolOp} (hstep : PoolStep s op s')
    (hsound : PoolSound s.device) (hcovered : Covered s op) (henough : s.device.shortfall = 0) :
    s'.device.shortfall = 0 := by
  by_cases hop : ∃ hidId count address, op = .setReservation hidId count address
  · obtain ⟨hidId, count, address, rfl⟩ := hop
    have hcovers := hcovered hidId count address rfl
    cases hstep with
    | setReservation _ =>
      rcases s.device.setReservation_cases hidId count address with ⟨-, hd⟩ |
        ⟨a, haddress, hpresent, hclosing, hroom, hnew, hid, hd⟩
      · rw [hd]
        exact henough
      · rw [hd]
        rw [Device.shortfall] at henough ⊢
        dsimp only
        by_cases hpos : 0 < count
        · have hmemory : address ≠ none := by
            rw [haddress]
            rintro ⟨⟩
          have := hcovers hid hmemory hpresent hclosing hnew (hroom hpos) hpos
          omega
        · omega
  · have := hstep.change.shortfall_le hsound fun hidId count address heq =>
      hop ⟨hidId, count, address, heq⟩
    omega

/-- What the steps of other Nodes keep. -/
theorem OthersRun.enough {config : DeviceConfig} {handle poolSlots hidId : ℕ}
    (h : OthersRun Covered address s₀ s) (h₀ : PoolRun config handle poolSlots s₀)
    (hpos : 0 < poolSlots) (henough : s₀.device.shortfall = 0)
    (hreserved : Reserved s₀.device address hidId) :
    PoolRun config handle poolSlots s ∧ s.device.shortfall = 0 ∧
      Reserved s.device address hidId := by
  induction h with
  | refl => exact ⟨h₀, henough, hreserved⟩
  | step _ hstep hkept hcovered ih =>
    obtain ⟨hrun, henough, hreserved⟩ := ih
    exact ⟨hrun.step hstep, hstep.covered (hrun.sound hpos).1 hcovered henough,
      hreserved.change hstep.change hkept⟩

/-- A reservation that is not filled finds a free slot where none is missing. -/
theorem PoolSound.acquire_of_enough {d : Device} {hidId : ℕ} (h : PoolSound d)
    (henough : d.shortfall = 0) (hreserved : Reserved d address hidId)
    (hidle : ∀ slot ∈ d.slots, slot.reservation ≠ some address) (reportLength callback : ℕ) :
    (d.acquire hidId (some address) reportLength (some callback)).1.result ≠ .errBusy := by
  obtain ⟨r, hr, rfl, rfl, hcapacity⟩ := hreserved
  have hunused : r.inUse = 0 := by
    rw [h.inUse r hr, slotsOf, List.countP_eq_zero]
    exact fun slot hslot hholds => hidle slot hslot (of_decide_eq_true hholds)
  have hfree : d.freeStack ≠ [] := by
    intro hempty
    have := h.lacks_le_unfilled hr
    have := h.filled_le_inUse hr
    rw [Device.shortfall, hempty] at henough
    simp only [List.length_nil] at henough
    omega
  obtain ⟨index, rest, hstack⟩ := List.exists_cons_of_ne_nil hfree
  rw [Device.acquire, Option.bind_some, h.findReservation_eq hr, hstack]
  dsimp only
  by_cases hparam : r.hidId = 0 ∨ reportLength = 0 ∨ reportLength > d.config.maximumReportBytes
  · rw [if_pos hparam]
    dsimp only [refuse]
    split <;> rintro ⟨⟩
  · rw [if_neg hparam, if_neg (by simp)]
    cases d.present with
    | false => rintro ⟨⟩
    | true =>
      cases d.closing with
      | true => rintro ⟨⟩
      | false => simp [hunused, hcapacity]

/-- Without a transfer in flight, each slot is free. -/
theorem PoolSound.length_le_freeStack {d : Device} (h : PoolSound d) (hquiet : d.outstanding = 0) :
    d.slots.length ≤ d.freeStack.length := by
  have hsubset : List.range d.slots.length ⊆ d.freeStack := by
    intro i hi
    have hlt := List.mem_range.mp hi
    refine (h.free i).mpr ⟨d.slots[i], List.getElem?_eq_getElem hlt, ?_⟩
    have hnone := h.outstanding.symm.trans hquiet
    rw [heldSlots, List.countP_eq_zero] at hnone
    simpa [Slot.busy] using hnone d.slots[i] (List.getElem_mem hlt)
  have hle := (List.subperm_of_subset List.nodup_range hsubset).length_le
  rwa [List.length_range] at hle

/-- **A reserved Node is not starved.** A Node reserves a slot while no transfer is in flight, and
each later reservation finds the free slots that it counts on; then an acquire of the Node, while it
has no report in flight, is not refused as busy. -/
theorem OthersRun.acquire_ne_busy {config : DeviceConfig} {handle poolSlots hidId : ℕ}
    (h₀ : PoolRun config handle poolSlots s₀) (hpos : 0 < poolSlots)
    (hquiet : s₀.device.outstanding = 0)
    (hfresh : ∀ r ∈ s₀.device.reservations, r.address ≠ address)
    (hopen : (s₀.device.setReservation hidId 1 (some address)).1.result = .ok)
    (h : OthersRun Covered address
      { s₀ with device := (s₀.device.setReservation hidId 1 (some address)).2.2 } s)
    (hidle : ∀ slot ∈ s.device.slots, slot.reservation ≠ some address)
    (reportLength callback : ℕ) :
    (s.device.acquire hidId (some address) reportLength (some callback)).1.result ≠ .errBusy := by
  have hsound := (h₀.sound hpos).1
  rcases s₀.device.setReservation_cases hidId 1 (some address) with ⟨hrefused, -⟩ |
    ⟨a, haddress, -, -, hroom, -, -, hd⟩
  · exact absurd hopen hrefused
  · cases haddress
    have hstep := h₀.step (@PoolStep.setReservation s₀ hidId 1 (some address)
      (by simpa using hfresh))
    have hreserved :
        Reserved (s₀.device.setReservation hidId 1 (some address)).2.2 address hidId := by
      rw [hd]
      exact ⟨_, List.mem_append_right _ List.mem_cons_self, rfl, rfl, rfl⟩
    have henough : (s₀.device.setReservation hidId 1 (some address)).2.2.shortfall = 0 := by
      have hall := hsound.length_le_freeStack hquiet
      have := hsound.unfilled
      have := hroom Nat.zero_lt_one
      rw [hd, Device.shortfall]
      dsimp only
      omega
    obtain ⟨hrun, henough, hreserved⟩ := h.enough hstep hpos henough hreserved
    exact (hrun.sound hpos).1.acquire_of_enough henough hreserved hidle reportLength callback

/-- **Starved behind a later reservation.** Of three slots the Node with HID ID 1 has reserved one.
The reports of two others are in flight when a fourth Node reserves a slot, which `set_reservation`
accepts, and submits a report of its own. -/
theorem exists_othersRun_busy :
    ∃ s₀ s, PoolRun Device.sampleConfig 0 3 s₀ ∧ s₀.device.outstanding = 0 ∧
      (s₀.device.setReservation 1 1 (some 0)).1.result = .ok ∧
      OthersRun (fun _ _ => True) 0
        { s₀ with device := (s₀.device.setReservation 1 1 (some 0)).2.2 } s ∧
      s.device.present = true ∧ s.device.closing = false ∧
      (∀ slot ∈ s.device.slots, slot.reservation ≠ some 0) ∧
      (s.device.acquire 1 (some 0) 4 (some 9)).1.result = .errBusy := by
  have hsecond := ((@OthersRun.refl (fun _ _ => True) 0
    { device := ((Device.opened Device.sampleConfig 0 3).setReservation 1 1 (some 0)).2.2 }).step
      (@PoolStep.acquire _ 2 4 none _ _ _ rfl) nofun trivial).step
      (@PoolStep.submit _ 0 4 0 0 _ _ _ rfl) nofun trivial
  have hthird := (hsecond.step (@PoolStep.acquire _ 3 4 none _ _ _ rfl) nofun trivial).step
    (@PoolStep.submit _ 1 4 0 0 _ _ _ rfl) nofun trivial
  have hreserved := hthird.step (@PoolStep.setReservation _ 4 1 (some 1) (by decide)) nofun trivial
  have hfourth := (hreserved.step (@PoolStep.acquire _ 4 4 (some 1) _ _ _ rfl) nofun trivial).step
    (@PoolStep.submit _ 2 4 0 0 _ _ _ rfl) nofun trivial
  exact ⟨_, _, .opened, rfl, rfl, hfourth, rfl, rfl, by decide, rfl⟩

/-- A Node reserves one of four slots. The report of another is in flight when a third Node reserves
a slot, which three free slots cover, and sends a report; a reservation without a HID ID is refused.
Then the first Node gets its slot. -/
theorem OthersRun.acquire_ne_busy_covered :
    ∃ s : PoolState, s.device.reservations.map (·.hidId) = [1, 3] ∧ s.device.outstanding = 2 ∧
      (s.device.acquire 1 (some 0) 4 (some 9)).1.result = .ok ∧
      (s.device.acquire 1 (some 0) 4 (some 9)).1.result ≠ .errBusy := by
  have hsecond := ((@OthersRun.refl Covered 0
    { device := ((Device.opened Device.sampleConfig 0 4).setReservation 1 1 (some 0)).2.2 }).step
      (@PoolStep.acquire _ 2 4 none _ _ _ rfl) nofun nofun).step
      (@PoolStep.submit _ 0 4 0 0 _ _ _ rfl) nofun nofun
  have hreserved := hsecond.step (@PoolStep.setReservation _ 3 1 (some 1) (by decide)) nofun
    (by rintro _ _ _ ⟨⟩ _ _ _ _ _ _ _; decide)
  have hrefused := hreserved.step (@PoolStep.setReservation _ 0 1 (some 2) (by decide)) nofun
    (by rintro _ _ _ ⟨⟩ hzero; exact absurd rfl hzero)
  have hthird := (hrefused.step (@PoolStep.acquire _ 3 4 (some 1) _ _ _ rfl) nofun nofun).step
    (@PoolStep.submit _ 1 4 0 0 _ _ _ rfl) nofun nofun
  exact ⟨_, rfl, rfl, rfl, @OthersRun.acquire_ne_busy 0 _ _ Device.sampleConfig 0 4 1 .opened
    (by decide) rfl nofun rfl hthird (by decide) 4 9⟩

end LibaoaHid.Transport

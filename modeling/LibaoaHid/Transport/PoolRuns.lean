import LibaoaHid.Transport.Pool
import LibaoaHid.Transport.Registration

/-!
# Runs of the transfer pool

Each section that touches the pool changes it in one of a few ways, and each of these keeps the
accounting of the pool and the history of the tickets.

## Main definitions

* `PoolChange`: what a section does to the pool.
* `TicketsSound`: where each ticket is.
* `PoolAccounted`: what holds in every state of every run.

## Main results

* `PoolStep.change`, `PoolSound.change`, `TicketsSound.change`.
* `PoolRun.pool_accounted`.
-/

namespace LibaoaHid.Transport

open Libusb

variable {d d' : Device} {slot : Slot} {index : ℕ}

/-! ### Frames of the sections -/

namespace Device

theorem releaseReservation_frame (d : Device) (slot : Slot) :
    (d.releaseReservation slot).slots = d.slots ∧
      (d.releaseReservation slot).freeStack = d.freeStack ∧
      (d.releaseReservation slot).callbacksActive = d.callbacksActive := by
  rw [releaseReservation]
  split
  · exact ⟨rfl, rfl, rfl⟩
  · split
    · dsimp only
      split <;> exact ⟨rfl, rfl, rfl⟩
    · exact ⟨rfl, rfl, rfl⟩

theorem returnSlot_frame (d : Device) (index : ℕ) (slot : Slot) :
    (d.returnSlot index slot).slots = d.slots.set index (Slot.cleared slot) ∧
      (d.returnSlot index slot).freeStack = index :: d.freeStack ∧
      (d.returnSlot index slot).callbacksActive = d.callbacksActive := by
  obtain ⟨hslots, hstack, hactive⟩ := d.releaseReservation_frame slot
  exact ⟨congrArg (List.set · index _) hslots, congrArg (index :: ·) hstack, hactive⟩

theorem take_frame (d : Device) (index : ℕ) (rest : List ℕ) (hidId : ℕ) (own : Option Reservation)
    (filling : Bool) (reportLength callback : ℕ) :
    let d' := d.take index rest hidId own filling reportLength callback
    d'.slots = d.slots.set index
        { state := .prepared
          callback := some callback
          hidId
          reportLength
          reservation := own.map (·.address)
          reservationCounted := filling } ∧
      d'.freeStack = rest ∧ d'.callbacksActive = d.callbacksActive := by
  rw [take.eq_def]
  cases own with
  | none => exact ⟨rfl, rfl, rfl⟩
  | some r =>
    dsimp only
    split <;> exact ⟨rfl, rfl, rfl⟩

/-- A value of one reservation that differs only in what is in use. -/
theorem updateReservation_inUse (d : Device) (address : ℕ) (f : ℕ → ℕ) :
    ∃ inUse : Reservation → ℕ,
      (d.updateReservation address fun r => { r with inUse := f r.inUse }).reservations =
        d.reservations.map fun r => { r with inUse := inUse r } := by
  refine ⟨fun r => if r.address = address then f r.inUse else r.inUse, ?_⟩
  refine List.map_congr_left fun r _ => ?_
  by_cases hsame : r.address = address
  · simp [hsame]
  · simp [hsame]

/-- The reservations differ only in what is in use, behind the return of a slot. -/
theorem returnSlot_reservations (d : Device) (index : ℕ) (slot : Slot) :
    ∃ inUse : Reservation → ℕ, (d.returnSlot index slot).reservations =
      d.reservations.map fun r => { r with inUse := inUse r } := by
  change ∃ inUse : Reservation → ℕ, (d.releaseReservation slot).reservations = _
  rw [releaseReservation]
  split
  · exact ⟨Reservation.inUse, (List.map_id _).symm⟩
  · split
    · obtain ⟨inUse, heq⟩ := d.updateReservation_inUse _ (· - 1)
      refine ⟨inUse, ?_⟩
      dsimp only
      split <;> exact heq
    · exact ⟨Reservation.inUse, (List.map_id _).symm⟩

/-- The reservations differ only in what is in use, behind an acquire. -/
theorem take_reservations (d : Device) (index : ℕ) (rest : List ℕ) (hidId : ℕ)
    (own : Option Reservation) (filling : Bool) (reportLength callback : ℕ) :
    ∃ inUse : Reservation → ℕ,
      (d.take index rest hidId own filling reportLength callback).reservations =
        d.reservations.map fun r => { r with inUse := inUse r } := by
  cases own with
  | none => exact ⟨Reservation.inUse, (List.map_id _).symm⟩
  | some r =>
    obtain ⟨inUse, heq⟩ := d.updateReservation_inUse r.address (· + 1)
    refine ⟨inUse, ?_⟩
    rw [take.eq_def]
    dsimp only
    split <;> exact heq

theorem latch_same (d : Device) (slot : Slot) (result : Result) (nativeStatus : ℤ) :
    PoolSound.Same d (d.latch slot result nativeStatus) ∧
      (d.latch slot result nativeStatus).callbacksActive = d.callbacksActive := by
  rw [latch]
  split
  · exact ⟨⟨rfl, rfl, rfl, rfl, rfl, rfl⟩, rfl⟩
  · dsimp only
    split
    · exact ⟨⟨rfl, rfl, rfl, rfl, rfl, rfl⟩, rfl⟩
    · split <;> exact ⟨⟨rfl, rfl, rfl, rfl, rfl, rfl⟩, rfl⟩

/-- The end of a transfer returns its slot, behind the latch and the count of its callback. -/
theorem finish_cases {result : Result} {nativeStatus : ℤ} {notice : Option Notice}
    (h : d.finish index slot result nativeStatus = (notice, d')) :
    notice = slot.callback.map (fun callback => { callback, result, nativeStatus }) ∧
      ∃ d₀, PoolSound.Same d d₀ ∧
        d₀.callbacksActive = d.callbacksActive + notice.toList.length ∧
        d' = d₀.returnSlot index slot := by
  obtain ⟨rfl, rfl⟩ := Prod.mk.inj h
  refine ⟨rfl, _, ?_, ?_, rfl⟩
  · obtain ⟨hslots, hstack, hreservations, htotal, hunfilled, houtstanding⟩ :=
      (latch_same { d with
        callbacksActive :=
          if (slot.callback.map fun callback => (⟨callback, result, nativeStatus⟩ : Notice)).isSome
          then d.callbacksActive + 1 else d.callbacksActive } slot result nativeStatus).1
    exact ⟨hslots, hstack, hreservations, htotal, hunfilled, houtstanding⟩
  · rw [(latch_same _ slot result nativeStatus).2]
    cases slot.callback <;> rfl

/-- An acquire is refused without a change, or takes the top of the free stack. -/
theorem acquire_cases {hidId reportLength callback : ℕ} {token : Option ℕ} {outcome : Outcome}
    {taken : Option ℕ}
    (h : d.acquire hidId token reportLength (some callback) = (outcome, taken, d')) :
    taken = none ∧ d' = d ∨
      ∃ index rest own filling, taken = some index ∧ d.present = true ∧ d.closing = false ∧
        d.freeStack = index :: rest ∧ own = token.bind d.findReservation ∧
        (filling = true → ∃ r, own = some r ∧ r.inUse < r.capacity) ∧
        (filling = false → d.unfilledReservedTotal < d.freeStack.length) ∧
        d' = d.take index rest hidId own filling reportLength callback := by
  rw [acquire] at h
  dsimp only at h
  by_cases hparam : hidId = 0 ∨ reportLength = 0 ∨ reportLength > d.config.maximumReportBytes
  · rw [if_pos hparam] at h
    cases h
    exact .inl ⟨rfl, rfl⟩
  rw [if_neg hparam] at h
  by_cases hforeign : token.isSome ∧
      (token.bind d.findReservation).all (fun reservation => reservation.hidId ≠ hidId) = true
  · rw [if_pos hforeign] at h
    cases h
    exact .inl ⟨rfl, rfl⟩
  rw [if_neg hforeign] at h
  cases hpresent : d.present with
  | false =>
    simp only [hpresent, Bool.not_false, if_true] at h
    cases h
    exact .inl ⟨rfl, rfl⟩
  | true =>
    cases hclosing : d.closing with
    | true =>
      simp only [hpresent, hclosing, Bool.not_true, Bool.false_eq_true, if_false, if_true] at h
      cases h
      exact .inl ⟨rfl, rfl⟩
    | false =>
      simp only [hpresent, hclosing, Bool.not_true, Bool.false_eq_true, if_false] at h
      split at h
      · cases h
        exact .inl ⟨rfl, rfl⟩
      · rename_i index rest hstack
        by_cases hbusy : (!(token.bind d.findReservation).any fun reservation =>
            decide (reservation.inUse < reservation.capacity)) = true ∧
              d.freeStack.length ≤ d.unfilledReservedTotal
        · rw [if_pos hbusy] at h
          cases h
          exact .inl ⟨rfl, rfl⟩
        · rw [if_neg hbusy, Prod.mk.injEq, Prod.mk.injEq] at h
          obtain ⟨-, rfl, rfl⟩ := h
          refine .inr ⟨index, rest, _, _, rfl, rfl, rfl, hstack, rfl, fun hfill => ?_,
            fun hfill => ?_, rfl⟩
          · obtain ⟨r, hr, hlt⟩ := (Option.any_eq_true _ _).mp hfill
            exact ⟨r, hr, of_decide_eq_true hlt⟩
          · rw [hfill] at hbusy
            simpa using hbusy

/-- A submit changes nothing, hands the slot to libusb, or finishes it. -/
theorem submit_cases {reportLength reportId : ℕ} {submitStatus : ℤ} {outcome : Outcome}
    {notice : Option Notice}
    (h : d.submit index reportLength reportId submitStatus = (outcome, notice, d')) :
    notice = none ∧ d' = d ∨
      ∃ slot, d.slots[index]? = some slot ∧ slot.state = .prepared ∧
        (d.present = true ∧ notice = none ∧ d' = { d with
            slots := d.slots.set index { slot with reportId, state := .submitted } } ∨
          ∃ result nativeStatus,
            d.finish index { slot with reportId } result nativeStatus = (notice, d')) := by
  have hprepared : ∃ result, d.submitPrepared index reportLength reportId submitStatus =
      (result, notice, d') := ⟨_, Prod.ext rfl (Prod.mk.inj h).2⟩
  obtain ⟨result, hprepared⟩ := hprepared
  rw [submitPrepared.eq_def] at hprepared
  cases hslot : d.slots[index]? with
  | none =>
    rw [hslot] at hprepared
    cases hprepared
    exact .inl ⟨rfl, rfl⟩
  | some slot =>
    rw [hslot] at hprepared
    dsimp only at hprepared
    by_cases hstate : slot.state ≠ .prepared
    · rw [if_pos hstate] at hprepared
      cases hprepared
      exact .inl ⟨rfl, rfl⟩
    · rw [if_neg hstate] at hprepared
      refine .inr ⟨slot, rfl, not_not.mp hstate, ?_⟩
      split at hprepared
      · exact .inr ⟨_, _, (Prod.mk.inj hprepared).2⟩
      split at hprepared
      · exact .inr ⟨_, _, (Prod.mk.inj hprepared).2⟩
      rename_i hopen
      split at hprepared
      · exact .inr ⟨_, _, (Prod.mk.inj hprepared).2⟩
      · cases hprepared
        exact .inl ⟨by simpa using (not_or.mp hopen).2, rfl, rfl⟩

/-- A callback finds a slot that is not submitted, or finishes it. -/
theorem transferFinished_cases {status : TransferStatus} {actualLength : ℕ} {notice : Option Notice}
    (h : d.transferFinished index status actualLength = (notice, d')) :
    notice = none ∧ d' = d ∨
      ∃ slot result nativeStatus, d.slots[index]? = some slot ∧ slot.state = .submitted ∧
        d.finish index slot result nativeStatus = (notice, d') := by
  rw [transferFinished] at h
  cases hslot : d.slots[index]? with
  | none =>
    rw [hslot] at h
    cases h
    exact .inl ⟨rfl, rfl⟩
  | some slot =>
    rw [hslot] at h
    dsimp only at h
    by_cases hstate : slot.state = .submitted
    · rw [if_neg (not_not.mpr hstate)] at h
      exact .inr ⟨slot, _, _, rfl, hstate, h⟩
    · rw [if_pos hstate] at h
      cases h
      exact .inl ⟨rfl, rfl⟩

/-- A cancellation passes a slot that is not prepared, or finishes it. -/
theorem cancelSlot_cases {notice : Option Notice} (h : d.cancelSlot index = (notice, d')) :
    notice = none ∧ d' = d ∨
      ∃ slot result nativeStatus, d.slots[index]? = some slot ∧ slot.state = .prepared ∧
        d.finish index slot result nativeStatus = (notice, d') := by
  rw [cancelSlot] at h
  cases hslot : d.slots[index]? with
  | none =>
    rw [hslot] at h
    cases h
    exact .inl ⟨rfl, rfl⟩
  | some slot =>
    rw [hslot] at h
    dsimp only at h
    by_cases hstate : slot.state = .prepared
    · rw [if_pos hstate] at h
      exact .inr ⟨slot, _, _, rfl, hstate, h⟩
    · rw [if_neg hstate] at h
      cases h
      exact .inl ⟨rfl, rfl⟩

/-- A reservation is refused, or joins the others. -/
theorem setReservation_cases (d : Device) (hidId count : ℕ) (address : Option ℕ) :
    ((d.setReservation hidId count address).1.result ≠ .ok ∧
        (d.setReservation hidId count address).2.2 = d) ∨
      ∃ a, address = some a ∧ d.present = true ∧ d.closing = false ∧
        (0 < count → d.reservedCapacityTotal + count < d.slots.length) ∧
        (∀ r ∈ d.reservations, r.hidId ≠ hidId) ∧ hidId ≠ 0 ∧
        (d.setReservation hidId count address).2.2 = { d with
          reservations := d.reservations ++ [{ address := a, hidId, capacity := count }]
          reservedCapacityTotal := d.reservedCapacityTotal + count
          unfilledReservedTotal := d.unfilledReservedTotal + count } := by
  rw [setReservation.eq_def]
  cases address with
  | none =>
    dsimp only
    split <;> exact .inl ⟨nofun, rfl⟩
  | some a =>
    dsimp only
    split_ifs with hid hlost hclosing hfull
    case neg =>
      obtain ⟨hnew, hroom⟩ := not_or.mp hfull
      refine .inr ⟨a, rfl, by simpa using hlost, by simpa using hclosing, fun hpos => ?_,
        fun r hr hsame => hnew ?_, hid, rfl⟩
      · omega
      · exact List.any_eq_true.mpr ⟨r, hr, beq_iff_eq.mpr hsame⟩
    all_goals exact .inl ⟨nofun, rfl⟩

/-- A reservation is not cleared, or was not in use and is gone. -/
theorem clearReservation_cases (d : Device) (address : Option ℕ) :
    (d.clearReservation address).2 = d ∨
      ∃ a r, address = some a ∧ d.findReservation a = some r ∧ r.inUse = 0 ∧
        (d.clearReservation address).2 = { d with
          reservedCapacityTotal := d.reservedCapacityTotal - r.capacity
          unfilledReservedTotal := d.unfilledReservedTotal - r.capacity
          reservations := d.reservations.filter (·.address ≠ r.address) } := by
  rw [clearReservation]
  cases hfound : address.bind d.findReservation with
  | none => exact .inl rfl
  | some r =>
    obtain ⟨a, rfl, hfind⟩ := Option.bind_eq_some_iff.mp hfound
    dsimp only
    split_ifs with hused
    · exact .inl rfl
    · exact .inr ⟨a, r, rfl, hfind, not_not.mp hused, rfl⟩

end Device

namespace PoolSound

/-! ### Reservations that come and go -/

/-- **A reservation joins the others.** -/
theorem addReservation (h : PoolSound d) {address hidId count : ℕ}
    (hfresh : ∀ r ∈ d.reservations, r.address ≠ address)
    (hroom : 0 < count → d.reservedCapacityTotal + count < d.slots.length) :
    PoolSound { d with
      reservations := d.reservations ++ [{ address, hidId, capacity := count }]
      reservedCapacityTotal := d.reservedCapacityTotal + count
      unfilledReservedTotal := d.unfilledReservedTotal + count } := by
  have hunheld : ∀ slot ∈ d.slots, slot.reservation ≠ some address := by
    intro slot hslot hholds
    obtain ⟨r, hr, haddress⟩ := h.live slot hslot address hholds
    exact hfresh r hr haddress
  constructor
  case nodup => exact h.nodup
  case free => exact h.free
  case slots => exact h.slots
  case live =>
    intro slot hslot a ha
    obtain ⟨r, hr, haddress⟩ := h.live slot hslot a ha
    exact ⟨r, List.mem_append_left _ hr, haddress⟩
  case addresses =>
    rw [List.map_append, List.nodup_append']
    refine ⟨h.addresses, List.nodup_singleton _, fun a ha hnew => ?_⟩
    obtain ⟨r, hr, rfl⟩ := List.mem_map.mp ha
    exact hfresh r hr (List.mem_singleton.mp hnew)
  case outstanding => exact h.outstanding
  case inUse =>
    intro r hr
    rcases List.mem_append.mp hr with hr | hr
    · exact h.inUse r hr
    · rw [List.mem_singleton.mp hr]
      exact (List.countP_eq_zero.mpr fun slot hslot => by simpa using hunheld slot hslot).symm
  case filled =>
    intro r hr
    rcases List.mem_append.mp hr with hr | hr
    · exact h.filled r hr
    · rw [List.mem_singleton.mp hr]
      have hnone : filledSlots d.slots address = 0 :=
        List.countP_eq_zero.mpr fun slot hslot => by simp [hunheld slot hslot]
      exact Nat.le_trans (Nat.le_of_eq hnone) (Nat.zero_le _)
  case total =>
    rw [List.map_append, List.sum_append]
    exact congrArg (· + _) h.total
  case total_lt =>
    have := h.total_lt
    dsimp only
    omega
  case unfilled =>
    have := h.unfilled
    dsimp only
    omega

/-- **A reservation that is not in use goes.** -/
theorem dropReservation (h : PoolSound d) {r : Reservation} (hr : r ∈ d.reservations)
    (hused : r.inUse = 0) :
    PoolSound { d with
      reservedCapacityTotal := d.reservedCapacityTotal - r.capacity
      unfilledReservedTotal := d.unfilledReservedTotal - r.capacity
      reservations := d.reservations.filter (·.address ≠ r.address) } := by
  have hunheld : ∀ slot ∈ d.slots, slot.reservation ≠ some r.address := by
    intro slot hslot hholds
    exact absurd hused (Nat.pos_iff_ne_zero.mp (h.inUse_pos hslot hr hholds))
  have hunfilled := h.lacks_le_unfilled hr
  have hfilled := h.filled_le_inUse hr
  have hsum : ((d.reservations.filter (·.address ≠ r.address)).map (·.capacity)).sum + r.capacity =
      (d.reservations.map (·.capacity)).sum := by
    have haddresses := h.addresses
    generalize d.reservations = reservations at hr haddresses ⊢
    induction reservations with
    | nil => cases hr
    | cons first rest ih =>
      rw [List.map_cons, List.nodup_cons] at haddresses
      rcases List.mem_cons.mp hr with rfl | hr
      · have hrest : rest.filter (·.address ≠ r.address) = rest := by
          refine List.filter_eq_self.mpr fun r' hr' => decide_eq_true fun hsame => ?_
          exact haddresses.1 (hsame ▸ List.mem_map_of_mem hr')
        rw [List.filter_cons_of_neg (by simp), hrest, List.map_cons, List.sum_cons, Nat.add_comm]
      · have hne : first.address ≠ r.address := by
          intro hsame
          exact haddresses.1 (hsame ▸ List.mem_map_of_mem hr)
        rw [List.filter_cons_of_pos (by simpa using hne), List.map_cons, List.map_cons,
          List.sum_cons, List.sum_cons, Nat.add_assoc, ih hr haddresses.2]
  have htotal := h.total
  constructor
  case nodup => exact h.nodup
  case free => exact h.free
  case slots => exact h.slots
  case live =>
    intro slot hslot a ha
    obtain ⟨r', hr', rfl⟩ := h.live slot hslot a ha
    refine ⟨r', List.mem_filter.mpr ⟨hr', decide_eq_true fun hsame => ?_⟩, rfl⟩
    exact hunheld slot hslot (hsame ▸ ha)
  case addresses => exact h.addresses.sublist (List.filter_sublist.map _)
  case outstanding => exact h.outstanding
  case inUse => exact fun r' hr' => h.inUse r' (List.mem_filter.mp hr').1
  case filled => exact fun r' hr' => h.filled r' (List.mem_filter.mp hr').1
  case total =>
    dsimp only
    omega
  case total_lt =>
    have := h.total_lt
    dsimp only
    omega
  case unfilled =>
    have := h.unfilled
    dsimp only
    omega

/-- A prepared slot is handed to libusb. -/
theorem handOver (h : PoolSound d) (hslot : d.slots[index]? = some slot)
    (hstate : slot.state = .prepared) (reportId : ℕ) :
    PoolSound { d with
      slots := d.slots.set index { slot with reportId, state := .submitted } } := by
  have hvalid := h.slots slot (List.mem_of_getElem? hslot)
  have hbusy : slot.busy = true := by simp [Slot.busy, hstate]
  refine @replace d _ slot { slot with reportId, state := .submitted } index h hslot
    ⟨(by rintro ⟨⟩), fun _ => hvalid.busy (by rw [hstate]; rintro ⟨⟩), hvalid.counted⟩ rfl
    Reservation.inUse (List.map_id _).symm h.nodup (fun i => ?_) ?_
    (fun a ha => h.live slot (List.mem_of_getElem? hslot) a ha) (fun _ _ => rfl) (fun r hr => ?_)
    rfl rfl
  · by_cases hi : i = index
    · rw [if_pos hi, hi, h.free]
      refine ⟨?_, (by rintro ⟨⟩)⟩
      rintro ⟨slot', hslot', hfree⟩
      rw [hslot, Option.some.injEq] at hslot'
      rw [← hslot', hstate] at hfree
      cases hfree
    · rw [if_neg hi]
  · rw [hbusy]
    rfl
  · obtain ⟨-, -, -, hset⟩ := counts_set hslot { slot with reportId, state := .submitted }
    have hset := hset r.address
    have := h.filled r hr
    dsimp only at hset
    omega

end PoolSound

/-! ### Changes of the pool -/

/-- **What a section does to the pool.** Each but the first two gives a ticket, takes one back, or
changes the reservations. -/
inductive PoolChange (s : PoolState) : PoolOp → PoolState → Prop
  | quiet {op : PoolOp} {d : Device} (hsame : PoolSound.Same s.device d)
      (hactive : d.callbacksActive = s.device.callbacksActive) :
      PoolChange s op { s with device := d }
  | handedOver {op : PoolOp} {index : ℕ} {slot : Slot} (reportId : ℕ)
      (hslot : s.device.slots[index]? = some slot) (hstate : slot.state = .prepared)
      (hpresent : s.device.present = true) :
      PoolChange s op { s with
        device := { s.device with
          slots := s.device.slots.set index { slot with reportId, state := .submitted } } }
  | finished {op : PoolOp} {index : ℕ} {slot slot' : Slot} {notice : Option Notice} {d : Device}
      (hslot : s.device.slots[index]? = some slot) (hstate : slot.state ≠ .free)
      (hcallback : slot'.callback = slot.callback)
      (hreservation : slot'.reservation = slot.reservation)
      (hcounted : slot'.reservationCounted = slot.reservationCounted)
      {result : Result} {nativeStatus : ℤ}
      (hfinish : s.device.finish index slot' result nativeStatus = (notice, d)) :
      PoolChange s op { s with
        device := d
        notices := s.notices ++ notice.toList }
  | abandoned {op : PoolOp} {index : ℕ} {slot : Slot}
      (hslot : s.device.slots[index]? = some slot) (hstate : slot.state = .prepared) :
      PoolChange s op { s with
        device := s.device.returnSlot index slot
        abandoned := s.abandoned ++ slot.callback.toList }
  | taken {op : PoolOp} {index : ℕ} {rest : List ℕ} {own : Option Reservation} {filling : Bool}
      (hidId reportLength : ℕ) (hstack : s.device.freeStack = index :: rest)
      (hown : ∀ r ∈ own, r ∈ s.device.reservations)
      (hfilling : filling = true → ∃ r, own = some r ∧ r.inUse < r.capacity)
      (hroom : filling = false → s.device.unfilledReservedTotal < s.device.freeStack.length) :
      PoolChange s op { s with
        device := s.device.take index rest hidId own filling reportLength s.tickets.length
        tickets := s.tickets ++ [index] }
  | delivered {op : PoolOp} {notice : Notice} (hmem : notice ∈ s.notices) :
      PoolChange s op { s with
        device := s.device.delivered
        notices := s.notices.erase notice
        delivered := s.delivered ++ [notice.callback] }
  | reserved {address hidId count : ℕ} (hfresh : ∀ r ∈ s.device.reservations, r.address ≠ address)
      (hroom : 0 < count → s.device.reservedCapacityTotal + count < s.device.slots.length) :
      PoolChange s (.setReservation hidId count (some address)) { s with
        device := { s.device with
          reservations := s.device.reservations ++ [{ address, hidId, capacity := count }]
          reservedCapacityTotal := s.device.reservedCapacityTotal + count
          unfilledReservedTotal := s.device.unfilledReservedTotal + count } }
  | cleared {r : Reservation} (hr : r ∈ s.device.reservations) (hused : r.inUse = 0) :
      PoolChange s (.clearReservation (some r.address)) { s with
        device := { s.device with
          reservedCapacityTotal := s.device.reservedCapacityTotal - r.capacity
          unfilledReservedTotal := s.device.unfilledReservedTotal - r.capacity
          reservations := s.device.reservations.filter (·.address ≠ r.address) } }

namespace PoolChange

variable {s s' : PoolState} {op : PoolOp}

theorem none (s : PoolState) (op : PoolOp) : PoolChange s op s :=
  .quiet ⟨rfl, rfl, rfl, rfl, rfl, rfl⟩ rfl

end PoolChange

/-- A reservation that is found is one of them. -/
theorem Device.mem_of_findReservation {a : ℕ} {r : Reservation}
    (h : d.findReservation a = some r) : r ∈ d.reservations :=
  List.mem_of_find?_eq_some h

theorem Device.address_of_findReservation {a : ℕ} {r : Reservation}
    (h : d.findReservation a = some r) : r.address = a := by
  simpa using List.find?_some h

/-- **The sections of the transport change the pool.** -/
theorem PoolStep.change {s s' : PoolState} {op : PoolOp} (h : PoolStep s op s') :
    PoolChange s op s' := by
  cases h with
  | @setReservation hidId count address hfresh =>
    rcases s.device.setReservation_cases hidId count address with ⟨-, hd⟩ |
      ⟨a, rfl, -, -, hroom, -, -, hd⟩
    · rw [hd]
      exact .none _ _
    · rw [hd]
      exact .reserved (hfresh a rfl) hroom
  | clearReservation address =>
    rcases s.device.clearReservation_cases address with hd | ⟨a, r, rfl, hfind, hused, hd⟩
    · rw [hd]
      exact .none _ _
    · rw [hd, ← Device.address_of_findReservation hfind]
      exact .cleared (Device.mem_of_findReservation hfind) hused
  | acquire h =>
    rcases Device.acquire_cases h with ⟨rfl, rfl⟩ |
      ⟨index, rest, own, filling, rfl, -, -, hstack, hown, hfilling, hroom, rfl⟩
    · rw [Option.toList_none, List.append_nil]
      exact .none _ _
    · refine .taken _ _ hstack (fun r hr => ?_) hfilling hroom
      obtain ⟨a, -, hfind⟩ := Option.bind_eq_some_iff.mp (hown.symm.trans hr)
      exact Device.mem_of_findReservation hfind
  | submit h =>
    rcases Device.submit_cases h with ⟨rfl, rfl⟩ | ⟨slot, hslot, hstate, ⟨hpresent, rfl, rfl⟩ |
      ⟨result, nativeStatus, hfinish⟩⟩
    · rw [Option.toList_none, List.append_nil]
      exact .none _ _
    · rw [Option.toList_none, List.append_nil]
      exact .handedOver _ hslot hstate hpresent
    · refine .finished hslot (hstate ▸ nofun) ?_ ?_ ?_ hfinish <;> rfl
  | abandon index =>
    rw [Device.abandon, preparedTicket]
    cases hslot : s.device.slots[index]? with
    | none =>
      change PoolChange s _ { s with abandoned := s.abandoned ++ [] }
      rw [List.append_nil]
      exact .none _ _
    | some slot =>
      dsimp only [Option.bind_some]
      by_cases hstate : slot.state = .prepared
      · rw [if_pos hstate, if_neg (not_not.mpr hstate)]
        exact .abandoned hslot hstate
      · rw [if_neg hstate, if_pos hstate, Option.toList_none, List.append_nil]
        exact .none _ _
  | transferFinished h =>
    rcases Device.transferFinished_cases h with ⟨rfl, rfl⟩ |
      ⟨slot, result, nativeStatus, hslot, hstate, hfinish⟩
    · rw [Option.toList_none, List.append_nil]
      exact .none _ _
    · exact .finished hslot (hstate ▸ nofun) rfl rfl rfl hfinish
  | deliver hmem => exact .delivered hmem
  | begin_cancel => exact .quiet ⟨rfl, rfl, rfl, rfl, rfl, rfl⟩ rfl
  | cancel h =>
    rcases Device.cancelSlot_cases h with ⟨rfl, rfl⟩ |
      ⟨slot, result, nativeStatus, hslot, hstate, hfinish⟩
    · rw [Option.toList_none, List.append_nil]
      exact .none _ _
    · exact .finished hslot (hstate ▸ nofun) rfl rfl rfl hfinish
  | observe result lastError =>
    rw [Device.observeControlResult]
    split
    · exact .none _ _
    · exact .quiet ⟨rfl, rfl, rfl, rfl, rfl, rfl⟩ rfl
  | latched =>
    rw [Device.latchedError]
    dsimp only
    split
    · exact .quiet ⟨rfl, rfl, rfl, rfl, rfl, rfl⟩ rfl
    · exact .none _ _

/-! ### The accounting -/

/-- **The accounting is kept.** -/
theorem PoolSound.change {s s' : PoolState} {op : PoolOp} (h : PoolSound s.device)
    (hchange : PoolChange s op s') : PoolSound s'.device := by
  cases hchange with
  | quiet hsame => exact h.congr hsame
  | handedOver reportId hslot hstate _ => exact h.handOver hslot hstate reportId
  | finished hslot hstate _ hreservation hcounted hfinish =>
    obtain ⟨-, d₀, hsame, -, rfl⟩ := Device.finish_cases hfinish
    refine (h.congr hsame).returnSlot ?_ hstate hreservation hcounted
    rw [hsame.slots]
    exact hslot
  | abandoned hslot hstate => exact h.returnSlot hslot (hstate ▸ nofun) rfl rfl
  | taken hidId reportLength hstack hown hfilling _ =>
    exact h.take hstack hown hfilling hidId reportLength _
  | delivered _ => exact h.congr ⟨rfl, rfl, rfl, rfl, rfl, rfl⟩
  | reserved hfresh hroom => exact h.addReservation hfresh hroom
  | cleared hr hused => exact h.dropReservation hr hused

/-- The reserved slots that are not there. -/
def Device.shortfall (d : Device) : ℕ := d.unfilledReservedTotal - d.freeStack.length

/-- **Only a new reservation makes slots missing.** -/
theorem PoolChange.shortfall_le {s s' : PoolState} {op : PoolOp} (hchange : PoolChange s op s')
    (hsound : PoolSound s.device)
    (hop : ∀ hidId count address, op ≠ .setReservation hidId count address) :
    s'.device.shortfall ≤ s.device.shortfall := by
  have hreturn : ∀ {d : Device} {index : ℕ} {slot slot' : Slot}, PoolSound d →
      d.slots[index]? = some slot → slot'.reservation = slot.reservation →
      slot'.reservationCounted = slot.reservationCounted →
      (d.returnSlot index slot').shortfall ≤ d.shortfall := by
    intro d index slot slot' hd hslot hreservation hcounted
    have hrelease : d.releaseReservation slot' = d.releaseReservation slot := by
      rw [Device.releaseReservation.eq_def, Device.releaseReservation.eq_def, hreservation,
        hcounted]
    have hstack := (d.returnSlot_frame index slot').2.1
    have hunfilled : (d.returnSlot index slot').unfilledReservedTotal ≤
        d.unfilledReservedTotal + 1 := by
      change (d.releaseReservation slot').unfilledReservedTotal ≤ _
      rw [hrelease, hd.releaseReservation_eq (List.mem_of_getElem? hslot)]
      dsimp only
      split <;> omega
    rw [Device.shortfall, Device.shortfall, hstack, List.length_cons]
    omega
  cases hchange with
  | quiet hsame =>
    rw [Device.shortfall, hsame.unfilledReservedTotal, hsame.freeStack]
    exact Nat.le_refl _
  | handedOver => exact Nat.le_refl _
  | finished hslot _ _ hreservation hcounted hfinish =>
    obtain ⟨-, d₀, hsame, -, rfl⟩ := Device.finish_cases hfinish
    have hle := hreturn (hsound.congr hsame) (hsame.slots ▸ hslot) hreservation hcounted
    rw [Device.shortfall, Device.shortfall, hsame.unfilledReservedTotal, hsame.freeStack] at hle
    exact hle
  | abandoned hslot _ => exact hreturn hsound hslot rfl rfl
  | @taken _ index rest own filling hidId reportLength hstack hown hfilling hroom =>
    have hrest := (s.device.take_frame index rest hidId own filling reportLength
      s.tickets.length).2.1
    have hlength := congrArg List.length hstack
    rw [List.length_cons] at hlength
    change (s.device.take index rest hidId own filling reportLength
      s.tickets.length).unfilledReservedTotal - List.length _ ≤ _
    rw [hrest, Device.shortfall]
    cases filling with
    | false =>
      have := hroom rfl
      have hunfilled : (s.device.take index rest hidId own false reportLength
          s.tickets.length).unfilledReservedTotal = s.device.unfilledReservedTotal := by
        cases own <;> rfl
      omega
    | true =>
      obtain ⟨r, rfl, hlt⟩ := hfilling rfl
      have := hsound.lacks_le_unfilled (hown r rfl)
      have := hsound.filled_le_inUse (hown r rfl)
      have hunfilled : (s.device.take index rest hidId (some r) true reportLength
          s.tickets.length).unfilledReservedTotal = s.device.unfilledReservedTotal - 1 := rfl
      omega
  | delivered => exact Nat.le_refl _
  | reserved => exact absurd rfl (hop _ _ _)
  | cleared => exact Nat.sub_le_sub_right (Nat.sub_le _ _) _

/-! ### The history of the tickets -/

/-- **Where each ticket is.** It is at the slot that was taken with it, among the notices, delivered
or abandoned, and only once. -/
structure TicketsSound (s : PoolState) : Prop where
  holds : ∀ (i : ℕ) (slot : Slot) (t : ℕ), s.device.slots[i]? = some slot → slot.callback = some t →
    s.tickets[t]? = some i
  count : ∀ t, slotsWith s.device.slots t + (s.notices.map (·.callback)).count t +
    s.delivered.count t + s.abandoned.count t = if t < s.tickets.length then 1 else 0
  active : s.device.callbacksActive = s.notices.length

/-- The slots with a ticket, behind one replacement. -/
theorem slotsWith_set (h : d.slots[index]? = some slot) (slot' : Slot) (t : ℕ) :
    slotsWith (d.slots.set index slot') t + (if slot.callback = some t then 1 else 0) =
      slotsWith d.slots t + if slot'.callback = some t then 1 else 0 := by
  simpa [slotsWith] using
    countP_set_add (fun slot : Slot => decide (slot.callback = some t)) h slot'

namespace TicketsSound

variable {s : PoolState}

/-- The tickets where one slot is replaced by another with no ticket, or the same. -/
theorem holds_set (h : TicketsSound s) {slot' : Slot} (hslot : s.device.slots[index]? = some slot)
    (hcallback : slot'.callback = none ∨ slot'.callback = slot.callback) {i t : ℕ} {slot₁ : Slot}
    (hget : (s.device.slots.set index slot')[i]? = some slot₁) (hticket : slot₁.callback = some t) :
    s.tickets[t]? = some i := by
  rcases getElem?_set_cases hslot hget with ⟨rfl, rfl⟩ | ⟨-, hget⟩
  · rcases hcallback with hnone | hsame
    · rw [hnone] at hticket
      cases hticket
    · exact h.holds i slot t hslot (hsame ▸ hticket)
  · exact h.holds i slot₁ t hget hticket

/-- A slot keeps its ticket. -/
theorem handOver (h : TicketsSound s) {device : Device} {slot' : Slot}
    (hslot : s.device.slots[index]? = some slot) (hcallback : slot'.callback = slot.callback)
    (hslots : device.slots = s.device.slots.set index slot')
    (hactive : device.callbacksActive = s.device.callbacksActive) :
    TicketsSound { s with device } := by
  refine ⟨fun i slot₁ t hget => ?_, fun t => ?_, hactive.trans h.active⟩
  · exact h.holds_set hslot (.inr hcallback) (hslots ▸ hget)
  · have hset := slotsWith_set hslot slot' t
    have hcount := h.count t
    rw [hcallback] at hset
    dsimp only
    rw [hslots]
    omega

/-- The ticket of a slot goes over to a notice. -/
theorem finish (h : TicketsSound s) {device : Device} {slot' : Slot} {notice : Notice}
    (hslot : s.device.slots[index]? = some slot) (hticket : slot.callback = some notice.callback)
    (hcleared : slot'.callback = none)
    (hslots : device.slots = s.device.slots.set index slot')
    (hactive : device.callbacksActive = s.device.callbacksActive + 1) :
    TicketsSound { s with
      device
      notices := s.notices ++ [notice] } := by
  constructor
  case holds =>
    intro i slot₁ t hget
    exact h.holds_set hslot (.inl hcleared) (hslots ▸ hget)
  case count =>
    intro t
    have hset := slotsWith_set hslot slot' t
    have hcount := h.count t
    simp only [hticket, hcleared, Option.some.injEq, reduceCtorEq, if_false] at hset
    dsimp only
    rw [hslots, List.map_append, List.count_append, List.map_singleton, List.count_singleton]
    simp only [beq_iff_eq]
    omega
  case active =>
    dsimp only
    rw [hactive, h.active, List.length_append, List.length_singleton]

/-- The ticket of a slot is given up. -/
theorem abandon (h : TicketsSound s) {device : Device} {slot' : Slot} {ticket : ℕ}
    (hslot : s.device.slots[index]? = some slot) (hticket : slot.callback = some ticket)
    (hcleared : slot'.callback = none)
    (hslots : device.slots = s.device.slots.set index slot')
    (hactive : device.callbacksActive = s.device.callbacksActive) :
    TicketsSound { s with
      device
      abandoned := s.abandoned ++ [ticket] } := by
  refine ⟨fun i slot₁ t hget => ?_, fun t => ?_, hactive.trans h.active⟩
  · exact h.holds_set hslot (.inl hcleared) (hslots ▸ hget)
  · have hset := slotsWith_set hslot slot' t
    have hcount := h.count t
    simp only [hticket, hcleared, Option.some.injEq, reduceCtorEq, if_false] at hset
    dsimp only
    rw [hslots, List.count_append, List.count_singleton]
    simp only [beq_iff_eq]
    omega

/-- A new ticket goes to a slot without one. -/
theorem take (h : TicketsSound s) {device : Device} {slot' : Slot}
    (hslot : s.device.slots[index]? = some slot) (hnone : slot.callback = none)
    (hticket : slot'.callback = some s.tickets.length)
    (hslots : device.slots = s.device.slots.set index slot')
    (hactive : device.callbacksActive = s.device.callbacksActive) :
    TicketsSound { s with
      device
      tickets := s.tickets ++ [index] } := by
  refine ⟨fun i slot₁ t hget hholds => ?_, fun t => ?_, hactive.trans h.active⟩
  · rw [hslots] at hget
    dsimp only
    rcases getElem?_set_cases hslot hget with ⟨rfl, rfl⟩ | ⟨-, hget⟩
    · rw [hticket, Option.some.injEq] at hholds
      rw [← hholds]
      exact List.getElem?_concat_length
    · have hearlier := h.holds i slot₁ t hget hholds
      rwa [List.getElem?_append_left (List.getElem?_eq_some_iff.mp hearlier).1]
  · have hset := slotsWith_set hslot slot' t
    have hcount := h.count t
    simp only [hnone, hticket, Option.some.injEq, reduceCtorEq, if_false] at hset
    dsimp only
    rw [hslots, List.length_append, List.length_singleton]
    -- The ticket is the new one, an older one, or none yet.
    rcases Nat.lt_trichotomy t s.tickets.length with hlt | rfl | hgt
    · rw [if_neg hlt.ne'] at hset
      rw [if_pos hlt] at hcount
      rw [if_pos (hlt.trans (Nat.lt_succ_self _))]
      omega
    · rw [if_pos rfl] at hset
      rw [if_neg (lt_irrefl _)] at hcount
      rw [if_pos (Nat.lt_succ_self _)]
      omega
    · rw [if_neg hgt.ne] at hset
      rw [if_neg hgt.not_gt] at hcount
      rw [if_neg (by omega)]
      omega

/-- A notice is delivered. -/
theorem deliver (h : TicketsSound s) {device : Device} {notice : Notice}
    (hmem : notice ∈ s.notices) (hslots : device.slots = s.device.slots)
    (hactive : device.callbacksActive = s.device.callbacksActive - 1) :
    TicketsSound { s with
      device
      notices := s.notices.erase notice
      delivered := s.delivered ++ [notice.callback] } := by
  refine ⟨fun i slot t hget => h.holds i slot t (hslots ▸ hget), fun t => ?_, ?_⟩
  · have hcount := h.count t
    have hperm := ((List.perm_cons_erase hmem).map (·.callback)).count_eq t
    rw [List.map_cons, List.count_cons] at hperm
    dsimp only
    rw [hslots, List.count_append, List.count_singleton]
    omega
  · have hlength := List.length_erase_of_mem hmem
    have hnotices := h.active
    dsimp only
    omega

/-- **Each change keeps the history.** -/
theorem change {s' : PoolState} {op : PoolOp} (h : TicketsSound s) (hsound : PoolSound s.device)
    (hchange : PoolChange s op s') : TicketsSound s' := by
  cases hchange with
  | quiet hsame hactive =>
    refine ⟨?_, ?_, hactive.trans h.active⟩
    · rw [hsame.slots]
      exact h.holds
    · rw [hsame.slots]
      exact h.count
  | @handedOver _ index slot reportId hslot hstate _ =>
    exact @handOver slot index s h _ { slot with reportId, state := .submitted } hslot rfl rfl rfl
  | @finished _ index slot slot' notice _ hslot hstate hcallback _ _ _ _ hfinish =>
    obtain ⟨hnotice, d₀, hsame, hactive, rfl⟩ := Device.finish_cases hfinish
    obtain ⟨hslots, -, hkept⟩ := d₀.returnSlot_frame index slot'
    obtain ⟨ticket, hticket⟩ := Option.isSome_iff_exists.mp
      ((hsound.slots slot (List.mem_of_getElem? hslot)).busy hstate)
    rw [hcallback, hticket] at hnotice
    subst hnotice
    exact h.finish hslot hticket rfl (hsame.slots ▸ hslots) (hkept.trans hactive)
  | @abandoned _ index slot hslot hstate =>
    obtain ⟨hslots, -, hkept⟩ := s.device.returnSlot_frame index slot
    obtain ⟨ticket, hticket⟩ := Option.isSome_iff_exists.mp
      ((hsound.slots slot (List.mem_of_getElem? hslot)).busy (hstate ▸ nofun))
    rw [hticket]
    exact h.abandon hslot hticket rfl hslots hkept
  | @taken _ index rest own filling hidId reportLength hstack _ _ _ =>
    obtain ⟨slot, hslot, hidle⟩ := (hsound.free index).mp (hstack ▸ List.mem_cons_self)
    have hnone := ((hsound.slots slot (List.mem_of_getElem? hslot)).free hidle).1
    obtain ⟨hslots, -, hkept⟩ := s.device.take_frame index rest hidId own filling reportLength
      s.tickets.length
    exact h.take hslot hnone rfl hslots hkept
  | @delivered _ notice hmem => exact h.deliver hmem rfl rfl
  | reserved => exact ⟨h.holds, h.count, h.active⟩
  | cleared => exact ⟨h.holds, h.count, h.active⟩

end TicketsSound

/-! ### Runs -/

/-- **What holds in every state of every run.** A slot has its ticket until the completion of the
ticket is taken for its delivery, or the ticket is abandoned, and only one of the two happens. -/
structure PoolAccounted (s : PoolState) : Prop where
  sound : PoolSound s.device
  once : ∀ t, s.delivered.count t + s.abandoned.count t ≤ 1
  held : ∀ t i, s.tickets[t]? = some i →
    ((∃ slot, s.device.slots[i]? = some slot ∧ slot.callback = some t) ↔
      t ∉ s.delivered ∧ t ∉ s.abandoned ∧ ∀ notice ∈ s.notices, notice.callback ≠ t)
  shortfall : ∀ op s', PoolStep s op s' →
    (∀ hidId count address, op ≠ .setReservation hidId count address) →
      s'.device.shortfall ≤ s.device.shortfall

variable {config : DeviceConfig} {handle poolSlots : ℕ} {s : PoolState}

/-- The tickets of an opened Device. -/
theorem TicketsSound.opened (config : DeviceConfig) (handle poolSlots : ℕ) :
    TicketsSound { device := .opened config handle poolSlots } := by
  have hslot : ∀ slot ∈ (Device.opened config handle poolSlots).slots, slot = {} :=
    fun slot hmem => List.eq_of_mem_replicate hmem
  refine ⟨fun i slot t hget hticket => ?_, fun t => ?_, rfl⟩
  · rw [hslot slot (List.mem_of_getElem? hget)] at hticket
    cases hticket
  · have hnone : slotsWith (Device.opened config handle poolSlots).slots t = 0 :=
      List.countP_eq_zero.mpr fun slot hmem => by simp [hslot slot hmem]
    dsimp only
    rw [hnone]
    rfl

/-- A run keeps both. -/
theorem PoolRun.sound (h : PoolRun config handle poolSlots s) (hpos : 0 < poolSlots) :
    PoolSound s.device ∧ TicketsSound s := by
  induction h with
  | opened => exact ⟨.opened config handle hpos, .opened config handle poolSlots⟩
  | step _ hstep ih =>
    obtain ⟨hsound, htickets⟩ := ih
    exact ⟨hsound.change hstep.change, htickets.change hsound hstep.change⟩

/-- **Every run of the pool is accounted for.** -/
theorem PoolRun.pool_accounted (h : PoolRun config handle poolSlots s) (hpos : 0 < poolSlots) :
    PoolAccounted s := by
  obtain ⟨hsound, htickets⟩ := h.sound hpos
  constructor
  case sound => exact hsound
  case once =>
    intro t
    have hcount := htickets.count t
    split at hcount <;> omega
  case held =>
    intro t i hget
    have hcount := htickets.count t
    rw [if_pos (List.getElem?_eq_some_iff.mp hget).1] at hcount
    have hholds : (∃ slot, s.device.slots[i]? = some slot ∧ slot.callback = some t) ↔
        0 < slotsWith s.device.slots t := by
      rw [slotsWith, List.countP_pos_iff]
      constructor
      · rintro ⟨slot, hslot, hticket⟩
        exact ⟨slot, List.mem_of_getElem? hslot, decide_eq_true hticket⟩
      · rintro ⟨slot, hmem, hticket⟩
        obtain ⟨j, hslot⟩ := List.mem_iff_getElem?.mp hmem
        have hj := htickets.holds j slot t hslot (of_decide_eq_true hticket)
        rw [hget, Option.some.injEq] at hj
        exact ⟨slot, hj ▸ hslot, of_decide_eq_true hticket⟩
    have hnotices : (∀ notice ∈ s.notices, notice.callback ≠ t) ↔
        (s.notices.map (·.callback)).count t = 0 := by
      rw [List.count_eq_zero, List.mem_map, not_exists]
      exact forall_congr' fun notice => not_and.symm
    rw [hholds, hnotices, ← List.count_eq_zero, ← List.count_eq_zero]
    omega
  case shortfall => exact fun op s' hstep hop => hstep.change.shortfall_le hsound hop

/-- A report that libusb has finished and whose callback has not run: its slot is free, and its
completion is neither delivered nor abandoned. -/
theorem exists_poolRun_finished :
    ∃ s, PoolRun Device.sampleConfig 0 1 s ∧ s.tickets[0]? = some 0 ∧
      ¬((∃ slot, s.device.slots[0]? = some slot ∧ slot.callback = some 0) ↔
        0 ∉ s.delivered ∧ 0 ∉ s.abandoned) := by
  have hacquired := (@PoolRun.opened Device.sampleConfig 0 1).step
    (@PoolStep.acquire _ 1 4 none _ _ _ rfl)
  have hsubmitted := hacquired.step (@PoolStep.submit _ 0 4 0 0 _ _ _ rfl)
  have hfinished := hsubmitted.step (@PoolStep.transferFinished _ 0 4 .completed _ _ rfl)
  refine ⟨_, hfinished, rfl, fun hiff => ?_⟩
  obtain ⟨slot, hslot, hticket⟩ := hiff.mpr ⟨List.not_mem_nil, List.not_mem_nil⟩
  cases hslot
  cases hticket

/-- A pool of two slots in use. A Node with a reserved slot sends a report, which libusb completes
and which is delivered; another takes a slot and gives it back without a submit. -/
theorem PoolRun.pool_accounted_delivered :
    ∃ s : PoolState, s.device.reservations = [{ address := 7, hidId := 1, capacity := 1 }] ∧
      s.tickets = [1, 1] ∧ s.delivered = [0] ∧ s.abandoned = [1] ∧ s.device.outstanding = 0 ∧
      PoolAccounted s := by
  have hreserved := (@PoolRun.opened Device.sampleConfig 0 2).step
    (@PoolStep.setReservation _ 1 1 (some 7) (by simp [Device.opened]))
  have hfinished := ((hreserved.step (@PoolStep.acquire _ 1 4 (some 7) _ _ _ rfl)).step
    (@PoolStep.submit _ 1 4 0 0 _ _ _ rfl)).step
    (@PoolStep.transferFinished _ 1 4 .completed _ _ rfl)
  have hdelivered := hfinished.step (.deliver List.mem_cons_self)
  have habandoned := (hdelivered.step (@PoolStep.acquire _ 2 4 none _ _ _ rfl)).step (.abandon 1)
  exact ⟨_, rfl, rfl, rfl, rfl, rfl, PoolRun.pool_accounted habandoned Nat.two_pos⟩

end LibaoaHid.Transport

import LibaoaHid.Transport.PoolRuns

/-!
# The traffic of a transport

Reports come and go while Nodes are opened and closed. Whatever they do to the transfer pool of a
Device, its handle and its reservations stay, up to what of them is in use.

## Main definitions

* `PoolTraffic`, `Device.pass`, `Device.passAll`.
* `Device.reservationKeys`, `Device.Kept`.

## Main results

* `Device.Kept.passAll`.
-/

namespace LibaoaHid.Transport

namespace Device

/-! ### What stays -/

/-- The reservations without what of them is in use. -/
def reservationKeys (d : Device) : List (ℕ × ℕ × ℕ) :=
  d.reservations.map fun r => (r.address, r.hidId, r.capacity)

/-- The handle, the configuration and the reservations are the same. -/
structure Kept (d d' : Device) : Prop where
  handle : d'.handle = d.handle
  config : d'.config = d.config
  keys : d'.reservationKeys = d.reservationKeys
  total : d'.reservedCapacityTotal = d.reservedCapacityTotal

namespace Kept

variable {d d' d'' : Device}

theorem refl (d : Device) : Kept d d := ⟨rfl, rfl, rfl, rfl⟩

theorem trans (h : Kept d d') (h' : Kept d' d'') : Kept d d'' :=
  ⟨h'.handle.trans h.handle, h'.config.trans h.config, h'.keys.trans h.keys,
    h'.total.trans h.total⟩

theorem of_observed (h : Observed d d') : Kept d d' := by
  obtain ⟨present, latched, rfl⟩ := h
  exact ⟨rfl, rfl, rfl, rfl⟩

theorem of_inUse {inUse : Reservation → ℕ} (hhandle : d'.handle = d.handle)
    (hconfig : d'.config = d.config) (htotal : d'.reservedCapacityTotal = d.reservedCapacityTotal)
    (h : d'.reservations = d.reservations.map fun r => { r with inUse := inUse r }) :
    Kept d d' := by
  refine ⟨hhandle, hconfig, ?_, htotal⟩
  rw [reservationKeys, h, List.map_map]
  rfl

theorem releaseReservation (d : Device) (slot : Slot) : Kept d (d.releaseReservation slot) := by
  rw [Device.releaseReservation]
  split
  · exact .refl d
  · split
    · obtain ⟨inUse, heq⟩ := d.updateReservation_inUse _ (· - 1)
      dsimp only
      split <;> exact of_inUse rfl rfl rfl heq
    · exact .refl d

theorem returnSlot (d : Device) (index : ℕ) (slot : Slot) : Kept d (d.returnSlot index slot) :=
  (releaseReservation d slot).trans ⟨rfl, rfl, rfl, rfl⟩

theorem take (d : Device) (index : ℕ) (rest : List ℕ) (hidId : ℕ) (own : Option Reservation)
    (filling : Bool) (reportLength callback : ℕ) :
    Kept d (d.take index rest hidId own filling reportLength callback) := by
  obtain ⟨inUse, heq⟩ := d.take_reservations index rest hidId own filling reportLength callback
  refine of_inUse ?_ ?_ ?_ heq
  all_goals
    rw [Device.take.eq_def]
    cases own with
    | none => rfl
    | some r =>
      dsimp only
      split <;> rfl

theorem latch (d : Device) (slot : Slot) (result : Result) (nativeStatus : ℤ) :
    Kept d (d.latch slot result nativeStatus) := by
  rw [Device.latch]
  split
  · exact .refl d
  · dsimp only
    split
    · exact ⟨rfl, rfl, rfl, rfl⟩
    · split <;> exact ⟨rfl, rfl, rfl, rfl⟩

theorem finish (d : Device) (index : ℕ) (slot : Slot) (result : Result) (nativeStatus : ℤ) :
    Kept d (d.finish index slot result nativeStatus).2 := by
  rw [Device.finish]
  dsimp only
  refine Kept.trans ?_ (returnSlot _ index slot)
  refine Kept.trans ?_ (latch _ slot result nativeStatus)
  exact ⟨rfl, rfl, rfl, rfl⟩

/-- The end of a transfer, or nothing. -/
theorem of_finish {index : ℕ} {slot : Slot} {result : Result} {nativeStatus : ℤ}
    {notice : Option Notice} (h : d.finish index slot result nativeStatus = (notice, d')) :
    Kept d d' := by
  have hfinish := finish d index slot result nativeStatus
  rwa [h] at hfinish

theorem acquire (d : Device) (hidId : ℕ) (token : Option ℕ) (reportLength : ℕ)
    (callback : Option ℕ) : Kept d (d.acquire hidId token reportLength callback).2.2 := by
  cases callback with
  | none => exact .refl d
  | some callback =>
    generalize h : d.acquire hidId token reportLength (some callback) = out
    obtain ⟨outcome, taken, d'⟩ := out
    rcases acquire_cases h with ⟨-, rfl⟩ | ⟨index, rest, own, filling, -, -, -, -, -, -, -, rfl⟩
    · exact .refl d'
    · exact take d index rest hidId own filling reportLength callback

theorem submit (d : Device) (index reportLength reportId : ℕ) (submitStatus : ℤ) :
    Kept d (d.submit index reportLength reportId submitStatus).2.2 := by
  generalize h : d.submit index reportLength reportId submitStatus = out
  obtain ⟨outcome, notice, d'⟩ := out
  rcases submit_cases h with
    ⟨-, rfl⟩ | ⟨slot, -, -, ⟨-, -, rfl⟩ | ⟨result, nativeStatus, hfinish⟩⟩
  · exact .refl d'
  · exact ⟨rfl, rfl, rfl, rfl⟩
  · exact of_finish hfinish

theorem transferFinished (d : Device) (index : ℕ) (status : TransferStatus) (actualLength : ℕ) :
    Kept d (d.transferFinished index status actualLength).2 := by
  generalize h : d.transferFinished index status actualLength = out
  obtain ⟨notice, d'⟩ := out
  rcases transferFinished_cases h with ⟨-, rfl⟩ | ⟨slot, result, nativeStatus, -, -, hfinish⟩
  · exact .refl d'
  · exact of_finish hfinish

theorem abandon (d : Device) (index : ℕ) : Kept d (d.abandon index) := by
  rw [Device.abandon]
  split
  · exact .refl d
  · split
    · exact .refl d
    · exact returnSlot d index _

theorem cancelSlot (d : Device) (index : ℕ) : Kept d (d.cancelSlot index).2 := by
  generalize h : d.cancelSlot index = out
  obtain ⟨notice, d'⟩ := out
  rcases cancelSlot_cases h with ⟨-, rfl⟩ | ⟨slot, result, nativeStatus, -, -, hfinish⟩
  · exact .refl d'
  · exact of_finish hfinish

end Kept

end Device

/-! ### Traffic -/

/-- The sections of the transport that a report goes through. -/
inductive PoolTraffic
  | acquire (hidId : ℕ) (token : Option ℕ) (reportLength : ℕ) (callback : Option ℕ)
  | submit (index reportLength reportId : ℕ) (submitStatus : ℤ)
  | abandon (index : ℕ)
  | transferFinished (index : ℕ) (status : TransferStatus) (actualLength : ℕ)
  | deliver
  | cancelSlot (index : ℕ)
  | latchedError

namespace Device

/-- One section. -/
def pass (d : Device) : PoolTraffic → Device
  | .acquire hidId token reportLength callback => (d.acquire hidId token reportLength callback).2.2
  | .submit index reportLength reportId submitStatus =>
    (d.submit index reportLength reportId submitStatus).2.2
  | .abandon index => d.abandon index
  | .transferFinished index status actualLength => (d.transferFinished index status actualLength).2
  | .deliver => d.delivered
  | .cancelSlot index => (d.cancelSlot index).2
  | .latchedError => d.latchedError.2

/-- Sections in their order. -/
def passAll (d : Device) (traffic : List PoolTraffic) : Device := traffic.foldl pass d

namespace Kept

theorem pass (d : Device) (t : PoolTraffic) : Kept d (d.pass t) := by
  cases t with
  | acquire hidId token reportLength callback => exact acquire d hidId token reportLength callback
  | submit index reportLength reportId submitStatus =>
    exact submit d index reportLength reportId submitStatus
  | abandon index => exact abandon d index
  | transferFinished index status actualLength => exact transferFinished d index status actualLength
  | deliver => exact ⟨rfl, rfl, rfl, rfl⟩
  | cancelSlot index => exact cancelSlot d index
  | latchedError =>
    rw [Device.pass, Device.latchedError]
    dsimp only
    split <;> exact ⟨rfl, rfl, rfl, rfl⟩

/-- **Traffic keeps the reservations.** -/
theorem passAll (d : Device) (traffic : List PoolTraffic) : Kept d (d.passAll traffic) := by
  induction traffic generalizing d with
  | nil => exact .refl d
  | cons t rest ih => exact (pass d t).trans (ih _)

end Kept

end Device

end LibaoaHid.Transport

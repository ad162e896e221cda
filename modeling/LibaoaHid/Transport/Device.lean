import LibaoaHid.Profiles.Completion
import LibaoaHid.Transport.Usb

/-!
# The transport of a Device

`Device::Impl` of `src/transport/transport.cpp`: the transfer pool with its reservations, the
latched error, and the presence of the device. The lock of the source makes each of its sections one
step; a method with several sections is several functions here, so that others can run in between.

A slot is its index in the pool, and the free stack is a list whose head is the back of the source's
vector. A reservation is known by the address of its object. The buffers of the slots are left out:
nothing here reads them.

## Main definitions

* `SlotState`, `Slot`, `Reservation`, `Notice`, `DeviceConfig`, `Device`.
* `Device.releaseReservation`, `Device.latch`, `Device.finish`.
* `Device.setReservation`, `Device.clearReservation`, `Device.acquire`, `Device.submit`,
  `Device.transferFinished`, `Device.abandon`, `Device.beginCancel`, `Device.cancelSlot`,
  `Device.latchedError`.
-/

namespace LibaoaHid.Transport

open Libusb

/-! ### State -/

/-- `Device::Impl::SlotState`. -/
inductive SlotState
  | free
  | prepared
  | submitted
  deriving DecidableEq, Repr

/-- `Device::Impl::Slot`. The completion and its user pointer are one callback. -/
structure Slot where
  state : SlotState := .free
  callback : Option ℕ := none
  hidId : ℕ := 0
  reportId : ℕ := 0
  reportLength : ℕ := 0
  reservationCounted : Bool := false
  reservation : Option ℕ := none
  deriving DecidableEq

/-- `Device::Impl::Reservation`. -/
structure Reservation where
  address : ℕ
  hidId : ℕ
  capacity : ℕ
  inUse : ℕ := 0
  deriving DecidableEq

/-- `Device::Impl::Notice`: a completion to deliver. -/
structure Notice where
  callback : ℕ
  result : Result
  nativeStatus : ℤ
  deriving DecidableEq

/-- `DeviceConfig`, as far as the transport of an open Device reads it, with the bounds that
`Device::open` has checked. -/
structure DeviceConfig where
  controlTimeoutMs : ℕ
  sendTimeoutMs : ℕ
  descriptorFragmentBytes : ℕ
  maximumReportBytes : ℕ
  fragment_pos : 0 < descriptorFragmentBytes
  fragment_lt : descriptorFragmentBytes < 2 ^ 16
  report_pos : 0 < maximumReportBytes
  report_lt : maximumReportBytes < 2 ^ 16

/-- `Device::Impl`. -/
structure Device where
  config : DeviceConfig
  handle : ℕ := 0
  slots : List Slot := []
  freeStack : List ℕ := []
  reservations : List Reservation := []
  reservedCapacityTotal : ℕ := 0
  unfilledReservedTotal : ℕ := 0
  outstanding : ℕ := 0
  callbacksActive : ℕ := 0
  latched : ErrorInfo := {}
  present : Bool := true
  closing : Bool := false

/-- The result of a call and the diagnostic that it records. -/
structure Outcome where
  result : Result
  lastError : ErrorInfo := {}

/-- A refusal records its result. -/
def refuse (result : Result) (nativeStatus : ℤ := 0) (aoaRequest hidId offset length : ℕ := 0) :
    Outcome :=
  ⟨result, recordError result nativeStatus aoaRequest hidId offset length⟩

/-- `std::min` with the largest `uint32_t`. -/
def clampLength (length : ℕ) : ℕ := min length (2 ^ 32 - 1)

namespace Device

/-- The pool that `Device::open` builds. -/
def opened (config : DeviceConfig) (handle poolSlots : ℕ) : Device where
  config
  handle
  slots := List.replicate poolSlots {}
  freeStack := (List.range poolSlots).reverse

/-- A reservation by its address. -/
def findReservation (d : Device) (address : ℕ) : Option Reservation :=
  d.reservations.find? (·.address == address)

/-- A new value of the reservation at an address. -/
def updateReservation (d : Device) (address : ℕ) (f : Reservation → Reservation) : Device :=
  { d with
    reservations := d.reservations.map fun reservation =>
      if reservation.address = address then f reservation else reservation }

/-! ### Sections under the lock -/

/-- `release_reservation_locked`: the reservations and the unfilled total behind it. The fields of
the slot are cleared by both callers. -/
def releaseReservation (d : Device) (slot : Slot) : Device :=
  match slot.reservation.bind d.findReservation with
  | none => d
  | some reservation =>
    if reservation.inUse > 0 then
      let d := d.updateReservation reservation.address fun r => { r with inUse := r.inUse - 1 }
      if slot.reservationCounted then
        { d with unfilledReservedTotal := d.unfilledReservedTotal + 1 }
      else d
    else d

/-- `latch_locked`. -/
def latch (d : Device) (slot : Slot) (result : Result) (nativeStatus : ℤ) : Device :=
  if result = .ok ∨ (d.closing ∧ nativeStatus = transferCancelled) then d
  else
    let error : ErrorInfo :=
      { result
        nativeStatus
        aoaRequest := 57
        hidId := slot.hidId
        length := slot.reportLength % 2 ^ 32
        reportId := slot.reportId }
    if result = .errNoDevice then { d with present := false, latched := error }
    else if d.latched.result = .ok then { d with latched := error }
    else d

/-- The slot that both ends of a transfer leave behind. -/
def Slot.cleared (slot : Slot) : Slot := { slot with
  state := .free
  callback := none
  reportId := 0
  reportLength := 0
  reservationCounted := false
  reservation := none }

/-- The return of a slot to the pool. -/
def returnSlot (d : Device) (index : ℕ) (slot : Slot) : Device :=
  let d := d.releaseReservation slot
  { d with
    slots := d.slots.set index (Slot.cleared slot)
    outstanding := d.outstanding - 1
    freeStack := index :: d.freeStack }

/-- `finish_locked`. -/
def finish (d : Device) (index : ℕ) (slot : Slot) (result : Result) (nativeStatus : ℤ) :
    Option Notice × Device :=
  let notice := slot.callback.map fun callback => { callback, result, nativeStatus }
  let d := { d with
    callbacksActive := if notice.isSome then d.callbacksActive + 1 else d.callbacksActive }
  (notice, (d.latch slot result nativeStatus).returnSlot index slot)

/-- The end of `deliver_terminal`, behind the callback. -/
def delivered (d : Device) : Device := { d with callbacksActive := d.callbacksActive - 1 }

/-! ### Reservations -/

/-- `Device::set_reservation`; `address` is that of the new object, if there is memory for it. -/
def setReservation (d : Device) (hidId count : ℕ) (address : Option ℕ) :
    Outcome × Option ℕ × Device :=
  if hidId = 0 then (refuse .errParam 0 0 hidId, none, d)
  else
    match address with
    | none => (refuse .errInternal errorNoMem 0 hidId, none, d)
    | some address =>
      if !d.present then (refuse .errNoDevice errorNoDevice 0 hidId, none, d)
      else if d.closing then (refuse .errIo transferCancelled 0 hidId, none, d)
      else if d.reservations.any (·.hidId == hidId) ∨
          (count > 0 ∧ (count ≥ d.slots.length ∨
            d.reservedCapacityTotal ≥ d.slots.length - count)) then
        (refuse .errParam 0 0 hidId 0 (clampLength count), none, d)
      else
        (⟨.ok, {}⟩, some address,
          { d with
            reservations := d.reservations ++ [{ address, hidId, capacity := count }]
            reservedCapacityTotal := d.reservedCapacityTotal + count
            unfilledReservedTotal := d.unfilledReservedTotal + count })

/-- `Device::clear_reservation`. -/
def clearReservation (d : Device) (address : Option ℕ) : Outcome × Device :=
  match address.bind d.findReservation with
  | none => (refuse .errParam, d)
  | some reservation =>
    if reservation.inUse ≠ 0 then (refuse .errBusy 0 0 reservation.hidId, d)
    else
      (⟨.ok, {}⟩,
        { d with
          reservedCapacityTotal := d.reservedCapacityTotal - reservation.capacity
          unfilledReservedTotal := d.unfilledReservedTotal - reservation.capacity
          reservations := d.reservations.filter (·.address ≠ reservation.address) })

/-! ### Transfers -/

/-- The slot that a successful `acquire` takes from the pool. -/
def take (d : Device) (index : ℕ) (rest : List ℕ) (hidId : ℕ) (reservation : Option Reservation)
    (filling : Bool) (reportLength callback : ℕ) : Device :=
  let slot : Slot :=
    { state := .prepared
      callback := some callback
      hidId
      reportLength
      reservation := reservation.map (·.address)
      reservationCounted := filling }
  let d := { d with
    freeStack := rest
    slots := d.slots.set index slot
    outstanding := d.outstanding + 1 }
  match reservation with
  | none => d
  | some reservation =>
    let d := d.updateReservation reservation.address fun r => { r with inUse := r.inUse + 1 }
    if filling then { d with unfilledReservedTotal := d.unfilledReservedTotal - 1 } else d

/-- `Device::acquire`: the index of the prepared slot, on success. The token of the source points
into the reservations of its Device, so it is the address of one of them. -/
def acquire (d : Device) (hidId : ℕ) (token : Option ℕ) (reportLength : ℕ)
    (callback : Option ℕ) : Outcome × Option ℕ × Device :=
  match callback with
  | none =>
    (refuse (if reportLength > 2 ^ 16 - 1 then .errOverflow else .errParam) 0 57 hidId 0
      (clampLength reportLength), none, d)
  | some callback =>
    if hidId = 0 ∨ reportLength = 0 ∨ reportLength > d.config.maximumReportBytes then
      (refuse (if reportLength > 2 ^ 16 - 1 then .errOverflow else .errParam) 0 57 hidId 0
        (clampLength reportLength), none, d)
    else
      let own := token.bind d.findReservation
      if token.isSome ∧ (own.all fun reservation => reservation.hidId ≠ hidId) then
        (refuse .errParam 0 57 hidId 0 reportLength, none, d)
      else if !d.present then
        (refuse .errNoDevice errorNoDevice 57 hidId 0 reportLength, none, d)
      else if d.closing then (refuse .errIo transferCancelled 57 hidId 0 reportLength, none, d)
      else
        match d.freeStack with
        | [] => (refuse .errBusy 0 57 hidId 0 reportLength, none, d)
        | index :: rest =>
          let filling := own.any fun reservation => reservation.inUse < reservation.capacity
          if !filling ∧ d.freeStack.length ≤ d.unfilledReservedTotal then
            (refuse .errBusy 0 57 hidId 0 reportLength, none, d)
          else (⟨.ok, {}⟩, some index, d.take index rest hidId own filling reportLength callback)

/-- `submit_prepared`, with the status that `libusb_submit_transfer` returns. -/
def submitPrepared (d : Device) (index reportLength reportId : ℕ) (submitStatus : ℤ) :
    Result × Option Notice × Device :=
  match d.slots[index]? with
  | none => (.errParam, none, d)
  | some slot =>
    if slot.state ≠ .prepared then (.errParam, none, d)
    else
      let slot := { slot with reportId }
      if reportLength ≠ slot.reportLength ∨ reportLength = 0 ∨
          reportLength > d.config.maximumReportBytes ∨ reportId > 2 ^ 8 - 1 then
        let (notice, d) := d.finish index slot .errParam errorInvalidParam
        (.errParam, notice, d)
      else if d.closing ∨ !d.present then
        let result : Result := if d.present then .errIo else .errNoDevice
        let (notice, d) := d.finish index slot result
          (if d.closing then transferCancelled else errorNoDevice)
        (result, notice, d)
      else if submitStatus ≠ success then
        let result := mapLibusbError submitStatus false
        let (notice, d) := d.finish index slot result submitStatus
        (result, notice, d)
      else (.ok, none, { d with slots := d.slots.set index { slot with state := .submitted } })

/-- `Device::submit`. -/
def submit (d : Device) (index reportLength reportId : ℕ) (submitStatus : ℤ) :
    Outcome × Option Notice × Device :=
  let (result, notice, d) := d.submitPrepared index reportLength reportId submitStatus
  let outcome : Outcome :=
    if result = .ok then ⟨.ok, {}⟩ else refuse result 0 57 0 0 (clampLength reportLength)
  (outcome, notice, d)

/-- `transfer_finished`, up to the delivery of its notice. -/
def transferFinished (d : Device) (index : ℕ) (status : TransferStatus) (actualLength : ℕ) :
    Option Notice × Device :=
  match d.slots[index]? with
  | none => (none, d)
  | some slot =>
    if slot.state ≠ .submitted then (none, d)
    else
      d.finish index slot (completionResult status actualLength slot.reportLength)
        status.nativeStatus

/-- `Device::abandon`. -/
def abandon (d : Device) (index : ℕ) : Device :=
  match d.slots[index]? with
  | none => d
  | some slot => if slot.state ≠ .prepared then d else d.returnSlot index slot

/-- The first section of `Device::cancel_all`. -/
def beginCancel (d : Device) : Device := { d with closing := true }

/-- The section of `Device::cancel_all` for one slot. A submitted transfer is cancelled behind it,
and ends with its callback. -/
def cancelSlot (d : Device) (index : ℕ) : Option Notice × Device :=
  match d.slots[index]? with
  | none => (none, d)
  | some slot =>
    if slot.state = .prepared then d.finish index slot .errIo transferCancelled else (none, d)

/-- `Device::drained`. -/
def drained (d : Device) : Bool := d.outstanding == 0 && d.callbacksActive == 0

/-- `Device::latched_error`. -/
def latchedError (d : Device) : ErrorInfo × Device :=
  (d.latched,
    if d.latched.result ≠ .errNoDevice then { d with latched := {} } else d)

/-- `observe_control_result`, with the thread's diagnostic. -/
def observeControlResult (d : Device) (result : Result) (lastError : ErrorInfo) : Device :=
  if result ≠ .errNoDevice then d
  else
    { d with
      present := false
      latched :=
        if lastError.result ≠ .errNoDevice then { result := .errNoDevice } else lastError }

end Device

end LibaoaHid.Transport

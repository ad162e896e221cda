import LibaoaHid.Api.Internal

/-!
# Control requests

What `src/transport/` knows of libusb: its status codes and their results, the control requests that
go out on a handle, and the thread's transport diagnostic.

The answers of libusb are a sequence of outcomes, one for each request that is sent; nothing is
assumed of them.

## Main definitions

* `mapLibusbError`: the results of the status codes.
* `ControlRequest`, `Exchange`, `Bus`.
* `Bus.controlTransfer`, `recordError`.
-/

namespace LibaoaHid.Transport

/-! ### Status codes -/

namespace Libusb

/-- The codes of `libusb_error`. -/
def success : ℤ := 0
def errorIo : ℤ := -1
def errorInvalidParam : ℤ := -2
def errorAccess : ℤ := -3
def errorNoDevice : ℤ := -4
def errorNotFound : ℤ := -5
def errorBusy : ℤ := -6
def errorTimeout : ℤ := -7
def errorOverflow : ℤ := -8
def errorPipe : ℤ := -9
def errorNoMem : ℤ := -11
def errorNotSupported : ℤ := -12

/-- `LIBUSB_TRANSFER_CANCELLED`, as a native status. -/
def transferCancelled : ℤ := 3

end Libusb

open Libusb

/-- `map_libusb_error`. -/
def mapLibusbError (status : ℤ) (probe : Bool) : Result :=
  if status = success then .ok
  else if status = errorInvalidParam then .errParam
  else if status = errorAccess then .errAccess
  else if status = errorNoDevice then .errNoDevice
  else if status = errorNotFound ∨ status = errorNotSupported then .errUnsupported
  else if status = errorBusy then .errBusy
  else if status = errorTimeout then .errTimeout
  else if status = errorOverflow then .errOverflow
  else if status = errorPipe then if probe then .errNotAoa else .errStall
  else if status = errorNoMem then .errInternal
  else .errIo

/-- A negative status is no success. -/
theorem mapLibusbError_ne_ok {status : ℤ} (h : status ≠ 0) (probe : Bool) :
    mapLibusbError status probe ≠ .ok := by
  unfold mapLibusbError success
  rw [if_neg h]
  repeat' split
  all_goals nofun

/-! ### Requests -/

/-- The arguments of one `libusb_control_transfer`. -/
structure ControlRequest where
  handle : ℕ
  /-- `0xC0`, a device-to-host request, and otherwise `0x40`. -/
  input : Bool := false
  request : ℕ
  value : ℕ := 0
  index : ℕ := 0
  /-- The data of a host-to-device request. -/
  data : List UInt8 := []
  length : ℕ := 0
  timeoutMs : ℕ
  deriving DecidableEq

/-- What libusb makes of a request: the returned status, and the data of a device-to-host one. -/
structure Answer where
  status : ℤ
  data : List UInt8 := []

/-- A request and its answer. -/
structure Exchange extends ControlRequest where
  answer : Answer

/-- The control requests of a call: the answers to come, the exchanges that were made, and the
thread's transport diagnostic. -/
structure Bus where
  answers : ℕ → Answer
  sent : List Exchange := []
  lastError : ErrorInfo := {}

/-- `record_error`. -/
def recordError (result : Result) (nativeStatus : ℤ := 0)
    (aoaRequest hidId offset length : ℕ := 0) : ErrorInfo :=
  { result, nativeStatus, aoaRequest, hidId, offset, length }

namespace Bus

/-- `libusb_control_transfer`. -/
def controlTransfer (bus : Bus) (request : ControlRequest) : Answer × Bus :=
  let answer := bus.answers bus.sent.length
  (answer, { bus with sent := bus.sent ++ [{ request with answer }] })

/-- `record_error`, `reset_error`. -/
def record (bus : Bus) (error : ErrorInfo) : Bus := { bus with lastError := error }

end Bus

end LibaoaHid.Transport

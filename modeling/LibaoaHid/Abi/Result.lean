import Mathlib.Algebra.Order.Ring.Int

/-!
# Result codes and the error record

Every public call returns an `aoahid_result` and leaves a diagnostic in the calling thread's
`aoahid_error_detail` (`src/api/error_detail.cpp`). A call of the model returns both as one
`Reply`; the record of a successful call is the cleared one.

A helper that answers `true` or records an error and answers `false` is an
`Option ErrorDetail`: `none` is `true`, and `some e` is `false` with `e` recorded.

## Main definitions

* `Result`, `ErrorDetail`, `Reply`.
* `setError`, `clearError`, `finishResult`, `validBoolean`, `validStruct`.
-/

namespace LibaoaHid

/-- The codes of `aoahid_result`. -/
inductive Result
  | ok
  | errParam
  | errUnsetField
  | errUnsupported
  | errNotAoa
  | errAccess
  | errBusy
  | errNoDevice
  | errStall
  | errTimeout
  | errShortTransfer
  | errDescriptorRejected
  | errIo
  | errOverflow
  | closePending
  | errInternal
  deriving DecidableEq, Repr

/-- The thread-local record `aoahid_error_detail`. -/
structure ErrorDetail where
  code : Result
  field : Option String
  reason : String
  libusbStatus : ℤ := 0
  aoaRequest : ℕ := 0
  hidId : ℕ := 0
  reportId : ℕ := 0
  offset : ℕ := 0
  length : ℕ := 0
  deriving DecidableEq, Repr

/-- The record that `set_error` stores. -/
def setError (code : Result) (field reason : String) (libusbStatus : ℤ := 0)
    (aoaRequest hidId reportId offset length : ℕ := 0) : ErrorDetail :=
  { code, field := some field, reason, libusbStatus, aoaRequest, hidId, reportId, offset, length }

/-- The record that `clear_error` stores. -/
def clearError : ErrorDetail :=
  { code := .ok, field := none, reason := "No error." }

/-- What a public call gives back: its result and the record it leaves. -/
structure Reply where
  result : Result
  error : ErrorDetail
  deriving DecidableEq, Repr

namespace Reply

/-- The reply of a call that succeeds. -/
def ok : Reply := ⟨.ok, clearError⟩

/-- The reply of a call that records an error and returns its code. -/
def fail (code : Result) (field reason : String) (libusbStatus : ℤ := 0)
    (aoaRequest hidId reportId offset length : ℕ := 0) : Reply :=
  ⟨code, setError code field reason libusbStatus aoaRequest hidId reportId offset length⟩

@[simp] theorem ok_result : ok.result = .ok := rfl

@[simp] theorem fail_result (code : Result) (field reason : String) (libusbStatus : ℤ)
    (aoaRequest hidId reportId offset length : ℕ) :
    (fail code field reason libusbStatus aoaRequest hidId reportId offset length).result = code :=
  rfl

end Reply

/-- `finish_result`: keeps a record that already carries the returned code. -/
def finishResult (recorded : ErrorDetail) (code : Result) (field reason : String) : Reply :=
  if code = .ok then Reply.ok
  else if recorded.code ≠ code then Reply.fail code field reason
  else ⟨code, recorded⟩

theorem finishResult_result (recorded : ErrorDetail) (code : Result) (field reason : String) :
    (finishResult recorded code field reason).result = code := by
  rw [finishResult]
  split
  · rename_i hok
    exact hok.symm
  · split <;> rfl

/-- A flag of the C ABI is exactly zero or one. -/
def validBoolean (value : UInt32) : Bool := value == 0 || value == 1

/-- `valid_struct`; a null pointer is an absent size. -/
def validStruct (actualSize : Option UInt32) (expectedSize : UInt32) (field : String) :
    Option ErrorDetail :=
  match actualSize with
  | none => some (setError .errParam field "The required structure pointer is null.")
  | some size =>
    if size ≠ expectedSize then
      some (setError .errParam field
        "struct_size must equal the size of the ABI structure used by this release.")
    else none

theorem validBoolean_iff {value : UInt32} : validBoolean value = true ↔ value = 0 ∨ value = 1 := by
  simp [validBoolean]

end LibaoaHid

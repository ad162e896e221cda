import LibaoaHid.Transport.Device

/-!
# Registration of a HID

`Device::register_hid` and `Device::unregister_hid` of `src/transport/transport.cpp`: request 54
with the length of the descriptor, requests 56 with its fragments, and the request 55 behind a
failure.

Every request goes through `control_out`, so what a registration does to the Device is a fold over
its exchanges, and its result is that of the last exchange before the cleanup.

## Main definitions

* `Bus.controlOut`, `Device.registerHid`, `Device.unregisterHid`.
* `Exchange.result`, `Exchange.diagnostic`: the reading of one exchange.
* `fragmentRequests`: the requests 56 for consecutive pieces of a descriptor.

## Main results

* `Device.registerHid_registration`: what a registration sends, and what it returns.
-/

namespace LibaoaHid.Transport

open Libusb

/-! ### One request -/

/-- `control_outcome_may_be_accepted`. -/
def controlOutcomeMayBeAccepted (result : Result) : Prop :=
  result = .errTimeout ∨ result = .errIo ∨ result = .errNoDevice ∨ result = .errShortTransfer

instance (result : Result) : Decidable (controlOutcomeMayBeAccepted result) :=
  inferInstanceAs (Decidable (_ ∨ _))

/-- The result of a host-to-device request. -/
def outResult (status : ℤ) (length : ℕ) : Result :=
  if status < 0 then mapLibusbError status false
  else if status ≠ length then .errShortTransfer
  else .ok

/-- `control_out`, with the diagnostic length of its policy. -/
def Bus.controlOut (bus : Bus) (request : ControlRequest) (diagnosticLength : ℕ := 2 ^ 32 - 1) :
    Result × Bus :=
  let (answer, bus) := bus.controlTransfer request
  let hidId := if 54 ≤ request.request ∧ request.request ≤ 57 then request.value else 0
  let offset := if request.request = 56 then request.index else 0
  let result := outResult answer.status request.length
  if result ≠ .ok then
    (result,
      bus.record (recordError result answer.status request.request hidId offset
        (if diagnosticLength = 2 ^ 32 - 1 then request.length else diagnosticLength)))
  else (result, bus)

/-- `restore_error`. -/
def Bus.restoreError (bus : Bus) (error : ErrorInfo) : Bus :=
  bus.record (recordError error.result error.nativeStatus error.aoaRequest error.hidId error.offset
    error.length)

namespace Device

/-! ### The source -/

/-- The request 55 for a HID. -/
def unregisterRequest (d : Device) (hidId : ℕ) : ControlRequest :=
  { handle := d.handle, request := 55, value := hidId, timeoutMs := d.config.controlTimeoutMs }

/-- The request 54 for a HID with a descriptor of some length. -/
def registerRequest (d : Device) (hidId length : ℕ) : ControlRequest :=
  { handle := d.handle
    request := 54
    value := hidId
    index := length % 2 ^ 16
    timeoutMs := d.config.controlTimeoutMs }

/-- The request 56 for the piece of a descriptor at some offset. -/
def fragmentRequest (d : Device) (hidId offset : ℕ) (piece : List UInt8) : ControlRequest :=
  { handle := d.handle
    request := 56
    value := hidId
    index := offset % 2 ^ 16
    data := piece
    length := piece.length % 2 ^ 16
    timeoutMs := d.config.controlTimeoutMs }

/-- The request 55 behind a failed registration. -/
def cleanUp (d : Device) (hidId : ℕ) (bus : Bus) : Device × Bus :=
  let (cleanup, bus) := bus.controlOut (d.unregisterRequest hidId)
  (d.observeControlResult cleanup bus.lastError, bus)

/-- The loop of `register_hid`, from the fragment at `offset` on. -/
def registerFragments (d : Device) (hidId : ℕ) (descriptor : List UInt8) (offset : ℕ) (bus : Bus) :
    Result × Device × Bus :=
  if offset < descriptor.length then
    let fragmentLength := min d.config.descriptorFragmentBytes (descriptor.length - offset)
    let (result, bus) := bus.controlOut
      (d.fragmentRequest hidId offset ((descriptor.drop offset).take fragmentLength))
    let failure := bus.lastError
    let device := d.observeControlResult result failure
    if result ≠ .ok then
      let (device, bus) :=
        if result ≠ .errNoDevice then device.cleanUp hidId bus else (device, bus)
      (failure.result, device, bus.restoreError failure)
    else registerFragments device hidId descriptor (offset + fragmentLength) bus
  else (.ok, d, bus)
termination_by descriptor.length - offset
decreasing_by
  have := d.config.fragment_pos
  omega

/-- `Device::register_hid`. -/
def registerHid (d : Device) (hidId : ℕ) (descriptor : List UInt8) (bus : Bus) :
    Result × Device × Bus :=
  let length := descriptor.length
  if hidId = 0 ∨ length = 0 ∨ length > 2 ^ 16 - 1 then
    let error : Result := if length > 2 ^ 16 - 1 then .errOverflow else .errParam
    (error, d, bus.record (recordError error 0 54 hidId 0 (clampLength length)))
  else if !d.present then
    (.errNoDevice, d, bus.record (recordError .errNoDevice errorNoDevice 54 hidId 0 length))
  else if d.closing then
    (.errIo, d, bus.record (recordError .errIo transferCancelled 54 hidId 0 length))
  else
    let (result, bus) := (bus.record {}).controlOut (d.registerRequest hidId length) length
    let failure := bus.lastError
    let d := d.observeControlResult result failure
    if result ≠ .ok then
      let (d, bus) :=
        if result ≠ .errNoDevice ∧ controlOutcomeMayBeAccepted result then d.cleanUp hidId bus
        else (d, bus)
      (result, d, bus.restoreError failure)
    else d.registerFragments hidId descriptor 0 bus

/-- `Device::unregister_hid`. -/
def unregisterHid (d : Device) (hidId : ℕ) (bus : Bus) : Result × Device × Bus :=
  if hidId = 0 then (.errParam, d, bus.record (recordError .errParam 0 55 hidId))
  else if !d.present then
    (.errNoDevice, d, bus.record (recordError .errNoDevice errorNoDevice 55 hidId))
  else
    let (result, bus) := (bus.record {}).controlOut (d.unregisterRequest hidId)
    (result, d.observeControlResult result bus.lastError, bus)

end Device

/-! ### The reading of one exchange -/

namespace Exchange

/-- The result of an exchange. -/
def result (e : Exchange) : Result := outResult e.answer.status e.length

/-- The diagnostic of an exchange of a registration. -/
def diagnostic (e : Exchange) : ErrorInfo :=
  if e.result = .ok then {}
  else
    recordError e.result e.answer.status e.request e.value
      (if e.request = 56 then e.index else 0) (if e.request = 54 then e.index else e.length)

/-- The failures of a registration that may have left an entry on the target. -/
def NeedsCleanup (e : Exchange) : Prop :=
  e.result ≠ .ok ∧ e.result ≠ .errNoDevice ∧
    (e.request = 56 ∨
      e.result = .errTimeout ∨ e.result = .errIo ∨ e.result = .errShortTransfer)

instance (e : Exchange) : Decidable e.NeedsCleanup := inferInstanceAs (Decidable (_ ∧ _))

end Exchange

namespace Device

/-! ### What one request does -/

/-- What an exchange does to the Device. -/
def observe (d : Device) (e : Exchange) : Device := d.observeControlResult e.result e.diagnostic

@[simp] theorem observeControlResult_config (d : Device) (result : Result) (error : ErrorInfo) :
    (d.observeControlResult result error).config = d.config := by
  unfold observeControlResult
  split <;> rfl

@[simp] theorem observeControlResult_handle (d : Device) (result : Result) (error : ErrorInfo) :
    (d.observeControlResult result error).handle = d.handle := by
  unfold observeControlResult
  split <;> rfl

/-- Only the loss of the device is observed. -/
theorem observe_of_ne {d : Device} {e : Exchange} (h : e.result ≠ .errNoDevice) :
    d.observe e = d := if_pos h

/-- A request that finds no device latches its loss. -/
theorem observe_of_eq {d : Device} {e : Exchange} (h : e.result = .errNoDevice) :
    d.observe e = { d with present := false, latched := e.diagnostic } := by
  have hdiagnostic : e.diagnostic.result = .errNoDevice := by
    rw [Exchange.diagnostic, if_neg (by rw [h]; nofun)]
    exact h
  rw [observe, observeControlResult, if_neg (by rw [h]; exact fun h => h rfl),
    if_neg (by rw [hdiagnostic]; exact fun h => h rfl)]

/-- A loss that was seen stays latched. -/
theorem foldl_observe_of_lost {trace : List Exchange} {d : Device} (hpresent : d.present = false)
    (hlatched : d.latched.result = .errNoDevice) :
    (trace.foldl observe d).present = false ∧
      (trace.foldl observe d).latched.result = .errNoDevice := by
  induction trace generalizing d with
  | nil => exact ⟨hpresent, hlatched⟩
  | cons e rest ih =>
    rw [List.foldl_cons]
    by_cases h : e.result = .errNoDevice
    · rw [observe_of_eq h]
      refine ih rfl ?_
      rw [Exchange.diagnostic, if_neg (by rw [h]; nofun)]
      exact h
    · rw [observe_of_ne h]
      exact ih hpresent hlatched

/-- The loss of the device is latched by the exchange that sees it. -/
theorem foldl_observe_of_mem {trace : List Exchange} {d : Device}
    (h : ∃ e ∈ trace, e.result = .errNoDevice) :
    (trace.foldl observe d).present = false ∧
      (trace.foldl observe d).latched.result = .errNoDevice := by
  induction trace generalizing d with
  | nil => simp at h
  | cons e rest ih =>
    rw [List.foldl_cons]
    by_cases he : e.result = .errNoDevice
    · rw [observe_of_eq he]
      refine foldl_observe_of_lost rfl ?_
      rw [Exchange.diagnostic, if_neg (by rw [he]; nofun)]
      exact he
    · obtain ⟨other, hmem, hother⟩ := h
      rcases List.mem_cons.mp hmem with rfl | hrest
      · exact absurd hother he
      · exact ih ⟨other, hrest, hother⟩

/-- Exchanges that find the device leave the Device as it is. -/
theorem foldl_observe_of_forall {trace : List Exchange} {d : Device}
    (h : ∀ e ∈ trace, e.result ≠ .errNoDevice) : trace.foldl observe d = d := by
  induction trace with
  | nil => rfl
  | cons e rest ih =>
    rw [List.foldl_cons, observe_of_ne (h e List.mem_cons_self)]
    exact ih fun other hmem => h other (List.mem_cons_of_mem _ hmem)

end Device

/-! ### What a registration sends -/

/-- The exchange of the next request. -/
def Bus.exchange (bus : Bus) (request : ControlRequest) : Exchange :=
  { request with answer := bus.answers bus.sent.length }

/-- The bus behind an exchange of a registration. -/
def Bus.after (bus : Bus) (e : Exchange) : Bus := { bus with
  sent := bus.sent ++ [e]
  lastError := if e.result = .ok then bus.lastError else e.diagnostic }

/-- **One request.** It is one exchange, and its failure is the diagnostic. -/
theorem Bus.controlOut_eq {bus : Bus} {request : ControlRequest} {diagnosticLength : ℕ}
    (hid : 54 ≤ request.request ∧ request.request ≤ 57)
    (hlength : (if diagnosticLength = 2 ^ 32 - 1 then request.length else diagnosticLength) =
      if request.request = 54 then request.index else request.length) :
    bus.controlOut request diagnosticLength =
      ((bus.exchange request).result, bus.after (bus.exchange request)) := by
  by_cases h : (bus.exchange request).result = .ok
  · have hout : outResult (bus.answers bus.sent.length).status request.length = .ok := h
    simp only [Bus.controlOut, Bus.controlTransfer, Bus.after, if_pos h]
    refine (if_neg (not_not_intro hout)).trans ?_
    exact Prod.ext (hout.trans h.symm) rfl
  · have hout : outResult (bus.answers bus.sent.length).status request.length ≠ .ok := h
    simp only [Bus.controlOut, Bus.controlTransfer, Bus.after, if_neg h, if_pos hout, if_pos hid,
      hlength]
    simp only [Exchange.diagnostic, if_neg h]
    rfl

/-- The result of the last exchange. -/
def lastResult (trace : List Exchange) : Result := (trace.getLast?.map Exchange.result).getD .ok

/-- The diagnostic of the last exchange. -/
def lastDiagnostic (trace : List Exchange) : ErrorInfo :=
  (trace.getLast?.map Exchange.diagnostic).getD {}

namespace Device

/-- The requests 56 for consecutive pieces of a descriptor, the first of them at `offset`. -/
def fragmentRequests (d : Device) (hidId : ℕ) : ℕ → List (List UInt8) → List ControlRequest
  | _, [] => []
  | offset, piece :: rest =>
    { handle := d.handle
      request := 56
      value := hidId
      index := offset
      data := piece
      length := piece.length
      timeoutMs := d.config.controlTimeoutMs } ::
        fragmentRequests d hidId (offset + piece.length) rest

/-- The request 55 behind a failure, or none. -/
def cleanupRequests (d : Device) (hidId : ℕ) (trace : List Exchange) : List ControlRequest :=
  if trace.getLast?.any fun e => decide e.NeedsCleanup then [d.unregisterRequest hidId] else []

/-- A cleanup is one exchange with the request 55. -/
theorem cleanUp_eq (d : Device) (hidId : ℕ) (bus : Bus) :
    d.cleanUp hidId bus =
      (d.observe (bus.exchange (d.unregisterRequest hidId)),
        bus.after (bus.exchange (d.unregisterRequest hidId))) := by
  have hid : 54 ≤ (d.unregisterRequest hidId).request ∧ (d.unregisterRequest hidId).request ≤ 57 :=
    ⟨(by decide : 54 ≤ 55), (by decide : 55 ≤ 57)⟩
  rw [cleanUp, Bus.controlOut_eq hid rfl]
  by_cases h : (bus.exchange (d.unregisterRequest hidId)).result = .errNoDevice
  · have hne : (bus.exchange (d.unregisterRequest hidId)).result ≠ .ok := by rw [h]; nofun
    simp only [observe, Bus.after, if_neg hne]
  · rw [observe_of_ne h]
    exact Prod.ext (if_pos h) rfl

/-- What the failure of one request of a registration leaves: its own result and diagnostic, behind
the cleanup that it needs. -/
theorem failed_registration {d : Device} {hidId : ℕ} {bus : Bus} {e : Exchange} {cleans : Prop}
    [Decidable cleans] (hfailed : e.result ≠ .ok) (hcleans : cleans ↔ e.NeedsCleanup) :
    ∃ cleanup : List Exchange,
      cleanup.map (·.toControlRequest) = d.cleanupRequests hidId [e] ∧
      (let device := d.observeControlResult e.result (bus.after e).lastError
        let (device, bus') :=
          if cleans then device.cleanUp hidId (bus.after e) else (device, bus.after e)
        (device, bus'.restoreError (bus.after e).lastError)) =
      ((e :: cleanup).foldl observe d,
        { bus with
          sent := bus.sent ++ e :: cleanup
          lastError := e.diagnostic }) := by
  have hlast : (bus.after e).lastError = e.diagnostic := if_neg hfailed
  have hrestore : ∀ other : Bus, other.restoreError e.diagnostic =
      { other with lastError := e.diagnostic } := by
    intro other
    simp only [Bus.restoreError, Bus.record, recordError, Exchange.diagnostic, if_neg hfailed]
  by_cases h : e.NeedsCleanup
  · refine ⟨[(bus.after e).exchange (d.unregisterRequest hidId)], ?_, ?_⟩
    · simp [cleanupRequests, h, Bus.exchange]
    · have hne : e.result ≠ .errNoDevice := h.2.1
      have hobserve : d.observeControlResult e.result e.diagnostic = d := if_pos hne
      simp only [hlast, hobserve, if_pos (hcleans.mpr h), cleanUp_eq, hrestore, List.foldl_cons,
        List.foldl_nil, observe_of_ne hne]
      simp only [Bus.after, List.append_assoc, List.singleton_append]
  · refine ⟨[], by simp [cleanupRequests, h], ?_⟩
    simp only [hlast, if_neg (mt hcleans.mp h), hrestore, List.foldl_cons, List.foldl_nil, observe]
    simp only [Bus.after]

/-! A successful exchange in front of others leaves what the last of them says. -/

theorem lastResult_cons {e : Exchange} (hok : e.result = .ok) (rest : List Exchange) :
    lastResult (e :: rest) = lastResult rest := by
  rcases rest with _ | ⟨next, rest⟩
  · exact hok
  · simp only [lastResult, List.getLast?_cons_cons]

theorem lastDiagnostic_cons {e : Exchange} (hok : e.result = .ok) (rest : List Exchange) :
    lastDiagnostic (e :: rest) = lastDiagnostic rest := by
  rcases rest with _ | ⟨next, rest⟩
  · exact if_pos hok
  · simp only [lastDiagnostic, List.getLast?_cons_cons]

theorem cleanupRequests_cons {e : Exchange} (hok : e.result = .ok) (d : Device) (hidId : ℕ)
    (rest : List Exchange) :
    d.cleanupRequests hidId (e :: rest) = d.cleanupRequests hidId rest := by
  rcases rest with _ | ⟨next, rest⟩
  · have hneeds : ¬ e.NeedsCleanup := fun hneeds => hneeds.1 hok
    simp [cleanupRequests, hneeds]
  · simp only [cleanupRequests, List.getLast?_cons_cons]

theorem accepted_cons {e : Exchange} (hok : e.result = .ok) {rest : List Exchange}
    (h : ∀ other ∈ rest.dropLast, other.result = .ok) :
    ∀ other ∈ (e :: rest).dropLast, other.result = .ok := by
  intro other hmem
  rcases rest with _ | ⟨next, rest⟩
  · simp at hmem
  · rw [List.dropLast_cons_of_ne_nil (List.cons_ne_nil _ _)] at hmem
    rcases List.mem_cons.mp hmem with rfl | hrest
    · exact hok
    · exact h other hrest

/-- The fragments that a registration sends, the exchanges with them, and what they leave. -/
structure Fragments (d : Device) (hidId : ℕ) (descriptor : List UInt8) (offset : ℕ) (bus : Bus)
    (out : Result × Device × Bus) (pieces : List (List UInt8))
    (fragments cleanup : List Exchange) : Prop where
  requests : fragments.map (·.toControlRequest) = d.fragmentRequests hidId offset pieces
  piece_bounds : ∀ piece ∈ pieces,
    piece ≠ [] ∧ piece.length ≤ d.config.descriptorFragmentBytes
  isPrefix : pieces.flatten <+: descriptor.drop offset
  whole : lastResult fragments = .ok → pieces.flatten = descriptor.drop offset
  accepted : ∀ e ∈ fragments.dropLast, e.result = .ok
  cleanup_eq : cleanup.map (·.toControlRequest) = d.cleanupRequests hidId fragments
  result_eq : out.1 = lastResult fragments
  device_eq : out.2.1 = (fragments ++ cleanup).foldl observe d
  bus_eq : out.2.2 = { bus with
    sent := bus.sent ++ (fragments ++ cleanup)
    lastError := lastDiagnostic fragments }

/-- A successful fragment in front of those that follow it. -/
theorem Fragments.cons {d : Device} {hidId : ℕ} {descriptor : List UInt8} {offset : ℕ} {bus : Bus}
    {out : Result × Device × Bus} {piece : List UInt8} {pieces : List (List UInt8)}
    {e : Exchange} {fragments cleanup : List Exchange}
    (hrequest : [e.toControlRequest] = d.fragmentRequests hidId offset [piece])
    (hpiece : piece ≠ [] ∧ piece.length ≤ d.config.descriptorFragmentBytes)
    (hdrop : descriptor.drop offset = piece ++ descriptor.drop (offset + piece.length))
    (hok : e.result = .ok)
    (h : Fragments d hidId descriptor (offset + piece.length) (bus.after e) out pieces fragments
      cleanup) :
    Fragments d hidId descriptor offset bus out (piece :: pieces) (e :: fragments) cleanup := by
  have hlost : e.result ≠ .errNoDevice := by rw [hok]; nofun
  constructor
  case requests =>
    rw [List.map_cons, h.requests]
    simp only [fragmentRequests, List.cons.injEq, and_true] at hrequest
    rw [hrequest, fragmentRequests]
  case piece_bounds =>
    intro other hmem
    rcases List.mem_cons.mp hmem with rfl | hrest
    · exact hpiece
    · exact h.piece_bounds other hrest
  case isPrefix =>
    rw [hdrop, List.flatten_cons]
    exact (List.prefix_append_right_inj _).mpr h.isPrefix
  case whole =>
    intro hend
    rw [List.flatten_cons, h.whole (lastResult_cons hok fragments ▸ hend), hdrop]
  case accepted => exact accepted_cons hok h.accepted
  case cleanup_eq => rw [cleanupRequests_cons hok, h.cleanup_eq]
  case result_eq => rw [lastResult_cons hok, h.result_eq]
  case device_eq =>
    rw [h.device_eq, List.cons_append, List.foldl_cons, observe_of_ne hlost]
  case bus_eq =>
    rw [h.bus_eq, lastDiagnostic_cons hok]
    simp only [Bus.after, List.append_assoc, List.cons_append, List.nil_append]

/-- A fragment that fails is the last one. -/
theorem Fragments.failed {d : Device} {hidId : ℕ} {descriptor : List UInt8} {offset : ℕ} {bus : Bus}
    {out : Result × Device × Bus} {piece : List UInt8} {e : Exchange} {cleanup : List Exchange}
    (hrequest : [e.toControlRequest] = d.fragmentRequests hidId offset [piece])
    (hpiece : piece ≠ [] ∧ piece.length ≤ d.config.descriptorFragmentBytes)
    (hdrop : descriptor.drop offset = piece ++ descriptor.drop (offset + piece.length))
    (hfailed : e.result ≠ .ok)
    (hcleanup : cleanup.map (·.toControlRequest) = d.cleanupRequests hidId [e])
    (hout : out = (e.result, (e :: cleanup).foldl observe d,
      { bus with
        sent := bus.sent ++ e :: cleanup
        lastError := e.diagnostic })) :
    Fragments d hidId descriptor offset bus out [piece] [e] cleanup where
  requests := hrequest
  piece_bounds := by
    intro other hmem
    rw [List.mem_singleton.mp hmem]
    exact hpiece
  isPrefix := by
    rw [hdrop, List.flatten_singleton]
    exact List.prefix_append _ _
  whole := fun hend => absurd hend hfailed
  accepted := by simp
  cleanup_eq := hcleanup
  result_eq := by rw [hout]; rfl
  device_eq := by rw [hout]; rfl
  bus_eq := by rw [hout]; rfl

/-- Behind the end of the descriptor nothing is sent. -/
theorem Fragments.done {d : Device} {hidId : ℕ} {descriptor : List UInt8} {offset : ℕ} {bus : Bus}
    (hbus : bus.lastError = {}) (hend : descriptor.drop offset = []) :
    Fragments d hidId descriptor offset bus (.ok, d, bus) [] [] [] where
  requests := rfl
  piece_bounds := by simp
  isPrefix := List.nil_prefix
  whole := fun _ => hend.symm
  accepted := by simp
  cleanup_eq := rfl
  result_eq := rfl
  device_eq := rfl
  bus_eq := by
    rcases bus with ⟨answers, sent, lastError⟩
    simp only at hbus
    simp [hbus, lastDiagnostic]

/-- **The loop over the fragments.** -/
theorem registerFragments_fragments (d : Device) (hidId : ℕ) {descriptor : List UInt8}
    (hlength : descriptor.length < 2 ^ 16) (n offset : ℕ) (bus : Bus)
    (hn : descriptor.length - offset ≤ n) (hbus : bus.lastError = {}) :
    ∃ pieces fragments cleanup, Fragments d hidId descriptor offset bus
      (d.registerFragments hidId descriptor offset bus) pieces fragments cleanup := by
  induction n generalizing offset bus with
  | zero =>
    have hstop : ¬ offset < descriptor.length := by omega
    rw [registerFragments, if_neg hstop]
    exact ⟨[], [], [], .done hbus (List.drop_eq_nil_of_le (by omega))⟩
  | succ n ih =>
    by_cases hlt : offset < descriptor.length
    · obtain ⟨piece, hpieceDef⟩ : ∃ piece, piece = (descriptor.drop offset).take
        (min d.config.descriptorFragmentBytes (descriptor.length - offset)) := ⟨_, rfl⟩
      have hpos := d.config.fragment_pos
      have hpieceLength : piece.length =
          min d.config.descriptorFragmentBytes (descriptor.length - offset) := by
        rw [hpieceDef, List.length_take, List.length_drop]
        omega
      have hpiece : piece ≠ [] ∧ piece.length ≤ d.config.descriptorFragmentBytes := by
        refine ⟨fun hnil => ?_, by omega⟩
        rw [hnil, List.length_nil] at hpieceLength
        omega
      have hdrop : descriptor.drop offset =
          piece ++ descriptor.drop (offset + piece.length) := by
        rw [← List.drop_drop, hpieceLength, hpieceDef, List.take_append_drop]
      obtain ⟨e, he⟩ : ∃ e, e = bus.exchange (d.fragmentRequest hidId offset piece) := ⟨_, rfl⟩
      have hrequest : [e.toControlRequest] = d.fragmentRequests hidId offset [piece] := by
        rw [he]
        simp only [fragmentRequests, fragmentRequest, Bus.exchange]
        rw [Nat.mod_eq_of_lt (by omega), Nat.mod_eq_of_lt (by omega)]
      have hout : bus.controlOut (d.fragmentRequest hidId offset piece) =
          (e.result, bus.after e) := by
        rw [he]
        exact Bus.controlOut_eq ⟨by simp [fragmentRequest], by simp [fragmentRequest]⟩ rfl
      have hrequestCode : e.request = 56 := by rw [he]; rfl
      rw [registerFragments, if_pos hlt]
      simp only [← hpieceDef, hout]
      by_cases hok : e.result = .ok
      · have hkeep : d.observeControlResult e.result (bus.after e).lastError = d :=
          if_pos (by rw [hok]; nofun)
        rw [if_neg (not_not_intro hok), hkeep, ← hpieceLength]
        have hnext : (bus.after e).lastError = {} := by
          rw [Bus.after]
          exact (if_pos hok).trans hbus
        have hposLength : 0 < piece.length := List.length_pos_iff.mpr hpiece.1
        obtain ⟨pieces, fragments, cleanup, h⟩ :=
          ih (offset + piece.length) (bus.after e) (by omega) hnext
        exact ⟨_, _, _, h.cons hrequest hpiece hdrop hok⟩
      · rw [if_pos hok]
        have hcleans : e.result ≠ .errNoDevice ↔ e.NeedsCleanup :=
          ⟨fun hne => ⟨hok, hne, .inl hrequestCode⟩, fun hneeds => hneeds.2.1⟩
        obtain ⟨cleanup, hcleanup, hleft⟩ := @failed_registration d hidId bus e _ _ hok hcleans
        refine ⟨[piece], [e], cleanup, .failed hrequest hpiece hdrop hok hcleanup ?_⟩
        have herror : (bus.after e).lastError.result = e.result := by
          rw [Bus.after]
          simp only [if_neg hok, Exchange.diagnostic]
          rfl
        exact Prod.ext herror hleft
    · rw [registerFragments, if_neg hlt]
      exact ⟨[], [], [], .done hbus (List.drop_eq_nil_of_le (by omega))⟩

/-- **A registration.** Request 54 carries the whole length. The requests 56 carry consecutive
nonempty pieces of the descriptor, all of them when the registration succeeds. Every request but the
last of these succeeded, and the result and the diagnostic are those of the last. The request 55
stands behind a failure that may have left an entry on the target, and nowhere else. -/
structure Registration (d : Device) (hidId : ℕ) (descriptor : List UInt8) (bus : Bus)
    (out : Result × Device × Bus) (first : Exchange) (pieces : List (List UInt8))
    (fragments cleanup : List Exchange) : Prop where
  sent_eq : out.2.2.sent = bus.sent ++ first :: (fragments ++ cleanup)
  first_eq : first.toControlRequest =
    { handle := d.handle
      request := 54
      value := hidId
      index := descriptor.length
      timeoutMs := d.config.controlTimeoutMs }
  requests : fragments.map (·.toControlRequest) = d.fragmentRequests hidId 0 pieces
  piece_bounds : ∀ piece ∈ pieces,
    piece ≠ [] ∧ piece.length ≤ d.config.descriptorFragmentBytes
  isPrefix : pieces.flatten <+: descriptor
  whole : out.1 = .ok → pieces.flatten = descriptor
  accepted : ∀ e ∈ (first :: fragments).dropLast, e.result = .ok
  result_eq : out.1 = lastResult (first :: fragments)
  error_eq : out.2.2.lastError = lastDiagnostic (first :: fragments)
  cleanup_eq : cleanup.map (·.toControlRequest) = d.cleanupRequests hidId (first :: fragments)
  lost : (∃ e ∈ first :: (fragments ++ cleanup), e.result = .errNoDevice) →
    out.2.1.present = false ∧ out.2.1.latched.result = .errNoDevice
  kept : (∀ e ∈ first :: (fragments ++ cleanup), e.result ≠ .errNoDevice) → out.2.1 = d

/-- **Registration leaves no half-registered HID.** -/
theorem registerHid_registration (d : Device) (hidId : ℕ) (descriptor : List UInt8) (bus : Bus)
    (hpresent : d.present = true) (hclosing : d.closing = false) (hid : hidId ≠ 0)
    (hpos : 0 < descriptor.length) (hlength : descriptor.length < 2 ^ 16) :
    ∃ first pieces fragments cleanup, Registration d hidId descriptor bus
      (d.registerHid hidId descriptor bus) first pieces fragments cleanup := by
  have hvalid : ¬ (hidId = 0 ∨ descriptor.length = 0 ∨ descriptor.length > 2 ^ 16 - 1) := by omega
  obtain ⟨e, he⟩ :
      ∃ e, e = (bus.record {}).exchange (d.registerRequest hidId descriptor.length) := ⟨_, rfl⟩
  have hout : (bus.record {}).controlOut (d.registerRequest hidId descriptor.length)
      descriptor.length = (e.result, (bus.record {}).after e) := by
    rw [he]
    refine Bus.controlOut_eq ⟨by simp [registerRequest], by simp [registerRequest]⟩ ?_
    rw [if_neg (by omega), if_pos (by rfl)]
    exact (Nat.mod_eq_of_lt hlength).symm
  have hfirst : e.toControlRequest =
      { handle := d.handle
        request := 54
        value := hidId
        index := descriptor.length
        timeoutMs := d.config.controlTimeoutMs } := by
    rw [he]
    simp only [Bus.exchange, registerRequest, Nat.mod_eq_of_lt hlength]
  have hcode : e.request = 54 := by rw [he]; rfl
  rw [registerHid, if_neg hvalid, hpresent, hclosing]
  simp only [Bool.not_true, Bool.false_eq_true, if_false, hout]
  by_cases hok : e.result = .ok
  · have hlost : e.result ≠ .errNoDevice := by rw [hok]; nofun
    have hkeep : d.observeControlResult e.result ((bus.record {}).after e).lastError = d :=
      if_pos hlost
    rw [if_neg (not_not_intro hok), hkeep]
    have hnext : ((bus.record {}).after e).lastError = {} := by
      rw [Bus.after]
      exact if_pos hok
    obtain ⟨pieces, fragments, cleanup, h⟩ :=
      registerFragments_fragments d hidId hlength _ 0 _ (Nat.le_refl _) hnext
    have hdevice := h.device_eq
    have hbus := h.bus_eq
    refine ⟨e, pieces, fragments, cleanup, ?_⟩
    constructor
    case sent_eq =>
      rw [hbus]
      simp only [Bus.after, Bus.record, List.append_assoc, List.cons_append, List.nil_append]
    case first_eq => exact hfirst
    case requests => exact h.requests
    case piece_bounds => exact h.piece_bounds
    case isPrefix => exact h.isPrefix
    case whole => exact fun hend => h.whole (h.result_eq ▸ hend)
    case accepted => exact accepted_cons hok h.accepted
    case result_eq => rw [lastResult_cons hok, h.result_eq]
    case error_eq => rw [lastDiagnostic_cons hok, hbus]
    case cleanup_eq => rw [cleanupRequests_cons hok, h.cleanup_eq]
    case lost =>
      intro hmem
      rw [hdevice, ← observe_of_ne (d := d) hlost, ← List.foldl_cons]
      exact foldl_observe_of_mem hmem
    case kept =>
      intro hkept
      rw [hdevice]
      exact foldl_observe_of_forall fun other hmem => hkept other (List.mem_cons_of_mem _ hmem)
  · rw [if_pos hok]
    have hcleans : (e.result ≠ .errNoDevice ∧ controlOutcomeMayBeAccepted e.result) ↔
        e.NeedsCleanup := by
      unfold controlOutcomeMayBeAccepted Exchange.NeedsCleanup
      constructor
      · rintro ⟨hne, htimeout | hio | hgone | hshort⟩
        · exact ⟨hok, hne, .inr (.inl htimeout)⟩
        · exact ⟨hok, hne, .inr (.inr (.inl hio))⟩
        · exact absurd hgone hne
        · exact ⟨hok, hne, .inr (.inr (.inr hshort))⟩
      · rintro ⟨-, hne, hfragment | htimeout | hio | hshort⟩
        · omega
        · exact ⟨hne, .inl htimeout⟩
        · exact ⟨hne, .inr (.inl hio)⟩
        · exact ⟨hne, .inr (.inr (.inr hshort))⟩
    obtain ⟨cleanup, hcleanup, hleft⟩ :=
      @failed_registration d hidId (bus.record {}) e _ _ hok hcleans
    have hdevice := congrArg Prod.fst hleft
    have hbus := congrArg Prod.snd hleft
    simp only at hdevice hbus
    refine ⟨e, [], [], cleanup, ?_⟩
    constructor
    case sent_eq => exact congrArg Bus.sent hbus
    case first_eq => exact hfirst
    case requests => rfl
    case piece_bounds => simp
    case isPrefix => exact List.nil_prefix
    case whole => exact fun hend => absurd hend hok
    case accepted => simp
    case result_eq => rfl
    case error_eq => exact congrArg Bus.lastError hbus
    case cleanup_eq => exact hcleanup
    case lost =>
      intro hmem
      have := foldl_observe_of_mem (d := d) hmem
      rw [List.nil_append, ← hdevice] at this
      exact this
    case kept =>
      intro hkept
      exact hdevice.trans (foldl_observe_of_forall hkept)

/-! ### What the requests leave alone -/

/-- Nothing but the presence of the device and the latched error has changed. -/
def Observed (d d' : Device) : Prop := ∃ present latched, d' = { d with present, latched }

namespace Observed

variable {d d' d'' : Device}

theorem refl (d : Device) : Observed d d := ⟨d.present, d.latched, rfl⟩

theorem trans (h : Observed d d') (h' : Observed d' d'') : Observed d d'' := by
  obtain ⟨present, latched, rfl⟩ := h
  obtain ⟨present', latched', rfl⟩ := h'
  exact ⟨present', latched', rfl⟩

theorem handle_eq (h : Observed d d') : d'.handle = d.handle := by
  obtain ⟨present, latched, rfl⟩ := h
  rfl

theorem observeControlResult (d : Device) (result : Result) (error : ErrorInfo) :
    Observed d (d.observeControlResult result error) := by
  rw [Device.observeControlResult]
  split
  · exact .refl d
  · exact ⟨_, _, rfl⟩

theorem cleanUp (d : Device) (hidId : ℕ) (bus : Bus) : Observed d (d.cleanUp hidId bus).1 :=
  .observeControlResult d _ _

theorem unregisterHid (d : Device) (hidId : ℕ) (bus : Bus) :
    Observed d (d.unregisterHid hidId bus).2.1 := by
  rw [Device.unregisterHid]
  split
  · exact .refl d
  · split
    · exact .refl d
    · exact .observeControlResult d _ _

theorem registerFragments (d : Device) (hidId : ℕ) (descriptor : List UInt8) (offset : ℕ)
    (bus : Bus) : Observed d (d.registerFragments hidId descriptor offset bus).2.1 := by
  induction d, offset, bus using registerFragments.induct hidId descriptor with
  | case1 d offset bus hlt fragmentLength result bus' hsent failure device hfailed =>
    rw [Device.registerFragments, if_pos hlt]
    dsimp only [fragmentLength, device, failure] at *
    rw [hsent]
    dsimp only
    rw [if_pos hfailed]
    by_cases hlost : result ≠ .errNoDevice
    · rw [if_pos hlost]
      exact (observeControlResult d _ _).trans (cleanUp _ hidId bus')
    · rw [if_neg hlost]
      exact .observeControlResult d _ _
  | case2 d offset bus hlt fragmentLength result bus' hsent failure device hok ih =>
    rw [Device.registerFragments, if_pos hlt]
    dsimp only [fragmentLength, device, failure] at *
    rw [hsent]
    dsimp only
    rw [if_neg hok]
    exact (observeControlResult d _ _).trans ih
  | case3 d offset bus hend =>
    rw [Device.registerFragments, if_neg hend]
    exact .refl d

theorem registerHid (d : Device) (hidId : ℕ) (descriptor : List UInt8) (bus : Bus) :
    Observed d (d.registerHid hidId descriptor bus).2.1 := by
  rw [Device.registerHid]
  dsimp only
  split
  · exact .refl d
  split
  · exact .refl d
  split
  · exact .refl d
  split
  · split
    · exact (observeControlResult d _ _).trans (cleanUp _ hidId _)
    · exact .observeControlResult d _ _
  · exact (observeControlResult d _ _).trans (registerFragments _ hidId descriptor 0 _)

end Observed

/-- The requests 56 of a registration go to its handle. -/
theorem mem_fragmentRequests {d : Device} {hidId offset : ℕ} {pieces : List (List UInt8)}
    {request : ControlRequest} (h : request ∈ d.fragmentRequests hidId offset pieces) :
    request.request = 56 ∧ request.handle = d.handle := by
  induction pieces generalizing offset with
  | nil => cases h
  | cons piece rest ih =>
    rw [fragmentRequests] at h
    rcases List.mem_cons.mp h with rfl | h
    · exact ⟨rfl, rfl⟩
    · exact ih h

/-- **The requests 54 of a registration.** It sends at most one, in front of its other requests, and
none but for a descriptor that fits. -/
theorem registerHid_sends (d : Device) (hidId : ℕ) (descriptor : List UInt8) (bus : Bus) :
    ∃ first others, (d.registerHid hidId descriptor bus).2.2.sent = bus.sent ++ (first ++ others) ∧
      first.length ≤ 1 ∧
      (∀ e ∈ first, e.request = 54 ∧ e.handle = d.handle ∧ e.value = hidId) ∧
      ∀ e ∈ others, e.request ≠ 54 := by
  by_cases hparam : hidId = 0 ∨ descriptor.length = 0 ∨ descriptor.length > 2 ^ 16 - 1
  · rw [registerHid, if_pos hparam]
    exact ⟨[], [], by simp [Bus.record], by simp, nofun, nofun⟩
  by_cases hpresent : d.present = true
  · by_cases hclosing : d.closing = true
    · rw [registerHid, if_neg hparam, hpresent, hclosing]
      exact ⟨[], [], by simp [Bus.record], by simp, nofun, nofun⟩
    · obtain ⟨first, pieces, fragments, cleanup, h⟩ := registerHid_registration d hidId descriptor
        bus hpresent (by simpa using hclosing) (by omega) (by omega) (by omega)
      refine ⟨[first], fragments ++ cleanup, h.sent_eq, by simp, fun e he => ?_, fun e he => ?_⟩
      · rw [List.mem_singleton.mp he]
        have hfirst := h.first_eq
        rw [hfirst]
        exact ⟨rfl, rfl, rfl⟩
      · rcases List.mem_append.mp he with he | he
        · have hmem := List.mem_map_of_mem (f := fun e : Exchange => e.toControlRequest) he
          rw [h.requests] at hmem
          rw [(mem_fragmentRequests hmem).1]
          decide
        · have hmem := List.mem_map_of_mem (f := fun e : Exchange => e.toControlRequest) he
          rw [h.cleanup_eq, cleanupRequests] at hmem
          split at hmem
          · have hrequest : e.request = 55 :=
              congrArg ControlRequest.request (List.mem_singleton.mp hmem)
            rw [hrequest]
            decide
          · cases hmem
  · rw [registerHid, if_neg hparam]
    have hlost : d.present = false := by simpa using hpresent
    rw [hlost]
    exact ⟨[], [], by simp [Bus.record], by simp, nofun, nofun⟩

/-- A request 55 is no request 54. -/
theorem unregisterHid_sends (d : Device) (hidId : ℕ) (bus : Bus) :
    ∃ more, (d.unregisterHid hidId bus).2.2.sent = bus.sent ++ more ∧
      ∀ e ∈ more, e.request = 55 ∧ e.handle = d.handle ∧ e.value = hidId := by
  rw [unregisterHid]
  split
  · exact ⟨[], by simp [Bus.record], nofun⟩
  · split
    · exact ⟨[], by simp [Bus.record], nofun⟩
    · have hid : 54 ≤ (d.unregisterRequest hidId).request ∧
          (d.unregisterRequest hidId).request ≤ 57 := ⟨(by decide : 54 ≤ 55), (by decide : 55 ≤ 57)⟩
      rw [Bus.controlOut_eq hid rfl]
      refine ⟨_, rfl, fun e he => ?_⟩
      rw [List.mem_singleton.mp he]
      exact ⟨rfl, rfl, rfl⟩

/-- A configuration with fragments of two bytes. -/
def sampleConfig : DeviceConfig where
  controlTimeoutMs := 1000
  sendTimeoutMs := 1000
  descriptorFragmentBytes := 2
  maximumReportBytes := 64
  fragment_pos := Nat.two_pos
  fragment_lt := by decide
  report_pos := by decide
  report_lt := by decide

/-- A descriptor of three bytes, with a target whose first request times out. -/
theorem registerHid_registration_timeout :
    ∃ first pieces fragments cleanup, Registration (opened sampleConfig 0 1) 7 [0x05, 0x01, 0xC0]
      { answers := fun n => if n = 0 then ⟨errorTimeout, []⟩ else ⟨0, []⟩ }
      ((opened sampleConfig 0 1).registerHid 7 [0x05, 0x01, 0xC0]
        { answers := fun n => if n = 0 then ⟨errorTimeout, []⟩ else ⟨0, []⟩ })
      first pieces fragments cleanup :=
  registerHid_registration _ _ _ _ rfl rfl (by decide) (by decide) (by decide)

end Device

end LibaoaHid.Transport

import LibaoaHid.Transport.Ports

/-!
# Accessory start

`Runtime::start_accessory` of `src/transport/port.cpp`: requests 51, 52 and 53 on the Port of a
selected device.

The Port is one that is already open for the bus and address of the selection, or a new one for the
device that `open_original` finds. Only the second looks at the identity of the device, so the
requests go to the selected device exactly when the Port that is borrowed, if there is one, belongs
to it.

## Main definitions

* `Runtime.startAccessory`.
* `Exchange.startResult`, `startScript`: the reading of the exchanges and the requests in order.
* `AccessoryStart`: the requests of one start.
* `Runtime.LenderMatches`: the Port that is borrowed, if there is one, is the right one.

## Main results

* `Runtime.startAccessory_iff_lenderMatches`.
-/

namespace LibaoaHid.Transport

open Libusb

/-! ### The source -/

/-- The result of an exchange before the version is looked at: the status part of
`control_result`. -/
def startStatusResult (status : ℤ) (request length : ℕ) : Result :=
  if status < 0 then mapLibusbError status (request == 51)
  else if status ≠ length then .errShortTransfer
  else .ok

/-- `control_result`. -/
def Bus.controlResult (bus : Bus) (status : ℤ) (request offset length : ℕ) : Result × Bus :=
  let result := startStatusResult status request length
  (result,
    if result ≠ .ok then bus.record (recordError result status request 0 offset length) else bus)

/-- The device is in accessory mode already: AOA vendor, products `0x2D00` to `0x2D05`. -/
def Candidate.inAccessoryMode (c : Candidate) : Prop :=
  c.vendorId = 0x18D1 ∧ 0x2D00 ≤ c.productId ∧ c.productId ≤ 0x2D05

instance (c : Candidate) : Decidable c.inAccessoryMode := inferInstanceAs (Decidable (_ ∧ _))

/-- Request 51. -/
def protocolRequest (handle timeoutMs : ℕ) : ControlRequest :=
  { handle, input := true, request := 51, length := 2, timeoutMs }

/-- Request 52, with the NUL of its string. -/
def stringRequest (handle timeoutMs index : ℕ) (string : List UInt8) : ControlRequest :=
  { handle
    request := 52
    index
    data := string ++ [0]
    length := string.length + 1
    timeoutMs }

/-- Request 53. -/
def startRequest (handle timeoutMs : ℕ) : ControlRequest := { handle, request := 53, timeoutMs }

/-- The loop of `start_accessory` over the strings, from `index` on. A string is the bytes before
its NUL. -/
def sendStrings (handle timeoutMs : ℕ) : ℕ → List (Option (List UInt8)) → Bus → Result × Bus
  | _, [], bus => (.ok, bus)
  | index, none :: rest, bus => sendStrings handle timeoutMs (index + 1) rest bus
  | index, some string :: rest, bus =>
    let length := string.length + 1
    if length > 2 ^ 16 - 1 then
      (.errOverflow, bus.record (recordError .errOverflow 0 52 0 index (2 ^ 32 - 1)))
    else
      let (answer, bus) := bus.controlTransfer (stringRequest handle timeoutMs index string)
      let (result, bus) := bus.controlResult answer.status 52 index length
      if result = .ok then sendStrings handle timeoutMs (index + 1) rest bus else (result, bus)

/-- Request 51 of `start_accessory`. -/
def getProtocol (handle timeoutMs : ℕ) (bus : Bus) : Result × Bus :=
  let (answer, bus) := bus.controlTransfer (protocolRequest handle timeoutMs)
  let (result, bus) := bus.controlResult answer.status 51 0 2
  if result = .errShortTransfer ∨
      (result = .ok ∧ answer.data.getD 0 0 = 0 ∧ answer.data.getD 1 0 = 0) then
    (.errNotAoa, bus.record (recordError .errNotAoa answer.status 51 0 0 2))
  else (result, bus)

/-- The requests of `start_accessory` on a handle. -/
def sendStart (handle timeoutMs : ℕ) (strings : Fin 6 → Option (List UInt8)) (bus : Bus) :
    Result × Bus :=
  let (result, bus) := getProtocol handle timeoutMs bus
  if result ≠ .ok then (result, bus)
  else
    let (result, bus) := sendStrings handle timeoutMs 0 (List.ofFn strings) bus
    if result ≠ .ok then (result, bus)
    else
      let (answer, bus) := bus.controlTransfer (startRequest handle timeoutMs)
      bus.controlResult answer.status 53 0 0

namespace Runtime

/-- The Port of `start_accessory`: one that is open already, or a new one. -/
def borrowPort (rt : Runtime) (host : Host) (c : Candidate) (bus : Bus) :
    Result × Option ℕ × Runtime × Bus :=
  match rt.retainPort c.bus c.address with
  | some (p, rt) => (.ok, some p, rt, bus)
  | none => rt.acquirePort host c bus

/-- `Runtime::start_accessory`. -/
def startAccessory (rt : Runtime) (host : Host) (c : Candidate)
    (strings : Fin 6 → Option (List UInt8)) (timeoutMs : ℕ) (bus : Bus) : Result × Runtime × Bus :=
  let bus := bus.record {}
  if c.inAccessoryMode then (.ok, rt, bus)
  else
    match rt.borrowPort host c bus with
    | (opened, none, rt, bus) => (opened, rt, bus)
    | (_, some p, rt, bus) =>
      let handle := ((rt.heap p).map (·.handle)).getD 0
      let (result, bus) := sendStart handle timeoutMs strings bus
      let error := bus.lastError
      let rt := rt.release p
      (result, rt,
        if result ≠ .ok then
          bus.record (recordError error.result error.nativeStatus error.aoaRequest error.hidId
            error.offset error.length)
        else bus)

end Runtime

/-! ### The reading of the exchanges -/

/-- The result of an exchange of a start. Request 51 has to return a version of two bytes that are
not both zero. -/
def Exchange.startResult (e : Exchange) : Result :=
  let result := startStatusResult e.answer.status e.request e.length
  if e.request = 51 ∧ (result = .errShortTransfer ∨
      (result = .ok ∧ e.answer.data.getD 0 0 = 0 ∧ e.answer.data.getD 1 0 = 0)) then .errNotAoa
  else result

/-- The diagnostic of a failed exchange of a start. -/
def Exchange.startDiagnostic (e : Exchange) : ErrorInfo :=
  recordError e.startResult e.answer.status e.request 0 e.index e.length

/-- The requests 52 for the strings from `index` on. -/
def stringRequests (handle timeoutMs : ℕ) : ℕ → List (Option (List UInt8)) → List ControlRequest
  | _, [] => []
  | index, none :: rest => stringRequests handle timeoutMs (index + 1) rest
  | index, some string :: rest =>
    stringRequest handle timeoutMs index string ::
      stringRequests handle timeoutMs (index + 1) rest

/-- All requests of a start, in their order. -/
def startScript (handle timeoutMs : ℕ) (strings : Fin 6 → Option (List UInt8)) :
    List ControlRequest :=
  [protocolRequest handle timeoutMs] ++
    (stringRequests handle timeoutMs 0 (List.ofFn strings) ++ [startRequest handle timeoutMs])

/-- The exchanges that follow a script until its first failure. -/
structure Follows (script : List ControlRequest) (bus : Bus) (out : Result × Bus)
    (trace : List Exchange) : Prop where
  sent_eq : out.2.sent = bus.sent ++ trace
  isPrefix : trace.map (·.toControlRequest) <+: script
  accepted : ∀ e ∈ trace.dropLast, e.startResult = .ok
  failed : ∀ e ∈ trace.getLast?, e.startResult ≠ .ok →
    out.1 = e.startResult ∧ out.2.lastError = e.startDiagnostic
  whole : out.1 = .ok →
    trace.map (·.toControlRequest) = script ∧ ∀ e ∈ trace, e.startResult = .ok

namespace Follows

variable {first second : List ControlRequest} {bus middle : Bus} {out : Result × Bus}
  {trace rest : List Exchange} {e : Exchange}

/-- A script that stops early stops with anything behind it. -/
theorem extend (h : Follows first bus out trace) (hstop : out.1 ≠ .ok) :
    Follows (first ++ second) bus out trace :=
  { h with
    isPrefix := h.isPrefix.trans (List.prefix_append _ _)
    whole := fun hok => absurd hok hstop }

/-- A script behind one that succeeded. -/
theorem append (h : Follows first bus (.ok, middle) trace)
    (hrest : Follows second middle out rest) :
    Follows (first ++ second) bus out (trace ++ rest) := by
  obtain ⟨hwhole, hall⟩ := h.whole rfl
  constructor
  case sent_eq =>
    rw [hrest.sent_eq, h.sent_eq, List.append_assoc]
  case isPrefix =>
    rw [List.map_append, hwhole]
    exact (List.prefix_append_right_inj _).mpr hrest.isPrefix
  case accepted =>
    intro e hmem
    rcases rest with _ | ⟨next, rest⟩
    · rw [List.append_nil] at hmem
      exact hall e (List.dropLast_subset _ hmem)
    · rw [List.dropLast_append_of_ne_nil (List.cons_ne_nil _ _)] at hmem
      rcases List.mem_append.mp hmem with hmem | hmem
      · exact hall e hmem
      · exact hrest.accepted e hmem
  case failed =>
    intro e hmem hfailed
    rcases rest with _ | ⟨next, rest⟩
    · rw [List.append_nil] at hmem
      exact absurd (hall e (List.mem_of_getLast? hmem)) hfailed
    · rw [List.getLast?_append, List.getLast?_eq_some_getLast (List.cons_ne_nil _ _),
        Option.some_or, ← List.getLast?_eq_some_getLast (List.cons_ne_nil _ _)] at hmem
      exact hrest.failed e hmem hfailed
  case whole =>
    intro hok
    obtain ⟨hsecond, hlast⟩ := hrest.whole hok
    refine ⟨by rw [List.map_append, hwhole, hsecond], fun e hmem => ?_⟩
    rcases List.mem_append.mp hmem with hmem | hmem
    · exact hall e hmem
    · exact hlast e hmem

/-- No request at all. -/
theorem nil {result : Result} (hsent : middle.sent = bus.sent) (hnil : result = .ok → first = []) :
    Follows first bus (result, middle) [] where
  sent_eq := by rw [hsent, List.append_nil]
  isPrefix := List.nil_prefix
  accepted := by simp
  failed := by simp
  whole := fun hok => ⟨(hnil hok).symm, by simp⟩

/-- One request. -/
theorem single (hsent : out.2.sent = bus.sent ++ [e]) (hresult : out.1 = e.startResult)
    (herror : e.startResult ≠ .ok → out.2.lastError = e.startDiagnostic) :
    Follows [e.toControlRequest] bus out [e] where
  sent_eq := hsent
  isPrefix := List.prefix_rfl
  accepted := by simp
  failed := by
    intro other hmem hfailed
    cases hmem
    exact ⟨hresult, herror hfailed⟩
  whole := by
    intro hok
    refine ⟨rfl, fun other hmem => ?_⟩
    rw [List.mem_singleton.mp hmem, ← hresult]
    exact hok

end Follows

/-! ### One exchange -/

theorem Bus.controlResult_sent (bus : Bus) (status : ℤ) (request offset length : ℕ) :
    (bus.controlResult status request offset length).2.sent = bus.sent := by
  unfold Bus.controlResult
  dsimp only
  split <;> rfl

theorem Bus.controlResult_lastError (bus : Bus) {status : ℤ} {request length : ℕ} (offset : ℕ)
    (h : startStatusResult status request length ≠ .ok) :
    (bus.controlResult status request offset length).2.lastError =
      recordError (startStatusResult status request length) status request 0 offset length := by
  unfold Bus.controlResult
  dsimp only
  rw [if_pos h]
  rfl

/-- A request 52 or 53 is one exchange. -/
theorem controlResult_follows {request : ControlRequest} (hcode : request.request ≠ 51)
    (bus : Bus) :
    Follows [request] bus
      ((bus.controlTransfer request).2.controlResult (bus.answers bus.sent.length).status
        request.request request.index request.length)
      [{ request with answer := bus.answers bus.sent.length }] := by
  have hresult : ({ request with answer := bus.answers bus.sent.length } : Exchange).startResult =
      startStatusResult (bus.answers bus.sent.length).status request.request request.length :=
    if_neg fun h => hcode h.1
  refine Follows.single (e := { request with answer := bus.answers bus.sent.length }) ?_ ?_ ?_
  · rw [Bus.controlResult_sent]
    rfl
  · exact hresult.symm
  · intro hfailed
    rw [hresult] at hfailed
    rw [Bus.controlResult_lastError _ _ hfailed, Exchange.startDiagnostic, hresult]

/-- Request 51 is one exchange. -/
theorem getProtocol_follows (handle timeoutMs : ℕ) (bus : Bus) :
    Follows [protocolRequest handle timeoutMs] bus (getProtocol handle timeoutMs bus)
      [{ protocolRequest handle timeoutMs with answer := bus.answers bus.sent.length }] := by
  obtain ⟨e, he⟩ : ∃ e : Exchange, e =
      { protocolRequest handle timeoutMs with answer := bus.answers bus.sent.length } := ⟨_, rfl⟩
  have hsent := Bus.controlResult_sent (bus.controlTransfer (protocolRequest handle timeoutMs)).2
    (bus.answers bus.sent.length).status 51 0 2
  have hrequest : [e.toControlRequest] = [protocolRequest handle timeoutMs] := by rw [he]
  rw [← he, ← hrequest]
  by_cases hversion : startStatusResult (bus.answers bus.sent.length).status 51 2 =
      .errShortTransfer ∨ (startStatusResult (bus.answers bus.sent.length).status 51 2 = .ok ∧
        (bus.answers bus.sent.length).data.getD 0 0 = 0 ∧
        (bus.answers bus.sent.length).data.getD 1 0 = 0)
  · have hresult : e.startResult = .errNotAoa := by
      rw [he]
      exact if_pos ⟨rfl, hversion⟩
    have hout : getProtocol handle timeoutMs bus = _ := if_pos hversion
    rw [hout]
    refine .single ?_ hresult.symm fun _ => ?_
    · rw [he]
      exact hsent
    · rw [Exchange.startDiagnostic, hresult, he]
      rfl
  · have hresult : e.startResult =
        startStatusResult (bus.answers bus.sent.length).status 51 2 := by
      rw [he]
      exact if_neg fun h => hversion h.2
    have hout : getProtocol handle timeoutMs bus = _ := if_neg hversion
    rw [hout]
    refine .single ?_ hresult.symm fun hfailed => ?_
    · rw [he]
      exact hsent
    · rw [hresult] at hfailed
      rw [Exchange.startDiagnostic, hresult, he]
      exact Bus.controlResult_lastError _ _ hfailed

/-! ### All of a start -/

/-- A string in front of the others, sent when it is not too long. -/
theorem sendStrings_cons (handle timeoutMs index : ℕ) {string : List UInt8}
    (rest : List (Option (List UInt8))) (bus : Bus) (hlong : ¬ string.length + 1 > 2 ^ 16 - 1) :
    sendStrings handle timeoutMs index (some string :: rest) bus =
      let out := (bus.controlTransfer (stringRequest handle timeoutMs index string)).2.controlResult
        (bus.answers bus.sent.length).status 52 index (string.length + 1)
      if out.1 = .ok then sendStrings handle timeoutMs (index + 1) rest out.2 else out := by
  rw [sendStrings, if_neg hlong]
  rfl

/-- **The loop over the strings.** -/
theorem sendStrings_follows (handle timeoutMs index : ℕ) (strings : List (Option (List UInt8)))
    (bus : Bus) :
    ∃ trace, Follows (stringRequests handle timeoutMs index strings) bus
      (sendStrings handle timeoutMs index strings bus) trace := by
  induction strings generalizing index bus with
  | nil => exact ⟨[], .nil rfl fun _ => rfl⟩
  | cons string rest ih =>
    rcases string with _ | string
    · exact ih (index + 1) bus
    · by_cases hlong : string.length + 1 > 2 ^ 16 - 1
      · refine ⟨[], ?_⟩
        rw [sendStrings, if_pos hlong]
        exact .nil rfl nofun
      · rw [sendStrings_cons handle timeoutMs index rest bus hlong]
        have hone := @controlResult_follows (stringRequest handle timeoutMs index string)
          (by simp [stringRequest]) bus
        change Follows _ _ ((bus.controlTransfer _).2.controlResult _ 52 index
          (string.length + 1)) _ at hone
        generalize (bus.controlTransfer
          (stringRequest handle timeoutMs index string)).2.controlResult
          (bus.answers bus.sent.length).status 52 index (string.length + 1) = out at hone ⊢
        rcases out with ⟨result, middle⟩
        by_cases hok : result = .ok
        · subst hok
          obtain ⟨trace, htrace⟩ := ih (index + 1) middle
          exact ⟨_, hone.append htrace⟩
        · have hstop : Follows (stringRequests handle timeoutMs index (some string :: rest)) bus
              (result, middle) _ := hone.extend hok
          rw [if_neg hok]
          exact ⟨_, hstop⟩

/-- The requests of a start, in the parts of its script. -/
theorem sendStart_eq (handle timeoutMs : ℕ) (strings : Fin 6 → Option (List UInt8)) (bus : Bus) :
    sendStart handle timeoutMs strings bus =
      let protocol := getProtocol handle timeoutMs bus
      let sent := sendStrings handle timeoutMs 0 (List.ofFn strings) protocol.2
      if protocol.1 ≠ .ok then protocol
      else if sent.1 ≠ .ok then sent
      else
        (sent.2.controlTransfer (startRequest handle timeoutMs)).2.controlResult
          (sent.2.answers sent.2.sent.length).status 53 0 0 := rfl

/-- **The requests of a start.** They follow the script, the first one always. -/
theorem sendStart_follows (handle timeoutMs : ℕ) (strings : Fin 6 → Option (List UInt8))
    (bus : Bus) :
    ∃ first rest, first.toControlRequest = protocolRequest handle timeoutMs ∧
      Follows (startScript handle timeoutMs strings) bus (sendStart handle timeoutMs strings bus)
        (first :: rest) := by
  obtain ⟨e, he⟩ : ∃ e : Exchange, e =
      { protocolRequest handle timeoutMs with answer := bus.answers bus.sent.length } := ⟨_, rfl⟩
  have hfirst : e.toControlRequest = protocolRequest handle timeoutMs := by rw [he]
  have hprotocol := getProtocol_follows handle timeoutMs bus
  rw [← he] at hprotocol
  rw [sendStart_eq, startScript]
  generalize getProtocol handle timeoutMs bus = protocol at hprotocol ⊢
  rcases protocol with ⟨result, bus₁⟩
  by_cases hok : result = .ok
  · subst hok
    obtain ⟨trace, hstrings⟩ := sendStrings_follows handle timeoutMs 0 (List.ofFn strings) bus₁
    dsimp only
    rw [if_neg (not_not_intro rfl)]
    generalize sendStrings handle timeoutMs 0 (List.ofFn strings) bus₁ = sent at hstrings ⊢
    rcases sent with ⟨result, bus₂⟩
    by_cases hsent : result = .ok
    · subst hsent
      have hstart := @controlResult_follows (startRequest handle timeoutMs)
        (by simp [startRequest]) bus₂
      exact ⟨e, _, hfirst, hprotocol.append (hstrings.append hstart)⟩
    · refine ⟨e, trace, hfirst, ?_⟩
      rw [if_pos hsent]
      exact hprotocol.append (hstrings.extend hsent)
  · refine ⟨e, [], hfirst, ?_⟩
    dsimp only
    rw [if_pos hok]
    exact hprotocol.extend hok

/-! ### The device that receives the requests -/

/-- A start as it should be: every request goes to a device that the candidate selects; the requests
follow the script up to the first failure, whose result and diagnostic are returned; a success has
sent all of them; and the Ports are as before. -/
structure AccessoryStart (rt : Runtime) (c : Candidate) (strings : Fin 6 → Option (List UInt8))
    (timeoutMs : ℕ) (bus : Bus) (out : Result × Runtime × Bus) (handle : ℕ)
    (trace : List Exchange) : Prop where
  sent_eq : out.2.2.sent = bus.sent ++ trace
  selected : ∀ e ∈ trace, ∃ device, out.2.1.handles[e.handle]? = some device ∧ c.Matches device
  isPrefix : trace.map (·.toControlRequest) <+: startScript handle timeoutMs strings
  accepted : ∀ e ∈ trace.dropLast, e.startResult = .ok
  failed : ∀ e ∈ trace.getLast?, e.startResult ≠ .ok →
    out.1 = e.startResult ∧ out.2.2.lastError = e.startDiagnostic
  whole : out.1 = .ok → ¬ c.inAccessoryMode →
    trace.map (·.toControlRequest) = startScript handle timeoutMs strings ∧
      ∀ e ∈ trace, e.startResult = .ok
  ports_eq : out.2.1.registry = rt.registry ∧ out.2.1.heap = rt.heap

/-- The open Port that a start borrows, if there is one, belongs to a device that the candidate
selects. -/
def Runtime.LenderMatches (rt : Runtime) (c : Candidate) : Prop :=
  ∀ p ∈ rt.lender c.bus c.address, ∃ port device,
    rt.heap p = some port ∧ rt.handles[port.handle]? = some device ∧ c.Matches device

/-- The requests of a script are all for one handle. -/
theorem handle_of_mem_startScript {handle timeoutMs : ℕ} {strings : Fin 6 → Option (List UInt8)}
    {request : ControlRequest} (h : request ∈ startScript handle timeoutMs strings) :
    request.handle = handle := by
  have hstrings : ∀ (index : ℕ) (list : List (Option (List UInt8))),
      ∀ request ∈ stringRequests handle timeoutMs index list, request.handle = handle := by
    intro index list
    induction list generalizing index with
    | nil => simp [stringRequests]
    | cons string rest ih =>
      rcases string with _ | string
      · exact ih (index + 1)
      · intro request hmem
        rcases List.mem_cons.mp hmem with rfl | hmem
        · rfl
        · exact ih (index + 1) request hmem
  simp only [startScript, List.mem_append, List.mem_singleton] at h
  rcases h with rfl | h | rfl
  · rfl
  · exact hstrings _ _ _ h
  · rfl

/-- The requests on a Port, and its release behind them. -/
theorem accessoryStart_of_port {rt middle : Runtime} {c : Candidate}
    {strings : Fin 6 → Option (List UInt8)} {timeoutMs handle p : ℕ} {bus : Bus}
    {device : UsbDevice} {error : ErrorInfo}
    (hhandle : (middle.release p).handles[handle]? = some device) (hdevice : c.Matches device)
    (hports : (middle.release p).registry = rt.registry ∧ (middle.release p).heap = rt.heap)
    (out : Result × Bus) (hout : out = sendStart handle timeoutMs strings (bus.record error)) :
    ∃ trace, AccessoryStart rt c strings timeoutMs bus
      (out.1, middle.release p,
        if out.1 ≠ .ok then
          out.2.record (recordError out.2.lastError.result out.2.lastError.nativeStatus
            out.2.lastError.aoaRequest out.2.lastError.hidId out.2.lastError.offset
            out.2.lastError.length)
        else out.2) handle trace := by
  obtain ⟨first, rest, -, h⟩ := sendStart_follows handle timeoutMs strings (bus.record error)
  rw [← hout] at h
  refine ⟨first :: rest, ?_⟩
  constructor
  case sent_eq =>
    refine Eq.trans ?_ h.sent_eq
    dsimp only
    split <;> rfl
  case selected =>
    intro e hmem
    have hscript := h.isPrefix.subset (List.mem_map_of_mem (f := (·.toControlRequest)) hmem)
    exact ⟨device, by rw [handle_of_mem_startScript hscript]; exact hhandle, hdevice⟩
  case isPrefix => exact h.isPrefix
  case accepted => exact h.accepted
  case failed =>
    intro e hmem hfailed
    obtain ⟨hresult, herror⟩ := h.failed e hmem hfailed
    refine ⟨hresult, ?_⟩
    dsimp only
    rw [if_pos (by rw [hresult]; exact hfailed), herror]
    rfl
  case whole => exact fun hok _ => h.whole hok
  case ports_eq => exact hports

/-- A start that has a Port. -/
theorem Runtime.startAccessory_of_port {rt middle : Runtime} {host : Host} {c : Candidate}
    {strings : Fin 6 → Option (List UInt8)} {timeoutMs : ℕ} {bus : Bus} {result : Result} {p : ℕ}
    {port : Port} (hmode : ¬ c.inAccessoryMode)
    (hborrow : rt.borrowPort host c (bus.record {}) = (result, some p, middle, bus.record {}))
    (hport : middle.heap p = some port) :
    rt.startAccessory host c strings timeoutMs bus =
      let out := sendStart port.handle timeoutMs strings (bus.record {})
      (out.1, middle.release p,
        if out.1 ≠ .ok then
          out.2.record (recordError out.2.lastError.result out.2.lastError.nativeStatus
            out.2.lastError.aoaRequest out.2.lastError.hidId out.2.lastError.offset
            out.2.lastError.length)
        else out.2) := by
  rw [startAccessory]
  simp only [if_neg hmode, hborrow, hport, Option.map_some, Option.getD_some]

/-- The Port of a lender. -/
theorem Runtime.borrowPort_of_lender {rt : Runtime} {host : Host} {c : Candidate} {bus : Bus}
    {p : ℕ} (hlender : rt.lender c.bus c.address = some p) :
    rt.borrowPort host c bus = (.ok, some p, rt.retain p, bus) := by
  rw [borrowPort, retainPort_eq, hlender]
  rfl

theorem Runtime.retain_heap {rt : Runtime} {p : ℕ} {port : Port} (hport : rt.heap p = some port) :
    (rt.retain p).heap p = some { port with references := port.references + 1 } := by
  simp [retain, updatePort, hport]

/-- A start keeps to the selected device when the Port that it borrows does. -/
theorem accessoryStart_of_lenderMatches {rt : Runtime} (hvalid : rt.Valid) (host : Host)
    {c : Candidate} (strings : Fin 6 → Option (List UInt8)) (timeoutMs : ℕ) (bus : Bus)
    (h : c.inAccessoryMode ∨ rt.LenderMatches c) :
    ∃ handle trace, AccessoryStart rt c strings timeoutMs bus
      (rt.startAccessory host c strings timeoutMs bus) handle trace := by
  by_cases hmode : c.inAccessoryMode
  · refine ⟨0, [], ?_⟩
    rw [Runtime.startAccessory, if_pos hmode]
    exact
      { sent_eq := (List.append_nil _).symm
        selected := by simp
        isPrefix := List.nil_prefix
        accepted := by simp
        failed := by simp
        whole := fun _ hnot => absurd hmode hnot
        ports_eq := ⟨rfl, rfl⟩ }
  · rcases hlender : rt.lender c.bus c.address with _ | p
    · have hacquire : rt.borrowPort host c (bus.record {}) =
          rt.acquirePort host c (bus.record {}) := by
        rw [Runtime.borrowPort, Runtime.retainPort_eq, hlender]
        rfl
      rcases rt.acquirePort_cases host c (bus.record {}) with
        ⟨result, rt', bus', hnone, hresult, hregistry, hheap, hsent⟩ | ⟨device, hdevice, hsome⟩
      · refine ⟨0, [], ?_⟩
        have hout : rt.startAccessory host c strings timeoutMs bus = (result, rt', bus') := by
          rw [Runtime.startAccessory]
          simp only [if_neg hmode, hacquire, hnone]
        rw [hout]
        exact
          { sent_eq := by rw [List.append_nil]; exact hsent
            selected := by simp
            isPrefix := List.nil_prefix
            accepted := by simp
            failed := by simp
            whole := fun hok _ => absurd hok hresult
            ports_eq := ⟨hregistry, hheap⟩ }
      · obtain ⟨hregistry, hheap, hhandles⟩ := Runtime.release_acquired hvalid c device
        have hport : (rt.acquired c device).heap rt.nextPort =
            some ⟨rt.handles.length, c.bus, device.address, 1, []⟩ := by
          simp [Runtime.acquired, Runtime.updatePort]
        rw [Runtime.startAccessory_of_port hmode (hacquire.trans hsome) hport]
        refine ⟨rt.handles.length, accessoryStart_of_port ?_ hdevice ⟨hregistry, hheap⟩ _ rfl⟩
        rw [hhandles, List.getElem?_concat_length]
    · obtain ⟨port, device, hport, hdevice, hmatches⟩ :=
        (h.resolve_left hmode) p (by rw [hlender]; rfl)
      obtain ⟨other, hother, hlive⟩ := Runtime.lender_eq_some hlender
      rw [hport, Option.some.injEq] at hother
      subst hother
      have hrestored := Runtime.release_retain hport hlive
      rw [Runtime.startAccessory_of_port hmode (Runtime.borrowPort_of_lender hlender)
        (Runtime.retain_heap hport)]
      refine ⟨port.handle, accessoryStart_of_port ?_ hmatches ?_ _ rfl⟩
      · rw [hrestored]
        exact hdevice
      · rw [hrestored]
        exact ⟨rfl, rfl⟩

/-- The first request of a start on a borrowed Port goes to the device of that Port. -/
theorem lenderMatches_of_accessoryStart {rt : Runtime} {host : Host} {c : Candidate}
    {strings : Fin 6 → Option (List UInt8)} {timeoutMs : ℕ} {bus : Bus} {handle : ℕ}
    {trace : List Exchange} (hmode : ¬ c.inAccessoryMode)
    (h : AccessoryStart rt c strings timeoutMs bus
      (rt.startAccessory host c strings timeoutMs bus) handle trace) : rt.LenderMatches c := by
  intro p hlender
  obtain ⟨port, hport, hlive⟩ := Runtime.lender_eq_some hlender
  have hborrow : rt.borrowPort host c (bus.record {}) = _ := Runtime.borrowPort_of_lender hlender
  have hstart := @Runtime.startAccessory_of_port _ _ _ _ strings timeoutMs _ _ _ _ hmode hborrow
    (Runtime.retain_heap hport)
  rw [Runtime.release_retain hport hlive] at hstart
  obtain ⟨first, rest, hfirst, hfollows⟩ :=
    sendStart_follows port.handle timeoutMs strings (bus.record {})
  have hsent : (rt.startAccessory host c strings timeoutMs bus).2.2.sent =
      bus.sent ++ first :: rest := by
    rw [hstart]
    refine Eq.trans ?_ hfollows.sent_eq
    dsimp only
    split <;> rfl
  have hmem : first ∈ trace := by
    rw [← List.append_cancel_left (h.sent_eq.symm.trans hsent).symm]
    exact List.mem_cons_self
  obtain ⟨device, hdevice, hmatches⟩ := h.selected first hmem
  have hhandle : first.handle = port.handle := congrArg ControlRequest.handle hfirst
  rw [hstart, hhandle] at hdevice
  exact ⟨port, device, hport, hdevice, hmatches⟩

/-- **Accessory start.** It talks only to the selected device exactly when the open Port of the bus
and the address, if there is one, belongs to that device. -/
theorem Runtime.startAccessory_iff_lenderMatches {rt : Runtime} (hvalid : rt.Valid) (host : Host)
    (c : Candidate) (strings : Fin 6 → Option (List UInt8)) (timeoutMs : ℕ) (bus : Bus) :
    (∃ handle trace, AccessoryStart rt c strings timeoutMs bus
      (rt.startAccessory host c strings timeoutMs bus) handle trace) ↔
      c.inAccessoryMode ∨ rt.LenderMatches c := by
  constructor
  · rintro ⟨handle, trace, h⟩
    by_cases hmode : c.inAccessoryMode
    · exact .inl hmode
    · exact .inr (lenderMatches_of_accessoryStart hmode h)
  · exact accessoryStart_of_lenderMatches hvalid host strings timeoutMs bus

/-! ### An address that was given to another device -/

/-- A phone on the second port of bus 1, with a Port that is open for it. -/
def otherPhone : UsbDevice :=
  { bus := 1, address := 5, portPath := [2], vendorId := 0x18D1, productId := 0x4EE1 }

/-- The selection of a phone that was unplugged from the first port of bus 1. Its address went to
`otherPhone`. -/
def unpluggedPhone : Candidate :=
  { bus := 1, address := 5, portPath := [1], vendorId := 0x04E8, productId := 0x6860 }

/-- The Runtime with the Port of `otherPhone`. -/
def otherPhoneRuntime : Runtime where
  heap := fun p =>
    if p = 0 then some { handle := 0, bus := 1, address := 5, references := 1 } else none
  nextPort := 1
  registry := [0]
  handles := [otherPhone]
  calls := [.opened 0]

theorem otherPhoneRuntime_valid : otherPhoneRuntime.Valid where
  heap_fresh := fun p hp => if_neg (Nat.pos_iff_ne_zero.mp hp)
  registered := by simp [otherPhoneRuntime]

/-- The device list with `otherPhone` alone. -/
def otherPhoneHost : Host where
  listing := .ok [{ device := otherPhone }]
  listing_neg := by simp

/-- A manufacturer and a model, and no other string. -/
def makerAndModel : Fin 6 → Option (List UInt8) := fun index =>
  if index.val < 2 then some [0x41] else none

/-- A target that accepts every request. -/
def acceptingBus : Bus where
  answers := fun n => if n < 3 then ⟨2, [2, 0]⟩ else ⟨0, []⟩

/-- The start that was meant for the unplugged phone goes to the other one. -/
theorem not_accessoryStart_unpluggedPhone :
    ¬ ∃ handle trace, AccessoryStart otherPhoneRuntime unpluggedPhone makerAndModel 500
      acceptingBus (otherPhoneRuntime.startAccessory otherPhoneHost unpluggedPhone makerAndModel 500
        acceptingBus) handle trace := by
  rintro ⟨handle, trace, h⟩
  obtain ⟨port, device, hport, hdevice, hmatches⟩ :=
    lenderMatches_of_accessoryStart (by decide) h 0 (by decide)
  cases hport
  cases hdevice
  exact absurd hmatches (by decide)

/-- The same Runtime with the selection of the phone that is there. -/
theorem Runtime.startAccessory_iff_lenderMatches_otherPhone :
    (∃ handle trace, AccessoryStart otherPhoneRuntime ⟨1, 5, [2], 0x18D1, 0x4EE1⟩ makerAndModel
      500 acceptingBus (otherPhoneRuntime.startAccessory otherPhoneHost
        ⟨1, 5, [2], 0x18D1, 0x4EE1⟩ makerAndModel 500 acceptingBus) handle trace) ↔
      Candidate.inAccessoryMode ⟨1, 5, [2], 0x18D1, 0x4EE1⟩ ∨
        otherPhoneRuntime.LenderMatches ⟨1, 5, [2], 0x18D1, 0x4EE1⟩ :=
  Runtime.startAccessory_iff_lenderMatches otherPhoneRuntime_valid _ _ _ _ _

end LibaoaHid.Transport

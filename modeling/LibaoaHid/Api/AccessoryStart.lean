import LibaoaHid.Api.DeviceOptions
import LibaoaHid.Transport.Discovery

/-!
# Starting the accessory mode

`aoahid_accessory_start` of `src/api/c_api.cpp`, from its options to the requests on the bus. Its
checks leave no string that the transport would refuse between two requests, so a start that has
sent something ends with the outcome of its last request.

## Main definitions

* `Transport.FollowsExactly`, `Transport.PortStarted`.
* `AccessoryOptions`, `prepareAccessoryOptions`, `accessoryStart`, `AccessoryStarted`.

## Main results

* `accessoryStart_started`: the requests of a start, its result and its diagnostic.
-/

namespace LibaoaHid

open Transport.Libusb

namespace Transport

/-! ### Scripts without a refusal of their own -/

/-- Exchanges that follow a script, where only a failed exchange ends it early. -/
structure FollowsExactly (script : List ControlRequest) (bus : Bus) (out : Result × Bus)
    (trace : List Exchange) : Prop extends Follows script bus out trace where
  stops : out.1 ≠ .ok → ∃ e ∈ trace.getLast?, e.startResult ≠ .ok

namespace FollowsExactly

variable {first second : List ControlRequest} {bus middle : Bus} {out : Result × Bus}
  {trace rest : List Exchange}

theorem extend (h : FollowsExactly first bus out trace) (hstop : out.1 ≠ .ok) :
    FollowsExactly (first ++ second) bus out trace :=
  { h.toFollows.extend hstop with stops := h.stops }

theorem append (h : FollowsExactly first bus (.ok, middle) trace)
    (hrest : FollowsExactly second middle out rest) :
    FollowsExactly (first ++ second) bus out (trace ++ rest) where
  toFollows := h.toFollows.append hrest.toFollows
  stops hfailed := by
    obtain ⟨e, hmem, he⟩ := hrest.stops hfailed
    refine ⟨e, ?_, he⟩
    rw [List.getLast?_append, Option.mem_def.mp hmem, Option.some_or]
    rfl

/-- The result is that of the last exchange. -/
theorem result_eq (h : FollowsExactly first bus out trace) {last : Exchange}
    (hlast : trace.getLast? = some last) : out.1 = last.startResult := by
  by_cases hok : out.1 = .ok
  · rw [hok, (h.whole hok).2 last (List.mem_of_getLast? hlast)]
  · obtain ⟨e, hmem, he⟩ := h.stops hok
    rw [Option.mem_def, hlast, Option.some.injEq] at hmem
    subst hmem
    exact (h.failed last hlast he).1

end FollowsExactly

theorem controlResult_exactly {request : ControlRequest} (hcode : request.request ≠ 51)
    (bus : Bus) :
    FollowsExactly [request] bus
      ((bus.controlTransfer request).2.controlResult (bus.answers bus.sent.length).status
        request.request request.index request.length)
      [{ request with answer := bus.answers bus.sent.length }] where
  toFollows := controlResult_follows hcode bus
  stops hfailed := by
    have hresult : ({ request with answer := bus.answers bus.sent.length } : Exchange).startResult =
        startStatusResult (bus.answers bus.sent.length).status request.request request.length :=
      if_neg fun h => hcode h.1
    exact ⟨{ request with answer := bus.answers bus.sent.length }, rfl, hresult ▸ hfailed⟩

theorem getProtocol_result (handle timeoutMs : ℕ) (bus : Bus) :
    (getProtocol handle timeoutMs bus).1 = ({ protocolRequest handle timeoutMs with
      answer := bus.answers bus.sent.length } : Exchange).startResult := by
  rw [getProtocol, Exchange.startResult]
  dsimp only [Bus.controlTransfer, Bus.controlResult, protocolRequest]
  split
  · rename_i hversion
    exact (if_pos ⟨rfl, hversion⟩).symm
  · rename_i hversion
    exact (if_neg fun h => hversion h.2).symm

theorem getProtocol_exactly (handle timeoutMs : ℕ) (bus : Bus) :
    FollowsExactly [protocolRequest handle timeoutMs] bus (getProtocol handle timeoutMs bus)
      [{ protocolRequest handle timeoutMs with answer := bus.answers bus.sent.length }] where
  toFollows := getProtocol_follows handle timeoutMs bus
  stops hfailed :=
    ⟨{ protocolRequest handle timeoutMs with answer := bus.answers bus.sent.length }, rfl,
      getProtocol_result handle timeoutMs bus ▸ hfailed⟩

/-- **The loop over short strings.** -/
theorem sendStrings_exactly (handle timeoutMs index : ℕ) (strings : List (Option (List UInt8)))
    (hshort : ∀ string, some string ∈ strings → string.length + 1 ≤ 2 ^ 16 - 1) (bus : Bus) :
    ∃ trace, FollowsExactly (stringRequests handle timeoutMs index strings) bus
      (sendStrings handle timeoutMs index strings bus) trace := by
  induction strings generalizing index bus with
  | nil => exact ⟨[], .nil rfl fun _ => rfl, fun hfailed => absurd rfl hfailed⟩
  | cons string rest ih =>
    have hrest : ∀ string, some string ∈ rest → string.length + 1 ≤ 2 ^ 16 - 1 :=
      fun string hmem => hshort string (List.mem_cons_of_mem _ hmem)
    cases string with
    | none => exact ih (index + 1) hrest bus
    | some string =>
      have hone := @controlResult_exactly (stringRequest handle timeoutMs index string)
        (by simp [stringRequest]) bus
      change FollowsExactly _ _ ((bus.controlTransfer _).2.controlResult _ 52 index
        (string.length + 1)) _ at hone
      rw [sendStrings_cons handle timeoutMs index rest bus
        (not_lt.mpr (hshort string List.mem_cons_self))]
      generalize (bus.controlTransfer (stringRequest handle timeoutMs index string)).2.controlResult
        (bus.answers bus.sent.length).status 52 index (string.length + 1) = out at hone ⊢
      obtain ⟨result, middle⟩ := out
      by_cases hok : result = .ok
      · subst hok
        obtain ⟨trace, htrace⟩ := ih (index + 1) hrest middle
        exact ⟨_, hone.append htrace⟩
      · have hstop : FollowsExactly (stringRequests handle timeoutMs index (some string :: rest))
            bus (result, middle) _ := hone.extend hok
        rw [if_neg hok]
        exact ⟨_, hstop⟩

/-- **The requests of a start with short strings.** -/
theorem sendStart_exactly (handle timeoutMs : ℕ) (strings : Fin 6 → Option (List UInt8))
    (hshort : ∀ string, some string ∈ List.ofFn strings → string.length + 1 ≤ 2 ^ 16 - 1)
    (bus : Bus) :
    ∃ first rest, FollowsExactly (startScript handle timeoutMs strings) bus
      (sendStart handle timeoutMs strings bus) (first :: rest) := by
  have hprotocol := getProtocol_exactly handle timeoutMs bus
  rw [sendStart_eq, startScript]
  generalize getProtocol handle timeoutMs bus = protocol at hprotocol ⊢
  obtain ⟨result, bus₁⟩ := protocol
  by_cases hok : result = .ok
  · subst hok
    obtain ⟨trace, hstrings⟩ :=
      sendStrings_exactly handle timeoutMs 0 (List.ofFn strings) hshort bus₁
    dsimp only
    rw [if_neg (not_not_intro rfl)]
    generalize sendStrings handle timeoutMs 0 (List.ofFn strings) bus₁ = sent at hstrings ⊢
    obtain ⟨result, bus₂⟩ := sent
    by_cases hsent : result = .ok
    · subst hsent
      have hstart := @controlResult_exactly (startRequest handle timeoutMs)
        (by simp [startRequest]) bus₂
      exact ⟨_, _, hprotocol.append (hstrings.append hstart)⟩
    · rw [if_pos hsent]
      exact ⟨_, _, hprotocol.append (hstrings.extend hsent)⟩
  · dsimp only
    rw [if_pos hok]
    exact ⟨_, _, hprotocol.extend hok⟩

/-! ### The start on a Port -/

/-- A start that has sent something: the requests follow the script until the first failure, and the
result and the diagnostic are those of the last exchange. -/
structure PortStarted (script : List ControlRequest) (bus : Bus) (out : Result × Runtime × Bus)
    (trace : List Exchange) (last : Exchange) : Prop where
  sent_eq : out.2.2.sent = bus.sent ++ trace
  last_eq : trace.getLast? = some last
  isPrefix : trace.map (·.toControlRequest) <+: script
  accepted : ∀ e ∈ trace.dropLast, e.startResult = .ok
  result_eq : out.1 = last.startResult
  error_eq : out.1 ≠ .ok → out.2.2.lastError = last.startDiagnostic
  whole : out.1 = .ok → trace.map (·.toControlRequest) = script

namespace Runtime

variable {rt : Runtime} {host : Host} {c : Candidate}

/-- A Port is borrowed without a request, or there is none. -/
theorem borrowPort_cases (rt : Runtime) (host : Host) (c : Candidate) (bus : Bus) :
    (∃ result rt' bus', rt.borrowPort host c bus = (result, none, rt', bus') ∧ result ≠ .ok ∧
        bus'.sent = bus.sent) ∨
      ∃ p rt', rt.borrowPort host c bus = (.ok, some p, rt', bus) := by
  rw [borrowPort]
  split
  · exact .inr ⟨_, _, rfl⟩
  · rcases rt.acquirePort_handles host c bus with
      ⟨result, rt', bus', heq, hfailed, -, hsent⟩ | ⟨u, -, heq⟩
    · exact .inl ⟨result, rt', bus', heq, hfailed, hsent⟩
    · exact .inr ⟨_, _, heq⟩

/-- A start sends nothing, or is one that has sent something. -/
theorem startAccessory_cases (rt : Runtime) (host : Host) (c : Candidate)
    (strings : Fin 6 → Option (List UInt8)) (timeoutMs : ℕ) (bus : Bus)
    (hshort : ∀ string, some string ∈ List.ofFn strings → string.length + 1 ≤ 2 ^ 16 - 1) :
    ((rt.startAccessory host c strings timeoutMs bus).2.2.sent = bus.sent ∧
        ((rt.startAccessory host c strings timeoutMs bus).1 = .ok → c.inAccessoryMode)) ∨
      ∃ handle trace last, PortStarted (startScript handle timeoutMs strings) bus
        (rt.startAccessory host c strings timeoutMs bus) trace last := by
  rw [startAccessory]
  dsimp only
  split
  · rename_i hmode
    exact .inl ⟨rfl, fun _ => hmode⟩
  · rcases rt.borrowPort_cases host c (bus.record {}) with
      ⟨result, rt', bus', heq, hfailed, hsent⟩ | ⟨p, rt', heq⟩
    · rw [heq]
      exact .inl ⟨hsent, fun hok => absurd hok hfailed⟩
    · rw [heq]
      refine .inr ⟨((rt'.heap p).map (·.handle)).getD 0, ?_⟩
      obtain ⟨first, rest, h⟩ := sendStart_exactly (((rt'.heap p).map (·.handle)).getD 0) timeoutMs
        strings hshort (bus.record {})
      dsimp only
      generalize sendStart (((rt'.heap p).map (·.handle)).getD 0) timeoutMs strings
        (bus.record {}) = out at h ⊢
      have hlast := List.getLast?_eq_some_getLast (List.cons_ne_nil first rest)
      have hresult := h.result_eq hlast
      refine ⟨first :: rest, (first :: rest).getLast (List.cons_ne_nil first rest), ?_⟩
      constructor
      case sent_eq =>
        refine Eq.trans ?_ h.sent_eq
        dsimp only
        split <;> rfl
      case last_eq => exact hlast
      case isPrefix => exact h.isPrefix
      case accepted => exact h.accepted
      case result_eq => exact hresult
      case error_eq =>
        intro hfailed
        dsimp only at hfailed ⊢
        rw [if_pos hfailed, (h.failed _ hlast (hresult ▸ hfailed)).2]
        rfl
      case whole => exact fun hok => (h.whole hok).1

end Runtime

end Transport

/-! ### The call -/

open Transport (Bus DeviceInfo Exchange Host Runtime PortStarted startScript)

/-- `aoahid_accessory_options`. A string is the bytes before its NUL, and none for a null pointer;
the manufacturer and the model are the first two. -/
structure AccessoryOptions where
  structSize : UInt32
  reserved : UInt32 := 0
  strings : Fin 6 → Option (List UInt8)
  controlTimeoutMs : UInt32 := 0

/-- `sizeof(aoahid_accessory_options)`. -/
def AccessoryOptions.size : UInt32 := 64

/-- The first string with more than 256 bytes, its NUL included. -/
def longString (strings : Fin 6 → Option (List UInt8)) : Option ℕ :=
  (List.ofFn strings).findIdx? fun string => string.any fun bytes => bytes.length + 1 > 256

/-- The options of `aoahid_accessory_start`, checked, with the timeout of its requests. -/
def prepareAccessoryOptions (options : Option AccessoryOptions) : Except Reply AccessoryOptions :=
  match structRefusal (options.map (·.structSize)) AccessoryOptions.size "accessory_options",
    options with
  | some error, _ => .error ⟨.errParam, error⟩
  | none, none => .error ⟨.errParam, clearError⟩
  | none, some options =>
    if options.reserved ≠ 0 ∨ (options.strings 0).getD [] = [] ∨
        (options.strings 1).getD [] = [] then
      .error (.fail .errUnsetField "accessory_options.strings"
        ("A nonempty manufacturer and model are required product values, and reserved " ++
          "must be zero."))
    else
      match longString options.strings with
      | some index =>
        .error (.fail .errOverflow "accessory_options.strings"
          "An AOA identification string exceeds 256 bytes including its NUL." 0 52 0 0 index)
      | none => .ok { options with controlTimeoutMs := orFallback options.controlTimeoutMs 500 }

/-- `finish_transport_result` for a failed operation without a Node. -/
def finishStartResult (error : TransportError) : Reply :=
  let transport : ErrorInfo :=
    if error.lastError.result ≠ error.result then { result := error.result } else error.lastError
  .fail error.result "accessory.start" "An AOA accessory-mode start request failed."
    transport.nativeStatus transport.aoaRequest transport.hidId
    (if transport.aoaRequest = 57 then transport.reportId else 0) transport.offset transport.length

/-- The reply names the last request of the start. -/
theorem finishStartResult_eq {error : TransportError} {last : Exchange}
    (hresult : error.result = last.startResult) (herror : error.lastError = last.startDiagnostic) :
    finishStartResult error =
      .fail last.startResult "accessory.start" "An AOA accessory-mode start request failed."
        last.answer.status last.request 0 0 last.index last.length := by
  have hsame : error.lastError.result = error.result := by
    rw [herror, hresult]
    rfl
  rw [finishStartResult, if_neg (not_not_intro hsame), herror, hresult]
  split <;> rfl

/-- `aoahid_accessory_start`. -/
def accessoryStart (rt : Runtime) (info : DeviceInfo) (options : Option AccessoryOptions)
    (deferred : Option Refusal) (host : Host) (bus : Bus) : Reply × Runtime × Bus :=
  match deferred with
  | some refusal => (refusal.reply, rt, bus)
  | none =>
    if info.checkPortPath ≠ .ok then
      (.fail info.checkPortPath "device.port_path"
        "A nonempty libusb physical path needs a pointer and cannot exceed seven ports.", rt, bus)
    else
      match prepareAccessoryOptions options with
      | .error reply => (reply, rt, bus)
      | .ok effective =>
        let (result, rt, bus) := rt.startAccessory host info.copyCandidate.toCandidate
          effective.strings effective.controlTimeoutMs.toNat bus
        if h : result ≠ .ok then (finishStartResult ⟨result, bus.lastError, h⟩, rt, bus)
        else (.ok, rt, bus)

/-! ### What a start sends -/

variable {options : Option AccessoryOptions} {effective : AccessoryOptions}

theorem prepareAccessoryOptions_failed {reply : Reply}
    (h : prepareAccessoryOptions options = .error reply) : reply.result ≠ .ok := by
  rw [prepareAccessoryOptions.eq_def] at h
  split at h
  · cases h
    rintro ⟨⟩
  · cases h
    rintro ⟨⟩
  · split at h
    · cases h
      rintro ⟨⟩
    · split at h
      · cases h
        rintro ⟨⟩
      · cases h

/-- The options that pass: a manufacturer and a model, no string that is too long, and a timeout. -/
structure AccessoryOptions.Accepted (options : AccessoryOptions) : Prop where
  manufacturer : ∃ bytes, options.strings 0 = some bytes ∧ bytes ≠ []
  model : ∃ bytes, options.strings 1 = some bytes ∧ bytes ≠ []
  short : ∀ string, some string ∈ List.ofFn options.strings → string.length + 1 ≤ 256
  timeout_pos : 0 < options.controlTimeoutMs.toNat

theorem exists_of_getD_ne {α : Type} {value : Option (List α)} (h : ¬value.getD [] = []) :
    ∃ bytes, value = some bytes ∧ bytes ≠ [] := by
  cases value with
  | none => exact absurd rfl h
  | some bytes => exact ⟨bytes, rfl, h⟩

theorem prepareAccessoryOptions_accepted (h : prepareAccessoryOptions options = .ok effective) :
    effective.Accepted := by
  rw [prepareAccessoryOptions.eq_def] at h
  split at h
  · cases h
  · cases h
  · split at h
    · cases h
    rename_i hset
    split at h
    · cases h
    rename_i hlong
    cases h
    simp only [not_or] at hset
    obtain ⟨-, hmanufacturer, hmodel⟩ := hset
    refine ⟨exists_of_getD_ne hmanufacturer, exists_of_getD_ne hmodel, fun string hmem => ?_,
      RequestedDevice.pos_of_ne (orFallback_ne (by decide))⟩
    have hnone := List.findIdx?_eq_none_iff.mp hlong (some string) hmem
    simpa using hnone

/-- The strings of a script are sent with its timeout, and with no more than their own bytes. -/
theorem mem_stringRequests {handle timeoutMs index : ℕ} {strings : List (Option (List UInt8))}
    (hshort : ∀ string, some string ∈ strings → string.length + 1 ≤ 256)
    {request : Transport.ControlRequest}
    (h : request ∈ Transport.stringRequests handle timeoutMs index strings) :
    request.timeoutMs = timeoutMs ∧ request.length ≤ 256 := by
  induction strings generalizing index with
  | nil => cases h
  | cons string rest ih =>
    have hrest : ∀ string, some string ∈ rest → string.length + 1 ≤ 256 :=
      fun string hmem => hshort string (List.mem_cons_of_mem _ hmem)
    cases string with
    | none => exact ih hrest h
    | some string =>
      rcases List.mem_cons.mp h with rfl | hmem
      · exact ⟨rfl, hshort string List.mem_cons_self⟩
      · exact ih hrest hmem

/-- The requests of a script are short and have its timeout. -/
theorem mem_startScript {handle timeoutMs : ℕ} {strings : Fin 6 → Option (List UInt8)}
    (hshort : ∀ string, some string ∈ List.ofFn strings → string.length + 1 ≤ 256)
    {request : Transport.ControlRequest} (h : request ∈ startScript handle timeoutMs strings) :
    request.timeoutMs = timeoutMs ∧ request.length ≤ 256 := by
  rw [startScript, List.mem_append, List.mem_append, List.mem_singleton, List.mem_singleton] at h
  rcases h with rfl | h | rfl
  · exact ⟨rfl, (by decide : 2 ≤ 256)⟩
  · exact mem_stringRequests hshort h
  · exact ⟨rfl, Nat.zero_le _⟩

/-- A start that has sent something: its options pass, its requests follow the script of their
strings until the first failure, and the reply is the outcome of the last one. -/
structure AccessoryStarted (options : Option AccessoryOptions) (bus : Bus)
    (out : Reply × Runtime × Bus) (effective : AccessoryOptions) (handle : ℕ)
    (trace : List Exchange) (last : Exchange) : Prop where
  prepared : prepareAccessoryOptions options = .ok effective
  sent_eq : out.2.2.sent = bus.sent ++ trace
  last_eq : trace.getLast? = some last
  isPrefix : trace.map (·.toControlRequest) <+:
    startScript handle effective.controlTimeoutMs.toNat effective.strings
  accepted : ∀ e ∈ trace.dropLast, e.startResult = .ok
  bounded : ∀ e ∈ trace, 0 < e.timeoutMs ∧ e.length ≤ 256
  success : last.startResult = .ok → out.1 = .ok ∧ trace.map (·.toControlRequest) =
    startScript handle effective.controlTimeoutMs.toNat effective.strings
  failure : last.startResult ≠ .ok → out.1 = .fail last.startResult "accessory.start"
    "An AOA accessory-mode start request failed." last.answer.status last.request 0 0 last.index
    last.length

/-- **What a start sends.** Whatever the Runtime, the selection, the options and the answers, a
start sends nothing, and then succeeds only for a device in accessory mode; or its options pass,
and its requests follow the script of their strings until the first failure. Each has a timeout
and at most 256 bytes, the reply is the outcome of the last one and names it, and a success has
sent them all. -/
theorem accessoryStart_started (rt : Runtime) (info : DeviceInfo)
    (options : Option AccessoryOptions) (deferred : Option Refusal) (host : Host) (bus : Bus) :
    ((accessoryStart rt info options deferred host bus).2.2.sent = bus.sent ∧
        ((accessoryStart rt info options deferred host bus).1.result = .ok →
          info.copyCandidate.toCandidate.inAccessoryMode)) ∨
      ∃ effective handle trace last, AccessoryStarted options bus
        (accessoryStart rt info options deferred host bus) effective handle trace last := by
  rw [accessoryStart.eq_def]
  split
  · rename_i refusal
    exact .inl ⟨rfl, fun hok => absurd hok refusal.failed⟩
  split
  · rename_i hpath
    exact .inl ⟨rfl, fun hok => absurd hok hpath⟩
  split
  · rename_i reply hrefused
    exact .inl ⟨rfl, fun hok => absurd hok (prepareAccessoryOptions_failed hrefused)⟩
  rename_i effective hprepared
  have haccepted := prepareAccessoryOptions_accepted hprepared
  have hshort : ∀ string, some string ∈ List.ofFn effective.strings →
      string.length + 1 ≤ 2 ^ 16 - 1 :=
    fun string hmem => (haccepted.short string hmem).trans (by decide)
  have hcases := rt.startAccessory_cases host info.copyCandidate.toCandidate effective.strings
    effective.controlTimeoutMs.toNat bus hshort
  generalize rt.startAccessory host info.copyCandidate.toCandidate effective.strings
    effective.controlTimeoutMs.toNat bus = out at hcases ⊢
  obtain ⟨result, rt', bus'⟩ := out
  dsimp only at hcases ⊢
  rcases hcases with ⟨hsent, hmode⟩ | ⟨handle, trace, last, h⟩
  · left
    split
    · rename_i hfailed
      exact ⟨hsent, fun hok => absurd hok hfailed⟩
    · rename_i hok
      exact ⟨hsent, fun _ => hmode (not_not.mp hok)⟩
  · right
    have hresult : result = last.startResult := h.result_eq
    refine ⟨effective, handle, trace, last, ?_⟩
    constructor
    case prepared => exact hprepared
    case sent_eq => split <;> exact h.sent_eq
    case last_eq => exact h.last_eq
    case isPrefix => exact h.isPrefix
    case accepted => exact h.accepted
    case bounded =>
      intro e he
      obtain ⟨htimeout, hlength⟩ := mem_startScript haccepted.short
        (h.isPrefix.subset (List.mem_map_of_mem (f := (·.toControlRequest)) he))
      exact ⟨htimeout ▸ haccepted.timeout_pos, hlength⟩
    case success =>
      intro hok
      rw [dif_neg (not_not_intro (hresult.trans hok))]
      exact ⟨rfl, h.whole (hresult.trans hok)⟩
    case failure =>
      intro hfailed
      have hne : result ≠ .ok := hresult ▸ hfailed
      have herror : bus'.lastError = last.startDiagnostic := h.error_eq hne
      rw [dif_pos hne]
      exact finishStartResult_eq hresult herror

end LibaoaHid

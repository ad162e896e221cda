import LibaoaHid.Profiles.Serializer
import LibaoaHid.Profiles.Completion
import LibaoaHid.Api.NodeState

/-!
# Submitting a report

`aoahid_node_submit` of `src/api/c_api.cpp`. What the call finds outside the Node is its
`SubmitEnv`: the deferred Context error, the transfer slot of the pool, the clock, and whether
libusb accepts the transfer. An accepted report stays in flight until its completion.

## Main definitions

* `consumeCompletion`, `completionReason`, `finishTransportResult`.
* `Rejection`, `SubmitEnv`.
* `updateScanTime`, `rollbackScanTime`.
* `nodeSubmit`.
-/

namespace LibaoaHid

/-! ### Completions and transport errors -/

/-- `completion_reason`. -/
def completionReason : Result → String
  | .errStall =>
    ("The device refused AOA request 57 (STALL); nothing was applied and the state " ++
      "stays pending for a resend. Right after aoahid_node_open this usually means " ++
      "Android has not finished registering the HID.")
  | .errTimeout => "AOA request 57 timed out; delivery to the accessory cannot be established."
  | .errShortTransfer =>
    ("AOA request 57 completed with an actual payload length different from the " ++
      "requested length.")
  | .errNoDevice => "The device disappeared before or while AOA request 57 was sent."
  | .errOverflow => "libusb completed AOA request 57 with a transfer-overflow status."
  | .errIo =>
    ("The asynchronous AOA request 57 transfer ended with a libusb I/O or cancellation " ++
      "status.")
  | _ => "The asynchronous AOA request 57 transfer failed."

/-- `consume_completion`: the result of the last completion, which it clears. -/
def consumeCompletion (node : Node) (field : String) : Reply × Node :=
  let result := node.completionResult
  let consumed : Node := { node with
    completionResult := .ok
    completionNativeStatus := 0
    completionReportLength := 0
    completionReportId := 0 }
  if result = .ok then (.ok, consumed)
  else
    (.fail result field (completionReason result) node.completionNativeStatus 57 node.hidId
      node.completionReportId 0 node.completionReportLength, consumed)

/-- A reply of code outside the Node that refuses. -/
structure Refusal where
  reply : Reply
  failed : reply.result ≠ .ok

/-- A failed operation of the transport, with the thread's `last_error` behind it. -/
structure TransportError where
  result : Result
  lastError : ErrorInfo := {}
  failed : result ≠ .ok

/-- `finish_transport_result` for a failed operation. -/
def finishTransportResult (error : TransportError) (field reason : String) (node : Node)
    (fallbackRequest fallbackOffset fallbackLength : ℕ := 0) : Reply :=
  let transport : ErrorInfo :=
    if error.lastError.result ≠ error.result then
      { result := error.result
        aoaRequest := fallbackRequest
        hidId := node.hidId
        offset := fallbackOffset
        length := fallbackLength
        reportId := node.reportId }
    else error.lastError
  .fail error.result field reason transport.nativeStatus
    (if transport.aoaRequest ≠ 0 then transport.aoaRequest else fallbackRequest)
    (if transport.hidId ≠ 0 then transport.hidId else node.hidId)
    (if transport.aoaRequest = 57 then transport.reportId else node.reportId)
    (if transport.offset ≠ 0 then transport.offset else fallbackOffset)
    (if transport.length ≠ 0 then transport.length else fallbackLength)

/-- A transfer that libusb did not accept; its status is negative. -/
structure Rejection extends TransportError where
  nativeStatus : ℤ
  negative : nativeStatus < 0

/-- What a submit meets outside the Node. -/
structure SubmitEnv where
  /-- The deferred error of the Context, if one is pending. -/
  deferred : Option Refusal := none
  /-- The payload of a transfer slot, with its previous contents, or the error of the pool. -/
  acquire : Except TransportError (List UInt8)
  /-- The steady clock in nanoseconds. -/
  now : ℤ := 0
  validateReports : Bool := false
  /-- The rejection of the transfer by libusb, if there is one. -/
  rejection : Option Rejection := none

/-! ### Scan Time -/

/-- Whether the submit starts a frame of a Spec with Scan Time. -/
def updatesScanTime (node : Node) : Bool :=
  match node.state, node.spec.config with
  | .touch touch, .touch { fields } => touch.packetCursor == 0 && fields.enableScanTime == 1
  | _, _ => false

/-- The Scan Time of a frame: zero for the first one of an epoch, else the time since then in
units of 100 microseconds. -/
def stampScanTime (touch : TouchState) (fields : TouchFields) (now : ℤ) : TouchState :=
  if !touch.scanEpochActive then
    { touch with scanEpoch := now, scanEpochActive := true, scanTime := 0 }
  else
    -- `duration_cast` truncates toward zero.
    let elapsed := (now - touch.scanEpoch).tdiv 1000
    let ticks := if elapsed ≤ 0 then 0 else elapsed.toNat / 100
    let modulus := fields.scanTime.logicalMaximum.toInt.toNat + 1
    { touch with scanTime := ticks % modulus % 2 ^ 32 }

/-- The update of the Scan Time in front of the serializer. -/
def updateScanTime (node : Node) (now : ℤ) : Node :=
  match node.state, node.spec.config with
  | .touch touch, .touch { fields } =>
    if touch.packetCursor = 0 ∧ fields.enableScanTime = 1 then
      { node with state := .touch (stampScanTime touch fields now) }
    else node
  | _, _ => node

/-- `rollback_scan_time`, to the Scan Time of the Node `before` the update. -/
def rollbackScanTime (before node : Node) : Node :=
  match before.state, node.state with
  | .touch previous, .touch touch =>
    if updatesScanTime before then
      { node with state := .touch { touch with
          scanTime := previous.scanTime
          scanEpoch := previous.scanEpoch
          scanEpochActive := previous.scanEpochActive } }
    else node
  | _, _ => node

/-! ### The call -/

/-- The outcome of a submit: its reply, the Node, and the report if libusb accepted it. -/
structure Submitted where
  reply : Reply
  node : Node
  accepted : Option (List UInt8) := none

/-- `aoahid_node_submit`, from the acquired slot on. -/
def submitInto (node : Node) (env : SubmitEnv) (payload : List UInt8) : Submitted :=
  let idle (node : Node) : Node := { node with transferInflight := false }
  let serialized := serializeNode (updateScanTime node env.now) payload
  let report := serialized.buffer.take serialized.reportLength
  let validated :=
    if env.validateReports then validateSerializedReport node.spec report else Reply.ok
  if serialized.reply.result ≠ .ok then
    { reply := serialized.reply, node := idle (rollbackScanTime node serialized.node) }
  else if validated.result ≠ .ok then
    { reply := validated, node := idle (rollbackScanTime node serialized.node) }
  else
    let submitted : Node := { serialized.node with
      submittedNonNeutral := hasNonNeutralState serialized.node
      submittedReportLength := serialized.reportLength
      submittedReportId := node.reportId }
    match env.rejection with
    | none => { reply := .ok, node := submitted, accepted := some report }
    | some rejection =>
      let completed := transferComplete submitted rejection.result rejection.nativeStatus
      let (reply, consumed) := consumeCompletion (rollbackScanTime node completed) "node.submit"
      if reply.result = .ok then
        { reply := finishTransportResult rejection.toTransportError "node.submit"
            "libusb rejected AOA request 57 before asynchronous completion." node 57 0
            serialized.reportLength
          node := consumed }
      else { reply := ⟨rejection.result, reply.error⟩, node := consumed }

/-- `aoahid_node_submit`. -/
def nodeSubmit (node : Node) (env : SubmitEnv) : Submitted :=
  if node.closed then
    { reply := .fail .errParam "node.submit"
        "A live Node attached to a Device and Spec is required."
      node }
  else if node.spec.kind = .raw then
    { reply := .fail .errUnsupported "node.submit"
        "Raw nodes require aoahid_raw_submit() with an explicit report buffer."
      node }
  else
    match env.deferred with
    | some refusal => { reply := refusal.reply, node }
    | none =>
      if node.transferInflight then
        { reply := .fail .errBusy "node.submit" "The node already has one report in flight."
          node }
      else
        let (completion, consumed) := consumeCompletion node "node.completion"
        if completion.result ≠ .ok then { reply := completion, node := consumed }
        else if !node.dirty then { reply := .ok, node := consumed }
        else
          match env.acquire with
          | .error error =>
            { reply := finishTransportResult error "node.submit"
                "No transfer slot could be acquired for AOA request 57." node 57 0
                node.spec.layout.wireBytes
              node := consumed }
          | .ok payload => submitInto { consumed with transferInflight := true } env payload

end LibaoaHid

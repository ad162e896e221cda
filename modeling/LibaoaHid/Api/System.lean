import LibaoaHid.Profiles.Mutators
import LibaoaHid.Api.Submit

/-!
# A Node and its wire

A Node together with the reports that libusb accepted from it: the completed ones, oldest first,
and the one in flight. The public calls of `src/api/c_api.cpp` and the completion callbacks are
the events of a run.

A blocking loop (`poll_until_idle`) is given the list of its turns: what the submit of each turn
meets and which completion the event handling of the turn delivers. The list ends with the
deadline.

## Main definitions

* `Transmission`, `System`, `System.call`, `System.submit`, `System.complete`.
* `pollUntilIdle`, `nodeSubmitBlocking`, `nodeClose`.
* `Event`, `System.step`, `System.run`.
-/

namespace LibaoaHid

/-! ### The wire -/

/-- An accepted report and the result of its completion. -/
structure Transmission where
  report : List UInt8
  result : Result
  deriving DecidableEq

/-- A report that the target may have applied: its completion is not a STALL. -/
def Transmission.MayHaveApplied (t : Transmission) : Prop := t.result ≠ .errStall

instance (t : Transmission) : Decidable t.MayHaveApplied :=
  inferInstanceAs (Decidable (t.result ≠ .errStall))

/-- A Node, its completed reports in order, and the report in flight. -/
structure System where
  node : Node
  wire : List Transmission := []
  inflight : Option (List UInt8) := none

namespace System

/-- A new Node with nothing on the wire. -/
def opened (spec : Spec) (hidId : ℕ) : Option System :=
  (openNode spec hidId).map fun node => { node }

/-- A profile call. -/
def call (s : System) (c : Call) (link : Link) : Reply × System :=
  let (reply, node) := c.perform link s.node
  (reply, { s with node })

/-- `aoahid_node_submit`. -/
def submit (s : System) (env : SubmitEnv) : Reply × System :=
  let submitted := nodeSubmit s.node env
  (submitted.reply,
    { s with
      node := submitted.node
      inflight := submitted.accepted.or s.inflight })

/-- The completion callback of the report in flight; without one there is no callback. -/
def complete (s : System) (status : TransferStatus) (actualLength : ℕ) : System :=
  match s.inflight with
  | none => s
  | some report =>
    let result := completionResult status actualLength report.length
    { node := transferComplete s.node result status.nativeStatus
      wire := s.wire ++ [⟨report, result⟩]
      inflight := none }

/-- `consume_completion`. -/
def consume (s : System) (field : String) : Reply × System :=
  let (reply, node) := consumeCompletion s.node field
  (reply, { s with node })

end System

/-! ### Blocking loops -/

/-- One turn of `poll_until_idle`: the submit, the completion that the event handling delivers,
and the error it reports. -/
structure PollTurn where
  submit : SubmitEnv
  completion : Option (TransferStatus × ℕ) := none
  eventError : Option Refusal := none

/-- The turns of a blocking loop before its deadline: the first and the others. -/
structure PollScript where
  preflight : Option Refusal := none
  first : PollTurn
  rest : List PollTurn := []

/-- The event handling of a turn. -/
def System.poll (s : System) (turn : PollTurn) : System :=
  match turn.completion with
  | none => s
  | some (status, actualLength) => s.complete status actualLength

/-- One turn of the loop, with the reply that ends it, if it does. -/
def pollTurn (s : System) (turn : PollTurn) : Option Reply × System :=
  let polled (s : System) : Option Reply × System :=
    match turn.eventError with
    | some refusal => (some refusal.reply, s.poll turn)
    | none => (none, s.poll turn)
  if s.node.transferInflight then polled s
  else
    let (completion, s) := s.consume "node.completion"
    if completion.result ≠ .ok then (some completion, s)
    else if !s.node.dirty then (some .ok, s)
    else
      let (reply, s) := s.submit turn.submit
      if reply.result ≠ .ok ∧ reply.result ≠ .errBusy then (some reply, s) else polled s

/-- A turn that waits for an event ends with the error of the event handling, if there is one. -/
theorem pollTurn_waits (turn : PollTurn) (s : System) :
    (match turn.eventError with
      | some refusal => (some refusal.reply, s.poll turn)
      | none => (none, s.poll turn)) = (turn.eventError.map (·.reply), s.poll turn) := by
  cases turn.eventError <;> rfl

/-- The loop of `poll_until_idle`. -/
def pollLoop (s : System) (turn : PollTurn) : List PollTurn → Reply × System
  | [] =>
    match pollTurn s turn with
    | (some reply, s) => (reply, s)
    | (none, s) =>
      (.fail .errTimeout "node.submit_blocking"
        "The report sequence did not reach a terminal callback before the deadline." 0 57
        s.node.hidId s.node.reportId 0 s.node.spec.layout.wireBytes, s)
  | next :: rest =>
    match pollTurn s turn with
    | (some reply, s) => (reply, s)
    | (none, s) => pollLoop s next rest

/-- `poll_until_idle`. -/
def pollUntilIdle (s : System) (script : PollScript) : Reply × System :=
  match script.preflight with
  | some refusal => (refusal.reply, s)
  | none => pollLoop s script.first script.rest

/-- `aoahid_node_submit_blocking`; no script stands for a deadline of zero. -/
def nodeSubmitBlocking (s : System) (script : Option PollScript) : Reply × System :=
  if s.node.closed then
    (.fail .errParam "node.submit_blocking"
      "A live Node with an attached Device and Spec is required.", s)
  else
    match script with
    | none => (.fail .errUnsetField "deadline_ms" "A nonzero deadline is required.", s)
    | some script =>
      let (reply, s) := pollUntilIdle s script
      (finishResult reply.error reply.result "node.submit_blocking"
        "The blocking report sequence failed.", s)

/-! ### Closing -/

/-- `touch_frame_in_progress`. -/
def touchFrameInProgress (node : Node) : Bool :=
  match node.state with
  | .touch touch => touch.packetCursor != 0
  | _ => false

/-- What a close meets outside the Node. -/
structure CloseEnv where
  /-- The Device is closing. -/
  closing : Bool := false
  /-- The loop that drains a report in flight or a frame in progress. -/
  drain : PollScript
  /-- The transport still has its device. -/
  present : Bool := true
  /-- The loop that sends the neutral state. -/
  neutral : PollScript
  /-- The failure of AOA request 55, if it fails. -/
  unregister : Option TransportError := none
  clearReservation : Option TransportError := none

/-- The reply of a close whose loop failed: a report that is still in flight at the deadline
leaves the close pending. -/
def drainFailure (reply : Reply) (s : System) (reason : String) : Reply :=
  if reply.result = .errTimeout ∧ s.node.transferInflight then
    .fail .closePending "node.close" reason 0 57 s.node.hidId s.node.reportId 0
      s.node.spec.layout.wireBytes
  else reply

/-- The end of `aoahid_node_close`: the reservation is cleared and the Node is released. -/
def releaseNode (s : System) (env : CloseEnv) : Reply × System :=
  match env.clearReservation with
  | some error =>
    (finishTransportResult error "node.reserved_slots"
      "The Node still owns an in-use reserved transfer slot." s.node, s)
  | none => (.ok, { s with node := { s.node with closed := true } })

/-- The part of `aoahid_node_close` for a device that is present. -/
def neutralizeAndUnregister (s : System) (env : CloseEnv) : Option Reply × System :=
  let (neutral, s) := pollUntilIdle { s with node := makeNeutral s.node } env.neutral
  if neutral.result ≠ .ok then
    (some (drainFailure neutral s
      "The neutral report callback did not drain before the close deadline."), s)
  else
    match env.unregister with
    | some error =>
      if error.result ≠ .errNoDevice then
        (some (finishTransportResult error "node.unregister"
          "AOA request 55 failed while closing the Node." s.node 55), s)
      else (none, s)
    | none => (none, s)

/-- `aoahid_node_close`. -/
def nodeClose (s : System) (env : CloseEnv) : Reply × System :=
  if s.node.closed ∨ env.closing then
    (.fail .errParam "node.close"
      "The Node handle is null, closed, detached, or owned by a closing Device.", s)
  else
    let (drained, s) :=
      if s.node.transferInflight ∨ touchFrameInProgress s.node then pollUntilIdle s env.drain
      else (.ok, s)
    if drained.result ≠ .ok then
      (drainFailure drained s
        "The close drain budget expired while a terminal callback is still pending.", s)
    else
      let (terminal, s) := s.consume "node.completion"
      if terminal.result ≠ .ok then (terminal, s)
      else if env.present then
        match neutralizeAndUnregister s env with
        | (some reply, s) => (reply, s)
        | (none, s) => releaseNode s env
      else releaseNode s env

/-! ### Runs -/

/-- What can happen to an open Node. -/
inductive Event
  | call (c : Call) (link : Link)
  | submit (env : SubmitEnv)
  | submitBlocking (script : Option PollScript)
  | complete (status : TransferStatus) (actualLength : ℕ)
  | close (env : CloseEnv)

/-- Whether an event is a close. -/
def Event.isClose : Event → Bool
  | .close _ => true
  | _ => false

namespace System

/-- One event. -/
def step (s : System) : Event → System
  | .call c link => (s.call c link).2
  | .submit env => (s.submit env).2
  | .submitBlocking script => (nodeSubmitBlocking s script).2
  | .complete status actualLength => s.complete status actualLength
  | .close env => (nodeClose s env).2

/-- A run of events. -/
def run (s : System) (events : List Event) : System := events.foldl step s

@[simp] theorem step_submit (s : System) (env : SubmitEnv) :
    s.step (.submit env) = (s.submit env).2 := rfl

@[simp] theorem run_nil (s : System) : s.run [] = s := rfl

@[simp] theorem run_cons (s : System) (e : Event) (events : List Event) :
    s.run (e :: events) = (s.step e).run events := rfl

theorem run_append (s : System) (first second : List Event) :
    s.run (first ++ second) = (s.run first).run second := by
  simp [run]

end System

end LibaoaHid

import LibaoaHid.Transport.ChannelSlots
import LibaoaHid.Transport.PoolRuns
import Mathlib.Logic.Relation

/-!
# The teardown of Device graphs

The way of a Device graph from its open to the release of its storage (`src/api/c_api.cpp`): the
active list of the Context, the close call that consumed it, the graveyard, and the reapers. The
application makes one call at a time, and in the internal-thread mode the event thread runs beside
it. A callback of libusb may run between any two steps, in whichever thread it runs.

A graph is its place in the order of the opens, and a Node or a Channel its place in the order of
those of its graph. Their storage carries a count of its releases. The callback of a report is two
steps: `transfer_complete`, whose last access to the Node clears `transfer_inflight`, and behind it
the last access to the Device, which counts `callbacks_active` down.

## Main definitions

* `NodeCell`, `ChannelCell`, `Submission`, `Graph`.
* `EventStep`, `NodeCall`, `ChannelCall`, `TransferCall`, `CancelStep`, `DestroyStep`: the steps on
  one graph.
* `AppPc`, `EventPc`, `State`, `Destroys`, `Step`, `Run`.
-/

namespace LibaoaHid.Teardown

open Transport

/-! ### Graphs -/

/-- A Node: whether a report of it is in flight, and how often its storage was released. -/
structure NodeCell where
  transferInflight : Bool := false
  frees : ℕ := 0

/-- A Channel, and how often its storage was released. -/
structure ChannelCell where
  transport : Channel
  frees : ℕ := 0

/-- The places of a submit: behind the exchange of `transfer_inflight`, and behind the acquire of a
slot. -/
inductive Submission
  | entered (node : ℕ)
  | acquired (node slot : ℕ)

/-- `aoahid_device` with its transport. `opening` is the Channel that a call builds, `owners` has
the Node of each ticket of the pool, and `returned` the tickets whose `transfer_complete` has
returned. -/
structure Graph where
  pool : PoolState
  closing : Bool := false
  nodes : List ℕ := []
  channels : List ℕ := []
  nodeCells : List NodeCell := []
  channelCells : List ChannelCell := []
  submission : Option Submission := none
  opening : Option ℕ := none
  owners : List ℕ := []
  returned : List ℕ := []
  frees : ℕ := 0

namespace Graph

variable (x : Graph)

/-- A store to the `transfer_inflight` of a Node. -/
def setInflight (n : ℕ) (value : Bool) : Graph :=
  { x with nodeCells := x.nodeCells.modify n fun cell => { cell with transferInflight := value } }

/-- `release_node_storage`. -/
def releaseNode (n : ℕ) : Graph :=
  { x with nodeCells := x.nodeCells.modify n fun cell => { cell with frees := cell.frees + 1 } }

/-- A step of a Channel. -/
def setChannel (i : ℕ) (c : Channel) : Graph :=
  { x with channelCells := x.channelCells.modify i fun cell => { cell with transport := c } }

/-- `release_channel_storage`. -/
def releaseChannel (i : ℕ) : Graph :=
  { x with
    channelCells := x.channelCells.modify i fun cell => { cell with frees := cell.frees + 1 } }

/-- `graph_drained`. -/
def drained : Bool :=
  x.pool.device.drained &&
    x.channels.all fun i => x.channelCells[i]?.all fun cell => cell.transport.inFlight == 0

/-- `transfer_complete`, as far as the lifetimes go. -/
def transferComplete (ticket : ℕ) : Graph :=
  match x.owners[ticket]? with
  | none => { x with returned := x.returned ++ [ticket] }
  | some n => { x.setInflight n false with returned := x.returned ++ [ticket] }

end Graph

/-! ### Steps on one graph -/

/-- A completion: libusb ends a report or a bulk transfer, and the callbacks run. -/
inductive EventStep (x : Graph) : Graph → Prop
  | transfer_finished {index : ℕ} {slot : Slot} {status : TransferStatus} {actualLength : ℕ}
      {notice : Option Notice} {device : Device} (hslot : x.pool.device.slots[index]? = some slot)
      (hstate : slot.state = .submitted)
      (h : x.pool.device.transferFinished index status actualLength = (notice, device)) :
      EventStep x { x with
        pool := { x.pool with
          device
          notices := x.pool.notices ++ notice.toList } }
  | transfer_complete {notice : Notice} (hmem : notice ∈ x.pool.notices)
      (hnew : notice.callback ∉ x.returned) : EventStep x (x.transferComplete notice.callback)
  | leave {notice : Notice} (hmem : notice ∈ x.pool.notices)
      (hreturned : notice.callback ∈ x.returned) :
      EventStep x { x with
        pool := { x.pool with
          device := x.pool.device.delivered
          notices := x.pool.notices.erase notice
          delivered := x.pool.delivered ++ [notice.callback] } }
  | channel {i : ℕ} {cell : ChannelCell} {c : Channel} (hget : x.channelCells[i]? = some cell)
      (h : CallbackStep cell.transport c) : EventStep x (x.setChannel i c)

/-- The operations on the pool that neither take a slot nor end one. -/
def QuietOp : PoolOp → Prop
  | .setReservation _ _ _ => True
  | .clearReservation _ => True
  | .observe _ => True
  | .latchedError => True
  | _ => False

/-- A section of a call that opens, submits or closes a Node. Each submit sets `transfer_inflight`
first, and clears it wherever it gives up before the transfer is handed over. -/
inductive NodeCall (x : Graph) : Graph → Prop
  | quiet {op : PoolOp} {pool : PoolState} (hidle : x.submission = none) (hop : QuietOp op)
      (h : PoolStep x.pool op pool) : NodeCall x { x with pool }
  | open (hidle : x.submission = none) :
      NodeCall x { x with
        nodes := x.nodes ++ [x.nodeCells.length]
        nodeCells := x.nodeCells ++ [{}] }
  | enter {n : ℕ} {cell : NodeCell} (hidle : x.submission = none) (hnode : n ∈ x.nodes)
      (hget : x.nodeCells[n]? = some cell) (hfree : cell.transferInflight = false) :
      NodeCall x { x.setInflight n true with submission := some (.entered n) }
  | give_up {n : ℕ} (hpc : x.submission = some (.entered n)) :
      NodeCall x { x.setInflight n false with submission := none }
  | acquire {n index hidId reportLength : ℕ} {token : Option ℕ} {outcome : Outcome}
      {device : Device} (hpc : x.submission = some (.entered n))
      (h : x.pool.device.acquire hidId token reportLength (some x.pool.tickets.length) =
        (outcome, some index, device)) :
      NodeCall x { x with
        pool := { x.pool with
          device
          tickets := x.pool.tickets ++ [index] }
        owners := x.owners ++ [n]
        submission := some (.acquired n index) }
  | abandon {n index : ℕ} (hpc : x.submission = some (.acquired n index)) :
      NodeCall x { x.setInflight n false with
        pool := { x.pool with
          device := x.pool.device.abandon index
          abandoned := x.pool.abandoned ++ (preparedTicket x.pool.device index).toList }
        submission := none }
  | submit {n index reportLength reportId : ℕ} {submitStatus : ℤ} {outcome : Outcome}
      {notice : Option Notice} {device : Device} (hpc : x.submission = some (.acquired n index))
      (h : x.pool.device.submit index reportLength reportId submitStatus =
        (outcome, notice, device)) :
      NodeCall x { x with
        pool := { x.pool with
          device
          notices := x.pool.notices ++ notice.toList }
        submission := none }
  | close {n : ℕ} {cell : NodeCell} (hidle : x.submission = none) (hnode : n ∈ x.nodes)
      (hget : x.nodeCells[n]? = some cell) (hfree : cell.transferInflight = false) :
      NodeCall x { x.releaseNode n with nodes := x.nodes.erase n }

/-- A section of `aoahid_channel_open` or `aoahid_channel_close`. A failed open deletes a Channel
that has nothing in flight. -/
inductive ChannelCall (x : Graph) : Graph → Prop
  | open (config : ChannelConfig) (hidle : x.opening = none) :
      ChannelCall x { x with
        opening := some x.channelCells.length
        channelCells := x.channelCells ++ [{ transport := .opened config }] }
  | start {i : ℕ} {cell : ChannelCell} {c : Channel} (hpc : x.opening = some i)
      (hget : x.channelCells[i]? = some cell) (hrunning : cell.transport.returned = false)
      (h : ReadStep cell.transport c) (hlive : c.reader ≠ .deleted) :
      ChannelCall x (x.setChannel i c)
  | opened {i : ℕ} {cell : ChannelCell} (hpc : x.opening = some i)
      (hget : x.channelCells[i]? = some cell) (hreturned : cell.transport.returned = true) :
      ChannelCall x { x with
        opening := none
        channels := x.channels ++ [i] }
  | failed {i : ℕ} {cell : ChannelCell} (hpc : x.opening = some i)
      (hget : x.channelCells[i]? = some cell) (hfailed : cell.transport.reader = .openFailed)
      (hidle : cell.transport.inFlight = 0) :
      ChannelCall x { x.releaseChannel i with opening := none }
  | lose {i : ℕ} {cell : ChannelCell} (hmem : i ∈ x.channels)
      (hget : x.channelCells[i]? = some cell) :
      ChannelCall x (x.setChannel i { cell.transport with lost := true })
  | close {i : ℕ} {cell : ChannelCell} (hmem : i ∈ x.channels)
      (hget : x.channelCells[i]? = some cell) (hreader : cell.transport.reader = .idle)
      (hwriter : cell.transport.writer = .idle) (hdrained : cell.transport.inFlight = 0) :
      ChannelCall x { x.releaseChannel i with channels := x.channels.erase i }

/-- A section of `aoahid_channel_read` or `aoahid_channel_write`, each in a thread of its own. -/
inductive TransferCall (x : Graph) : Graph → Prop
  | read {i : ℕ} {cell : ChannelCell} {c : Channel} (hmem : i ∈ x.channels)
      (hget : x.channelCells[i]? = some cell) (h : ReadStep cell.transport c) :
      TransferCall x (x.setChannel i c)
  | write {i : ℕ} {cell : ChannelCell} {c : Channel} (hmem : i ∈ x.channels)
      (hget : x.channelCells[i]? = some cell) (h : WriteStep cell.transport c) :
      TransferCall x (x.setChannel i c)

/-- The middle of `device_close_impl`: the Channels are lost and the transport is cancelled. -/
inductive CancelStep (x : Graph) : Graph → Prop
  | lose {i : ℕ} {cell : ChannelCell} (hmem : i ∈ x.channels)
      (hget : x.channelCells[i]? = some cell) :
      CancelStep x (x.setChannel i { cell.transport with lost := true })
  | begin_cancel :
      CancelStep x { x with pool := { x.pool with device := x.pool.device.beginCancel } }
  | cancel {index : ℕ} {notice : Option Notice} {device : Device}
      (h : x.pool.device.cancelSlot index = (notice, device)) :
      CancelStep x { x with
        pool := { x.pool with
          device
          notices := x.pool.notices ++ notice.toList } }

/-- The loops of `destroy_drained_device`: over the Nodes from the back, with the outcome of request
55 and the end of the reservation, and then over the Channels. -/
inductive DestroyStep (x : Graph) : Graph → Prop
  | unregister {result : Result} {pool : PoolState} (h : PoolStep x.pool (.observe result) pool) :
      DestroyStep x { x with pool }
  | clear_reservation {address : Option ℕ} {pool : PoolState}
      (h : PoolStep x.pool (.clearReservation address) pool) : DestroyStep x { x with pool }
  | node {n : ℕ} {rest : List ℕ} (hnodes : x.nodes = rest ++ [n]) :
      DestroyStep x { x.releaseNode n with nodes := rest }
  | channel {i : ℕ} {rest : List ℕ} (hnodes : x.nodes = []) (hchannels : x.channels = i :: rest) :
      DestroyStep x { x.releaseChannel i with channels := rest }

/-- Nobody is inside a read or a write on a Channel of the graph. -/
def Graph.Quiescent (x : Graph) : Prop :=
  ∀ i ∈ x.channels, ∀ cell, x.channelCells[i]? = some cell →
    cell.transport.reader = .idle ∧ cell.transport.writer = .idle

/-! ### The Context and its threads -/

/-- The phases of `device_close_impl` behind the section that consumes the handle. -/
inductive ClosePhase
  | nodes
  | cancelling
  | draining
  deriving DecidableEq

/-- `destroy_drained_device`: before its own test, and behind it. -/
inductive DestroyPc
  | entering (g : ℕ)
  | destroying (g : ℕ)

/-- The caller of `reap_graveyard`: a poll, or `context_destroy_impl`. -/
inductive AfterReap
  | poll
  | destroy

/-- The caller of `destroy_drained_device`: `device_close_impl`, perhaps within
`context_destroy_impl`, or a reaper. -/
inductive AfterDestroy
  | close (within : Bool)
  | reap (after : AfterReap)

/-- The places of the application. -/
inductive AppPc
  | idle
  | closing (g : ℕ) (phase : ClosePhase) (within : Bool)
  | destroying (pc : DestroyPc) (after : AfterDestroy)
  /-- The loop of `reap_graveyard`. -/
  | reaping (after : AfterReap)
  /-- The loop of `context_destroy_impl` over the active Devices. -/
  | destroyLoop
  /-- Before `graveyard_empty`. -/
  | checking
  /-- Behind the request to stop the event thread. -/
  | joining
  /-- The Context was deleted. -/
  | freed

/-- The places of the event thread; there is none in the caller-poll mode. -/
inductive EventPc
  | absent
  | head
  | polling
  | reaping
  | destroying (pc : DestroyPc)
  /-- The thread has latched a terminal error. -/
  | failing
  | exited

/-- The graph that `destroy_drained_device` works on. -/
def DestroyPc.graph : DestroyPc → ℕ
  | entering g => g
  | destroying g => g

/-- The graph that only a call of the application knows. -/
def AppPc.holds : AppPc → List ℕ
  | closing g _ _ => [g]
  | destroying pc _ => [pc.graph]
  | _ => []

/-- The graph that only the event thread knows. -/
def EventPc.holds : EventPc → List ℕ
  | destroying pc => [pc.graph]
  | _ => []

/-- The application behind `device_close_impl`. -/
def AppPc.afterClose (within : Bool) : AppPc := if within then destroyLoop else idle

/-- The application behind `reap_graveyard`. -/
def AfterReap.next : AfterReap → AppPc
  | poll => .idle
  | destroy => .checking

/-- The application behind `destroy_drained_device`. -/
def AfterDestroy.next : AfterDestroy → AppPc
  | close within => .afterClose within
  | reap after => .reaping after

/-- `aoahid_context`, with the threads that work on it. -/
structure State where
  callerPoll : Bool
  graphs : List Graph := []
  devices : List ℕ := []
  graveyard : List ℕ := []
  stopEventThread : Bool := false
  app : AppPc := .idle
  event : EventPc

namespace State

/-- The Context of `aoahid_context_create`. -/
def created (callerPoll : Bool) : State where
  callerPoll
  event := if callerPoll then .absent else .head

/-- The application is between two calls. -/
def Between (s : State) : Prop :=
  s.app = .idle ∧ ∀ x ∈ s.graphs, x.submission = none ∧ x.opening = none

/-- A new value of a graph. -/
def setGraph (s : State) (g : ℕ) (x : Graph) : State := { s with graphs := s.graphs.set g x }

/-- The test of `reap_graveyard`. -/
def ready (s : State) (g : ℕ) : Bool := s.graphs[g]?.any Graph.drained

/-- The first section of `device_close_impl`. -/
def consume (s : State) (g : ℕ) (x : Graph) (within : Bool) : State :=
  { s.setGraph g { x with closing := true } with
    devices := s.devices.filter (· ≠ g)
    app := .closing g .nodes within }

end State

/-- `destroy_drained_device` in one of the threads, and where it stands behind the step. -/
inductive Destroys (s : State) : DestroyPc → Option DestroyPc → State → Prop
  | refused {g : ℕ} {x : Graph} (hget : s.graphs[g]? = some x) (h : x.drained = false) :
      Destroys s (.entering g) none s
  | enters {g : ℕ} {x : Graph} (hget : s.graphs[g]? = some x) (h : x.drained = true) :
      Destroys s (.entering g) (some (.destroying g)) s
  | works {g : ℕ} {x x' : Graph} (hget : s.graphs[g]? = some x) (h : DestroyStep x x') :
      Destroys s (.destroying g) (some (.destroying g)) (s.setGraph g x')
  | deletes {g : ℕ} {x : Graph} (hget : s.graphs[g]? = some x) (hnodes : x.nodes = [])
      (hchannels : x.channels = []) :
      Destroys s (.destroying g) none (s.setGraph g { x with frees := x.frees + 1 })

/-- A step of the application. It makes one call at a time, up to the reads and writes of Channels,
and closes a Device only where none of these is under way on one of its Channels. -/
inductive AppStep (s : State) : State → Prop
  | open_device (config : DeviceConfig) (handle poolSlots : ℕ) (hslots : 0 < poolSlots)
      (hpc : s.Between) :
      AppStep s { s with
        graphs := s.graphs ++ [{ pool := { device := .opened config handle poolSlots } }]
        devices := s.devices ++ [s.graphs.length] }
  | node_call {g : ℕ} {x x' : Graph} (hpc : s.app = .idle) (hopen : g ∈ s.devices)
      (hget : s.graphs[g]? = some x) (h : NodeCall x x') : AppStep s (s.setGraph g x')
  | channel_call {g : ℕ} {x x' : Graph} (hpc : s.app = .idle) (hopen : g ∈ s.devices)
      (hget : s.graphs[g]? = some x) (h : ChannelCall x x') : AppStep s (s.setGraph g x')
  | transfer_call {g : ℕ} {x x' : Graph} (hopen : g ∈ s.devices) (hget : s.graphs[g]? = some x)
      (h : TransferCall x x') : AppStep s (s.setGraph g x')
  | device_close {g : ℕ} {x : Graph} (hpc : s.Between) (hopen : g ∈ s.devices)
      (hget : s.graphs[g]? = some x) (hquiet : x.Quiescent) :
      AppStep s (s.consume g x false)
  | close_nodes {g : ℕ} {x x' : Graph} {within : Bool} (hpc : s.app = .closing g .nodes within)
      (hget : s.graphs[g]? = some x) (h : NodeCall x x')
      (hopened : x'.nodeCells.length = x.nodeCells.length) : AppStep s (s.setGraph g x')
  | nodes_closed {g : ℕ} {x : Graph} {within : Bool} (hpc : s.app = .closing g .nodes within)
      (hget : s.graphs[g]? = some x) (hidle : x.submission = none) :
      AppStep s { s with app := .closing g .cancelling within }
  | cancel {g : ℕ} {x x' : Graph} {within : Bool} (hpc : s.app = .closing g .cancelling within)
      (hget : s.graphs[g]? = some x) (h : CancelStep x x') : AppStep s (s.setGraph g x')
  | cancelled {g : ℕ} {within : Bool} (hpc : s.app = .closing g .cancelling within) :
      AppStep s { s with app := .closing g .draining within }
  | drained {g : ℕ} {x : Graph} {within : Bool} (hpc : s.app = .closing g .draining within)
      (hget : s.graphs[g]? = some x) (h : x.drained = true) :
      AppStep s { s with app := .destroying (.entering g) (.close within) }
  | park {g : ℕ} {x : Graph} {within : Bool} (hpc : s.app = .closing g .draining within)
      (hget : s.graphs[g]? = some x) (h : x.drained = false) :
      AppStep s { s with
        graveyard := s.graveyard ++ [g]
        app := .afterClose within }
  | destroy {s' : State} {pc : DestroyPc} {next : Option DestroyPc} {after : AfterDestroy}
      (hpc : s.app = .destroying pc after) (h : Destroys s pc next s') :
      AppStep s { s' with app := (next.map (AppPc.destroying · after)).getD after.next }
  | poll (hpc : s.Between) (hmode : s.callerPoll = true) :
      AppStep s { s with app := .reaping .poll }
  /-- The fallback of `aoahid_context_destroy_blocking`, which has joined the event thread. -/
  | take_over (hpc : s.Between) (hexited : s.event = .exited) :
      AppStep s { s with app := .reaping .poll }
  | reap {g : ℕ} {after : AfterReap} (hpc : s.app = .reaping after)
      (hfound : s.graveyard.find? s.ready = some g) :
      AppStep s { s with
        graveyard := s.graveyard.erase g
        app := .destroying (.entering g) (.reap after) }
  | reaped {after : AfterReap} (hpc : s.app = .reaping after)
      (hnone : s.graveyard.find? s.ready = none) : AppStep s { s with app := after.next }
  | context_destroy (hpc : s.Between) : AppStep s { s with app := .destroyLoop }
  | next_device {g : ℕ} {x : Graph} (hpc : s.app = .destroyLoop)
      (hlast : s.devices.getLast? = some g) (hget : s.graphs[g]? = some x)
      (hquiet : x.Quiescent) : AppStep s (s.consume g x true)
  | devices_closed (hpc : s.app = .destroyLoop) (hdevices : s.devices = []) :
      AppStep s { s with app := .reaping .destroy }
  | pending (hpc : s.app = .checking) (hgraveyard : s.graveyard ≠ []) :
      AppStep s { s with app := .idle }
  | stop (hpc : s.app = .checking) (hgraveyard : s.graveyard = []) :
      AppStep s { s with
        stopEventThread := true
        app := .joining }
  | free (hpc : s.app = .joining) (hjoined : s.event = .absent ∨ s.event = .exited) :
      AppStep s { s with app := .freed }
  /-- `request_event_thread_stop` of the fallback. -/
  | stop_failed (hpc : s.Between) (hfailed : s.event = .failing) :
      AppStep s { s with stopEventThread := true }

/-- A step of the event thread. -/
inductive PumpStep (s : State) : State → Prop
  | turn (hpc : s.event = .head) (hstop : s.stopEventThread = false) :
      PumpStep s { s with event := .polling }
  | stops (hpc : s.event = .head) (hstop : s.stopEventThread = true) :
      PumpStep s { s with event := .exited }
  | fails (hpc : s.event = .polling ∨ s.event = .head) : PumpStep s { s with event := .failing }
  | exits (hpc : s.event = .failing) : PumpStep s { s with event := .exited }
  | polled (hpc : s.event = .polling) : PumpStep s { s with event := .reaping }
  | reap {g : ℕ} (hpc : s.event = .reaping) (hfound : s.graveyard.find? s.ready = some g) :
      PumpStep s { s with
        graveyard := s.graveyard.erase g
        event := .destroying (.entering g) }
  | reaped (hpc : s.event = .reaping) (hnone : s.graveyard.find? s.ready = none) :
      PumpStep s { s with event := .head }
  | destroy {s' : State} {pc : DestroyPc} {next : Option DestroyPc}
      (hpc : s.event = .destroying pc) (h : Destroys s pc next s') :
      PumpStep s { s' with event := (next.map EventPc.destroying).getD .reaping }

/-- A step of any thread. -/
inductive Step (s : State) : State → Prop
  | event {g : ℕ} {x x' : Graph} (hget : s.graphs[g]? = some x) (h : EventStep x x') :
      Step s (s.setGraph g x')
  | app {s' : State} (h : AppStep s s') : Step s s'
  | pump {s' : State} (h : PumpStep s s') : Step s s'

/-- A run from the create of a Context on. -/
def Run (callerPoll : Bool) (s : State) : Prop := Relation.ReflTransGen Step (.created callerPoll) s

end LibaoaHid.Teardown

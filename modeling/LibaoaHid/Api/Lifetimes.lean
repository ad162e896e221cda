import LibaoaHid.Api.NodeOpen

/-!
# Lifetimes

The opens and closes of the Devices and Nodes of one Context, in `src/api/c_api.cpp`, and the
references of the Specs, as the steps of a run.

A call is one step. Before a Node is closed its reports drain, and whatever they do meanwhile to the
transfer pool is part of what the close meets; between the calls it is a step of its own.

## Main definitions

* `Transport.Runtime.openDevice`, `Context.deviceOpen`.
* `Context.closeLiveNode`, `Context.deviceClose`, `Context.destroyDevice`.
* `Taking`, `Session`, `SessionOp`, `SessionStep`, `SessionRun`.
-/

namespace LibaoaHid

open Transport (Bus Runtime Candidate Host PoolTraffic UsbDevice)
open Transport.Libusb

/-! ### Opening a Device -/

/-- The interface that a Device claims, with what libusb and the memory answer. -/
structure ClaimPlan where
  interfaceNumber : ℤ
  status : ℤ := success
  memory : Bool := true

namespace Transport.Runtime

/-- The end of a transport that has drained: its claim and its Port. -/
def closeTransport (rt : Runtime) (port : ℕ) (claim : Option ℤ) : Runtime :=
  let rt := match claim with
    | none => rt
    | some interfaceNumber => rt.releaseInterface port interfaceNumber
  rt.release port

/-- `Device::open`, behind the checks of its configuration: the Port and its handle. A want of
memory behind the claim ends it with a diagnostic. -/
def openDevice (rt : Runtime) (host : Host) (c : Candidate) (claim : Option ClaimPlan)
    (outOfMemory : Option ErrorInfo) (bus : Bus) : Result × Option (ℕ × ℕ) × Runtime × Bus :=
  match rt.acquirePort host c bus with
  | (result, none, rt, bus) => (result, none, rt, bus)
  | (_, some port, rt, bus) =>
    let handle := ((rt.heap port).map (·.handle)).getD 0
    let (status, rt) := match claim with
      | none => (success, rt)
      | some plan => rt.claimInterface port plan.interfaceNumber plan.status plan.memory
    if status ≠ success then
      let result := mapLibusbError status false
      (result, none, rt.release port, bus.record (recordError result status))
    else
      match outOfMemory with
      | some error =>
        (.errInternal, none, rt.closeTransport port (claim.map (·.interfaceNumber)),
          bus.record error)
      | none => (.ok, some (port, handle), rt, bus)

end Transport.Runtime

/-- What a Device open meets outside the Context. -/
structure DeviceOpenEnv where
  /-- The refusal of a check in front of the transport, if one refuses. -/
  refusal : Option Refusal := none
  host : Host
  claim : Option ClaimPlan := none
  outOfMemory : Option ErrorInfo := none
  listMemory : Bool := true
  config : Transport.DeviceConfig
  policies : DevicePolicies

namespace Context

/-- `aoahid_device_open`. -/
def deviceOpen (ctx : Context) (c : Candidate) (env : DeviceOpenEnv) : Result × Context :=
  match env.refusal with
  | some refusal => (refusal.reply.result, ctx)
  | none =>
    match ctx.runtime.openDevice env.host c env.claim env.outOfMemory ctx.bus with
    | (result, none, runtime, bus) => (result, { ctx with runtime, bus })
    | (_, some (port, handle), runtime, bus) =>
      let claim := env.claim.map (·.interfaceNumber)
      if !env.listMemory then
        (.errInternal, { ctx with runtime := runtime.closeTransport port claim, bus })
      else
        let (hidIdDomainIndex, hidIdDomains) := findOrCreateHidIdDomain ctx.hidIdDomains c
        let graph : DeviceGraph :=
          { transport := .opened env.config handle env.policies.poolSlots
            port
            claim
            policies := env.policies
            hidIdDomainIndex }
        (.ok, { ctx with runtime, bus, hidIdDomains, devices := ctx.devices ++ [graph] })

/-! ### Closing -/

end Context

/-- What the close of one Node meets: the traffic of its reports, with the result of their drain and
of the pending completion, and the same for the neutral report. -/
structure NodeCloseEnv where
  drain : List PoolTraffic := []
  drained : Result := .ok
  neutral : List PoolTraffic := []
  neutralized : Result := .ok

/-- The part of a Node close for a device that is present: the neutral report and request 55. -/
def neutralizeEntry (d : Transport.Device) (bus : Bus) (node : LiveNode) (env : NodeCloseEnv) :
    Result × Transport.Device × Bus :=
  if d.present then
    let d := d.passAll env.neutral
    if env.neutralized ≠ .ok then (env.neutralized, d, bus)
    else
      let (result, d, bus) := d.unregisterHid node.hidId bus
      (if result = .errNoDevice then .ok else result, d, bus)
  else (.ok, d, bus)

/-- What `aoahid_node_close` and `close_live_node_until` do to the transport. -/
def closeEntry (d : Transport.Device) (bus : Bus) (node : LiveNode) (env : NodeCloseEnv) :
    Result × Transport.Device × Bus :=
  let d := d.passAll env.drain
  if env.drained ≠ .ok then (env.drained, d, bus)
  else
    let (result, d, bus) := neutralizeEntry d bus node env
    if result ≠ .ok then (result, d, bus)
    else
      let (outcome, d) := d.clearReservation node.reservation
      (outcome.result, d, bus)

/-- The part of `destroy_drained_device` for its Nodes, in the order in which it takes them. -/
def destroyNodes (d : Transport.Device) (ctx : Context) : List LiveNode → Transport.Device × Context
  | [] => (d, ctx)
  | node :: rest =>
    let (d, bus) :=
      if d.present then (d.unregisterHid node.hidId ctx.bus).2 else (d, ctx.bus)
    destroyNodes (d.clearReservation node.reservation).2
      ({ ctx with bus }.releaseSpec node.spec) rest

/-- What a Device close meets: the Nodes that its loop closes, unless an exception ends it, and the
traffic behind the cancellation. -/
structure DeviceCloseEnv where
  nodes : List NodeCloseEnv := []
  cancel : List PoolTraffic := []
  channelsDrained : Bool := true

namespace Context

/-- The end of a Node close, in `aoahid_node_close` and in `close_live_node_until`. -/
def closeLiveNode (ctx : Context) (graph : DeviceGraph) (node : LiveNode) (env : NodeCloseEnv) :
    Result × DeviceGraph × Context :=
  let (result, transport, bus) := closeEntry graph.transport ctx.bus node env
  let ctx := { ctx with bus }
  if result ≠ .ok then (result, { graph with transport }, ctx)
  else
    (.ok, { graph with transport, nodes := graph.nodes.erase node }, ctx.releaseSpec node.spec)

/-- The loop of `device_close_impl` over its Nodes. -/
def closeLiveNodes (ctx : Context) (graph : DeviceGraph) : List NodeCloseEnv → DeviceGraph × Context
  | [] => (graph, ctx)
  | env :: rest =>
    match graph.nodes.getLast? with
    | none => (graph, ctx)
    | some node =>
      match ctx.closeLiveNode graph node env with
      | (.ok, graph, ctx) => closeLiveNodes ctx graph rest
      | (_, graph, ctx) => (graph, ctx)

/-- `destroy_drained_device`. -/
def destroyDevice (ctx : Context) (graph : DeviceGraph) : Context :=
  let (_, ctx) := destroyNodes graph.transport ctx graph.nodes.reverse
  { ctx with runtime := ctx.runtime.closeTransport graph.port graph.claim }

/-- `device_close_impl`, for a Device that is no longer on the list of the Context. -/
def deviceClose (ctx : Context) (graph : DeviceGraph) (env : DeviceCloseEnv) : Context :=
  let (graph, ctx) := ctx.closeLiveNodes { graph with closing := true } env.nodes
  let graph := { graph with transport := graph.transport.beginCancel.passAll env.cancel }
  if graph.transport.drained && env.channelsDrained then ctx.destroyDevice graph
  else { ctx with graveyard := ctx.graveyard ++ [graph] }

/-! ### Runs -/

end Context

/-- The bus and the port path of a device, which it keeps at a new address. -/
def Transport.UsbDevice.physical (u : UsbDevice) : ℕ × List ℕ := (u.bus, u.portPath)

/-- A selection names a device by its port path, or by its address. -/
def Transport.Candidate.named (c : Candidate) : Bool := !c.portPath.isEmpty

/-- A HID ID that was taken for a device, by a Node open on a Device that its port path named, or
its address. -/
structure Taking where
  physical : ℕ × List ℕ
  named : Bool
  hidId : ℕ

/-- A Context with the references that its caller holds on the Specs, and with its history: the
devices that were opened, each with whether its port path named it, and the HID IDs that were taken
for them. -/
structure Session where
  context : Context
  callers : List ℕ := []
  openings : List ((ℕ × List ℕ) × Bool) := []
  taken : List Taking := []

/-- The device behind a handle. -/
def Context.physical (ctx : Context) (handle : ℕ) : Option (ℕ × List ℕ) :=
  ctx.runtime.handles[handle]?.map (·.physical)

/-- A Device was named by its port path, as its domain says. -/
def Context.named (ctx : Context) (graph : DeviceGraph) : Option Bool :=
  ctx.hidIdDomains[graph.hidIdDomainIndex]?.map (!·.unidentified)

/-- What a Node open takes. -/
def Context.taking (ctx : Context) (graph : DeviceGraph) (hidId : Option ℕ) : Option Taking := do
  let physical ← ctx.physical graph.transport.handle
  let named ← ctx.named graph
  let hidId ← hidId
  pure { physical, named, hidId }

/-- The calls of a session. -/
inductive SessionOp
  | specCreate (address : ℕ)
  | specRetain (address : ℕ)
  | specRelease (address : ℕ)
  | deviceOpen (c : Candidate) (opened : Option UsbDevice)
  | nodeOpen (graph : DeviceGraph) (spec : Option ℕ)
  | nodeClose
  | deviceClose
  | reap
  | traffic
  | other

/-- One call. -/
inductive SessionStep (s : Session) : SessionOp → Session → Prop
  | spec_create {address : ℕ} (hfresh : s.context.specs address = none) (spec : Spec) :
      SessionStep s (.specCreate address) { s with
        context := s.context.setSpec address (some { spec, references := 1 })
        callers := address :: s.callers }
  | spec_retain {address : ℕ} {shared retained : SharedSpec}
      (hshared : s.context.specs address = some shared) (h : shared.retain = some retained) :
      SessionStep s (.specRetain address) { s with
        context := s.context.setSpec address (some retained)
        callers := address :: s.callers }
  | spec_retain_failed {address : ℕ} {shared : SharedSpec}
      (hshared : s.context.specs address = some shared) (h : shared.retain = none) :
      SessionStep s (.specRetain address) s
  | spec_release {address : ℕ} (howned : address ∈ s.callers) :
      SessionStep s (.specRelease address) { s with
        context := s.context.releaseSpec address
        callers := s.callers.erase address }
  | device_open {c : Candidate} {env : DeviceOpenEnv} {context : Context} {u : UsbDevice}
      (h : s.context.deviceOpen c env = (.ok, context))
      (hopened : context.runtime.handles[s.context.runtime.handles.length]? = some u) :
      SessionStep s (.deviceOpen c (some u)) { s with
        context
        openings := s.openings ++ [(u.physical, c.named)] }
  | device_open_failed {c : Candidate} {env : DeviceOpenEnv} {result : Result} {context : Context}
      (h : s.context.deviceOpen c env = (result, context)) (hfailed : result ≠ .ok) :
      SessionStep s (.deviceOpen c none) { s with context }
  | node_open {front back : List DeviceGraph} {graph : DeviceGraph} {spec : Option ℕ}
      {options : Option NodeOptions} {hasOut : Bool} {env : NodeOpenEnv} {opening : NodeOpening}
      (hdevices : s.context.devices = front ++ graph :: back)
      (hfresh : ∀ a ∈ env.reservation, ∀ r ∈ graph.transport.reservations, r.address ≠ a)
      (h : nodeOpen s.context graph spec options hasOut env = opening) :
      SessionStep s (.nodeOpen graph spec) { s with
        context := { opening.context with devices := front ++ opening.device :: back }
        taken := s.taken ++ (s.context.taking graph opening.hidId).toList }
  | node_close {front back : List DeviceGraph} {graph graph' : DeviceGraph} {node : LiveNode}
      {env : NodeCloseEnv} {result : Result} {context : Context}
      (hdevices : s.context.devices = front ++ graph :: back) (hnode : node ∈ graph.nodes)
      (h : s.context.closeLiveNode graph node env = (result, graph', context)) :
      SessionStep s .nodeClose { s with
        context := { context with devices := front ++ graph' :: back } }
  | device_close {front back : List DeviceGraph} {graph : DeviceGraph}
      (hdevices : s.context.devices = front ++ graph :: back) (env : DeviceCloseEnv) :
      SessionStep s .deviceClose { s with
        context := { s.context with devices := front ++ back }.deviceClose graph env }
  | reap {front back : List DeviceGraph} {graph : DeviceGraph}
      (hgraveyard : s.context.graveyard = front ++ graph :: back)
      (hdrained : graph.transport.drained = true) :
      SessionStep s .reap { s with
        context := { s.context with graveyard := front ++ back }.destroyDevice graph }
  | traffic {front back : List DeviceGraph} {graph : DeviceGraph}
      (hdevices : s.context.devices = front ++ graph :: back) (t : PoolTraffic) :
      SessionStep s .traffic { s with
        context := { s.context with
          devices := front ++ { graph with transport := graph.transport.pass t } :: back } }
  | traffic_parked {front back : List DeviceGraph} {graph : DeviceGraph}
      (hgraveyard : s.context.graveyard = front ++ graph :: back) (t : PoolTraffic) :
      SessionStep s .traffic { s with
        context := { s.context with
          graveyard := front ++ { graph with transport := graph.transport.pass t } :: back } }
  /-- The calls that open and close neither Devices nor Nodes. -/
  | other {runtime : Runtime} {bus : Bus} {more : List Transport.Exchange}
      (hhandles : s.context.runtime.handles <+: runtime.handles)
      (hsent : bus.sent = s.context.bus.sent ++ more) (hmore : ∀ e ∈ more, e.request ≠ 54) :
      SessionStep s .other { s with context := { s.context with runtime, bus } }

/-- A run from a new Context on. -/
inductive SessionRun : Session → Prop
  | created (bus : Bus) (hsent : bus.sent = []) : SessionRun { context := { bus } }
  | step {s s' : Session} {op : SessionOp} (h : SessionRun s) (hstep : SessionStep s op s') :
      SessionRun s'

/-! ### What the calls leave alone -/

namespace Transport.Runtime

variable (rt : Runtime)

theorem release_handles (port : ℕ) : (rt.release port).handles = rt.handles := by
  rw [release]
  split
  · rfl
  · split
    · rfl
    · rw [closePort]
      split <;> rfl

theorem releaseInterface_handles (port : ℕ) (interfaceNumber : ℤ) :
    (rt.releaseInterface port interfaceNumber).handles = rt.handles := by
  rw [releaseInterface]
  split
  · rfl
  · split
    · rfl
    · split <;> rfl

theorem claimInterface_handles (port : ℕ) (interfaceNumber status : ℤ) (memory : Bool) :
    (rt.claimInterface port interfaceNumber status memory).2.handles = rt.handles := by
  rw [claimInterface]
  split
  · rfl
  · split
    · rfl
    · split
      · rfl
      · split <;> rfl

theorem closeTransport_handles (port : ℕ) (claim : Option ℤ) :
    (rt.closeTransport port claim).handles = rt.handles := by
  rw [closeTransport.eq_def, release_handles]
  cases claim with
  | none => rfl
  | some interfaceNumber => exact rt.releaseInterface_handles port interfaceNumber

/-- An `acquire_port` opens one handle, or none, and sends nothing. -/
theorem acquirePort_handles (host : Host) (c : Candidate) (bus : Bus) :
    (∃ result rt' bus', rt.acquirePort host c bus = (result, none, rt', bus') ∧ result ≠ .ok ∧
      rt.handles <+: rt'.handles ∧ bus'.sent = bus.sent) ∨
    ∃ u, c.Matches u ∧
      rt.acquirePort host c bus = (.ok, some rt.nextPort, rt.acquired c u, bus) := by
  rcases rt.acquirePort_cases host c bus with
    ⟨result, rt', bus', heq, hfailed, -, -, hsent⟩ | hopened
  · refine .inl ⟨result, rt', bus', heq, hfailed, ?_, hsent⟩
    rw [acquirePort] at heq
    split at heq
    · cases heq
      exact List.prefix_rfl
    · split at heq
      · cases heq
        exact List.prefix_rfl
      · dsimp only at heq
        split at heq
        · cases heq
          exact List.prefix_append _ _
        · cases heq
  · exact .inr hopened

/-- A Device open opens a handle for a device that the candidate selects, unless it fails. -/
theorem openDevice_cases (host : Host) (c : Candidate) (claim : Option ClaimPlan)
    (outOfMemory : Option ErrorInfo) (bus : Bus) :
    (∃ result rt' bus', rt.openDevice host c claim outOfMemory bus = (result, none, rt', bus') ∧
      result ≠ .ok ∧ rt.handles <+: rt'.handles ∧ bus'.sent = bus.sent) ∨
    ∃ u port rt', c.Matches u ∧ rt'.handles = rt.handles ++ [u] ∧
      rt.openDevice host c claim outOfMemory bus =
        (.ok, some (port, rt.handles.length), rt', bus) := by
  rw [openDevice]
  rcases rt.acquirePort_handles host c bus with
    ⟨result, rt', bus', heq, hfailed, hhandles, hsent⟩ | ⟨u, hmatches, heq⟩
  · rw [heq]
    exact .inl ⟨result, rt', bus', rfl, hfailed, hhandles, hsent⟩
  · rw [heq]
    dsimp only
    have hhandle : (((rt.acquired c u).heap rt.nextPort).map (·.handle)).getD 0 =
        rt.handles.length := by simp [acquired, updatePort]
    have hopened : (rt.acquired c u).handles = rt.handles ++ [u] := rfl
    generalize hclaim : (match claim with
      | none => (success, rt.acquired c u)
      | some plan => (rt.acquired c u).claimInterface rt.nextPort plan.interfaceNumber plan.status
          plan.memory) = claimed
    obtain ⟨status, rt'⟩ := claimed
    have hhandles : rt'.handles = rt.handles ++ [u] := by
      cases claim with
      | none =>
        cases hclaim
        exact hopened
      | some plan =>
        have hkept := (rt.acquired c u).claimInterface_handles rt.nextPort plan.interfaceNumber
          plan.status plan.memory
        dsimp only at hclaim
        rw [hclaim] at hkept
        exact hkept.trans hopened
    dsimp only
    by_cases hstatus : status = success
    · rw [if_neg (not_not_intro hstatus)]
      cases outOfMemory with
      | none => exact .inr ⟨u, _, rt', hmatches, hhandles, by rw [hhandle]⟩
      | some error =>
        refine .inl ⟨_, _, _, rfl, (by rintro ⟨⟩), ?_, rfl⟩
        rw [closeTransport_handles, hhandles]
        exact List.prefix_append _ _
    · rw [if_pos hstatus]
      refine .inl ⟨_, _, _, rfl, mapLibusbError_ne_ok hstatus false, ?_, rfl⟩
      rw [release_handles, hhandles]
      exact List.prefix_append _ _

end Transport.Runtime

namespace Context

/-- The requests 54 that were sent. -/
def registrations (ctx : Context) : List Transport.Exchange :=
  ctx.bus.sent.filter fun e => e.request == 54

theorem registrations_of_sent {ctx ctx' : Context} {more : List Transport.Exchange}
    (hsent : ctx'.bus.sent = ctx.bus.sent ++ more) (hmore : ∀ e ∈ more, e.request ≠ 54) :
    ctx'.registrations = ctx.registrations := by
  have hnone : more.filter (fun e => e.request == 54) = [] :=
    List.filter_eq_nil_iff.mpr fun e he => by simpa using hmore e he
  rw [registrations, hsent, List.filter_append, hnone, List.append_nil, registrations]

/-- The HID IDs, the active Devices, the handles and the requests 54 are the same. -/
structure Quiet (ctx ctx' : Context) : Prop where
  domains : ctx'.hidIdDomains = ctx.hidIdDomains
  devices : ctx'.devices = ctx.devices
  handles : ctx'.runtime.handles = ctx.runtime.handles
  sent : ∃ more, ctx'.bus.sent = ctx.bus.sent ++ more ∧ ∀ e ∈ more, e.request ≠ 54

namespace Quiet

variable {ctx ctx' ctx'' : Context}

theorem of_sent_eq (hdomains : ctx'.hidIdDomains = ctx.hidIdDomains)
    (hdevices : ctx'.devices = ctx.devices)
    (hhandles : ctx'.runtime.handles = ctx.runtime.handles)
    (hsent : ctx'.bus.sent = ctx.bus.sent) : Quiet ctx ctx' :=
  ⟨hdomains, hdevices, hhandles, [], by rw [hsent, List.append_nil], nofun⟩

theorem refl (ctx : Context) : Quiet ctx ctx := of_sent_eq rfl rfl rfl rfl

theorem trans (h : Quiet ctx ctx') (h' : Quiet ctx' ctx'') : Quiet ctx ctx'' := by
  obtain ⟨more, hsent, hmore⟩ := h.sent
  obtain ⟨more', hsent', hmore'⟩ := h'.sent
  refine ⟨h'.domains.trans h.domains, h'.devices.trans h.devices, h'.handles.trans h.handles,
    more ++ more', by rw [hsent', hsent, List.append_assoc], fun e he => ?_⟩
  rcases List.mem_append.mp he with he | he
  · exact hmore e he
  · exact hmore' e he

theorem registrations_eq (h : Quiet ctx ctx') : ctx'.registrations = ctx.registrations := by
  obtain ⟨more, hsent, hmore⟩ := h.sent
  exact registrations_of_sent hsent hmore

theorem releaseSpec (ctx : Context) (address : ℕ) : Quiet ctx (ctx.releaseSpec address) :=
  of_sent_eq rfl rfl rfl rfl

/-- A request 55 on the bus. -/
theorem unregister (ctx : Context) (d : Transport.Device) (hidId : ℕ) :
    Quiet ctx { ctx with bus := (d.unregisterHid hidId ctx.bus).2.2 } := by
  obtain ⟨more, hsent, hmore⟩ := d.unregisterHid_sends hidId ctx.bus
  refine ⟨rfl, rfl, rfl, more, hsent, fun e he => ?_⟩
  rw [(hmore e he).1]
  decide

end Quiet

end Context

/-- The clear of a reservation keeps the handle and the configuration. -/
theorem Transport.Device.clearReservation_handle (d : Transport.Device) (address : Option ℕ) :
    (d.clearReservation address).2.handle = d.handle ∧
      (d.clearReservation address).2.config = d.config := by
  rcases d.clearReservation_cases address with heq | ⟨a, r, -, -, -, heq⟩ <;>
  · rw [heq]
    exact ⟨rfl, rfl⟩

/-- The part of a Node close for a device that is present. -/
theorem neutralizeEntry_kept (ctx : Context) (d : Transport.Device) (node : LiveNode)
    (env : NodeCloseEnv) :
    d.Kept (neutralizeEntry d ctx.bus node env).2.1 ∧
      ctx.Quiet { ctx with bus := (neutralizeEntry d ctx.bus node env).2.2 } := by
  rw [neutralizeEntry]
  split
  · have hpassed := Transport.Device.Kept.passAll d env.neutral
    dsimp only
    split
    · exact ⟨hpassed, .refl ctx⟩
    · exact ⟨hpassed.trans (.of_observed (.unregisterHid _ node.hidId ctx.bus)),
        .unregister ctx _ node.hidId⟩
  · exact ⟨.refl d, .refl ctx⟩

/-- A Node close reaches the clear of the reservation, or keeps the reservations. -/
theorem closeEntry_cases (ctx : Context) (d : Transport.Device) (node : LiveNode)
    (env : NodeCloseEnv) :
    ∃ d' bus result, d.Kept d' ∧ ctx.Quiet { ctx with bus } ∧
      (closeEntry d ctx.bus node env = (result, d', bus) ∧ result ≠ .ok ∨
        closeEntry d ctx.bus node env =
          ((d'.clearReservation node.reservation).1.result,
            (d'.clearReservation node.reservation).2, bus)) := by
  have hpassed := Transport.Device.Kept.passAll d env.drain
  obtain ⟨hkept, hquiet⟩ := neutralizeEntry_kept ctx (d.passAll env.drain) node env
  rw [closeEntry]
  dsimp only
  split
  · rename_i hfailed
    exact ⟨_, _, _, hpassed, .refl ctx, .inl ⟨rfl, hfailed⟩⟩
  · generalize neutralizeEntry (d.passAll env.drain) ctx.bus node env = out at hkept hquiet
    obtain ⟨result, d', bus⟩ := out
    dsimp only at hkept hquiet ⊢
    split
    · rename_i hfailed
      exact ⟨d', bus, result, hpassed.trans hkept, hquiet, .inl ⟨rfl, hfailed⟩⟩
    · exact ⟨d', bus, .ok, hpassed.trans hkept, hquiet, .inr rfl⟩

namespace Context

/-- A Node close, as far as the HID IDs go. -/
theorem closeLiveNode_quiet (ctx : Context) (graph : DeviceGraph) (node : LiveNode)
    (env : NodeCloseEnv) :
    ctx.Quiet (ctx.closeLiveNode graph node env).2.2 ∧
      (ctx.closeLiveNode graph node env).2.1.transport.handle = graph.transport.handle ∧
      (ctx.closeLiveNode graph node env).2.1.hidIdDomainIndex = graph.hidIdDomainIndex := by
  obtain ⟨d', bus, result, hkept, hquiet, ⟨heq, hfailed⟩ | heq⟩ :=
    closeEntry_cases ctx graph.transport node env
  · rw [closeLiveNode, heq]
    dsimp only
    rw [if_pos hfailed]
    exact ⟨hquiet, hkept.handle, rfl⟩
  · have hhandle := (d'.clearReservation_handle node.reservation).1.trans hkept.handle
    rw [closeLiveNode, heq]
    dsimp only
    split
    · exact ⟨hquiet, hhandle, rfl⟩
    · exact ⟨hquiet.trans (.releaseSpec _ _), hhandle, rfl⟩

theorem closeLiveNodes_quiet (envs : List NodeCloseEnv) (ctx : Context) (graph : DeviceGraph) :
    ctx.Quiet (ctx.closeLiveNodes graph envs).2 := by
  induction envs generalizing ctx graph with
  | nil => exact .refl ctx
  | cons env rest ih =>
    rw [closeLiveNodes]
    split
    · exact .refl ctx
    · rename_i node hnode
      obtain ⟨hquiet, -, -⟩ := ctx.closeLiveNode_quiet graph node env
      generalize ctx.closeLiveNode graph node env = out at hquiet
      obtain ⟨result, graph', ctx'⟩ := out
      dsimp only at hquiet
      split
      · rename_i heq
        cases heq
        exact hquiet.trans (ih _ _)
      · rename_i heq
        cases heq
        exact hquiet

theorem destroyNodes_quiet (nodes : List LiveNode) (d : Transport.Device) (ctx : Context) :
    ctx.Quiet (destroyNodes d ctx nodes).2 := by
  induction nodes generalizing d ctx with
  | nil => exact .refl ctx
  | cons node rest ih =>
    rw [destroyNodes]
    dsimp only
    refine Quiet.trans ?_ (ih _ _)
    refine Quiet.trans ?_ (.releaseSpec _ _)
    split
    · exact .unregister ctx d node.hidId
    · exact .refl ctx

theorem destroyDevice_quiet (ctx : Context) (graph : DeviceGraph) :
    ctx.Quiet (ctx.destroyDevice graph) := by
  have hquiet := destroyNodes_quiet graph.nodes.reverse graph.transport ctx
  rw [destroyDevice]
  refine hquiet.trans ⟨rfl, rfl, ?_, [], by simp, nofun⟩
  exact Transport.Runtime.closeTransport_handles _ _ _

/-- The Context behind a successful Device open. -/
def addDevice (ctx : Context) (c : Candidate) (env : DeviceOpenEnv) (port : ℕ)
    (runtime : Runtime) : Context := { ctx with
  runtime
  hidIdDomains := (findOrCreateHidIdDomain ctx.hidIdDomains c).2
  devices := ctx.devices ++
    [{ transport := .opened env.config ctx.runtime.handles.length env.policies.poolSlots
       port
       claim := env.claim.map (·.interfaceNumber)
       policies := env.policies
       hidIdDomainIndex := (findOrCreateHidIdDomain ctx.hidIdDomains c).1 }] }

/-- A Device open adds a Device on a new handle, or fails. -/
theorem deviceOpen_ends (ctx : Context) (c : Candidate) (env : DeviceOpenEnv) :
    (∃ result runtime bus, ctx.deviceOpen c env = (result, { ctx with runtime, bus }) ∧
      result ≠ .ok ∧ ctx.runtime.handles <+: runtime.handles ∧ bus.sent = ctx.bus.sent) ∨
    ∃ u port runtime, c.Matches u ∧ runtime.handles = ctx.runtime.handles ++ [u] ∧
      ctx.deviceOpen c env = (.ok, ctx.addDevice c env port runtime) := by
  rw [deviceOpen.eq_def]
  split
  · rename_i refusal _
    exact .inl ⟨_, ctx.runtime, ctx.bus, rfl, refusal.failed, List.prefix_rfl, rfl⟩
  · rcases ctx.runtime.openDevice_cases env.host c env.claim env.outOfMemory ctx.bus with
      ⟨result, runtime, bus, heq, hfailed, hhandles, hsent⟩ |
        ⟨u, port, runtime, hmatches, hhandles, heq⟩
    · rw [heq]
      exact .inl ⟨result, runtime, bus, rfl, hfailed, hhandles, hsent⟩
    · rw [heq]
      dsimp only
      split
      · refine .inl ⟨_, _, _, rfl, nofun, ?_, rfl⟩
        rw [Transport.Runtime.closeTransport_handles, hhandles]
        exact List.prefix_append _ _
      · exact .inr ⟨u, port, runtime, hmatches, hhandles, rfl⟩

/-- A Device close, as far as the HID IDs go. -/
theorem deviceClose_quiet (ctx : Context) (graph : DeviceGraph) (env : DeviceCloseEnv) :
    ctx.Quiet (ctx.deviceClose graph env) := by
  have hquiet := closeLiveNodes_quiet env.nodes ctx { graph with closing := true }
  rw [deviceClose]
  dsimp only
  split
  · exact hquiet.trans (destroyDevice_quiet _ _)
  · exact hquiet.trans (.of_sent_eq rfl rfl rfl rfl)

end Context

end LibaoaHid

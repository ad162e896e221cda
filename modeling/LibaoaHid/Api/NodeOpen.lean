import LibaoaHid.Api.Submit
import LibaoaHid.Profiles.SpecChecks
import LibaoaHid.Transport.Ports
import LibaoaHid.Transport.Traffic
import Mathlib.Logic.Function.Basic

/-!
# Opening a Node

`aoahid_node_open` of `src/api/c_api.cpp`, with what it takes on its way: a HID ID of the domain of
the Device, a reference of the Spec, a reservation of the transfer pool and a registration.

A Spec is known by its address, and so is a Node. A Device is known by its place in the lists of the
Context.

## Main definitions

* `HidIdDomain`, `SharedSpec`, `LiveNode`, `DeviceGraph`, `Context`.
* `findOrCreateHidIdDomain`, `allocateHidId`, `SharedSpec.retain`, `Context.releaseSpec`.
* `checkNodeOpen`, `nodeOpen`.

## Main results

* `nodeOpen_ends`: where a Node open ends, and what it leaves there.
-/

namespace LibaoaHid

open Transport (Bus Runtime Candidate)

/-! ### State -/

/-- `HidIdDomain`. -/
structure HidIdDomain where
  bus : ℕ
  portPath : List ℕ
  nextHidId : ℕ := 1
  unidentified : Bool
  deriving DecidableEq

/-- `aoahid_spec`, with its reference count. -/
structure SharedSpec where
  spec : Spec
  references : ℕ

/-- `aoahid_node`, as far as the close of its Device reads it. -/
structure LiveNode where
  address : ℕ
  spec : ℕ
  hidId : ℕ
  reservedSlots : ℕ
  reservation : Option ℕ
  deriving DecidableEq

/-- The policies of a Device, with the size of its transfer pool. -/
structure DevicePolicies where
  poolSlots : ℕ
  aoaDescriptorPolicyBytes : ℕ
  linuxDescriptorPolicyBytes : ℕ
  linuxHidFieldsPerReportPolicy : ℕ
  linuxHidGlobalStackDepthPolicy : ℕ
  linuxHidUsagesPolicy : ℕ
  linuxHidReportDataBitsPolicy : ℕ
  linuxHidReportSizeBitsPolicy : ℕ
  targetEp0PolicyBytes : ℕ
  hostControlPolicyBytes : ℕ

/-- `aoahid_device`, with the Port of its transport and the interface that this claims. -/
structure DeviceGraph where
  transport : Transport.Device
  port : ℕ
  claim : Option ℤ := none
  policies : DevicePolicies
  hidIdDomainIndex : ℕ
  nodes : List LiveNode := []
  closing : Bool := false

/-- `aoahid_context`, with the Specs behind their addresses. -/
structure Context where
  runtime : Runtime := {}
  bus : Bus
  hidIdDomains : List HidIdDomain := []
  specs : ℕ → Option SharedSpec := fun _ => none
  devices : List DeviceGraph := []
  graveyard : List DeviceGraph := []

/-! ### HID IDs -/

/-- `find_or_create_hid_id_domain`: the index of the domain. -/
def findOrCreateHidIdDomain (domains : List HidIdDomain) (c : Candidate) : ℕ × List HidIdDomain :=
  let unidentified := c.portPath.isEmpty
  let found := domains.findIdx? fun domain =>
    if unidentified then domain.unidentified
    else !domain.unidentified && domain.bus == c.bus && domain.portPath == c.portPath
  match found with
  | some index => (index, domains)
  | none =>
    (domains.length, domains ++ [{ bus := c.bus, portPath := c.portPath, unidentified }])

/-- `allocate_hid_id`. -/
def allocateHidId (domains : List HidIdDomain) (index : ℕ) : Except Reply (ℕ × List HidIdDomain) :=
  match domains[index]? with
  | none =>
    .error (.fail .errInternal "device.hid_id"
      "The device has no valid physical-identity allocation domain.")
  | some domain =>
    if domain.nextHidId > 2 ^ 16 - 1 then
      .error (.fail .errOverflow "device.hid_id"
        "The monotonic AOA HID ID space for this physical-identity domain is exhausted.")
    else
      .ok (domain.nextHidId % 2 ^ 16,
        domains.set index { domain with nextHidId := (domain.nextHidId + 1) % 2 ^ 32 })

/-! ### References of a Spec -/

/-- `retain_spec`: the largest `uint32_t` is not incremented. -/
def SharedSpec.retain (shared : SharedSpec) : Option SharedSpec :=
  if shared.references ≠ 2 ^ 32 - 1 then
    some { shared with references := shared.references + 1 }
  else none

/-- `release_spec`: the last reference takes the Spec with it. -/
def SharedSpec.release (shared : SharedSpec) : Option SharedSpec :=
  if shared.references = 0 then some shared
  else if shared.references = 1 then none
  else some { shared with references := shared.references - 1 }

namespace Context

/-- A new value of a Spec. -/
def setSpec (ctx : Context) (address : ℕ) (shared : Option SharedSpec) : Context :=
  { ctx with specs := Function.update ctx.specs address shared }

/-- `release_spec` of the Spec at an address. -/
def releaseSpec (ctx : Context) (address : ℕ) : Context :=
  ctx.setSpec address ((ctx.specs address).bind (·.release))

end Context

/-! ### The checks -/

/-- The policies of a Device that a Spec fails, in the order of `aoahid_node_open`. -/
def DeviceGraph.policyRefusal (graph : DeviceGraph) (spec : Spec) : Option Reply :=
  let policies := graph.policies
  let requirements := spec.requirements
  firstRefusal
    [ refuse (spec.descriptor = [] ∨
          spec.descriptor.length > policies.aoaDescriptorPolicyBytes)
        (.fail .errOverflow "spec.descriptor.aoa_wire_policy"
          "The descriptor exceeds the caller's AOA wire-size policy."),
      refuse (spec.descriptor.length > policies.linuxDescriptorPolicyBytes)
        (.fail .errOverflow "spec.descriptor.linux_policy"
          "The descriptor exceeds the caller's Linux descriptor byte policy."),
      refuse (requirements.maximumFieldsPerReport > policies.linuxHidFieldsPerReportPolicy)
        (.fail .errOverflow "spec.requirements.maximum_fields_per_report"
          ("The descriptor exceeds the caller-selected per-report field policy for the " ++
            "exact target HID parser revision.")
          0 0 0 0 policies.linuxHidFieldsPerReportPolicy requirements.maximumFieldsPerReport),
      refuse (requirements.maximumGlobalStackDepth > policies.linuxHidGlobalStackDepthPolicy)
        (.fail .errOverflow "spec.requirements.maximum_global_stack_depth"
          ("The descriptor exceeds the caller-selected Global stack-depth policy for the " ++
            "exact target HID parser revision.")
          0 0 0 0 policies.linuxHidGlobalStackDepthPolicy requirements.maximumGlobalStackDepth),
      refuse (requirements.maximumReportSizeBits > policies.linuxHidReportSizeBitsPolicy)
        (.fail .errOverflow "spec.requirements.maximum_report_size_bits"
          ("The descriptor exceeds the caller-selected Report Size declaration policy for " ++
            "the exact target HID parser revision.")
          0 0 0 0 policies.linuxHidReportSizeBitsPolicy requirements.maximumReportSizeBits),
      refuse (requirements.maximumUsages > policies.linuxHidUsagesPolicy)
        (.fail .errOverflow "spec.requirements.maximum_usages"
          ("The descriptor exceeds the caller-selected Usage policy for the exact target HID " ++
            "parser revision.")
          0 0 0 0 (min policies.linuxHidUsagesPolicy (2 ^ 32 - 1))
          (min requirements.maximumUsages (2 ^ 32 - 1))),
      refuse (requirements.maximumReportDataBits > policies.linuxHidReportDataBitsPolicy)
        (.fail .errOverflow "spec.requirements.maximum_report_data_bits"
          ("The descriptor exceeds the caller-selected report data-bit policy for the exact " ++
            "target HID parser revision.")
          0 0 0 0 (min policies.linuxHidReportDataBitsPolicy (2 ^ 32 - 1))
          (min requirements.maximumReportDataBits (2 ^ 32 - 1))),
      refuse (∃ report ∈ spec.reportCapabilities,
          report.wireLength > graph.transport.config.maximumReportBytes ∨
            report.wireLength > policies.targetEp0PolicyBytes ∨
            report.wireLength > policies.hostControlPolicyBytes)
        (.fail .errOverflow "spec.report"
          "A report exceeds one of the caller's distinct report/control policies.") ]

/-- The reservation that the options of a Node ask for, unless they leave it open. -/
def NodeOptions.reservation (options : NodeOptions) : Except Reply ℕ :=
  let useZeroReservationFallback := options.hasReservedSlots = 0 ∧ options.reservedSlots = 0
  if options.reserved ≠ 0 ∨ (¬ useZeroReservationFallback ∧ options.hasReservedSlots ≠ 1) ∨
      options.reservedSlots > 1 then
    .error (.fail .errUnsetField "node.reserved_slots"
      ("Zero/zero selects the no-reservation fallback; otherwise reservation intent " ++
        "must be explicit, and a one-inflight Node can reserve only zero or one slot."))
  else .ok options.reservedSlots.toNat

/-- The checks of `aoahid_node_open` in front of the Node: the slots to reserve, if they pass. -/
def checkNodeOpen (graph : DeviceGraph) (spec : Spec) (options : Option NodeOptions)
    (deferred : Option Refusal) : Except Reply ℕ :=
  if graph.closing then
    .error (.fail .errParam "device"
      "The Device handle was consumed by close and cannot open a Node.")
  else
    match deferred with
    | some refusal => .error refusal.reply
    | none =>
      match structRefusal (options.map (·.structSize)) NodeOptions.size "node_options", options with
      | some error, _ => .error ⟨.errParam, error⟩
      | none, none => .error ⟨.errParam, clearError⟩
      | none, some options =>
        match options.reservation with
        | .error reply => .error reply
        | .ok slots =>
          if slots + (graph.nodes.map (·.reservedSlots)).sum ≥ graph.policies.poolSlots then
            .error (.fail .errParam "node.reserved_slots"
              "Positive Node reservations must leave at least one shared pool slot.")
          else
            match graph.policyRefusal spec with
            | some reply => .error reply
            | none => .ok slots

/-! ### The call -/

/-- What a Node open meets outside the Context: a deferred error, and the memory it finds. -/
structure NodeOpenEnv where
  deferred : Option Refusal := none
  /-- The address of the new Node. -/
  node : Option ℕ
  stateMemory : Bool := true
  nodesMemory : Bool := true
  /-- The address of the new reservation. -/
  reservation : Option ℕ
  reservationsMemory : Bool := true

/-- What `aoahid_node_open` leaves, with the HID ID that it took. -/
structure NodeOpening where
  reply : Reply
  handle : Option ℕ := none
  hidId : Option ℕ := none
  device : DeviceGraph
  context : Context

/-- An exception for want of memory, at the C boundary. -/
def nodeOpenOutOfMemory : Reply :=
  .fail .errInternal "node.open" "Memory allocation failed inside the public C ABI call."

/-- `aoahid_node_open`, from `register_hid` on; the Spec is retained and the reservation set. -/
def registerNode (ctx : Context) (graph : DeviceGraph) (node : Node) (entry : LiveNode) :
    NodeOpening :=
  let descriptor := node.spec.descriptor
  let (result, transport, bus) := graph.transport.registerHid entry.hidId descriptor ctx.bus
  let ctx := { ctx with bus }
  if h : result ≠ .ok then
    { reply := finishTransportResult ⟨result, bus.lastError, h⟩ "node.register"
        "AOA HID registration or descriptor transfer failed." node 54 0 (descriptor.length % 2 ^ 32)
      hidId := some entry.hidId
      device := { graph with transport := (transport.clearReservation entry.reservation).2 }
      context := ctx.releaseSpec entry.spec }
  else
    { reply := .ok
      handle := some entry.address
      hidId := some entry.hidId
      device := { graph with transport, nodes := graph.nodes ++ [entry] }
      context := ctx }

/-- `aoahid_node_open`, from the retained Spec on. -/
def reserveNode (ctx : Context) (graph : DeviceGraph) (node : Node) (entry : LiveNode)
    (env : NodeOpenEnv) : NodeOpening :=
  let (outcome, reservation, transport) :=
    graph.transport.setReservation entry.hidId entry.reservedSlots env.reservation
  if h : outcome.result ≠ .ok then
    { reply := finishTransportResult ⟨outcome.result, outcome.lastError, h⟩ "node.reserved_slots"
        "The requested transfer-pool reservation could not be installed." node
      hidId := some entry.hidId
      device := { graph with transport }
      context := ctx.releaseSpec entry.spec }
  -- The list of the reservations grows before their totals do.
  else if !env.reservationsMemory then
    { reply := nodeOpenOutOfMemory
      hidId := some entry.hidId
      device := graph
      context := ctx.releaseSpec entry.spec }
  else registerNode ctx { graph with transport } node { entry with reservation }

/-- `aoahid_node_open`, behind its checks. -/
def openLiveNode (ctx : Context) (graph : DeviceGraph) (address : ℕ) (shared : SharedSpec)
    (reservedSlots : ℕ) (env : NodeOpenEnv) : NodeOpening :=
  match env.node with
  | none =>
    { reply := .fail .errInternal "node" "Memory allocation for the Node failed."
      device := graph
      context := ctx }
  | some nodeAddress =>
    match allocateHidId ctx.hidIdDomains graph.hidIdDomainIndex with
    | .error reply => { reply, device := graph, context := ctx }
    | .ok (hidId, hidIdDomains) =>
      let ctx := { ctx with hidIdDomains }
      let stop (reply : Reply) : NodeOpening :=
        { reply, hidId := some hidId, device := graph, context := ctx }
      match openNode shared.spec hidId with
      | none =>
        stop (.fail .errInternal "spec.kind"
          "A validated ProfileSpec contained an unknown profile kind.")
      | some node =>
        if !env.stateMemory ∨ !env.nodesMemory then stop nodeOpenOutOfMemory
        else
          match shared.retain with
          | none =>
            stop (.fail .errOverflow "spec.references"
              "The Spec reference count cannot be incremented for this Node.")
          | some retained =>
            reserveNode (ctx.setSpec address (some retained)) graph node
              { address := nodeAddress, spec := address, hidId, reservedSlots, reservation := none }
              env

/-- `aoahid_node_open`. -/
def nodeOpen (ctx : Context) (graph : DeviceGraph) (spec : Option ℕ) (options : Option NodeOptions)
    (hasOut : Bool) (env : NodeOpenEnv) : NodeOpening :=
  if !hasOut then
    { reply := .fail .errParam "out_node" "The output pointer is null."
      device := graph
      context := ctx }
  else
    match spec.bind fun address => (ctx.specs address).map fun shared => (address, shared) with
    | none =>
      { reply := .fail .errParam "node.open" "A live Device and immutable Spec are required."
        device := graph
        context := ctx }
    | some (address, shared) =>
      match checkNodeOpen graph shared.spec options env.deferred with
      | .error reply => { reply, device := graph, context := ctx }
      | .ok reservedSlots => openLiveNode ctx graph address shared reservedSlots env

/-! ### Where a Node open ends -/

/-- The descriptor and the reports of a Spec satisfy the policies of a Device. -/
structure DeviceGraph.Meets (graph : DeviceGraph) (spec : Spec) : Prop where
  descriptor_ne_nil : spec.descriptor ≠ []
  descriptor_aoa : spec.descriptor.length ≤ graph.policies.aoaDescriptorPolicyBytes
  descriptor_linux : spec.descriptor.length ≤ graph.policies.linuxDescriptorPolicyBytes
  fields : spec.requirements.maximumFieldsPerReport ≤ graph.policies.linuxHidFieldsPerReportPolicy
  stack : spec.requirements.maximumGlobalStackDepth ≤ graph.policies.linuxHidGlobalStackDepthPolicy
  reportSize : spec.requirements.maximumReportSizeBits ≤ graph.policies.linuxHidReportSizeBitsPolicy
  usages : spec.requirements.maximumUsages ≤ graph.policies.linuxHidUsagesPolicy
  dataBits : spec.requirements.maximumReportDataBits ≤ graph.policies.linuxHidReportDataBitsPolicy
  reports : ∀ report ∈ spec.reportCapabilities,
    report.wireLength ≤ graph.transport.config.maximumReportBytes ∧
      report.wireLength ≤ graph.policies.targetEp0PolicyBytes ∧
      report.wireLength ≤ graph.policies.hostControlPolicyBytes

theorem DeviceGraph.policyRefusal_eq_none {graph : DeviceGraph} {spec : Spec}
    (h : graph.policyRefusal spec = none) : graph.Meets spec := by
  rw [DeviceGraph.policyRefusal] at h
  simp only [firstRefusal_cons_eq_none, refuse_eq_none, firstRefusal_nil, and_true, not_or,
    not_exists, not_and, Nat.not_lt, gt_iff_lt] at h
  obtain ⟨⟨hne, haoa⟩, hlinux, hfields, hstack, hsize, husages, hbits, hreports⟩ := h
  exact ⟨hne, haoa, hlinux, hfields, hstack, hsize, husages, hbits, hreports⟩

/-- A policy that is not met is an overflow. -/
theorem DeviceGraph.result_of_policyRefusal {graph : DeviceGraph} {spec : Spec} {reply : Reply}
    (h : graph.policyRefusal spec = some reply) : reply.result = .errOverflow := by
  rw [DeviceGraph.policyRefusal] at h
  have hmem := mem_of_firstRefusal h
  simp only [List.mem_cons, List.not_mem_nil, or_false] at hmem
  rcases hmem with h | h | h | h | h | h | h | h <;>
    exact (refuse_eq_some.mp h.symm).2 ▸ rfl

/-- **The checks of a Node open.** What passes them meets the policies. -/
theorem meets_of_checkNodeOpen {graph : DeviceGraph} {spec : Spec} {options : Option NodeOptions}
    {deferred : Option Refusal} {slots : ℕ}
    (h : checkNodeOpen graph spec options deferred = .ok slots) :
    graph.closing = false ∧ graph.Meets spec := by
  rw [checkNodeOpen.eq_def] at h
  split at h
  · cases h
  rename_i hclosing
  split at h
  · cases h
  split at h
  · cases h
  · cases h
  split at h
  · cases h
  split at h
  · cases h
  split at h
  · cases h
  · rename_i hmeets
    exact ⟨by simpa using hclosing, DeviceGraph.policyRefusal_eq_none hmeets⟩

/-- The errors of the checks are failures. -/
theorem checkNodeOpen_failed {graph : DeviceGraph} {spec : Spec} {options : Option NodeOptions}
    {deferred : Option Refusal} {reply : Reply}
    (h : checkNodeOpen graph spec options deferred = .error reply) : reply.result ≠ .ok := by
  rw [checkNodeOpen.eq_def] at h
  split at h
  · cases h
    exact nofun
  split at h
  · rename_i refusal
    cases h
    exact refusal.failed
  split at h
  · cases h
    exact nofun
  · cases h
    exact nofun
  split at h
  · rename_i options _ _ hreservation
    cases h
    rw [NodeOptions.reservation] at hreservation
    split at hreservation
    · cases hreservation
      exact nofun
    · cases hreservation
  split at h
  · cases h
    exact nofun
  split at h
  · rename_i hrefused
    cases h
    rw [DeviceGraph.result_of_policyRefusal hrefused]
    nofun
  · cases h

/-- What a registration adds to the bus: at most one request 54, for the HID ID. -/
def Bus.Registers (bus bus' : Bus) (handle hidId : ℕ) : Prop :=
  ∃ first others, bus'.sent = bus.sent ++ (first ++ others) ∧ first.length ≤ 1 ∧
    (∀ e ∈ first, e.request = 54 ∧ e.handle = handle ∧ e.value = hidId) ∧
    ∀ e ∈ others, e.request ≠ 54

/-- The entry of a Node that is open. -/
def openedEntry (address spec hidId slots reservation : ℕ) : LiveNode :=
  { address, spec, hidId, reservedSlots := slots, reservation := some reservation }

/-- The transport with the reservation of one more Node. -/
def Transport.Device.reserving (d : Transport.Device) (hidId slots address : ℕ) :
    Transport.Device := { d with
  reservations := d.reservations ++ [{ address, hidId, capacity := slots }]
  reservedCapacityTotal := d.reservedCapacityTotal + slots
  unfilledReservedTotal := d.unfilledReservedTotal + slots }

/-- A HID ID that is not given is an error. -/
theorem allocateHidId_failed {domains : List HidIdDomain} {index : ℕ} {reply : Reply}
    (h : allocateHidId domains index = .error reply) : reply.result ≠ .ok := by
  rw [allocateHidId.eq_def] at h
  split at h
  · cases h
    exact nofun
  · split at h
    · cases h
      exact nofun
    · cases h

/-- Where a Node open ends, and what it leaves there. -/
inductive NodeOpenEnds (ctx : Context) (graph : DeviceGraph) (spec : Option ℕ)
    (options : Option NodeOptions) (env : NodeOpenEnv) : NodeOpening → Prop
  /-- Before a HID ID is taken. -/
  | refused {reply : Reply} (hfailed : reply.result ≠ .ok) :
      NodeOpenEnds ctx graph spec options env { reply, device := graph, context := ctx }
  /-- Before a request is sent. -/
  | stopped {reply : Reply} {hidId : ℕ} {hidIdDomains : List HidIdDomain}
      (hfailed : reply.result ≠ .ok)
      (hid : allocateHidId ctx.hidIdDomains graph.hidIdDomainIndex = .ok (hidId, hidIdDomains)) :
      NodeOpenEnds ctx graph spec options env
        { reply, hidId := some hidId, device := graph, context := { ctx with hidIdDomains } }
  /-- In the registration. -/
  | unregistered {reply : Reply} {hidId : ℕ} {hidIdDomains : List HidIdDomain} {address slots : ℕ}
      {shared : SharedSpec} {transport : Transport.Device} {bus : Bus}
      (hfailed : reply.result ≠ .ok)
      (hid : allocateHidId ctx.hidIdDomains graph.hidIdDomainIndex = .ok (hidId, hidIdDomains))
      (hspec : spec = some address) (hshared : ctx.specs address = some shared)
      (hcheck : checkNodeOpen graph shared.spec options env.deferred = .ok slots)
      (hobserved : graph.transport.Observed transport)
      (hregisters : Bus.Registers ctx.bus bus graph.transport.handle hidId) :
      NodeOpenEnds ctx graph spec options env
        { reply
          hidId := some hidId
          device := { graph with transport }
          context := { ctx with hidIdDomains, bus } }
  /-- With a Node. -/
  | opened {hidId : ℕ} {hidIdDomains : List HidIdDomain} {address slots node reservation : ℕ}
      {shared retained : SharedSpec} {transport : Transport.Device} {bus : Bus}
      (hid : allocateHidId ctx.hidIdDomains graph.hidIdDomainIndex = .ok (hidId, hidIdDomains))
      (hspec : spec = some address) (hshared : ctx.specs address = some shared)
      (hretained : shared.retain = some retained)
      (hcheck : checkNodeOpen graph shared.spec options env.deferred = .ok slots)
      (hnode : env.node = some node) (hreservation : env.reservation = some reservation)
      (hobserved : (graph.transport.reserving hidId slots reservation).Observed transport)
      (hregisters : Bus.Registers ctx.bus bus graph.transport.handle hidId) :
      NodeOpenEnds ctx graph spec options env
        { reply := .ok
          handle := some node
          hidId := some hidId
          device := { graph with
            transport
            nodes := graph.nodes ++ [openedEntry node address hidId slots reservation] }
          context := { ctx.setSpec address (some retained) with hidIdDomains, bus } }

theorem SharedSpec.release_retain {shared retained : SharedSpec}
    (h : shared.retain = some retained) (hpos : 0 < shared.references) :
    retained.release = some shared := by
  rw [SharedSpec.retain] at h
  split at h
  · cases h
    have hmore : shared.references + 1 ≠ 1 := by omega
    rw [SharedSpec.release]
    dsimp only
    rw [if_neg (Nat.succ_ne_zero _), if_neg hmore, Nat.add_sub_cancel]
  · cases h

/-- A reference that is taken and given back leaves the Specs as they were. -/
theorem Context.releaseSpec_setSpec {ctx : Context} {address : ℕ} {shared retained : SharedSpec}
    (hshared : ctx.specs address = some shared) (hpos : 0 < shared.references)
    (h : shared.retain = some retained) :
    (ctx.setSpec address (some retained)).releaseSpec address = ctx := by
  rw [Context.releaseSpec, Context.setSpec, Context.setSpec]
  simp only [Function.update_self, Option.bind_some, SharedSpec.release_retain h hpos,
    Function.update_idem]
  rw [← hshared, Function.update_eq_self]

namespace Transport.Device

variable {d d' : Device} {hidId slots address : ℕ}

/-- A reservation is refused, or joins the others. -/
theorem setReservation_ends (d : Device) (hidId count : ℕ) (address : Option ℕ) :
    (∃ outcome, outcome.result ≠ .ok ∧
        d.setReservation hidId count address = (outcome, none, d)) ∨
      ∃ a, address = some a ∧
        d.setReservation hidId count address = (⟨.ok, {}⟩, some a, d.reserving hidId count a) := by
  rw [setReservation.eq_def]
  cases address with
  | none =>
    dsimp only
    split
    all_goals
      refine .inl ⟨_, ?_, rfl⟩
      rintro ⟨⟩
  | some a =>
    dsimp only
    split_ifs
    case neg => exact .inr ⟨a, rfl, rfl⟩
    all_goals
      refine .inl ⟨_, ?_, rfl⟩
      rintro ⟨⟩

/-- A reservation that nothing uses is cleared without a trace. -/
theorem clearReservation_reserving (hfresh : ∀ r ∈ d.reservations, r.address ≠ address)
    (h : (d.reserving hidId slots address).Observed d') :
    d.Observed (d'.clearReservation (some address)).2 := by
  obtain ⟨present, latched, rfl⟩ := h
  have hfind : Device.findReservation { d.reserving hidId slots address with present, latched }
      address = some { address, hidId, capacity := slots } := by
    rw [findReservation, reserving]
    rw [List.find?_append, List.find?_eq_none.mpr (by simpa using hfresh)]
    simp
  refine ⟨present, latched, ?_⟩
  rw [clearReservation, Option.bind_some, hfind]
  dsimp only
  rw [if_neg (not_not_intro rfl)]
  simp only [reserving, Nat.add_sub_cancel, List.filter_append, List.filter_cons, List.filter_nil,
    ne_eq, not_true_eq_false, decide_false, Bool.false_eq_true, if_false, List.append_nil]
  congr 1
  exact List.filter_eq_self.mpr fun r hr => by simpa using hfresh r hr

end Transport.Device

variable {ctx : Context} {graph : DeviceGraph} {spec : Option ℕ} {options : Option NodeOptions}
  {env : NodeOpenEnv}

/-- The end of a Node open in its registration or behind it. -/
theorem registerNode_ends {hidId address slots nodeAddress reservation : ℕ}
    {hidIdDomains : List HidIdDomain} {shared retained : SharedSpec}
    (hid : allocateHidId ctx.hidIdDomains graph.hidIdDomainIndex = .ok (hidId, hidIdDomains))
    (hspec : spec = some address) (hshared : ctx.specs address = some shared)
    (hpos : 0 < shared.references) (hretained : shared.retain = some retained)
    (hcheck : checkNodeOpen graph shared.spec options env.deferred = .ok slots)
    (hnode : env.node = some nodeAddress) (hreservation : env.reservation = some reservation)
    (hfresh : ∀ r ∈ graph.transport.reservations, r.address ≠ reservation) (node : Node) :
    NodeOpenEnds ctx graph spec options env
      (registerNode ({ ctx with hidIdDomains }.setSpec address (some retained))
        { graph with transport := graph.transport.reserving hidId slots reservation } node
        (openedEntry nodeAddress address hidId slots reservation)) := by
  have hobserved := Transport.Device.Observed.registerHid
    (graph.transport.reserving hidId slots reservation) hidId node.spec.descriptor ctx.bus
  have hregisters : Bus.Registers ctx.bus _ graph.transport.handle hidId :=
    Transport.Device.registerHid_sends (graph.transport.reserving hidId slots reservation) hidId
      node.spec.descriptor ctx.bus
  rw [registerNode]
  dsimp only [Context.setSpec, openedEntry]
  generalize (graph.transport.reserving hidId slots reservation).registerHid hidId
    node.spec.descriptor ctx.bus = out at hobserved hregisters
  obtain ⟨result, transport, bus⟩ := out
  by_cases hok : result = .ok
  · rw [dif_neg (not_not_intro hok)]
    exact .opened hid hspec hshared hretained hcheck hnode hreservation hobserved hregisters
  · rw [dif_pos hok]
    have hcleared := Transport.Device.clearReservation_reserving hfresh hobserved
    have hrelease := @Context.releaseSpec_setSpec { ctx with hidIdDomains, bus } _ _ _ hshared hpos
      hretained
    rw [Context.setSpec] at hrelease
    rw [hrelease]
    exact .unregistered hok hid hspec hshared hcheck hcleared hregisters

/-- The end of a Node open in its reservation or behind it. -/
theorem reserveNode_ends {hidId address slots nodeAddress : ℕ}
    {hidIdDomains : List HidIdDomain} {shared retained : SharedSpec}
    (hid : allocateHidId ctx.hidIdDomains graph.hidIdDomainIndex = .ok (hidId, hidIdDomains))
    (hspec : spec = some address) (hshared : ctx.specs address = some shared)
    (hpos : 0 < shared.references) (hretained : shared.retain = some retained)
    (hcheck : checkNodeOpen graph shared.spec options env.deferred = .ok slots)
    (hnode : env.node = some nodeAddress)
    (hfresh : ∀ a ∈ env.reservation, ∀ r ∈ graph.transport.reservations, r.address ≠ a)
    (node : Node) :
    NodeOpenEnds ctx graph spec options env
      (reserveNode ({ ctx with hidIdDomains }.setSpec address (some retained)) graph node
        { address := nodeAddress, spec := address, hidId, reservedSlots := slots,
          reservation := none } env) := by
  have hrelease := @Context.releaseSpec_setSpec { ctx with hidIdDomains } _ _ _ hshared hpos
    hretained
  rw [reserveNode]
  dsimp only
  rcases graph.transport.setReservation_ends hidId slots env.reservation with
    ⟨outcome, hfailed, hset⟩ | ⟨a, ha, hset⟩
  · rw [hset]
    dsimp only
    rw [dif_pos hfailed, hrelease]
    exact .stopped hfailed hid
  · rw [hset]
    dsimp only
    rw [dif_neg (not_not_intro rfl)]
    split
    · rw [hrelease]
      exact .stopped nofun hid
    · exact registerNode_ends hid hspec hshared hpos hretained hcheck hnode ha (hfresh a ha) node

/-- **Where a Node open ends.** -/
theorem nodeOpen_ends (hasOut : Bool)
    (hfresh : ∀ a ∈ env.reservation, ∀ r ∈ graph.transport.reservations, r.address ≠ a)
    (hlive : ∀ address shared, ctx.specs address = some shared → 0 < shared.references) :
    NodeOpenEnds ctx graph spec options env (nodeOpen ctx graph spec options hasOut env) := by
  rw [nodeOpen]
  split
  · exact .refused nofun
  split
  · exact .refused nofun
  rename_i address shared hfound
  obtain ⟨a, hspec, hshared⟩ := Option.bind_eq_some_iff.mp hfound
  obtain ⟨_, hshared, heq⟩ := Option.map_eq_some_iff.mp hshared
  cases heq
  split
  · rename_i hrefused
    exact .refused (checkNodeOpen_failed hrefused)
  rename_i slots hcheck
  rw [openLiveNode]
  split
  · exact .refused nofun
  rename_i nodeAddress hnode
  split
  · rename_i hrefused
    exact .refused (allocateHidId_failed hrefused)
  rename_i hidId hidIdDomains hid
  dsimp only
  split
  · exact .stopped nofun hid
  split
  · exact .stopped nofun hid
  split
  · exact .stopped nofun hid
  · rename_i node _ _ _ retained hretained
    exact reserveNode_ends hid hspec hshared (hlive _ _ hshared) hretained hcheck hnode hfresh node

end LibaoaHid

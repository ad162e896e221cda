import LibaoaHid.Api.Balance
import LibaoaHid.Api.DeviceOptions

/-!
# Runs with options

The sessions whose Devices are opened with options. Whatever is opened, closed and sent meanwhile,
the Nodes of a Device and the requests of a Node open stay within its policies.

## Main definitions

* `Session.OpensWithOptions`, `OptionsRun`.
* `DeviceGraph.Descends`, `SpecsFrom`: what a call leaves of a Device and of the Specs.
* `Session.Fitted`: the invariant.

## Main results

* `OptionsRun.nodes_meet`: the Specs of the Nodes that are open.
* `OptionsRun.nodeOpen_fits`: what the requests of a Node open carry.
-/

namespace LibaoaHid

open Transport (Bus Candidate)

/-! ### Sessions with options -/

/-- A successful Device open of a session is one with options. -/
def Session.OpensWithOptions (s : Session) (op : SessionOp) (s' : Session) : Prop :=
  ∀ c u, op = .deviceOpen c (some u) →
    ∃ options env, s.context.deviceOpenWith c options env = (.ok, s'.context)

/-- A run whose Devices are opened with options. -/
inductive OptionsRun : Session → Prop
  | created (bus : Bus) (hsent : bus.sent = []) : OptionsRun { context := { bus } }
  | step {s s' : Session} {op : SessionOp} (h : OptionsRun s) (hstep : SessionStep s op s')
      (hopens : s.OpensWithOptions op s') : OptionsRun s'

theorem OptionsRun.run {s : Session} (h : OptionsRun s) : SessionRun s := by
  induction h with
  | created bus hsent => exact .created bus hsent
  | step _ hstep _ ih => exact ih.step hstep

/-! ### What a Device keeps -/

/-- The sizes and the policies stay, and no Node comes. -/
structure DeviceGraph.Descends (graph graph' : DeviceGraph) : Prop where
  config : graph'.transport.config = graph.transport.config
  policies : graph'.policies = graph.policies
  nodes : graph'.nodes ⊆ graph.nodes

namespace DeviceGraph.Descends

variable {graph graph' : DeviceGraph}

theorem refl (graph : DeviceGraph) : Descends graph graph := ⟨rfl, rfl, List.Subset.refl _⟩

theorem fits (h : Descends graph graph') (hfits : graph.Fits) : graph'.Fits := by
  obtain ⟨hslots, haoa, hfragmentEp0, hfragmentHost, hreportEp0, hreportHost⟩ := hfits
  constructor <;> simpa only [h.config, h.policies]

theorem meets (h : Descends graph graph') {spec : Spec} (hmeets : graph.Meets spec) :
    graph'.Meets spec := by
  obtain ⟨hnil, haoa, hlinux, hfields, hstack, hsize, husages, hbits, hreports⟩ := hmeets
  constructor <;> simpa only [h.config, h.policies]

/-- The transport moves on. -/
theorem of_kept {d : Transport.Device} (h : graph.transport.Kept d) :
    Descends graph { graph with transport := d } := ⟨h.config, rfl, List.Subset.refl _⟩

end DeviceGraph.Descends

theorem Context.closeLiveNode_descends {ctx ctx' : Context} {graph graph' : DeviceGraph}
    {node : LiveNode} {env : NodeCloseEnv} {result : Result}
    (h : ctx.closeLiveNode graph node env = (result, graph', ctx')) : graph.Descends graph' := by
  obtain ⟨d', bus, failure, hkept, -, ⟨heq, hfailed⟩ | heq⟩ :=
    closeEntry_cases ctx graph.transport node env
  · rw [closeLiveNode, heq] at h
    dsimp only at h
    rw [if_pos hfailed] at h
    cases h
    exact .of_kept hkept
  · have hconfig := (d'.clearReservation_handle node.reservation).2.trans hkept.config
    rw [closeLiveNode, heq] at h
    dsimp only at h
    split at h
    · cases h
      exact ⟨hconfig, rfl, List.Subset.refl _⟩
    · cases h
      exact ⟨hconfig, rfl, List.erase_subset⟩

/-- Every Spec that lives was there before, perhaps with other references. -/
def SpecsFrom (specs specs' : ℕ → Option SharedSpec) : Prop :=
  ∀ address shared', specs' address = some shared' →
    ∃ shared, specs address = some shared ∧ shared.spec = shared'.spec

namespace SpecsFrom

variable {specs specs' specs'' : ℕ → Option SharedSpec}

theorem refl (specs : ℕ → Option SharedSpec) : SpecsFrom specs specs :=
  fun _ shared h => ⟨shared, h, rfl⟩

theorem trans (h : SpecsFrom specs specs') (h' : SpecsFrom specs' specs'') :
    SpecsFrom specs specs'' := by
  intro address shared'' hshared''
  obtain ⟨shared', hshared', heq'⟩ := h' address shared'' hshared''
  obtain ⟨shared, hshared, heq⟩ := h address shared' hshared'
  exact ⟨shared, hshared, heq.trans heq'⟩

/-- Another count for one Spec. -/
theorem update {address : ℕ} {shared shared' : SharedSpec} (hshared : specs address = some shared)
    (hspec : shared.spec = shared'.spec) :
    SpecsFrom specs (Function.update specs address (some shared')) := by
  intro other value hvalue
  rcases eq_or_ne other address with rfl | hne
  · rw [Function.update_self] at hvalue
    cases hvalue
    exact ⟨shared, hshared, hspec⟩
  · rw [Function.update_of_ne hne] at hvalue
    exact ⟨value, hvalue, rfl⟩

theorem retain {address : ℕ} {shared retained : SharedSpec}
    (hshared : specs address = some shared) (h : shared.retain = some retained) :
    SpecsFrom specs (Function.update specs address (some retained)) := by
  rw [SharedSpec.retain] at h
  split at h
  · cases h
    exact update hshared rfl
  · cases h

theorem releaseSpec (ctx : Context) (address : ℕ) :
    SpecsFrom ctx.specs (ctx.releaseSpec address).specs := by
  intro other value hvalue
  rw [Context.releaseSpec, Context.setSpec] at hvalue
  rcases eq_or_ne other address with rfl | hne
  · dsimp only at hvalue
    rw [Function.update_self] at hvalue
    obtain ⟨shared, hshared, hrelease⟩ := Option.bind_eq_some_iff.mp hvalue
    refine ⟨shared, hshared, ?_⟩
    rw [SharedSpec.release] at hrelease
    split at hrelease
    · cases hrelease
      rfl
    · split at hrelease
      · cases hrelease
      · cases hrelease
        rfl
  · dsimp only at hvalue
    rw [Function.update_of_ne hne] at hvalue
    exact ⟨value, hvalue, rfl⟩

theorem closeLiveNode {ctx ctx' : Context} {graph graph' : DeviceGraph} {node : LiveNode}
    {env : NodeCloseEnv} {result : Result}
    (h : ctx.closeLiveNode graph node env = (result, graph', ctx')) :
    SpecsFrom ctx.specs ctx'.specs := by
  rw [Context.closeLiveNode] at h
  dsimp only at h
  split at h
  · cases h
    exact refl _
  · cases h
    exact releaseSpec _ node.spec

theorem closeLiveNodes (envs : List NodeCloseEnv) (ctx : Context) (graph : DeviceGraph) :
    SpecsFrom ctx.specs (ctx.closeLiveNodes graph envs).2.specs := by
  induction envs generalizing ctx graph with
  | nil => exact refl _
  | cons env rest ih =>
    rw [Context.closeLiveNodes]
    split
    · exact refl _
    · split
      · rename_i hclose
        exact (closeLiveNode hclose).trans (ih _ _)
      · rename_i hclose
        exact closeLiveNode hclose

theorem destroyNodes (nodes : List LiveNode) (d : Transport.Device) (ctx : Context) :
    SpecsFrom ctx.specs (destroyNodes d ctx nodes).2.specs := by
  induction nodes generalizing d ctx with
  | nil => exact refl _
  | cons node rest ih =>
    rw [LibaoaHid.destroyNodes]
    exact (releaseSpec _ node.spec).trans (ih _ _)

theorem destroyDevice (ctx : Context) (graph : DeviceGraph) :
    SpecsFrom ctx.specs (ctx.destroyDevice graph).specs :=
  destroyNodes graph.nodes.reverse graph.transport ctx

theorem deviceClose (ctx : Context) (graph : DeviceGraph) (env : DeviceCloseEnv) :
    SpecsFrom ctx.specs (ctx.deviceClose graph env).specs := by
  have hnodes := closeLiveNodes env.nodes ctx { graph with closing := true }
  rw [Context.deviceClose]
  dsimp only
  split
  · exact hnodes.trans (destroyDevice _ _)
  · exact hnodes

end SpecsFrom

/-! ### The Nodes that are open -/

/-- The Devices have the sizes of their options, and the Specs of their Nodes meet them. -/
structure Session.Fitted (s : Session) : Prop where
  fits : ∀ graph ∈ s.context.devices, graph.Fits
  meets : ∀ graph ∈ s.context.devices, ∀ node ∈ graph.nodes, ∀ shared,
    s.context.specs node.spec = some shared → graph.Meets shared.spec

namespace Session.Fitted

variable {s s' : Session} {op : SessionOp} {options : Option DeviceOptions}

/-- A Node of an active Device holds a Spec that lives. -/
theorem exists_spec (haccounted : s.Accounted) {graph : DeviceGraph}
    (hgraph : graph ∈ s.context.devices) {node : LiveNode} (hnode : node ∈ graph.nodes) :
    ∃ shared, s.context.specs node.spec = some shared := by
  refine haccounted.specs.exists_of_mem (List.mem_append_right _ ?_)
  exact List.mem_flatMap.mpr
    ⟨graph, List.mem_append_left _ hgraph, List.mem_map_of_mem hnode⟩

/-- A call that adds neither a Device nor a Node. -/
theorem frame (h : s.Fitted) (hspecs : SpecsFrom s.context.specs s'.context.specs)
    (hdevices : ∀ graph' ∈ s'.context.devices, ∃ graph ∈ s.context.devices,
      graph.Descends graph') : s'.Fitted where
  fits graph' hgraph' := by
    obtain ⟨graph, hgraph, hdescends⟩ := hdevices graph' hgraph'
    exact hdescends.fits (h.fits graph hgraph)
  meets graph' hgraph' node hnode shared' hshared' := by
    obtain ⟨graph, hgraph, hdescends⟩ := hdevices graph' hgraph'
    obtain ⟨shared, hshared, heq⟩ := hspecs _ _ hshared'
    exact heq ▸ hdescends.meets (h.meets graph hgraph node (hdescends.nodes hnode) shared hshared)

/-- The Devices stay as they are. -/
theorem same (h : s.Fitted) (hspecs : SpecsFrom s.context.specs s'.context.specs)
    (hdevices : s'.context.devices = s.context.devices) : s'.Fitted :=
  h.frame hspecs fun graph hgraph => ⟨graph, hdevices ▸ hgraph, .refl graph⟩

/-- One Device descends. -/
theorem replace (h : s.Fitted) {front back : List DeviceGraph} {graph graph' : DeviceGraph}
    (hdevices : s.context.devices = front ++ graph :: back)
    (hspecs : SpecsFrom s.context.specs s'.context.specs)
    (hdescends : graph.Descends graph')
    (hdevices' : s'.context.devices = front ++ graph' :: back) : s'.Fitted := by
  refine h.frame hspecs fun other hother => ?_
  rw [hdevices'] at hother
  rw [hdevices]
  rcases List.mem_append.mp hother with hother | hother
  · exact ⟨other, List.mem_append_left _ hother, .refl other⟩
  · rcases List.mem_cons.mp hother with rfl | hother
    · exact ⟨graph, List.mem_append_right _ List.mem_cons_self, hdescends⟩
    · exact ⟨other, List.mem_append_right _ (List.mem_cons_of_mem _ hother), .refl other⟩

/-- A Device open with options. -/
theorem opens (h : s.Fitted) {c : Candidate} {env : OptionsOpenEnv}
    (hopen : s.context.deviceOpenWith c options env = (.ok, s'.context)) : s'.Fitted := by
  obtain ⟨hspecs, graph, hdevices, hnodes, hfits⟩ := Context.deviceOpenWith_ok hopen
  constructor
  · intro other hother
    rw [hdevices] at hother
    rcases List.mem_append.mp hother with hother | hother
    · exact h.fits other hother
    · rw [List.mem_singleton.mp hother]
      exact hfits
  · intro other hother node hnode shared hshared
    rw [hdevices] at hother
    rcases List.mem_append.mp hother with hother | hother
    · exact h.meets other hother node hnode shared (hspecs ▸ hshared)
    · rw [List.mem_singleton.mp hother, hnodes] at hnode
      cases hnode

/-- A Node open that succeeds. -/
theorem nodeOpens (h : s.Fitted) {front back : List DeviceGraph} {graph graph' : DeviceGraph}
    (hdevices : s.context.devices = front ++ graph :: back)
    (hspecs : SpecsFrom s.context.specs s'.context.specs) {entry : LiveNode}
    {opened : Transport.Device} (hconfig : opened.config = graph.transport.config)
    (hgraph' : graph' = { graph with transport := opened, nodes := graph.nodes ++ [entry] })
    {shared : SharedSpec} (hshared : s.context.specs entry.spec = some shared)
    (hmeets : graph.Meets shared.spec)
    (hdevices' : s'.context.devices = front ++ graph' :: back) : s'.Fitted := by
  have hgraph : graph ∈ s.context.devices := by
    rw [hdevices]
    exact List.mem_append_right _ List.mem_cons_self
  -- Without the new Node the Device descends.
  have hold : graph.Descends { graph with transport := opened } :=
    ⟨hconfig, rfl, List.Subset.refl _⟩
  have hdescends : ∀ {spec : Spec}, graph.Meets spec → graph'.Meets spec := by
    intro spec hspec
    have hkept := hold.meets hspec
    subst hgraph'
    exact ⟨hkept.1, hkept.2, hkept.3, hkept.4, hkept.5, hkept.6, hkept.7, hkept.8, hkept.9⟩
  have hother : ∀ other ∈ s'.context.devices, other = graph' ∨ other ∈ s.context.devices := by
    intro other hmem
    rw [hdevices'] at hmem
    rw [hdevices]
    rcases List.mem_append.mp hmem with hmem | hmem
    · exact .inr (List.mem_append_left _ hmem)
    · rcases List.mem_cons.mp hmem with rfl | hmem
      · exact .inl rfl
      · exact .inr (List.mem_append_right _ (List.mem_cons_of_mem _ hmem))
  constructor
  · intro other hmem
    rcases hother other hmem with rfl | hmem
    · have hkept := hold.fits (h.fits graph hgraph)
      subst hgraph'
      exact ⟨hkept.1, hkept.2, hkept.3, hkept.4, hkept.5, hkept.6⟩
    · exact h.fits other hmem
  · intro other hmem node hnode shared' hshared'
    obtain ⟨before, hbefore, heq⟩ := hspecs _ _ hshared'
    rw [← heq]
    rcases hother other hmem with rfl | hmem
    · rw [hgraph'] at hnode
      rcases List.mem_append.mp hnode with hnode | hnode
      · exact hdescends (h.meets graph hgraph node hnode before hbefore)
      · rw [List.mem_singleton.mp hnode, hshared] at hbefore
        cases hbefore
        exact hdescends hmeets
    · exact h.meets other hmem node hnode before hbefore

/-- **One call keeps the sizes.** -/
theorem step (h : s.Fitted) (haccounted : s.Accounted) (hstep : SessionStep s op s')
    (hopens : s.OpensWithOptions op s') : s'.Fitted := by
  cases hstep with
  | @spec_create address hfresh spec =>
    refine ⟨h.fits, fun graph hgraph node hnode shared hshared => ?_⟩
    obtain ⟨held, hheld⟩ := exists_spec haccounted hgraph hnode
    have hne : node.spec ≠ address := by
      rintro rfl
      rw [hfresh] at hheld
      cases hheld
    refine h.meets graph hgraph node hnode shared ?_
    change Function.update s.context.specs address _ node.spec = _ at hshared
    rwa [Function.update_of_ne hne] at hshared
  | spec_retain hshared hretained => exact h.same (.retain hshared hretained) rfl
  | spec_retain_failed => exact h
  | @spec_release address howned => exact h.same (.releaseSpec s.context address) rfl
  | @device_open c env context u hopen hopened =>
    obtain ⟨options, openEnv, hwith⟩ := hopens c u rfl
    exact h.opens hwith
  | @device_open_failed c env result context hopen hfailed =>
    rcases s.context.deviceOpen_ends c env with
      ⟨_, runtime, bus, heq, -, -, -⟩ | ⟨_, _, _, -, -, heq⟩
    · rw [heq] at hopen
      cases hopen
      exact h.same (.refl _) rfl
    · rw [heq] at hopen
      exact absurd (Prod.mk.inj hopen).1.symm hfailed
  | @node_open front back graph spec options hasOut env opening hdevices hfresh hopen =>
    have hends := @nodeOpen_ends s.context graph spec options env hasOut hfresh
      haccounted.specs.live
    rw [hopen] at hends
    cases hends with
    | refused hfailed => exact h.replace hdevices (.refl _) (.refl graph) rfl
    | stopped hfailed hid => exact h.replace hdevices (.refl _) (.refl graph) rfl
    | unregistered hfailed hid hspec hshared hcheck hobserved hregisters =>
      exact h.replace hdevices (.refl _) (.of_kept (.of_observed hobserved)) rfl
    | opened hid hspec hshared hretained hcheck hnode hreservation hobserved hregisters =>
      refine h.nodeOpens hdevices (.retain hshared hretained) ?_ rfl hshared
        (meets_of_checkNodeOpen hcheck).2 rfl
      exact (Transport.Device.Kept.of_observed hobserved).config
  | node_close hdevices hnode hclose =>
    have hspecs := SpecsFrom.closeLiveNode hclose
    exact h.replace hdevices hspecs (Context.closeLiveNode_descends hclose) rfl
  | @device_close front back graph hdevices env =>
    have hquiet := { s.context with devices := front ++ back }.deviceClose_quiet graph env
    refine h.frame (.deviceClose { s.context with devices := front ++ back } graph env)
      fun other hother => ⟨other, ?_, .refl other⟩
    dsimp only at hother
    rw [hquiet.devices] at hother
    rw [hdevices]
    rcases List.mem_append.mp hother with hother | hother
    · exact List.mem_append_left _ hother
    · exact List.mem_append_right _ (List.mem_cons_of_mem _ hother)
  | @reap front back graph hgraveyard hdrained =>
    have hquiet := { s.context with graveyard := front ++ back }.destroyDevice_quiet graph
    exact h.same (.destroyDevice { s.context with graveyard := front ++ back } graph)
      hquiet.devices
  | traffic hdevices t => exact h.replace hdevices (.refl _) (.of_kept (.pass _ t)) rfl
  | traffic_parked hgraveyard t => exact h.same (.refl _) rfl
  | other hhandles hsent hmore => exact h.same (.refl _) rfl

end Session.Fitted

theorem OptionsRun.fitted {s : Session} (h : OptionsRun s) : s.Fitted := by
  induction h with
  | created bus hsent =>
    refine ⟨fun graph hgraph => ?_, fun graph hgraph => ?_⟩ <;> cases hgraph
  | step hrun hstep hopens ih => exact ih.step hrun.run.accounted hstep hopens

/-- **The Specs of the Nodes that are open.** In every run whose Devices are opened with options,
the Spec of every Node of an active Device lives and meets the policies of that Device. Each of its
reports fits the two control policies and the length field of request 57. -/
theorem OptionsRun.nodes_meet {s : Session} (h : OptionsRun s) {graph : DeviceGraph}
    (hgraph : graph ∈ s.context.devices) {node : LiveNode} (hnode : node ∈ graph.nodes) :
    ∃ shared, s.context.specs node.spec = some shared ∧ graph.Meets shared.spec ∧
      shared.spec.descriptor.length < 2 ^ 16 ∧
      ∀ report ∈ shared.spec.reportCapabilities, report.wireLength < 2 ^ 16 ∧
        report.wireLength ≤ graph.policies.targetEp0PolicyBytes ∧
        report.wireLength ≤ graph.policies.hostControlPolicyBytes := by
  obtain ⟨shared, hshared⟩ := Session.Fitted.exists_spec h.run.accounted hgraph hnode
  have hmeets := h.fitted.meets graph hgraph node hnode shared hshared
  refine ⟨shared, hshared, hmeets,
    hmeets.descriptor_aoa.trans_lt (h.fitted.fits graph hgraph).aoa_lt, fun report hreport => ?_⟩
  obtain ⟨hreport, hep0, hhost⟩ := hmeets.reports report hreport
  exact ⟨hreport.trans_lt graph.transport.config.report_lt, hep0, hhost⟩

/-- What the phone answers, for options that claim no interface. -/
def phoneOpenEnv : OptionsOpenEnv where
  host := sampleDeviceOpen.host

theorem Context.deviceOpenWith_phone (ctx : Context) (c : Candidate) :
    ctx.deviceOpenWith c (some phoneOptions) phoneOpenEnv = ctx.deviceOpen c sampleDeviceOpen := by
  have hopen := (prepareDeviceOptions_accepted phoneOptions_prepared).not_refused
  rw [deviceOpenWith.eq_def, phoneOptions_prepared]
  dsimp only
  rw [dif_neg hopen]
  rfl

/-- The phone is opened with options. -/
theorem openPhone_optionsRun : OptionsRun (sampleSession.openPhone [2]) := by
  have hsample : OptionsRun sampleSession :=
    .step (.created sampleBus rfl) (.spec_create rfl rawPointer) (by rintro c u ⟨⟩)
  refine .step hsample (Session.openPhone_step (by decide +kernel) (by decide +kernel)) ?_
  rintro c u ⟨⟩
  refine ⟨some phoneOptions, phoneOpenEnv, ?_⟩
  rw [Context.deviceOpenWith_phone]
  exact Prod.ext (by decide +kernel) rfl

/-- A Node is opened on the phone. -/
theorem openRaw_optionsRun : OptionsRun (sampleSession.openPhone [2]).openRaw :=
  .step openPhone_optionsRun (Session.openRaw_step (by decide +kernel) (by decide +kernel))
    (by rintro c u ⟨⟩)

theorem OptionsRun.nodes_meet_phone :
    ∃ node ∈ (sampleSession.openPhone [2]).openRaw.phone.nodes, ∃ shared,
      (sampleSession.openPhone [2]).openRaw.context.specs node.spec = some shared ∧
        (sampleSession.openPhone [2]).openRaw.phone.Meets shared.spec := by
  have hphone : (sampleSession.openPhone [2]).openRaw.phone ∈
      (sampleSession.openPhone [2]).openRaw.context.devices := by
    rw [Session.devices_eq_phone (by decide +kernel)]
    exact List.mem_cons_self
  have hnodes : (sampleSession.openPhone [2]).openRaw.phone.nodes.length = 1 := by decide +kernel
  obtain ⟨node, heq⟩ := List.length_eq_one_iff.mp hnodes
  have hnode : node ∈ (sampleSession.openPhone [2]).openRaw.phone.nodes := by
    rw [heq]
    exact List.mem_cons_self
  obtain ⟨shared, hshared, hmeets, -⟩ := openRaw_optionsRun.nodes_meet hphone hnode
  exact ⟨node, hnode, shared, hshared, hmeets⟩

/-! ### The requests of a Node open -/

/-- A request of a registration, with no more data than a fragment has. -/
structure Transport.Device.Carries (d : Transport.Device) (e : Transport.Exchange) : Prop where
  handle : e.handle = d.handle
  request : e.request = 54 ∨ e.request = 55 ∨ e.request = 56
  length_eq : e.length = e.data.length
  length_le : e.length ≤ d.config.descriptorFragmentBytes

namespace Transport.Device

variable {d : Device} {hidId : ℕ}

theorem Carries.of_eq {e : Exchange} {request : ControlRequest} (heq : e.toControlRequest = request)
    (hhandle : request.handle = d.handle)
    (hrequest : request.request = 54 ∨ request.request = 55 ∨ request.request = 56)
    (hlength : request.length = request.data.length)
    (hbound : request.length ≤ d.config.descriptorFragmentBytes) : d.Carries e := by
  subst heq
  exact ⟨hhandle, hrequest, hlength, hbound⟩

/-- The fragments of a registration. -/
theorem carries_of_mem_fragmentRequests {offset : ℕ} {pieces : List (List UInt8)}
    (hpieces : ∀ piece ∈ pieces, piece.length ≤ d.config.descriptorFragmentBytes)
    {request : ControlRequest} (h : request ∈ d.fragmentRequests hidId offset pieces) :
    request.length = request.data.length ∧
      request.length ≤ d.config.descriptorFragmentBytes := by
  induction pieces generalizing offset with
  | nil => cases h
  | cons piece rest ih =>
    rw [fragmentRequests] at h
    rcases List.mem_cons.mp h with rfl | h
    · exact ⟨rfl, hpieces piece List.mem_cons_self⟩
    · exact ih (fun other hother => hpieces other (List.mem_cons_of_mem _ hother)) h

/-- What a registration sends. -/
theorem registerHid_carries (d : Device) (hidId : ℕ) (descriptor : List UInt8) (bus : Bus) :
    ∃ more, (d.registerHid hidId descriptor bus).2.2.sent = bus.sent ++ more ∧
      ∀ e ∈ more, d.Carries e := by
  by_cases hparam : hidId = 0 ∨ descriptor.length = 0 ∨ descriptor.length > 2 ^ 16 - 1
  · rw [registerHid, if_pos hparam]
    exact ⟨[], by simp [Bus.record], by rintro e ⟨⟩⟩
  by_cases hpresent : d.present = true
  · by_cases hclosing : d.closing = true
    · rw [registerHid, if_neg hparam, hpresent, hclosing]
      exact ⟨[], by simp [Bus.record], by rintro e ⟨⟩⟩
    · obtain ⟨first, pieces, fragments, cleanup, h⟩ := registerHid_registration d hidId descriptor
        bus hpresent (by simpa using hclosing) (by omega) (by omega) (by omega)
      refine ⟨first :: (fragments ++ cleanup), h.sent_eq, fun e he => ?_⟩
      rcases List.mem_cons.mp he with rfl | he
      · exact .of_eq h.first_eq rfl (.inl rfl) rfl (Nat.zero_le _)
      rcases List.mem_append.mp he with he | he
      · have hmem := List.mem_map_of_mem (f := fun e : Exchange => e.toControlRequest) he
        rw [h.requests] at hmem
        obtain ⟨hlength, hbound⟩ := carries_of_mem_fragmentRequests
          (fun piece hpiece => (h.piece_bounds piece hpiece).2) hmem
        obtain ⟨hrequest, hhandle⟩ := mem_fragmentRequests hmem
        exact .of_eq rfl hhandle (.inr (.inr hrequest)) hlength hbound
      · have hmem := List.mem_map_of_mem (f := fun e : Exchange => e.toControlRequest) he
        rw [h.cleanup_eq, cleanupRequests] at hmem
        split at hmem
        · exact .of_eq (List.mem_singleton.mp hmem) rfl (.inr (.inl rfl)) rfl (Nat.zero_le _)
        · cases hmem
  · have hlost : d.present = false := by simpa using hpresent
    rw [registerHid, if_neg hparam, hlost]
    exact ⟨[], by simp [Bus.record], by rintro e ⟨⟩⟩

end Transport.Device

/-- The requests of a Node open are those of one registration, or none. -/
theorem nodeOpen_carries (ctx : Context) (graph : DeviceGraph) (spec : Option ℕ)
    (options : Option NodeOptions) (hasOut : Bool) (env : NodeOpenEnv) :
    ∃ more, (nodeOpen ctx graph spec options hasOut env).context.bus.sent = ctx.bus.sent ++ more ∧
      ∀ e ∈ more, graph.transport.Carries e := by
  have hnone : ∀ {opening : NodeOpening}, opening.context.bus.sent = ctx.bus.sent →
      ∃ more, opening.context.bus.sent = ctx.bus.sent ++ more ∧
        ∀ e ∈ more, graph.transport.Carries e := by
    intro opening hsent
    exact ⟨[], by rw [hsent, List.append_nil], by rintro e ⟨⟩⟩
  rw [nodeOpen]
  split
  · exact hnone rfl
  split
  · exact hnone rfl
  split
  · exact hnone rfl
  rename_i slots _
  rw [openLiveNode]
  split
  · exact hnone rfl
  split
  · exact hnone rfl
  rename_i hidId hidIdDomains _
  dsimp only
  split
  · exact hnone rfl
  rename_i node _
  split
  · exact hnone rfl
  split
  · exact hnone rfl
  rw [reserveNode]
  dsimp only
  rcases graph.transport.setReservation_ends hidId slots env.reservation with
    ⟨outcome, hfailed, hset⟩ | ⟨a, -, hset⟩
  · rw [hset]
    dsimp only
    rw [dif_pos hfailed]
    exact hnone rfl
  · rw [hset]
    dsimp only
    rw [dif_neg (not_not_intro rfl)]
    split
    · exact hnone rfl
    · obtain ⟨more, hsent, hmore⟩ := (graph.transport.reserving hidId slots a).registerHid_carries
        hidId node.spec.descriptor ctx.bus
      refine ⟨more, ?_, fun e he => ?_⟩
      rotate_left
      · obtain ⟨hhandle, hrequest, hlength, hbound⟩ := hmore e he
        exact ⟨hhandle, hrequest, hlength, hbound⟩
      rw [registerNode]
      dsimp only
      split <;> exact hsent

/-- **What the requests of a Node open carry.** In every run whose Devices are opened with options,
a Node open on an active Device sends requests 54, 55 and 56 to the handle of that Device alone, and
no more data with any of them than the two control policies of the Device allow. -/
theorem OptionsRun.nodeOpen_fits {s : Session} (h : OptionsRun s) {graph : DeviceGraph}
    (hgraph : graph ∈ s.context.devices) (spec : Option ℕ) (options : Option NodeOptions)
    (hasOut : Bool) (env : NodeOpenEnv) :
    ∃ more, (nodeOpen s.context graph spec options hasOut env).context.bus.sent =
        s.context.bus.sent ++ more ∧
      ∀ e ∈ more, e.handle = graph.transport.handle ∧
        (e.request = 54 ∨ e.request = 55 ∨ e.request = 56) ∧ e.length = e.data.length ∧
        e.length ≤ graph.policies.targetEp0PolicyBytes ∧
        e.length ≤ graph.policies.hostControlPolicyBytes := by
  have hfits := h.fitted.fits graph hgraph
  obtain ⟨more, hsent, hmore⟩ := nodeOpen_carries s.context graph spec options hasOut env
  refine ⟨more, hsent, fun e he => ?_⟩
  obtain ⟨hhandle, hrequest, hlength, hbound⟩ := hmore e he
  exact ⟨hhandle, hrequest, hlength, hbound.trans hfits.fragment_ep0,
    hbound.trans hfits.fragment_host⟩

theorem OptionsRun.nodeOpen_fits_phone :
    ∃ more, (sampleSession.openPhone [2]).rawOpening.context.bus.sent =
        (sampleSession.openPhone [2]).context.bus.sent ++ more ∧
      ∀ e ∈ more, e.handle = (sampleSession.openPhone [2]).phone.transport.handle ∧
        (e.request = 54 ∨ e.request = 55 ∨ e.request = 56) ∧ e.length = e.data.length ∧
        e.length ≤ (sampleSession.openPhone [2]).phone.policies.targetEp0PolicyBytes ∧
        e.length ≤ (sampleSession.openPhone [2]).phone.policies.hostControlPolicyBytes := by
  have hphone : (sampleSession.openPhone [2]).phone ∈
      (sampleSession.openPhone [2]).context.devices := by
    rw [Session.devices_eq_phone (by decide +kernel)]
    exact List.mem_cons_self
  exact openPhone_optionsRun.nodeOpen_fits hphone (some 7) (some sampleNodeOptions) true
    (sampleNodeOpen 0)

end LibaoaHid

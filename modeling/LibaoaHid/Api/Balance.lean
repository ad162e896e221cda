import LibaoaHid.Api.Lifetimes
import LibaoaHid.Profiles.RawSpecs
import Mathlib.Data.List.Nodup

/-!
# The balance of opens and closes

A Node that is open holds one reference of its Spec and one reservation of its transport, and
nothing else does but the caller. Every close gives both back, and so does an open that fails.

## Main definitions

* `SpecsCounted`: the counts of the Specs are those of a list of references.
* `DeviceGraph.Reserved`: the reservations of a transport are those of its Nodes.
* `Session.Balanced`, `NodeOpening.Traceless`.

## Main results

* `nodes_balanced`.
-/

namespace LibaoaHid

open Transport (Bus)

/-! ### References -/

/-- Every Spec is counted once for each of the references, and lives while it is. -/
structure SpecsCounted (specs : ℕ → Option SharedSpec) (references : List ℕ) : Prop where
  count : ∀ a, references.count a = ((specs a).map (·.references)).getD 0
  live : ∀ a shared, specs a = some shared → 0 < shared.references

namespace SpecsCounted

variable {specs : ℕ → Option SharedSpec} {references references' : List ℕ} {a : ℕ}
  {shared retained : SharedSpec}

theorem congr (h : SpecsCounted specs references)
    (hcount : ∀ a, references'.count a = references.count a) : SpecsCounted specs references' :=
  ⟨fun a => (hcount a).trans (h.count a), h.live⟩

/-- A reference of a Spec that lives. -/
theorem exists_of_mem (h : SpecsCounted specs references) (hmem : a ∈ references) :
    ∃ shared, specs a = some shared := by
  have hcount := h.count a
  have hpos := List.count_pos_iff.mpr hmem
  rcases hspec : specs a with _ | shared
  · rw [hspec] at hcount
    simp at hcount
    omega
  · exact ⟨shared, rfl⟩

theorem create (h : SpecsCounted specs references) (hfresh : specs a = none) (spec : Spec) :
    SpecsCounted (Function.update specs a (some { spec, references := 1 })) (a :: references) := by
  constructor
  · intro b
    rw [List.count_cons, h.count b, Function.update_apply]
    by_cases hb : b = a
    · simp [hb, hfresh]
    · have hne : (a == b) = false := by simpa using Ne.symm hb
      rw [hne, if_neg hb]
      simp
  · intro b shared hshared
    rw [Function.update_apply] at hshared
    split at hshared
    · cases hshared
      exact Nat.one_pos
    · exact h.live b shared hshared

theorem retain (h : SpecsCounted specs references) (hshared : specs a = some shared)
    (hretained : shared.retain = some retained) :
    SpecsCounted (Function.update specs a (some retained)) (a :: references) := by
  have hreferences : retained.references = shared.references + 1 := by
    rw [SharedSpec.retain] at hretained
    split at hretained
    · cases hretained
      rfl
    · cases hretained
  constructor
  · intro b
    rw [List.count_cons, h.count b, Function.update_apply]
    by_cases hb : b = a
    · simp [hb, hshared, hreferences]
    · have hne : (a == b) = false := by simpa using Ne.symm hb
      rw [hne, if_neg hb]
      simp
  · intro b other hother
    rw [Function.update_apply] at hother
    split at hother
    · cases hother
      omega
    · exact h.live b other hother

/-- A reference that is given back. -/
theorem release (h : SpecsCounted specs (a :: references)) :
    SpecsCounted (Function.update specs a ((specs a).bind (·.release))) references := by
  obtain ⟨shared, hshared⟩ := h.exists_of_mem List.mem_cons_self
  have hcount := h.count a
  rw [List.count_cons, hshared] at hcount
  simp only [BEq.rfl, if_true, Option.map_some, Option.getD_some] at hcount
  constructor
  · intro b
    rw [Function.update_apply]
    by_cases hb : b = a
    · subst hb
      rw [if_pos rfl, hshared, Option.bind_some, SharedSpec.release, if_neg (by omega)]
      split
      · simp
        omega
      · simp
        omega
    · have hother := h.count b
      have hne : (a == b) = false := by simpa using Ne.symm hb
      rw [List.count_cons, hne] at hother
      rw [if_neg hb]
      simpa using hother
  · intro b other hother
    rw [Function.update_apply] at hother
    split at hother
    · rw [hshared, Option.bind_some, SharedSpec.release] at hother
      split at hother
      · omega
      · split at hother
        · cases hother
        · cases hother
          dsimp only
          omega
    · exact h.live b other hother

end SpecsCounted

/-! ### Reservations -/

/-- What the reservation of a Node has to say. -/
def LiveNode.key (node : LiveNode) : Option ℕ × ℕ × ℕ :=
  (node.reservation, node.hidId, node.reservedSlots)

/-- The reservations of a transport are those of some Nodes. -/
structure Transport.Device.ReservedFor (d : Transport.Device) (nodes : List LiveNode) : Prop where
  keys : nodes.map LiveNode.key = d.reservationKeys.map fun k => (some k.1, k.2)
  nodup : (d.reservationKeys.map (·.1)).Nodup
  total : d.reservedCapacityTotal = (nodes.map (·.reservedSlots)).sum

namespace Transport.Device

variable {d d' : Device} {nodes : List LiveNode}

theorem ReservedFor.kept (h : d.ReservedFor nodes) (hkept : d.Kept d') : d'.ReservedFor nodes :=
  ⟨by rw [hkept.keys]; exact h.keys, by rw [hkept.keys]; exact h.nodup,
    hkept.total.trans h.total⟩

/-- One more Node. -/
theorem ReservedFor.reserving {hidId slots a : ℕ} (h : d.ReservedFor nodes)
    (hfresh : ∀ r ∈ d.reservations, r.address ≠ a) (node spec : ℕ) :
    (d.reserving hidId slots a).ReservedFor (nodes ++ [openedEntry node spec hidId slots a]) := by
  have hkeys : (d.reserving hidId slots a).reservationKeys =
      d.reservationKeys ++ [(a, hidId, slots)] := by
    rw [reservationKeys, Device.reserving, List.map_append]
    rfl
  refine ⟨?_, ?_, ?_⟩
  · rw [hkeys, List.map_append, List.map_append, h.keys]
    rfl
  · rw [hkeys, List.map_append]
    refine List.nodup_append.mpr ⟨h.nodup, List.nodup_singleton _, ?_⟩
    intro b hb c hc
    obtain ⟨k, hk, rfl⟩ := List.mem_map.mp hb
    obtain ⟨r, hr, rfl⟩ := List.mem_map.mp hk
    rw [List.mem_singleton.mp hc]
    exact hfresh r hr
  · rw [Device.reserving, List.map_append, List.sum_append, ← h.total]
    rfl

/-- A reservation that is cleared is gone; one that is not stays. -/
theorem clearReservation_ends (d : Device) (address : Option ℕ) :
    (∃ outcome, outcome.result ≠ .ok ∧ d.clearReservation address = (outcome, d)) ∨
      ∃ a r, address = some a ∧ r ∈ d.reservations ∧ r.address = a ∧
        (d.clearReservation address).1.result = .ok ∧
        (d.clearReservation address).2 = { d with
          reservedCapacityTotal := d.reservedCapacityTotal - r.capacity
          unfilledReservedTotal := d.unfilledReservedTotal - r.capacity
          reservations := d.reservations.filter (·.address ≠ a) } := by
  rw [clearReservation]
  cases hfound : address.bind d.findReservation with
  | none =>
    refine .inl ⟨_, ?_, rfl⟩
    rintro ⟨⟩
  | some r =>
    obtain ⟨a, rfl, hfind⟩ := Option.bind_eq_some_iff.mp hfound
    dsimp only
    split
    · refine .inl ⟨_, ?_, rfl⟩
      rintro ⟨⟩
    · have hsame := Device.address_of_findReservation hfind
      refine .inr ⟨a, r, rfl, Device.mem_of_findReservation hfind, hsame, rfl, ?_⟩
      rw [hsame]

/-- One Node less. -/
theorem ReservedFor.erase {node : LiveNode} (h : d.ReservedFor nodes) (hnode : node ∈ nodes)
    (hok : (d.clearReservation node.reservation).1.result = .ok) :
    (d.clearReservation node.reservation).2.ReservedFor (nodes.erase node) := by
  rcases d.clearReservation_ends node.reservation with
    ⟨outcome, hfailed, heq⟩ | ⟨a, r, ha, hr, hsame, -, heq⟩
  · rw [heq] at hok
    exact absurd hok hfailed
  obtain ⟨front, back, -, hsplit, herase⟩ := List.exists_erase_eq hnode
  have hkeys := h.keys
  rw [hsplit, List.map_append, List.map_cons, eq_comm, List.map_eq_append_iff] at hkeys
  obtain ⟨before, rest, hkeySplit, hbefore, hrest⟩ := hkeys
  obtain ⟨k, after, rfl, hk, hafter⟩ := List.map_eq_cons_iff.mp hrest
  rw [LiveNode.key, ha, Prod.mk.injEq, Option.some.injEq] at hk
  obtain ⟨rfl, hvalue⟩ := hk
  have hnodup := h.nodup
  rw [hkeySplit, List.map_append, List.map_cons, List.nodup_append, List.nodup_cons] at hnodup
  obtain ⟨hnodupBefore, ⟨hnotAfter, hnodupAfter⟩, hdisjoint⟩ := hnodup
  -- The reservation that is found is the one of the Node.
  have hcapacity : r.capacity = node.reservedSlots := by
    have hmem : (r.address, r.hidId, r.capacity) ∈ d.reservationKeys := List.mem_map_of_mem hr
    have hmemK : k ∈ d.reservationKeys := by rw [hkeySplit]; simp
    have hsameKey := List.inj_on_of_nodup_map h.nodup hmem hmemK hsame
    rw [← hsameKey] at hvalue
    exact congrArg Prod.snd hvalue
  have hfiltered : (d.clearReservation node.reservation).2.reservationKeys = before ++ after := by
    have hmap : (d.clearReservation node.reservation).2.reservationKeys =
        d.reservationKeys.filter (·.1 ≠ k.1) := by
      rw [heq, reservationKeys, reservationKeys, List.filter_map]
      rfl
    rw [hmap, hkeySplit, List.filter_append, List.filter_cons_of_neg (by simp)]
    congr 1
    · refine List.filter_eq_self.mpr fun other hother => ?_
      have hne := hdisjoint _ (List.mem_map_of_mem hother) _ List.mem_cons_self
      simpa using hne
    · refine List.filter_eq_self.mpr fun other hother => ?_
      have hne : other.1 ≠ k.1 := fun hsame =>
        hnotAfter (hsame ▸ List.mem_map_of_mem hother)
      simpa using hne
  refine ⟨?_, ?_, ?_⟩
  · rw [hfiltered, herase, List.map_append, List.map_append, hbefore, hafter]
  · rw [hfiltered, List.map_append, List.nodup_append]
    exact ⟨hnodupBefore, hnodupAfter, fun b hb c hc =>
      hdisjoint b hb c (List.mem_cons_of_mem _ hc)⟩
  · rw [heq, herase, hcapacity]
    dsimp only
    rw [h.total, hsplit]
    simp only [List.map_append, List.map_cons, List.sum_append, List.sum_cons]
    omega

end Transport.Device

/-! ### Closing -/

/-- A Device whose reservations are those of its Nodes. -/
def DeviceGraph.Reserved (graph : DeviceGraph) : Prop := graph.transport.ReservedFor graph.nodes

/-- The Specs of the Nodes of some Devices, once for each Node. -/
def nodeSpecs (graphs : List DeviceGraph) : List ℕ :=
  graphs.flatMap fun graph => graph.nodes.map (·.spec)

@[simp] theorem nodeSpecs_append (graphs graphs' : List DeviceGraph) :
    nodeSpecs (graphs ++ graphs') = nodeSpecs graphs ++ nodeSpecs graphs' := List.flatMap_append

@[simp] theorem nodeSpecs_cons (graph : DeviceGraph) (graphs : List DeviceGraph) :
    nodeSpecs (graph :: graphs) = graph.nodes.map (·.spec) ++ nodeSpecs graphs := List.flatMap_cons

@[simp] theorem nodeSpecs_nil : nodeSpecs [] = [] := rfl

namespace Context

variable {ctx ctx' : Context} {graph graph' : DeviceGraph} {node : LiveNode}
  {references : List ℕ}

/-- A Node close keeps the balance of its Device. -/
theorem closeLiveNode_balanced {env : NodeCloseEnv} {result : Result}
    (hreserved : graph.Reserved)
    (hspecs : SpecsCounted ctx.specs (graph.nodes.map (·.spec) ++ references))
    (hnode : node ∈ graph.nodes)
    (h : ctx.closeLiveNode graph node env = (result, graph', ctx')) :
    graph'.Reserved ∧ SpecsCounted ctx'.specs (graph'.nodes.map (·.spec) ++ references) ∧
      ctx'.devices = ctx.devices ∧ ctx'.graveyard = ctx.graveyard := by
  obtain ⟨d', bus, failure, hkept, -, ⟨heq, hfailed⟩ | heq⟩ :=
    closeEntry_cases ctx graph.transport node env
  · rw [closeLiveNode, heq] at h
    dsimp only at h
    rw [if_pos hfailed] at h
    cases h
    exact ⟨hreserved.kept hkept, hspecs, rfl, rfl⟩
  · rw [closeLiveNode, heq] at h
    dsimp only at h
    rcases d'.clearReservation_ends node.reservation with
      ⟨outcome, hfailed, hclear⟩ | ⟨a, r, -, -, -, hok, -⟩
    · rw [hclear] at h
      dsimp only at h
      rw [if_pos hfailed] at h
      cases h
      exact ⟨hreserved.kept hkept, hspecs, rfl, rfl⟩
    · rw [if_neg (not_not_intro hok)] at h
      cases h
      refine ⟨(hreserved.kept hkept).erase hnode hok, ?_, rfl, rfl⟩
      have hsplit := List.perm_cons_erase hnode
      have hcount := (hsplit.map (·.spec)).append_right references
      exact (hspecs.congr fun a => (hcount.count_eq a).symm).release

/-- The loop over the Nodes keeps the balance of its Device. -/
theorem closeLiveNodes_balanced (envs : List NodeCloseEnv) {ctx : Context} {graph : DeviceGraph}
    (hreserved : graph.Reserved)
    (hspecs : SpecsCounted ctx.specs (graph.nodes.map (·.spec) ++ references))
    (h : ctx.closeLiveNodes graph envs = (graph', ctx')) :
    graph'.Reserved ∧ SpecsCounted ctx'.specs (graph'.nodes.map (·.spec) ++ references) ∧
      ctx'.devices = ctx.devices ∧ ctx'.graveyard = ctx.graveyard := by
  induction envs generalizing ctx graph with
  | nil =>
    cases h
    exact ⟨hreserved, hspecs, rfl, rfl⟩
  | cons env rest ih =>
    rw [closeLiveNodes] at h
    split at h
    · cases h
      exact ⟨hreserved, hspecs, rfl, rfl⟩
    · rename_i node hnode
      have hmem := List.mem_of_getLast? hnode
      split at h
      · rename_i graph₁ ctx₁ hclosed
        obtain ⟨hreserved₁, hspecs₁, hdevices, hgraveyard⟩ :=
          closeLiveNode_balanced hreserved hspecs hmem hclosed
        obtain ⟨hreserved', hspecs', hdevices', hgraveyard'⟩ := ih hreserved₁ hspecs₁ h
        exact ⟨hreserved', hspecs', hdevices'.trans hdevices, hgraveyard'.trans hgraveyard⟩
      · rename_i hclosed
        cases h
        exact closeLiveNode_balanced hreserved hspecs hmem hclosed

/-- A Device that is destroyed gives the references of its Nodes back. -/
theorem destroyNodes_specs (nodes : List LiveNode) {d : Transport.Device} {ctx : Context}
    (hspecs : SpecsCounted ctx.specs (nodes.map (·.spec) ++ references)) :
    SpecsCounted (destroyNodes d ctx nodes).2.specs references ∧
      (destroyNodes d ctx nodes).2.devices = ctx.devices ∧
      (destroyNodes d ctx nodes).2.graveyard = ctx.graveyard := by
  induction nodes generalizing d ctx with
  | nil => exact ⟨hspecs, rfl, rfl⟩
  | cons node rest ih =>
    rw [destroyNodes]
    exact ih hspecs.release

theorem destroyDevice_specs
    (hspecs : SpecsCounted ctx.specs (graph.nodes.map (·.spec) ++ references)) :
    SpecsCounted (ctx.destroyDevice graph).specs references ∧
      (ctx.destroyDevice graph).devices = ctx.devices ∧
      (ctx.destroyDevice graph).graveyard = ctx.graveyard := by
  rw [destroyDevice]
  refine destroyNodes_specs graph.nodes.reverse (hspecs.congr fun a => ?_)
  rw [List.map_reverse, List.count_append, List.count_append, List.count_reverse]

/-- A Device close destroys its Device, or parks it with its balance. -/
theorem deviceClose_balanced (env : DeviceCloseEnv) (hreserved : graph.Reserved)
    (hspecs : SpecsCounted ctx.specs (graph.nodes.map (·.spec) ++ references)) :
    ∃ parked : List DeviceGraph,
      (ctx.deviceClose graph env).graveyard = ctx.graveyard ++ parked ∧
      (ctx.deviceClose graph env).devices = ctx.devices ∧
      (∀ graph' ∈ parked, graph'.Reserved) ∧
      SpecsCounted (ctx.deviceClose graph env).specs (nodeSpecs parked ++ references) := by
  rw [deviceClose]
  generalize hclosed : ctx.closeLiveNodes { graph with closing := true } env.nodes = out
  obtain ⟨graph', ctx'⟩ := out
  have hstart : DeviceGraph.Reserved { graph with closing := true } := hreserved
  obtain ⟨hreserved', hspecs', hdevices, hgraveyard⟩ :=
    closeLiveNodes_balanced env.nodes hstart hspecs hclosed
  dsimp only
  split
  · obtain ⟨hfreed, hdevices', hgraveyard'⟩ := @destroyDevice_specs ctx' { graph' with
      transport := graph'.transport.beginCancel.passAll env.cancel } _ hspecs'
    exact ⟨[], by rw [hgraveyard', hgraveyard, List.append_nil], hdevices'.trans hdevices,
      (by rintro _ ⟨⟩), hfreed⟩
  · refine ⟨[_], by rw [hgraveyard], hdevices, ?_, ?_⟩
    · intro other hother
      rw [List.mem_singleton.mp hother]
      refine hreserved'.kept (Transport.Device.Kept.trans ?_ (.passAll _ env.cancel))
      exact ⟨rfl, rfl, rfl, rfl⟩
    · rw [nodeSpecs_cons, nodeSpecs_nil, List.append_nil]
      exact hspecs'

end Context

/-! ### Runs -/

/-- The Devices that are not destroyed. -/
def Context.graphs (ctx : Context) : List DeviceGraph := ctx.devices ++ ctx.graveyard

/-- The references of the caller and of the Nodes are counted, and the reservations of every
transport are those of its Nodes. -/
structure Session.Accounted (s : Session) : Prop where
  specs : SpecsCounted s.context.specs (s.callers ++ nodeSpecs s.context.graphs)
  reserved : ∀ graph ∈ s.context.graphs, graph.Reserved

namespace Session.Accounted

variable {s s' : Session} {op : SessionOp}

/-- One Device apart from the others. -/
theorem take {graph : DeviceGraph} {rest : List DeviceGraph} (h : s.Accounted)
    (hperm : s.context.graphs.Perm (graph :: rest)) :
    graph.Reserved ∧
      SpecsCounted s.context.specs
        (graph.nodes.map (·.spec) ++ (s.callers ++ nodeSpecs rest)) ∧
      ∀ other ∈ rest, other.Reserved := by
  refine ⟨h.reserved _ (hperm.mem_iff.mpr List.mem_cons_self), h.specs.congr fun a => ?_,
    fun other hother => h.reserved _ (hperm.mem_iff.mpr (List.mem_cons_of_mem _ hother))⟩
  have hcount := (hperm.flatMap_right fun graph => graph.nodes.map (·.spec)).count_eq a
  simp only [List.flatMap_cons, List.count_append] at hcount
  simp only [nodeSpecs, List.count_append]
  omega

/-- Some Devices behind the others. -/
theorem give {ctx : Context} {graphs rest : List DeviceGraph}
    (hperm : ctx.graphs.Perm (graphs ++ rest))
    (hspecs : SpecsCounted ctx.specs (nodeSpecs graphs ++ (s.callers ++ nodeSpecs rest)))
    (hreserved : ∀ graph ∈ graphs, graph.Reserved) (hrest : ∀ graph ∈ rest, graph.Reserved) :
    Session.Accounted { s with context := ctx } := by
  refine ⟨hspecs.congr fun a => ?_, fun other hother => ?_⟩
  · have hcount := (hperm.flatMap_right fun graph => graph.nodes.map (·.spec)).count_eq a
    simp only [List.flatMap_append, List.count_append] at hcount
    simp only [nodeSpecs, List.count_append]
    omega
  · rcases List.mem_append.mp (hperm.mem_iff.mp hother) with hother | hother
    · exact hreserved other hother
    · exact hrest other hother

/-- A new value of one active Device. -/
theorem replace {ctx : Context} {front back : List DeviceGraph} {graph graph' : DeviceGraph}
    (h : s.Accounted) (hdevices : s.context.devices = front ++ graph :: back)
    (hgraveyard : ctx.graveyard = s.context.graveyard) (hreserved : graph'.Reserved)
    (hspecs : SpecsCounted ctx.specs (graph'.nodes.map (·.spec) ++
      (s.callers ++ nodeSpecs (front ++ back ++ s.context.graveyard)))) :
    Session.Accounted { s with
      context := { ctx with devices := front ++ graph' :: back } } := by
  have hperm : ∀ graph, ((front ++ graph :: back) ++ s.context.graveyard).Perm
      (graph :: (front ++ back ++ s.context.graveyard)) := fun graph =>
    List.perm_middle.append_right _
  obtain ⟨-, -, hrest⟩ := h.take (by rw [Context.graphs, hdevices]; exact hperm graph)
  refine @give s _ [graph'] (front ++ back ++ s.context.graveyard) ?_ ?_ ?_ hrest
  · rw [Context.graphs, hgraveyard]
    exact hperm graph'
  · simpa using hspecs
  · intro other hother
    rw [List.mem_singleton.mp hother]
    exact hreserved

/-- A Device that is opened has no Nodes. -/
theorem of_opened (d : Transport.DeviceConfig) (handle poolSlots : ℕ) :
    (Transport.Device.opened d handle poolSlots).ReservedFor [] := ⟨rfl, .nil, rfl⟩

/-- A Device open adds a Device without Nodes, or none. -/
theorem of_deviceOpen {ctx : Context} {c : Transport.Candidate} {env : DeviceOpenEnv}
    {result : Result} (h : s.Accounted) (hopen : s.context.deviceOpen c env = (result, ctx)) :
    Session.Accounted { s with context := ctx } := by
  rcases s.context.deviceOpen_ends c env with
    ⟨_, runtime, bus, heq, -, -, -⟩ | ⟨u, port, runtime, -, -, heq⟩
  · rw [heq] at hopen
    cases hopen
    exact ⟨h.specs, h.reserved⟩
  · rw [heq] at hopen
    cases hopen
    refine @give s _ [?graph] s.context.graphs ?_ ?_ ?_ h.reserved
    rotate_left
    · simp only [Context.addDevice, Context.graphs, List.append_assoc]
      exact List.perm_middle
    · exact h.specs
    · intro other hother
      rw [List.mem_singleton.mp hother]
      exact of_opened _ _ _

/-- **One call keeps the balance.** -/
theorem step (h : s.Accounted) (hstep : SessionStep s op s') : s'.Accounted := by
  have hmiddle : ∀ {front back : List DeviceGraph} {graph : DeviceGraph},
      s.context.devices = front ++ graph :: back →
      s.context.graphs.Perm (graph :: (front ++ back ++ s.context.graveyard)) := by
    intro front back graph hdevices
    rw [Context.graphs, hdevices]
    exact List.perm_middle.append_right _
  have hparked : ∀ {front back : List DeviceGraph} {graph : DeviceGraph},
      s.context.graveyard = front ++ graph :: back →
      s.context.graphs.Perm (graph :: (s.context.devices ++ (front ++ back))) := by
    intro front back graph hgraveyard
    rw [Context.graphs, hgraveyard]
    exact (List.perm_middle.append_left _).trans List.perm_middle
  cases hstep with
  | spec_create hfresh spec => exact ⟨h.specs.create hfresh spec, h.reserved⟩
  | spec_retain hshared hretained => exact ⟨h.specs.retain hshared hretained, h.reserved⟩
  | spec_retain_failed => exact h
  | @spec_release address howned =>
    refine ⟨(h.specs.congr fun a => ?_ : SpecsCounted s.context.specs
      (address :: (s.callers.erase address ++ nodeSpecs s.context.graphs))).release, h.reserved⟩
    have hperm := (List.perm_cons_erase howned).append_right (nodeSpecs s.context.graphs)
    exact (hperm.count_eq a).symm
  | device_open hopen hopened =>
    have haccounted := h.of_deviceOpen hopen
    exact ⟨haccounted.specs, haccounted.reserved⟩
  | device_open_failed hopen hfailed => exact h.of_deviceOpen hopen
  | @node_open front back graph spec options hasOut env opening hdevices hfresh hopen =>
    obtain ⟨hreserved, hspecs, hrest⟩ := h.take (hmiddle hdevices)
    have hends := @nodeOpen_ends s.context graph spec options env hasOut hfresh h.specs.live
    rw [hopen] at hends
    suffices haccounted : Session.Accounted { s with
        context := { opening.context with devices := front ++ opening.device :: back } } from
      ⟨haccounted.specs, haccounted.reserved⟩
    cases hends with
    | refused hfailed => exact h.replace hdevices rfl hreserved hspecs
    | stopped hfailed hid => exact h.replace hdevices rfl hreserved hspecs
    | unregistered hfailed hid hspec hshared hcheck hobserved hregisters =>
      exact h.replace hdevices rfl (hreserved.kept (.of_observed hobserved)) hspecs
    | opened hid hspec hshared hretained hcheck hnode hreservation hobserved hregisters =>
      refine h.replace hdevices rfl ?_ ?_
      · exact (hreserved.reserving (hfresh _ hreservation) _ _).kept (.of_observed hobserved)
      · refine (hspecs.retain hshared hretained).congr fun a => ?_
        simp only [List.map_append, List.map_singleton, openedEntry, List.count_append,
          List.count_cons, List.count_nil]
        omega
  | node_close hdevices hnode hclose =>
    obtain ⟨hreserved, hspecs, hrest⟩ := h.take (hmiddle hdevices)
    obtain ⟨hreserved', hspecs', -, hgraveyard⟩ :=
      Context.closeLiveNode_balanced hreserved hspecs hnode hclose
    exact h.replace hdevices hgraveyard hreserved' hspecs'
  | @device_close front back graph hdevices env =>
    obtain ⟨hreserved, hspecs, hrest⟩ := h.take (hmiddle hdevices)
    obtain ⟨parked, hgraveyard, hdevices', hparkedReserved, hspecs'⟩ :=
      @Context.deviceClose_balanced { s.context with devices := front ++ back } graph _ env
        hreserved hspecs
    refine give ?_ hspecs' hparkedReserved hrest
    rw [Context.graphs, hgraveyard, hdevices']
    rw [← List.append_assoc]
    exact List.perm_append_comm
  | @reap front back graph hgraveyard hdrained =>
    obtain ⟨-, hspecs, hrest⟩ := h.take (hparked hgraveyard)
    obtain ⟨hspecs', hdevices', hgraveyard'⟩ :=
      @Context.destroyDevice_specs { s.context with graveyard := front ++ back } graph _ hspecs
    refine @give s _ [] _ ?_ hspecs' nofun hrest
    rw [Context.graphs, hdevices', hgraveyard']
    rfl
  | traffic hdevices t =>
    obtain ⟨hreserved, hspecs, hrest⟩ := h.take (hmiddle hdevices)
    exact h.replace hdevices rfl (hreserved.kept (.pass _ t)) hspecs
  | @traffic_parked front back graph hgraveyard t =>
    obtain ⟨hreserved, hspecs, hrest⟩ := h.take (hparked hgraveyard)
    refine @give s _ [{ graph with transport := graph.transport.pass t }] _ ?_ ?_ ?_ hrest
    · rw [Context.graphs]
      exact (List.perm_middle.append_left _).trans List.perm_middle
    · simpa using hspecs
    · intro other hother
      rw [List.mem_singleton.mp hother]
      exact hreserved.kept (.pass _ t)
  | other hhandles hsent hmore => exact ⟨h.specs, h.reserved⟩

end Session.Accounted

/-! ### The balance -/

/-- The counts of the Specs and the reservations of the transports, in so many words. -/
structure Session.Balanced (s : Session) : Prop where
  references : ∀ a shared, s.context.specs a = some shared →
    shared.references = s.callers.count a +
      (s.context.graphs.flatMap (·.nodes)).countP fun node => node.spec == a
  specs : ∀ graph ∈ s.context.graphs, ∀ node ∈ graph.nodes,
    ∃ shared, s.context.specs node.spec = some shared
  reservations : ∀ graph ∈ s.context.graphs,
    (graph.nodes.map fun node => (node.reservation, node.hidId, node.reservedSlots)) =
      graph.transport.reservations.map fun r => (some r.address, r.hidId, r.capacity)
  totals : ∀ graph ∈ s.context.graphs,
    graph.transport.reservedCapacityTotal = (graph.nodes.map (·.reservedSlots)).sum

/-- A Node open has left nothing but the advance of a HID ID. -/
structure NodeOpening.Traceless (opening : NodeOpening) (ctx : Context) (graph : DeviceGraph) :
    Prop where
  handle : opening.handle = none
  nodes : opening.device.nodes = graph.nodes
  reservations : opening.device.transport.reservations = graph.transport.reservations
  reservedTotal : opening.device.transport.reservedCapacityTotal =
    graph.transport.reservedCapacityTotal
  unfilledTotal : opening.device.transport.unfilledReservedTotal =
    graph.transport.unfilledReservedTotal
  specs : opening.context.specs = ctx.specs
  devices : opening.context.devices = ctx.devices
  graveyard : opening.context.graveyard = ctx.graveyard

/-- The requests 54 of a call are those of a Node open whose Spec satisfies the policies of its
Device. -/
def Session.RegistersWithin (s : Session) (op : SessionOp) (s' : Session) : Prop :=
  ∃ more, s'.context.registrations = s.context.registrations ++ more ∧
    (more ≠ [] → ∃ graph address shared, op = .nodeOpen graph (some address) ∧
      s.context.specs address = some shared ∧ graph.Meets shared.spec ∧
      ∀ e ∈ more, e.handle = graph.transport.handle)

variable {s s' : Session} {op : SessionOp}

theorem SessionRun.accounted (h : SessionRun s) : s.Accounted := by
  induction h with
  | created bus hsent =>
    refine ⟨⟨fun a => rfl, fun a shared hshared => ?_⟩, fun graph hgraph => ?_⟩
    · cases hshared
    · simp [Context.graphs] at hgraph
  | step _ hstep ih => exact ih.step hstep

theorem Session.Accounted.balanced (h : s.Accounted) : s.Balanced where
  references a shared hshared := by
    have hcount := h.specs.count a
    rw [hshared, List.count_append] at hcount
    simp only [Option.map_some, Option.getD_some] at hcount
    rw [← hcount, nodeSpecs, ← List.map_flatMap, List.count, List.countP_map]
    rfl
  specs graph hgraph node hnode := by
    refine h.specs.exists_of_mem (List.mem_append_right _ ?_)
    exact List.mem_flatMap.mpr ⟨graph, hgraph, List.mem_map_of_mem hnode⟩
  reservations graph hgraph := by
    have hkeys := (h.reserved graph hgraph).keys
    rw [Transport.Device.reservationKeys, List.map_map] at hkeys
    exact hkeys
  totals graph hgraph := (h.reserved graph hgraph).total

theorem NodeOpenEnds.traceless {ctx : Context} {graph : DeviceGraph} {spec : Option ℕ}
    {options : Option NodeOptions} {env : NodeOpenEnv} {opening : NodeOpening}
    (h : NodeOpenEnds ctx graph spec options env opening) (hfailed : opening.reply.result ≠ .ok) :
    opening.Traceless ctx graph := by
  cases h with
  | refused => exact ⟨rfl, rfl, rfl, rfl, rfl, rfl, rfl, rfl⟩
  | stopped => exact ⟨rfl, rfl, rfl, rfl, rfl, rfl, rfl, rfl⟩
  | unregistered _ _ _ _ _ hobserved =>
    obtain ⟨present, latched, rfl⟩ := hobserved
    exact ⟨rfl, rfl, rfl, rfl, rfl, rfl, rfl, rfl⟩
  | opened => exact absurd rfl hfailed

/-- Nothing is registered. -/
theorem Session.RegistersWithin.of_eq (h : s'.context.registrations = s.context.registrations) :
    s.RegistersWithin op s' :=
  ⟨[], by rw [h, List.append_nil], fun hne => absurd rfl hne⟩

/-- What a registration adds to the requests 54. -/
theorem Bus.Registers.registrations {bus bus' : Bus} {handle hidId : ℕ}
    (h : Bus.Registers bus bus' handle hidId) :
    ∃ more, (bus'.sent.filter fun e => e.request == 54) =
        (bus.sent.filter fun e => e.request == 54) ++ more ∧ more.length ≤ 1 ∧
      ∀ e ∈ more, e.handle = handle ∧ e.value = hidId := by
  obtain ⟨first, others, hsent, hlength, hfirst, hothers⟩ := h
  refine ⟨first, ?_, hlength, fun e he => ⟨(hfirst e he).2.1, (hfirst e he).2.2⟩⟩
  have hall : first.filter (fun e => e.request == 54) = first :=
    List.filter_eq_self.mpr fun e he => by simpa using (hfirst e he).1
  have hnone : others.filter (fun e => e.request == 54) = [] :=
    List.filter_eq_nil_iff.mpr fun e he => by simpa using hothers e he
  rw [hsent, List.filter_append, List.filter_append, hall, hnone, List.append_nil]

/-- The requests 54 of one call. -/
theorem SessionStep.registersWithin (h : s.Accounted) (hstep : SessionStep s op s') :
    s.RegistersWithin op s' := by
  cases hstep with
  | spec_create => exact .of_eq rfl
  | spec_retain => exact .of_eq rfl
  | spec_retain_failed => exact .of_eq rfl
  | spec_release => exact .of_eq rfl
  | @device_open c env context u hopen =>
    rcases s.context.deviceOpen_ends c env with ⟨_, _, _, heq, hfailed, -, -⟩ | ⟨_, _, _, -, -, heq⟩
    · rw [heq] at hopen
      exact absurd (Prod.mk.inj hopen).1 hfailed
    · rw [heq] at hopen
      cases hopen
      exact .of_eq rfl
  | @device_open_failed c env result context hopen hfailed =>
    rcases s.context.deviceOpen_ends c env with ⟨_, _, _, heq, -, -, hsent⟩ | ⟨_, _, _, -, -, heq⟩
    · rw [heq] at hopen
      cases hopen
      exact .of_eq (congrArg (List.filter _) hsent)
    · rw [heq] at hopen
      exact absurd (Prod.mk.inj hopen).1.symm hfailed
  | @node_open front back graph spec options hasOut env opening hdevices hfresh hopen =>
    have hends := @nodeOpen_ends s.context graph spec options env hasOut hfresh h.specs.live
    rw [hopen] at hends
    cases hends with
    | refused => exact .of_eq rfl
    | stopped => exact .of_eq rfl
    | unregistered _ _ hspec hshared hcheck _ hregisters =>
      obtain ⟨more, heq, -, hmore⟩ := hregisters.registrations
      exact ⟨more, heq, fun _ => ⟨graph, _, _, by rw [hspec], hshared,
        (meets_of_checkNodeOpen hcheck).2, fun e he => (hmore e he).1⟩⟩
    | opened _ hspec hshared _ hcheck _ _ _ hregisters =>
      obtain ⟨more, heq, -, hmore⟩ := hregisters.registrations
      exact ⟨more, heq, fun _ => ⟨graph, _, _, by rw [hspec], hshared,
        (meets_of_checkNodeOpen hcheck).2, fun e he => (hmore e he).1⟩⟩
  | @node_close front back graph graph' node env result context hdevices hnode hclose =>
    obtain ⟨hquiet, -, -⟩ := s.context.closeLiveNode_quiet graph node env
    rw [hclose] at hquiet
    exact .of_eq hquiet.registrations_eq
  | device_close hdevices env => exact .of_eq (Context.deviceClose_quiet _ _ env).registrations_eq
  | reap hgraveyard => exact .of_eq (Context.destroyDevice_quiet _ _).registrations_eq
  | traffic => exact .of_eq rfl
  | traffic_parked => exact .of_eq rfl
  | other hhandles hsent hmore => exact .of_eq (Context.registrations_of_sent hsent hmore)

/-- **Failed opens leave no trace, and the lifetimes balance.** -/
theorem nodes_balanced (h : SessionRun s) :
    s.Balanced ∧
      (∀ graph ∈ s.context.graphs, ∀ spec options hasOut env,
        (∀ a ∈ env.reservation, ∀ r ∈ graph.transport.reservations, r.address ≠ a) →
        (nodeOpen s.context graph spec options hasOut env).reply.result ≠ .ok →
          (nodeOpen s.context graph spec options hasOut env).Traceless s.context graph) ∧
      ∀ op s', SessionStep s op s' → s.RegistersWithin op s' := by
  have haccounted := h.accounted
  refine ⟨haccounted.balanced, fun graph _ spec options hasOut env hfresh hfailed => ?_,
    fun op s' hstep => hstep.registersWithin haccounted⟩
  exact (nodeOpen_ends hasOut hfresh haccounted.specs.live).traceless hfailed

/-! ### A phone -/

/-- A phone on the port 2 of the bus 1. -/
def samplePhone : Transport.UsbDevice := ⟨1, 5, [2], 0x18D1, 0x2D00⟩

/-- A selection of the phone, by its port path or by its address. -/
def sampleCandidate (portPath : List ℕ) : Transport.Candidate := ⟨1, 5, portPath, 0x18D1, 0x2D00⟩

def samplePolicies : DevicePolicies := ⟨4, 64, 64, 8, 4, 32, 8, 64, 64, 64⟩

def phoneConfig : Transport.DeviceConfig :=
  { Transport.Device.sampleConfig with
    descriptorFragmentBytes := 20
    fragment_pos := by decide
    fragment_lt := by decide }

def sampleDeviceOpen : DeviceOpenEnv where
  host := { listing := .ok [{ device := samplePhone }], listing_neg := nofun }
  config := phoneConfig
  policies := samplePolicies

/-- A Node that reserves one slot. -/
def sampleNodeOptions : NodeOptions where
  structSize := NodeOptions.size
  hasReservedSlots := 1
  reservedSlots := 1

/-- The Node and its reservation lie at one address. -/
def sampleNodeOpen (address : ℕ) : NodeOpenEnv where
  node := some address
  reservation := some address

/-- What libusb answers: a registration with a descriptor in two fragments, its end, another
registration, and a request that stalls. -/
def sampleBus : Bus where
  answers := fun n => ⟨[0, 20, 1, 0, 0, 20, 1, Transport.Libusb.errorPipe].getD n 0, []⟩

/-- A Context with the Spec of a raw pointer. -/
def sampleSession : Session where
  context :=
    { bus := sampleBus
      specs := Function.update (fun _ => none) 7 (some ⟨rawPointer, 1⟩) }
  callers := [7]

namespace Session

/-- The phone is opened. -/
def openPhone (s : Session) (portPath : List ℕ) : Session := { s with
  context := (s.context.deviceOpen (sampleCandidate portPath) sampleDeviceOpen).2
  openings := s.openings ++ [(samplePhone.physical, (sampleCandidate portPath).named)] }

/-- The Device of the phone. -/
def phone (s : Session) : DeviceGraph :=
  s.context.devices[0]?.getD
    { transport := .opened phoneConfig 0 4
      port := 0
      policies := samplePolicies
      hidIdDomainIndex := 0 }

/-- A Node open on the phone. -/
def rawOpening (s : Session) (address : ℕ := 0) : NodeOpening :=
  nodeOpen s.context s.phone (some 7) (some sampleNodeOptions) true (sampleNodeOpen address)

/-- A Node of the pointer is opened on the phone. -/
def openRaw (s : Session) (address : ℕ := 0) : Session := { s with
  context := { (s.rawOpening address).context with devices := [(s.rawOpening address).device] }
  taken := s.taken ++ (s.context.taking s.phone (s.rawOpening address).hidId).toList }

/-- A Node of the phone is closed. -/
def closeRaw (s : Session) (node : LiveNode) : Session := { s with
  context := { (s.context.closeLiveNode s.phone node {}).2.2 with
    devices := [(s.context.closeLiveNode s.phone node {}).2.1] } }

/-- The phone is closed. -/
def closePhone (s : Session) : Session := { s with
  context := { s.context with devices := [] }.deviceClose s.phone
    { nodes := s.phone.nodes.map fun _ => {} } }

theorem devices_eq_phone (h : s.context.devices.length = 1) :
    s.context.devices = [] ++ s.phone :: [] := by
  obtain ⟨graph, hgraph⟩ := List.length_eq_one_iff.mp h
  rw [phone, hgraph]
  rfl

theorem openPhone_step {portPath : List ℕ}
    (hopen : (s.context.deviceOpen (sampleCandidate portPath) sampleDeviceOpen).1 = .ok)
    (hopened : (s.openPhone portPath).context.runtime.handles[s.context.runtime.handles.length]? =
      some samplePhone) :
    SessionStep s (.deviceOpen (sampleCandidate portPath) (some samplePhone))
      (s.openPhone portPath) :=
  .device_open (Prod.ext hopen rfl) hopened

theorem openRaw_step {address : ℕ} (h : s.context.devices.length = 1)
    (hfree : ∀ r ∈ s.phone.transport.reservations, r.address ≠ address) :
    SessionStep s (.nodeOpen s.phone (some 7)) (s.openRaw address) := by
  refine .node_open (devices_eq_phone h) (fun a ha => ?_) rfl
  obtain rfl := Option.some.inj ha
  exact hfree

theorem closeRaw_step (h : s.context.devices.length = 1) {node : LiveNode}
    (hnode : node ∈ s.phone.nodes) : SessionStep s .nodeClose (s.closeRaw node) :=
  .node_close (devices_eq_phone h) hnode (Prod.ext rfl (Prod.ext rfl rfl))

theorem closePhone_step (h : s.context.devices.length = 1) :
    SessionStep s .deviceClose s.closePhone :=
  .device_close (devices_eq_phone h) _

end Session

theorem sampleSession_run : SessionRun sampleSession :=
  .step (.created sampleBus rfl) (.spec_create rfl rawPointer)

/-- A Node is opened on the phone, and closed; another one is open. -/
def reopenedSession : Session :=
  ((sampleSession.openPhone [2]).openRaw.closeRaw (openedEntry 0 7 1 1 0)).openRaw

/-- One more Node open stalls: it leaves nothing behind, and the open Node holds the second
reference of its Spec and the only reservation. -/
theorem nodes_balanced_reopened :
    (reopenedSession.rawOpening 1).reply.result = .errStall ∧
      (reopenedSession.rawOpening 1).Traceless reopenedSession.context reopenedSession.phone ∧
      ((reopenedSession.openRaw 1).context.specs 7).map (·.references) = some 2 ∧
      (reopenedSession.openRaw 1).phone.transport.reservedCapacityTotal = 1 ∧
      (reopenedSession.openRaw 1).Balanced := by
  have hrun : SessionRun reopenedSession :=
    .step (.step (.step (.step sampleSession_run
      (Session.openPhone_step (by decide +kernel) (by decide +kernel)))
      (Session.openRaw_step (by decide +kernel) (by decide +kernel)))
      (Session.closeRaw_step (by decide +kernel) (by decide +kernel)))
      (Session.openRaw_step (by decide +kernel) (by decide +kernel))
  have hphone : reopenedSession.context.devices.length = 1 := by decide +kernel
  have hfree : ∀ r ∈ reopenedSession.phone.transport.reservations, r.address ≠ 1 := by
    decide +kernel
  have hstalled : (reopenedSession.rawOpening 1).reply.result = .errStall := by decide +kernel
  have hlive : reopenedSession.phone ∈ reopenedSession.context.graphs := by
    rw [Context.graphs, Session.devices_eq_phone hphone]
    exact List.mem_append_left _ List.mem_cons_self
  refine ⟨hstalled, ?_, by decide +kernel, by decide +kernel,
    (nodes_balanced (hrun.step (Session.openRaw_step hphone hfree))).1⟩
  refine (nodes_balanced hrun).2.1 _ hlive (some 7) (some sampleNodeOptions) true
    (sampleNodeOpen 1) (fun a ha => ?_) (by rw [← Session.rawOpening, hstalled]; decide)
  obtain rfl := Option.some.inj ha
  exact hfree

end LibaoaHid

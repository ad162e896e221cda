import LibaoaHid.Api.Teardown
import LibaoaHid.Foundation.Places

/-!
# The traffic of a Device graph

What every step on a graph keeps: each report whose completion is still to come belongs to a Node
that exists and is marked as in flight, no two of them to the same Node, and each Node and each
Channel is either in the lists of the graph or released once.

## Main definitions

* `Graph.Live`, `Graph.Marks`, `Graph.Histories`, `Graph.Submitting`, `Graph.Sound`.

## Main results

* `Graph.Sound.event`, `Graph.Sound.nodeCall`, `Graph.Sound.channelCall`,
  `Graph.Sound.transferCall`, `Graph.Sound.cancelStep`, `Graph.Sound.destroyStep`: the steps.
* `Graph.Sound.not_event_of_drained`: no completion comes to a drained graph.
-/

namespace LibaoaHid.Teardown

open Transport

namespace Graph

/-! ### Invariants -/

/-- A report whose `transfer_complete` is still to return. -/
def Live (x : Graph) (t : ℕ) : Prop :=
  t < x.pool.tickets.length ∧ t ∉ x.pool.abandoned ∧ t ∉ x.returned

/-- A Node that was not released, with a report in flight. -/
def Marked (x : Graph) (n : ℕ) : Prop :=
  ∃ cell, x.nodeCells[n]? = some cell ∧ cell.transferInflight = true ∧ cell.frees = 0

/-- **Every report has its Node.** -/
structure Marks (x : Graph) : Prop where
  length : x.owners.length = x.pool.tickets.length
  marked : ∀ t n, x.Live t → x.owners[t]? = some n → x.Marked n
  unique : ∀ t t' n, x.Live t → x.Live t' → x.owners[t]? = some n → x.owners[t']? = some n → t = t'

/-- A callback returns from `transfer_complete` first, and counts `callbacks_active` down then. -/
structure Histories (x : Graph) : Prop where
  delivered : ∀ t ∈ x.pool.delivered, t ∈ x.returned
  returned : ∀ t ∈ x.returned, t ∈ x.pool.delivered ∨ ∃ notice ∈ x.pool.notices, notice.callback = t

/-- The submit that is under way: its Node is marked, for no report before the acquire, and for the
ticket of the prepared slot behind it. -/
def Submitting (x : Graph) : Option Submission → Prop
  | none => True
  | some (.entered n) => x.Marked n ∧ ∀ t, x.Live t → x.owners[t]? ≠ some n
  | some (.acquired n index) =>
    ∃ t, preparedTicket x.pool.device index = some t ∧ x.owners[t]? = some n

/-- A Channel runs from its open on, and is released only with nothing in flight. -/
structure ChannelCell.Sound (cell : ChannelCell) : Prop where
  run : ∃ config, ChannelRun config cell.transport
  freed : cell.frees ≠ 0 → cell.transport.inFlight = 0

/-- **What holds of a graph behind every step.** -/
structure Sound (x : Graph) : Prop where
  pool : ∃ config handle poolSlots, 0 < poolSlots ∧ PoolRun config handle poolSlots x.pool
  marks : x.Marks
  histories : x.Histories
  submitting : x.Submitting x.submission
  nodes : Placed (·.frees) x.nodeCells x.nodes
  channels : Placed (·.frees) x.channelCells (x.opening.toList ++ x.channels)
  cells : ∀ cell ∈ x.channelCells, ChannelCell.Sound cell
  returned : ∀ i ∈ x.channels, ∀ cell, x.channelCells[i]? = some cell →
    cell.transport.returned = true

variable {x x' : Graph}

/-- The graph of `Device::open`. -/
theorem Sound.opened (config : DeviceConfig) (handle : ℕ) {poolSlots : ℕ} (hslots : 0 < poolSlots) :
    Sound { pool := { device := .opened config handle poolSlots } } where
  pool := ⟨config, handle, poolSlots, hslots, .opened⟩
  marks :=
    { length := rfl
      marked := by
        rintro t n ⟨hlt, -⟩
        exact absurd hlt (Nat.not_lt_zero t)
      unique := by
        rintro t t' n ⟨hlt, -⟩
        exact absurd hlt (Nat.not_lt_zero t) }
  histories :=
    { delivered := fun _ hmem => absurd hmem List.not_mem_nil
      returned := fun _ hmem => absurd hmem List.not_mem_nil }
  submitting := trivial
  nodes := .nil
  channels := .nil
  cells := fun _ hmem => absurd hmem List.not_mem_nil
  returned := fun _ hmem => absurd hmem List.not_mem_nil

namespace Sound

/-- The accounting of the pool. -/
theorem accounts (h : x.Sound) : PoolSound x.pool.device ∧ TicketsSound x.pool := by
  obtain ⟨config, handle, poolSlots, hslots, hrun⟩ := h.pool
  exact hrun.sound hslots

/-- A pending completion belongs to a ticket that was neither delivered nor abandoned. -/
theorem of_notice (h : x.Sound) {notice : Notice} (hmem : notice ∈ x.pool.notices) :
    notice.callback < x.pool.tickets.length ∧ notice.callback ∉ x.pool.abandoned ∧
      notice.callback ∉ x.pool.delivered := by
  have hcount := h.accounts.2.count notice.callback
  have hpos : 0 < (x.pool.notices.map (·.callback)).count notice.callback :=
    List.count_pos_iff.mpr (List.mem_map_of_mem hmem)
  split at hcount
  next hlt =>
    exact ⟨hlt, List.count_eq_zero.mp (by omega), List.count_eq_zero.mp (by omega)⟩
  next => omega

/-- The ticket of a slot is live. -/
theorem live_of_slot (h : x.Sound) {slot : Slot} (hmem : slot ∈ x.pool.device.slots) {t : ℕ}
    (hticket : slot.callback = some t) : x.Live t := by
  have hcount := h.accounts.2.count t
  have hpos : 0 < slotsWith x.pool.device.slots t :=
    List.countP_pos_iff.mpr ⟨slot, hmem, decide_eq_true hticket⟩
  split at hcount
  next hlt =>
    refine ⟨hlt, List.count_eq_zero.mp (by omega), fun hreturned => ?_⟩
    rcases h.histories.returned t hreturned with hdelivered | ⟨notice, hnotice, rfl⟩
    · have := List.count_pos_iff.mpr hdelivered
      omega
    · have : 0 < (x.pool.notices.map (·.callback)).count notice.callback :=
        List.count_pos_iff.mpr (List.mem_map_of_mem hnotice)
      omega
  next => omega

/-- A drained pool has no slot that is not free, and no completion to deliver. -/
theorem pool_drained (h : x.Sound) (hd : x.pool.device.drained = true) :
    (∀ slot ∈ x.pool.device.slots, slot.state = .free) ∧ x.pool.notices = [] := by
  obtain ⟨hsound, htickets⟩ := h.accounts
  rw [Device.drained, Bool.and_eq_true, beq_iff_eq, beq_iff_eq] at hd
  refine ⟨fun slot hmem => ?_, List.eq_nil_of_length_eq_zero (htickets.active.symm.trans hd.2)⟩
  have hnone := List.countP_eq_zero.mp (hsound.outstanding.symm.trans hd.1) slot hmem
  simpa [Slot.busy] using hnone

/-- A drained pool has no live report. -/
theorem not_live (h : x.Sound) (hd : x.pool.device.drained = true) (t : ℕ) : ¬x.Live t := by
  rintro ⟨hlt, habandoned, hreturned⟩
  obtain ⟨hfree, hnotices⟩ := h.pool_drained hd
  have hcount := h.accounts.2.count t
  have hslots : slotsWith x.pool.device.slots t = 0 := by
    refine List.countP_eq_zero.mpr fun slot hmem => ?_
    have hvalid := (h.accounts.1.slots slot hmem).free (hfree slot hmem)
    simp [hvalid.1]
  rw [if_pos hlt, hslots, hnotices, List.map_nil, List.count_nil,
    List.count_eq_zero.mpr habandoned] at hcount
  exact hreturned (h.histories.delivered t (List.count_pos_iff.mp (by omega)))

end Sound

/-! ### Steps of the pool -/

/-- Steps that begin no report keep the marks of the Nodes whose reports they leave. -/
theorem Marks.shrink (h : x.Marks) (howners : x'.owners = x.owners)
    (htickets : x'.pool.tickets = x.pool.tickets) (hlive : ∀ t, x'.Live t → x.Live t)
    (hmarked : ∀ t n, x'.Live t → x.owners[t]? = some n → x.Marked n → x'.Marked n) :
    x'.Marks where
  length := by rw [howners, htickets, h.length]
  marked t n ht hn := by
    rw [howners] at hn
    exact hmarked t n ht hn (h.marked t n (hlive t ht) hn)
  unique t t' n ht ht' hn hn' := by
    rw [howners] at hn hn'
    exact h.unique t t' n (hlive t ht) (hlive t' ht') hn hn'

/-- Steps that end no callback. -/
theorem Histories.grow (h : x.Histories) (hreturned : x'.returned = x.returned)
    (hdelivered : x'.pool.delivered = x.pool.delivered)
    (hnotices : ∀ notice ∈ x.pool.notices, notice ∈ x'.pool.notices) : x'.Histories where
  delivered t hmem := by
    rw [hdelivered] at hmem
    rw [hreturned]
    exact h.delivered t hmem
  returned t hmem := by
    rw [hreturned] at hmem
    rw [hdelivered]
    exact (h.returned t hmem).imp_right fun ⟨notice, hnotice, heq⟩ =>
      ⟨notice, hnotices notice hnotice, heq⟩

/-- **A section of the pool** that begins no report and ends no callback. -/
theorem Sound.with_pool (h : x.Sound) {op : PoolOp} {pool : PoolState}
    (hstep : PoolStep x.pool op pool) (htickets : pool.tickets = x.pool.tickets)
    (habandoned : pool.abandoned = x.pool.abandoned)
    (hdelivered : pool.delivered = x.pool.delivered)
    (hnotices : ∀ notice ∈ x.pool.notices, notice ∈ pool.notices) {submission : Option Submission}
    (hsubmitting : Submitting { x with pool } submission) :
    Sound { x with
      pool
      submission } where
  pool := by
    obtain ⟨config, handle, poolSlots, hslots, hrun⟩ := h.pool
    exact ⟨config, handle, poolSlots, hslots, hrun.step hstep⟩
  marks := by
    refine h.marks.shrink rfl htickets (fun t ht => ?_) fun _ _ _ _ hmarked => hmarked
    obtain ⟨hlt, hmem, hreturned⟩ := ht
    rw [Live, ← htickets, ← habandoned]
    exact ⟨hlt, hmem, hreturned⟩
  histories := h.histories.grow rfl hdelivered hnotices
  submitting := by
    cases submission with
    | none => trivial
    | some pc => cases pc <;> exact hsubmitting
  nodes := h.nodes
  channels := h.channels
  cells := h.cells
  returned := h.returned

/-- The ticket of a prepared slot, where another slot is replaced. -/
theorem preparedTicket_set {d d' : Device} {i j : ℕ} {slot : Slot}
    (hslots : d'.slots = d.slots.set j slot) (hne : j ≠ i) :
    preparedTicket d' i = preparedTicket d i := by
  rw [preparedTicket, preparedTicket, hslots, List.getElem?_set_ne hne]

theorem preparedTicket_eq_some_iff {d : Device} {i t : ℕ} :
    preparedTicket d i = some t ↔
      ∃ slot, d.slots[i]? = some slot ∧ slot.state = .prepared ∧ slot.callback = some t := by
  rw [preparedTicket, Option.bind_eq_some_iff]
  refine exists_congr fun slot => and_congr_right fun _ => ?_
  split
  next hstate => simp [hstate]
  next hstate => simp [hstate]

/-- A completion of another slot leaves the prepared slot alone. -/
theorem Sound.transfer_finished (h : x.Sound) {index : ℕ} {slot : Slot} {status : TransferStatus}
    {actualLength : ℕ} {notice : Option Notice} {device : Device}
    (hslot : x.pool.device.slots[index]? = some slot) (hstate : slot.state = .submitted)
    (hfinished : x.pool.device.transferFinished index status actualLength = (notice, device)) :
    Sound { x with
      pool := { x.pool with
        device
        notices := x.pool.notices ++ notice.toList } } := by
  refine h.with_pool (.transferFinished hfinished) rfl rfl rfl
    (fun _ => List.mem_append_left _) ?_
  have hsubmitting := h.submitting
  rcases hpc : x.submission with _ | ⟨n⟩ | ⟨n, i⟩ <;> rw [hpc] at hsubmitting
  · trivial
  · exact hsubmitting
  · obtain ⟨t, hticket, howner⟩ := hsubmitting
    refine ⟨t, ?_, howner⟩
    obtain ⟨rfl, rfl⟩ | ⟨slot', result, nativeStatus, hslot', -, hfinish⟩ :=
      Device.transferFinished_cases hfinished
    · exact hticket
    · obtain ⟨-, d₀, hsame, -, rfl⟩ := Device.finish_cases hfinish
      have hslots : (d₀.returnSlot index slot').slots =
          x.pool.device.slots.set index (Device.Slot.cleared slot') := by
        rw [(d₀.returnSlot_frame index slot').1, hsame.slots]
      refine (preparedTicket_set hslots ?_).trans hticket
      rintro rfl
      obtain ⟨slot₁, hslot₁, hprepared, -⟩ := preparedTicket_eq_some_iff.mp hticket
      rw [hslot, Option.some.injEq] at hslot₁
      rw [← hslot₁, hstate] at hprepared
      cases hprepared

/-! ### The callback of a report -/

/-- A store to `transfer_inflight` is kept by the other Nodes. -/
theorem Marked.setInflight_of_ne {n m : ℕ} (hm : x.Marked m) (hne : n ≠ m) (value : Bool) :
    (x.setInflight n value).Marked m := by
  obtain ⟨cell, hget, hinflight, hfrees⟩ := hm
  exact ⟨cell, (List.getElem?_modify_ne _ _ hne).trans hget, hinflight, hfrees⟩

theorem placed_setInflight (h : Placed (·.frees) x.nodeCells x.nodes) (n : ℕ) (value : Bool) :
    Placed (·.frees) (x.setInflight n value).nodeCells x.nodes := by
  refine h.update (fun cell => ?_) n
  rfl

theorem transferComplete_of_owner {t n : ℕ} (h : x.owners[t]? = some n) :
    x.transferComplete t = { x.setInflight n false with returned := x.returned ++ [t] } := by
  rw [transferComplete, h]

/-- `transfer_complete` clears the mark of the Node that owns the report, which no other live report
has. -/
theorem Sound.transfer_complete (h : x.Sound) {notice : Notice} (hmem : notice ∈ x.pool.notices)
    (hnew : notice.callback ∉ x.returned) : (x.transferComplete notice.callback).Sound := by
  obtain ⟨hlt, habandoned, -⟩ := h.of_notice hmem
  have hlive : x.Live notice.callback := ⟨hlt, habandoned, hnew⟩
  obtain ⟨n, hn⟩ : ∃ n, x.owners[notice.callback]? = some n :=
    ⟨_, List.getElem?_eq_getElem (h.marks.length ▸ hlt)⟩
  have hlive' : ∀ t, t < x.pool.tickets.length ∧ t ∉ x.pool.abandoned ∧
      t ∉ x.returned ++ [notice.callback] → x.Live t ∧ t ≠ notice.callback := by
    rintro t ⟨ht, ha, hr⟩
    rw [List.mem_append, List.mem_singleton, not_or] at hr
    exact ⟨⟨ht, ha, hr.1⟩, hr.2⟩
  have hkeep : ∀ m, (∀ t, x.Live t → t ≠ notice.callback → x.owners[t]? = some m → n ≠ m) := by
    rintro m t ht hne hm rfl
    exact hne (h.marks.unique _ _ _ ht hlive hm hn)
  rw [transferComplete_of_owner hn]
  exact
    { pool := h.pool
      marks := by
        refine h.marks.shrink rfl rfl (fun t ht => (hlive' t ht).1) fun t m ht hm hmarked => ?_
        exact hmarked.setInflight_of_ne (hkeep m t (hlive' t ht).1 (hlive' t ht).2 hm) false
      histories :=
        { delivered := fun t ht => List.mem_append_left _ (h.histories.delivered t ht)
          returned := by
            intro t ht
            rcases List.mem_append.mp ht with ht | ht
            · exact h.histories.returned t ht
            · exact .inr ⟨notice, hmem, (List.mem_singleton.mp ht).symm⟩ }
      submitting := by
        have hsubmitting := h.submitting
        change Submitting _ x.submission
        rcases hpc : x.submission with _ | ⟨m⟩ | ⟨m, i⟩ <;> rw [hpc] at hsubmitting
        · trivial
        · refine ⟨hsubmitting.1.setInflight_of_ne ?_ false, fun t ht => ?_⟩
          · rintro rfl
            exact hsubmitting.2 _ hlive hn
          · exact hsubmitting.2 t (hlive' t ht).1
        · exact hsubmitting
      nodes := placed_setInflight h.nodes n false
      channels := h.channels
      cells := h.cells
      returned := h.returned }

/-- The last access to the Device, behind the return of `transfer_complete`. -/
theorem Sound.leave (h : x.Sound) {notice : Notice} (hmem : notice ∈ x.pool.notices)
    (hreturned : notice.callback ∈ x.returned) :
    Sound { x with
      pool := { x.pool with
        device := x.pool.device.delivered
        notices := x.pool.notices.erase notice
        delivered := x.pool.delivered ++ [notice.callback] } } where
  pool := by
    obtain ⟨config, handle, poolSlots, hslots, hrun⟩ := h.pool
    exact ⟨config, handle, poolSlots, hslots, hrun.step (.deliver hmem)⟩
  marks := h.marks.shrink rfl rfl (fun _ ht => ht) fun _ _ _ _ hmarked => hmarked
  histories :=
    { delivered := by
        intro t ht
        rcases List.mem_append.mp ht with ht | ht
        · exact h.histories.delivered t ht
        · rwa [List.mem_singleton.mp ht]
      returned := by
        intro t ht
        rcases h.histories.returned t ht with hdelivered | ⟨notice', hnotice, rfl⟩
        · exact .inl (List.mem_append_left _ hdelivered)
        · by_cases heq : notice' = notice
          · subst heq
            exact .inl (List.mem_append_right _ (List.mem_singleton_self _))
          · exact .inr ⟨notice', (List.mem_erase_of_ne heq).mpr hnotice, rfl⟩ }
  submitting := by
    have hsubmitting := h.submitting
    change Submitting _ x.submission
    rcases hpc : x.submission with _ | ⟨m⟩ | ⟨m, i⟩ <;> rw [hpc] at hsubmitting
    · trivial
    · exact hsubmitting
    · exact hsubmitting
  nodes := h.nodes
  channels := h.channels
  cells := h.cells
  returned := h.returned

/-! ### Channels -/

theorem returned_of_readStep {c c' : Channel} (h : ReadStep c c') (hreturned : c.returned = true) :
    c'.returned = true := by
  cases h <;> simp only [Channel.afterSubmit, Channel.afterPop, Channel.copyCurrent,
    Channel.readReturns] <;> repeat' split
  all_goals first | rfl | exact hreturned

theorem returned_of_writeStep {c c' : Channel} (h : WriteStep c c')
    (hreturned : c.returned = true) : c'.returned = true := by
  cases h <;> exact hreturned

theorem returned_of_callbackStep {c c' : Channel} (h : CallbackStep c c')
    (hreturned : c.returned = true) : c'.returned = true := by
  cases h <;> exact hreturned

/-- No completion comes to a Channel that has nothing in flight. -/
theorem ChannelCell.Sound.not_callbackStep {cell : ChannelCell} (h : ChannelCell.Sound cell)
    (hzero : cell.transport.inFlight = 0) {c : Channel} : ¬CallbackStep cell.transport c := by
  obtain ⟨config, hrun⟩ := h.run
  obtain ⟨-, -, -, hflight⟩ := hrun.sound
  intro hstep
  rw [FlightSound, hzero] at hflight
  have hin : cell.transport.inQueue = [] := List.eq_nil_of_length_eq_zero (by omega)
  have hout : cell.transport.outQueue = [] := List.eq_nil_of_length_eq_zero (by omega)
  have hactive : cell.transport.callback.active = 0 := by omega
  cases hstep with
  | complete_in status received hpc hslot => rw [hin] at hslot; cases hslot
  | complete_out hpc hslot => rw [hout] at hslot; cases hslot
  | fail_out status actualLength hpc hslot hfailed => rw [hout] at hslot; cases hslot
  | push_in hpc => rw [hpc] at hactive; cases hactive
  | store_error hpc => rw [hpc] at hactive; cases hactive
  | store_lost hpc => rw [hpc] at hactive; cases hactive
  | push_out hpc => rw [hpc] at hactive; cases hactive
  | finish hpc => rw [hpc] at hactive; cases hactive

/-- **A step of a Channel** that was not released. -/
theorem Sound.set_channel (h : x.Sound) {i : ℕ} {cell : ChannelCell} {c : Channel}
    (hget : x.channelCells[i]? = some cell) (hrun : ChannelStep cell.transport c)
    (hfreed : cell.frees ≠ 0 → c.inFlight = 0)
    (hreturned : cell.transport.returned = true → c.returned = true) :
    (x.setChannel i c).Sound where
  pool := h.pool
  marks := h.marks.shrink rfl rfl (fun _ ht => ht) fun _ _ _ _ hmarked => hmarked
  histories := h.histories.grow rfl rfl fun _ hmem => hmem
  submitting := by
    have hsubmitting := h.submitting
    change Submitting _ x.submission
    rcases hpc : x.submission with _ | ⟨m⟩ | ⟨m, i⟩ <;> rw [hpc] at hsubmitting
    · trivial
    · exact hsubmitting
    · exact hsubmitting
  nodes := h.nodes
  channels := by
    refine h.channels.update (fun cell => ?_) i
    rfl
  cells := by
    intro cell' hmem
    obtain ⟨j, hj⟩ := List.mem_iff_getElem?.mp hmem
    rcases getElem?_modify_cases hj with ⟨-, cell₀, hget₀, rfl⟩ | ⟨-, hget'⟩
    · rw [hget, Option.some.injEq] at hget₀
      subst hget₀
      obtain ⟨⟨config, hopened⟩, -⟩ := h.cells cell (List.mem_of_getElem? hget)
      exact ⟨⟨config, hopened.step hrun⟩, hfreed⟩
    · exact h.cells cell' (List.mem_of_getElem? hget')
  returned := by
    intro j hmem cell' hj
    rcases getElem?_modify_cases hj with ⟨rfl, cell₀, hget₀, rfl⟩ | ⟨-, hget'⟩
    · exact hreturned (h.returned j hmem cell hget)
    · exact h.returned j hmem cell' hget'

/-- A Channel in the list of the graph takes a step. -/
theorem Sound.step_channel (h : x.Sound) {i : ℕ} {cell : ChannelCell} {c : Channel}
    (hmem : i ∈ x.channels) (hget : x.channelCells[i]? = some cell)
    (hrun : ChannelStep cell.transport c)
    (hreturned : cell.transport.returned = true → c.returned = true) :
    (x.setChannel i c).Sound :=
  h.set_channel hget hrun
    (fun hfrees => absurd (h.channels.unreleased (List.mem_append_right _ hmem) hget) hfrees)
    hreturned

/-- A Channel in the list of the graph is lost. -/
theorem Sound.lose_channel (h : x.Sound) {i : ℕ} {cell : ChannelCell} (hmem : i ∈ x.channels)
    (hget : x.channelCells[i]? = some cell) :
    (x.setChannel i { cell.transport with lost := true }).Sound :=
  h.step_channel hmem hget (.lose (h.returned i hmem cell hget)) fun hreturned => hreturned

/-- **A completion.** -/
theorem Sound.event (h : x.Sound) (hstep : EventStep x x') : x'.Sound := by
  cases hstep with
  | transfer_finished hslot hstate hfinished => exact h.transfer_finished hslot hstate hfinished
  | transfer_complete hmem hnew => exact h.transfer_complete hmem hnew
  | leave hmem hreturned => exact h.leave hmem hreturned
  | @channel i cell c hget hcallback =>
    have hcell := h.cells cell (List.mem_of_getElem? hget)
    exact h.set_channel hget (.callback hcallback)
      (fun hfrees => absurd hcallback (hcell.not_callbackStep (hcell.freed hfrees)))
      (returned_of_callbackStep hcallback)

/-- A read or a write. -/
theorem Sound.transferCall (h : x.Sound) (hstep : TransferCall x x') : x'.Sound := by
  cases hstep with
  | read hmem hget hread =>
    exact h.step_channel hmem hget (.read hread) (returned_of_readStep hread)
  | write hmem hget hwrite =>
    exact h.step_channel hmem hget (.write hwrite) (returned_of_writeStep hwrite)

/-- The cancellation of a graph. -/
theorem Sound.cancelStep (h : x.Sound) (hidle : x.submission = none) (hstep : CancelStep x x') :
    x'.Sound := by
  have hsubmitting : ∀ pool, Submitting { x with pool } x.submission := by
    intro pool
    rw [hidle]
    trivial
  cases hstep with
  | lose hmem hget => exact h.lose_channel hmem hget
  | begin_cancel =>
    exact h.with_pool .begin_cancel rfl rfl rfl (fun _ hmem => hmem) (hsubmitting _)
  | cancel hcancel =>
    exact h.with_pool (.cancel hcancel) rfl rfl rfl (fun _ => List.mem_append_left _)
      (hsubmitting _)

/-! ### Calls on Nodes -/

/-- The operations that take no slot and end none leave the tickets alone. -/
theorem quiet_frame {pool pool' : PoolState} {op : PoolOp} (hop : QuietOp op)
    (h : PoolStep pool op pool') : pool'.tickets = pool.tickets ∧ pool'.abandoned = pool.abandoned ∧
      pool'.delivered = pool.delivered ∧ pool'.notices = pool.notices := by
  cases h with
  | setReservation hfresh => exact ⟨rfl, rfl, rfl, rfl⟩
  | clearReservation address => exact ⟨rfl, rfl, rfl, rfl⟩
  | observe result lastError => exact ⟨rfl, rfl, rfl, rfl⟩
  | latched => exact ⟨rfl, rfl, rfl, rfl⟩
  | _ => exact hop.elim

theorem Sound.quiet (h : x.Sound) {op : PoolOp} {pool : PoolState} (hidle : x.submission = none)
    (hop : QuietOp op) (hstep : PoolStep x.pool op pool) : Sound { x with pool } := by
  obtain ⟨htickets, habandoned, hdelivered, hnotices⟩ := quiet_frame hop hstep
  refine h.with_pool hstep htickets habandoned hdelivered (fun _ hmem => hnotices ▸ hmem) ?_
  rw [hidle]
  trivial

/-- A Node whose mark is clear has no live report. -/
theorem Sound.owns_none (h : x.Sound) {n : ℕ} {cell : NodeCell} (hget : x.nodeCells[n]? = some cell)
    (hfree : cell.transferInflight = false) {t : ℕ} (ht : x.Live t) : x.owners[t]? ≠ some n := by
  intro hn
  obtain ⟨cell', hget', hinflight, -⟩ := h.marks.marked t n ht hn
  rw [hget, Option.some.injEq] at hget'
  rw [← hget', hfree] at hinflight
  cases hinflight

theorem Sound.node_open (h : x.Sound) (hidle : x.submission = none) :
    Sound { x with
      nodes := x.nodes ++ [x.nodeCells.length]
      nodeCells := x.nodeCells ++ [{}] } where
  pool := h.pool
  marks := by
    refine h.marks.shrink rfl rfl (fun _ ht => ht) fun t n ht hn hmarked => ?_
    obtain ⟨cell, hget, hinflight, hfrees⟩ := hmarked
    have hlt := (List.getElem?_eq_some_iff.mp hget).1
    exact ⟨cell, (List.getElem?_append_left hlt).trans hget, hinflight, hfrees⟩
  histories := h.histories.grow rfl rfl fun _ hmem => hmem
  submitting := by
    change Submitting _ x.submission
    rw [hidle]
    trivial
  nodes := (h.nodes.push rfl).perm (List.perm_append_singleton _ _).symm
  channels := h.channels
  cells := h.cells
  returned := h.returned

/-- A submit sets the mark of its Node. -/
theorem Sound.enter (h : x.Sound) {n : ℕ} {cell : NodeCell} (hnode : n ∈ x.nodes)
    (hget : x.nodeCells[n]? = some cell) (hfree : cell.transferInflight = false) :
    Sound { x.setInflight n true with submission := some (.entered n) } where
  pool := h.pool
  marks := by
    refine h.marks.shrink rfl rfl (fun _ ht => ht) fun t m ht hm hmarked => ?_
    refine hmarked.setInflight_of_ne ?_ true
    rintro rfl
    exact h.owns_none hget hfree ht hm
  histories := h.histories.grow rfl rfl fun _ hmem => hmem
  submitting := by
    have hfrees : cell.frees = 0 := h.nodes.unreleased hnode hget
    refine ⟨⟨{ cell with transferInflight := true }, ?_, rfl, hfrees⟩,
      fun t ht => h.owns_none hget hfree ht⟩
    exact (List.getElem?_modify_eq ..).trans (congrArg (Option.map _) hget)
  nodes := placed_setInflight h.nodes n true
  channels := h.channels
  cells := h.cells
  returned := h.returned

/-- A submit gives up, and clears the mark that it has set. -/
theorem Sound.give_up (h : x.Sound) {n : ℕ} (hpc : x.submission = some (.entered n)) :
    Sound { x.setInflight n false with submission := none } where
  pool := h.pool
  marks := by
    have hsubmitting := h.submitting
    rw [hpc] at hsubmitting
    refine h.marks.shrink rfl rfl (fun _ ht => ht) fun t m ht hm hmarked => ?_
    refine hmarked.setInflight_of_ne ?_ false
    rintro rfl
    exact hsubmitting.2 t ht hm
  histories := h.histories.grow rfl rfl fun _ hmem => hmem
  submitting := trivial
  nodes := placed_setInflight h.nodes n false
  channels := h.channels
  cells := h.cells
  returned := h.returned

/-- A submit takes a slot, with the next ticket. -/
theorem Sound.acquire (h : x.Sound) {n index hidId reportLength : ℕ} {token : Option ℕ}
    {outcome : Outcome} {device : Device} (hpc : x.submission = some (.entered n))
    (hacquire : x.pool.device.acquire hidId token reportLength (some x.pool.tickets.length) =
      (outcome, some index, device)) :
    Sound { x with
      pool := { x.pool with
        device
        tickets := x.pool.tickets ++ [index] }
      owners := x.owners ++ [n]
      submission := some (.acquired n index) } := by
  have hsubmitting := h.submitting
  rw [hpc] at hsubmitting
  obtain ⟨hmarked, hnone⟩ := hsubmitting
  obtain ⟨hnil, -⟩ | ⟨i, rest, own, filling, heq, -, -, hstack, -, -, -, rfl⟩ :=
    Device.acquire_cases hacquire
  · cases hnil
  obtain rfl : index = i := Option.some.inj heq
  have hlength := h.marks.length
  have howner : (x.owners ++ [n])[x.pool.tickets.length]? = some n := by
    rw [← hlength]
    exact List.getElem?_concat_length ..
  -- an owner behind the acquire is that of an older live report, or the submitting Node
  have hcases : ∀ t m, (t < (x.pool.tickets ++ [index]).length ∧ t ∉ x.pool.abandoned ∧
      t ∉ x.returned) → (x.owners ++ [n])[t]? = some m →
        x.Live t ∧ x.owners[t]? = some m ∨ t = x.pool.tickets.length ∧ m = n := by
    rintro t m ⟨hlt, habandoned, hreturned⟩ hm
    rw [List.length_append, List.length_singleton] at hlt
    rcases Nat.lt_or_eq_of_le (Nat.le_of_lt_succ hlt) with hold | rfl
    · refine .inl ⟨⟨hold, habandoned, hreturned⟩, ?_⟩
      rwa [List.getElem?_append_left (hlength ▸ hold)] at hm
    · rw [howner, Option.some.injEq] at hm
      exact .inr ⟨rfl, hm.symm⟩
  exact
    { pool := by
        obtain ⟨config, handle, poolSlots, hslots, hrun⟩ := h.pool
        exact ⟨config, handle, poolSlots, hslots, hrun.step (.acquire hacquire)⟩
      marks :=
        { length := by
            change (x.owners ++ [n]).length = (x.pool.tickets ++ [index]).length
            rw [List.length_append, List.length_append, hlength]
            rfl
          marked := by
            intro t m ht hm
            rcases hcases t m ht hm with ⟨hlive, hold⟩ | ⟨-, rfl⟩
            · exact h.marks.marked t m hlive hold
            · exact hmarked
          unique := by
            intro t t' m ht ht' hm hm'
            rcases hcases t m ht hm with ⟨hlive, hold⟩ | ⟨rfl, rfl⟩
            · rcases hcases t' m ht' hm' with ⟨hlive', hold'⟩ | ⟨rfl, rfl⟩
              · exact h.marks.unique t t' m hlive hlive' hold hold'
              · exact absurd hold (hnone t hlive)
            · rcases hcases t' m ht' hm' with ⟨hlive', hold'⟩ | ⟨rfl, -⟩
              · exact absurd hold' (hnone t' hlive')
              · rfl }
      histories := h.histories.grow rfl rfl fun _ hmem => hmem
      submitting := by
        refine ⟨x.pool.tickets.length, ?_, howner⟩
        obtain ⟨slot, hslot, -⟩ := (h.accounts.1.free index).mp (hstack ▸ List.mem_cons_self ..)
        have htaken := (Device.take_frame x.pool.device index rest hidId own filling reportLength
          x.pool.tickets.length).1
        refine preparedTicket_eq_some_iff.mpr ⟨_, (congrArg (·[index]?) htaken).trans
          (List.getElem?_set_self (List.getElem?_eq_some_iff.mp hslot).1), rfl, rfl⟩
      nodes := h.nodes
      channels := h.channels
      cells := h.cells
      returned := h.returned }

/-- A submit abandons its slot, and clears the mark of its Node, which has no other live report. -/
theorem Sound.abandon (h : x.Sound) {n index : ℕ} (hpc : x.submission = some (.acquired n index)) :
    Sound { x.setInflight n false with
      pool := { x.pool with
        device := x.pool.device.abandon index
        abandoned := x.pool.abandoned ++ (preparedTicket x.pool.device index).toList }
      submission := none } := by
  have hsubmitting := h.submitting
  rw [hpc] at hsubmitting
  obtain ⟨t₀, hticket, howner⟩ := hsubmitting
  obtain ⟨slot, hslot, -, hcallback⟩ := preparedTicket_eq_some_iff.mp hticket
  have hlive₀ := h.live_of_slot (List.mem_of_getElem? hslot) hcallback
  have hlive : ∀ t, t < x.pool.tickets.length ∧
      t ∉ x.pool.abandoned ++ (preparedTicket x.pool.device index).toList ∧ t ∉ x.returned →
        x.Live t ∧ t ≠ t₀ := by
    rintro t ⟨hlt, habandoned, hreturned⟩
    rw [hticket, Option.toList_some, List.mem_append, List.mem_singleton, not_or] at habandoned
    exact ⟨⟨hlt, habandoned.1, hreturned⟩, habandoned.2⟩
  exact
    { pool := by
        obtain ⟨config, handle, poolSlots, hslots, hrun⟩ := h.pool
        exact ⟨config, handle, poolSlots, hslots, hrun.step (.abandon index)⟩
      marks := by
        refine h.marks.shrink rfl rfl (fun t ht => (hlive t ht).1) fun t m ht hm hmarked => ?_
        refine hmarked.setInflight_of_ne ?_ false
        rintro rfl
        exact (hlive t ht).2 (h.marks.unique t t₀ _ (hlive t ht).1 hlive₀ hm howner)
      histories := h.histories.grow rfl rfl fun _ hmem => hmem
      submitting := trivial
      nodes := placed_setInflight h.nodes n false
      channels := h.channels
      cells := h.cells
      returned := h.returned }

/-- The storage of a Node with no report in flight is released. -/
theorem Sound.node_released (h : x.Sound) {n : ℕ} {rest : List ℕ}
    (hnodes : x.nodes.Perm (n :: rest)) (hidle : x.submission = none)
    (hnone : ∀ t, x.Live t → x.owners[t]? ≠ some n) :
    Sound { x.releaseNode n with nodes := rest } where
  pool := h.pool
  marks := by
    refine h.marks.shrink rfl rfl (fun _ ht => ht) fun t m ht hm hmarked => ?_
    obtain ⟨cell, hget, hinflight, hfrees⟩ := hmarked
    refine ⟨cell, (List.getElem?_modify_ne _ _ ?_).trans hget, hinflight, hfrees⟩
    rintro rfl
    exact hnone t ht hm
  histories := h.histories.grow rfl rfl fun _ hmem => hmem
  submitting := by
    change Submitting _ x.submission
    rw [hidle]
    trivial
  nodes := by
    refine (h.nodes.perm hnodes).release fun cell => ?_
    rfl
  channels := h.channels
  cells := h.cells
  returned := h.returned

/-- **A section of a call on a Node.** -/
theorem Sound.nodeCall (h : x.Sound) (hstep : NodeCall x x') : x'.Sound := by
  cases hstep with
  | quiet hidle hop hpool => exact h.quiet hidle hop hpool
  | «open» hidle => exact h.node_open hidle
  | enter hidle hnode hget hfree => exact h.enter hnode hget hfree
  | give_up hpc => exact h.give_up hpc
  | acquire hpc hacquire => exact h.acquire hpc hacquire
  | abandon hpc => exact h.abandon hpc
  | submit hpc hsubmit =>
    exact h.with_pool (.submit hsubmit) rfl rfl rfl (fun _ => List.mem_append_left _) trivial
  | close hidle hnode hget hfree =>
    exact h.node_released (List.perm_cons_erase hnode) hidle fun t ht => h.owns_none hget hfree ht

/-! ### Calls on Channels -/

/-- The storage of a Channel with nothing in flight is released. -/
theorem Sound.channel_released (h : x.Sound) {i : ℕ} {cell : ChannelCell} {opening : Option ℕ}
    {rest : List ℕ}
    (hchannels : (x.opening.toList ++ x.channels).Perm (i :: (opening.toList ++ rest)))
    (hsub : rest ⊆ x.channels) (hget : x.channelCells[i]? = some cell)
    (hidle : cell.transport.inFlight = 0) :
    Sound { x.releaseChannel i with
      opening
      channels := rest } where
  pool := h.pool
  marks := h.marks.shrink rfl rfl (fun _ ht => ht) fun _ _ _ _ hmarked => hmarked
  histories := h.histories.grow rfl rfl fun _ hmem => hmem
  submitting := by
    have hsubmitting := h.submitting
    change Submitting _ x.submission
    rcases hpc : x.submission with _ | ⟨m⟩ | ⟨m, i⟩ <;> rw [hpc] at hsubmitting
    · trivial
    · exact hsubmitting
    · exact hsubmitting
  nodes := h.nodes
  channels := by
    refine (h.channels.perm hchannels).release fun cell => ?_
    rfl
  cells := by
    intro cell' hmem
    obtain ⟨j, hj⟩ := List.mem_iff_getElem?.mp hmem
    rcases getElem?_modify_cases hj with ⟨-, cell₀, hget₀, rfl⟩ | ⟨-, hget'⟩
    · rw [hget, Option.some.injEq] at hget₀
      subst hget₀
      exact ⟨(h.cells cell (List.mem_of_getElem? hget)).run, fun _ => hidle⟩
    · exact h.cells cell' (List.mem_of_getElem? hget')
  returned := by
    intro j hmem cell' hj
    rcases getElem?_modify_cases hj with ⟨rfl, cell₀, hget₀, rfl⟩ | ⟨-, hget'⟩
    · exact h.returned j (hsub hmem) cell₀ hget₀
    · exact h.returned j (hsub hmem) cell' hget'

/-- The place of a Channel in the lists of its graph. -/
theorem Sound.channel_places (h : x.Sound) {cells : List ChannelCell} {opening : Option ℕ}
    {channels : List ℕ} (hplaced : Placed (·.frees) cells (opening.toList ++ channels))
    (hcells : ∀ cell ∈ cells, ChannelCell.Sound cell)
    (hreturned : ∀ i ∈ channels, ∀ cell, cells[i]? = some cell → cell.transport.returned = true) :
    Sound { x with
      channelCells := cells
      opening
      channels } where
  pool := h.pool
  marks := h.marks.shrink rfl rfl (fun _ ht => ht) fun _ _ _ _ hmarked => hmarked
  histories := h.histories.grow rfl rfl fun _ hmem => hmem
  submitting := by
    have hsubmitting := h.submitting
    change Submitting _ x.submission
    rcases hpc : x.submission with _ | ⟨m⟩ | ⟨m, i⟩ <;> rw [hpc] at hsubmitting
    · trivial
    · exact hsubmitting
    · exact hsubmitting
  nodes := h.nodes
  channels := hplaced
  cells := hcells
  returned := hreturned

/-- **A section of a call on a Channel.** -/
theorem Sound.channelCall (h : x.Sound) (hstep : ChannelCall x x') : x'.Sound := by
  cases hstep with
  | «open» config hidle =>
    have hchannels := h.channels
    rw [hidle] at hchannels
    refine h.channel_places (hchannels.push rfl) (fun cell hmem => ?_) fun i hmem cell hget => ?_
    · rcases List.mem_append.mp hmem with hold | hnew
      · exact h.cells cell hold
      · rw [List.mem_singleton.mp hnew]
        exact ⟨⟨config, .opened⟩, fun hfrees => absurd rfl hfrees⟩
    · rw [List.getElem?_append_left (hchannels.lt (List.mem_append_right _ hmem))] at hget
      exact h.returned i hmem cell hget
  | @start i cell c hpc hget hrunning hread hlive =>
    have hmem : i ∈ x.opening.toList ++ x.channels := by
      rw [hpc]
      exact List.mem_cons_self ..
    exact h.set_channel hget (.read hread)
      (fun hfrees => absurd (h.channels.unreleased hmem hget) hfrees) (returned_of_readStep hread)
  | @opened i cell hpc hget hreturned =>
    have hchannels := h.channels
    rw [hpc] at hchannels
    refine h.channel_places (hchannels.perm (List.perm_append_singleton _ _).symm) h.cells
      fun j hmem cell' hget' => ?_
    rcases List.mem_append.mp hmem with hold | hnew
    · exact h.returned j hold cell' hget'
    · rw [List.mem_singleton.mp hnew, hget, Option.some.injEq] at hget'
      rwa [← hget']
  | @failed i cell hpc hget hfailed hidle =>
    refine h.channel_released ?_ (List.Subset.refl _) hget hidle
    rw [hpc]
    exact .refl _
  | lose hmem hget => exact h.lose_channel hmem hget
  | @close i cell hmem hget hreader hwriter hdrained =>
    refine h.channel_released ?_ (List.erase_subset ..) hget hdrained
    exact ((List.perm_cons_erase hmem).append_left _).trans List.perm_middle

/-- The flags of the graph itself. -/
theorem Sound.set_flags (h : x.Sound) (closing : Bool) (frees : ℕ) :
    Sound { x with
      closing
      frees } where
  pool := h.pool
  marks := h.marks.shrink rfl rfl (fun _ ht => ht) fun _ _ _ _ hmarked => hmarked
  histories := h.histories.grow rfl rfl fun _ hmem => hmem
  submitting := by
    have hsubmitting := h.submitting
    change Submitting _ x.submission
    rcases hpc : x.submission with _ | ⟨m⟩ | ⟨m, i⟩ <;> rw [hpc] at hsubmitting
    · trivial
    · exact hsubmitting
    · exact hsubmitting
  nodes := h.nodes
  channels := h.channels
  cells := h.cells
  returned := h.returned

/-! ### Drained graphs -/

/-- The Channels of a drained graph have nothing in flight. -/
theorem channel_of_drained (hd : x.drained = true) {i : ℕ} {cell : ChannelCell}
    (hmem : i ∈ x.channels) (hget : x.channelCells[i]? = some cell) :
    cell.transport.inFlight = 0 := by
  have := List.all_eq_true.mp (Bool.and_eq_true_iff.mp hd).2 i hmem
  rw [hget, Option.all_some] at this
  exact beq_iff_eq.mp this

/-- Fewer Channels, and a pool with the same counts. -/
theorem drained_mono (hd : x.drained = true)
    (hpool : x'.pool.device.drained = x.pool.device.drained)
    (hchannels : ∀ i ∈ x'.channels, i ∈ x.channels ∧ ∀ cell', x'.channelCells[i]? = some cell' →
      ∃ cell, x.channelCells[i]? = some cell ∧ cell.transport = cell'.transport) :
    x'.drained = true := by
  rw [drained, hpool, (Bool.and_eq_true_iff.mp hd).1, Bool.true_and]
  refine List.all_eq_true.mpr fun i hmem => ?_
  cases hget : x'.channelCells[i]? with
  | none => rfl
  | some cell' =>
    obtain ⟨cell, hcell, heq⟩ := (hchannels i hmem).2 cell' hget
    rw [Option.all_some, ← heq, beq_iff_eq]
    exact channel_of_drained hd (hchannels i hmem).1 hcell

/-- **No completion comes to a drained graph** on which no Channel is being opened. -/
theorem Sound.not_event_of_drained (h : x.Sound) (hopening : x.opening = none)
    (hd : x.drained = true) : ¬EventStep x x' := by
  obtain ⟨hfree, hnotices⟩ := h.pool_drained (Bool.and_eq_true_iff.mp hd).1
  intro hstep
  cases hstep with
  | transfer_finished hslot hstate hfinished =>
    rw [hfree _ (List.mem_of_getElem? hslot)] at hstate
    cases hstate
  | transfer_complete hmem hnew =>
    rw [hnotices] at hmem
    cases hmem
  | leave hmem hreturned =>
    rw [hnotices] at hmem
    cases hmem
  | @channel i cell c hget hcallback =>
    have hcell := h.cells cell (List.mem_of_getElem? hget)
    refine hcell.not_callbackStep ?_ hcallback
    rcases h.channels.held_or_released hget with ⟨hheld, -⟩ | ⟨-, hfrees⟩
    · rw [hopening, Option.toList_none, List.nil_append] at hheld
      exact channel_of_drained hd (List.count_pos_iff.mp (hheld ▸ Nat.one_pos)) hget
    · exact hcell.freed (hfrees ▸ Nat.one_ne_zero)

/-- The counts of a drained pool behind the sections of a teardown. -/
theorem drained_of_quiet {op : PoolOp} {pool pool' : PoolState} (hop : QuietOp op)
    (h : PoolStep pool op pool') : pool'.device.drained = pool.device.drained := by
  cases h with
  | setReservation hfresh =>
    rcases pool.device.setReservation_cases _ _ _ with ⟨-, hd⟩ | ⟨a, -, -, -, -, -, -, hd⟩
    · exact congrArg Device.drained hd
    · exact (congrArg Device.drained hd).trans rfl
  | clearReservation address =>
    rcases pool.device.clearReservation_cases address with hd | ⟨a, r, -, -, -, hd⟩
    · exact congrArg Device.drained hd
    · exact (congrArg Device.drained hd).trans rfl
  | observe result lastError =>
    change (Device.observeControlResult ..).drained = _
    rw [Device.observeControlResult]
    split <;> rfl
  | latched =>
    change (Device.latchedError ..).2.drained = _
    rw [Device.latchedError]
    dsimp only
    split <;> rfl
  | _ => exact hop.elim

/-- **A drained graph stays drained while it is destroyed.** -/
theorem drained_destroyStep (hd : x.drained = true) (hstep : DestroyStep x x') :
    x'.drained = true := by
  cases hstep with
  | @unregister result pool hpool =>
    exact drained_mono hd (@drained_of_quiet (.observe result) _ _ trivial hpool) fun i hmem =>
      ⟨hmem, fun cell hget => ⟨cell, hget, rfl⟩⟩
  | @clear_reservation address pool hpool =>
    exact drained_mono hd (@drained_of_quiet (.clearReservation address) _ _ trivial hpool)
      fun i hmem => ⟨hmem, fun cell hget => ⟨cell, hget, rfl⟩⟩
  | node hnodes =>
    exact drained_mono hd rfl fun i hmem => ⟨hmem, fun cell hget => ⟨cell, hget, rfl⟩⟩
  | channel hnodes hchannels =>
    refine drained_mono hd rfl fun i hmem => ⟨hchannels ▸ List.mem_cons_of_mem _ hmem, ?_⟩
    intro cell' hget
    rcases getElem?_modify_cases hget with ⟨rfl, cell, hcell, rfl⟩ | ⟨-, hcell⟩
    · exact ⟨cell, hcell, rfl⟩
    · exact ⟨cell', hcell, rfl⟩

/-- **A step of the destruction of a drained graph.** -/
theorem Sound.destroyStep (h : x.Sound) (hidle : x.submission = none) (hd : x.drained = true)
    (hstep : DestroyStep x x') : x'.Sound := by
  cases hstep with
  | @unregister result pool hpool => exact @Sound.quiet _ h (.observe result) _ hidle trivial hpool
  | @clear_reservation address pool hpool =>
    exact @Sound.quiet _ h (.clearReservation address) _ hidle trivial hpool
  | node hnodes =>
    refine h.node_released ?_ hidle fun t ht =>
      absurd ht (h.not_live (Bool.and_eq_true_iff.mp hd).1 t)
    rw [hnodes]
    exact List.perm_append_singleton ..
  | @channel i rest hnodes hchannels =>
    have hmem : i ∈ x.channels := hchannels ▸ List.mem_cons_self ..
    have hget := List.getElem?_eq_getElem (h.channels.lt (List.mem_append_right _ hmem))
    refine h.channel_released ?_ (hchannels ▸ List.subset_cons_self ..) hget
      (channel_of_drained hd hmem hget)
    rw [hchannels]
    exact List.perm_middle

/-! ### Frames -/

/-- What no step but the first section of a close and the last one of a destruction changes. -/
structure Kept (x x' : Graph) : Prop where
  closing : x'.closing = x.closing
  frees : x'.frees = x.frees

theorem kept_event (h : EventStep x x') :
    Kept x x' ∧ x'.submission = x.submission ∧ x'.opening = x.opening := by
  cases h with
  | @transfer_complete notice hmem hnew =>
    rw [transferComplete]
    split <;> exact ⟨⟨rfl, rfl⟩, rfl, rfl⟩
  | _ => exact ⟨⟨rfl, rfl⟩, rfl, rfl⟩

theorem kept_nodeCall (h : NodeCall x x') : Kept x x' ∧ x'.opening = x.opening ∧
    x'.channels = x.channels ∧ x'.channelCells = x.channelCells := by
  cases h <;> exact ⟨⟨rfl, rfl⟩, rfl, rfl, rfl⟩

theorem kept_channelCall (h : ChannelCall x x') : Kept x x' ∧ x'.submission = x.submission := by
  cases h <;> exact ⟨⟨rfl, rfl⟩, rfl⟩

theorem kept_transferCall (h : TransferCall x x') :
    Kept x x' ∧ x'.submission = x.submission ∧ x'.opening = x.opening := by
  cases h <;> exact ⟨⟨rfl, rfl⟩, rfl, rfl⟩

theorem kept_cancelStep (h : CancelStep x x') :
    Kept x x' ∧ x'.submission = x.submission ∧ x'.opening = x.opening := by
  cases h <;> exact ⟨⟨rfl, rfl⟩, rfl, rfl⟩

theorem kept_destroyStep (h : DestroyStep x x') :
    Kept x x' ∧ x'.submission = x.submission ∧ x'.opening = x.opening := by
  cases h <;> exact ⟨⟨rfl, rfl⟩, rfl, rfl⟩

/-- A Channel whose threads stand where they stood. -/
theorem Quiescent.setChannel (h : x.Quiescent) {i : ℕ} {cell : ChannelCell} {c : Channel}
    (hget : x.channelCells[i]? = some cell) (hreader : c.reader = cell.transport.reader)
    (hwriter : c.writer = cell.transport.writer) : (x.setChannel i c).Quiescent := by
  intro j hmem cell' hj
  rcases getElem?_modify_cases hj with ⟨rfl, cell₀, hget₀, rfl⟩ | ⟨-, hget'⟩
  · obtain ⟨hidleReader, hidleWriter⟩ := h j hmem cell hget
    exact ⟨hreader.trans hidleReader, hwriter.trans hidleWriter⟩
  · exact h j hmem cell' hget'

/-- A completion finds the threads of the Channels where they are. -/
theorem Quiescent.event (h : x.Quiescent) (hstep : EventStep x x') : x'.Quiescent := by
  cases hstep with
  | transfer_complete hmem hnew =>
    rw [transferComplete]
    split <;> exact h
  | channel hget hcallback =>
    exact h.setChannel hget hcallback.threadsKept.reader hcallback.threadsKept.writer
  | _ => exact h

theorem Quiescent.cancelStep (h : x.Quiescent) (hstep : CancelStep x x') : x'.Quiescent := by
  cases hstep with
  | lose hmem hget => exact h.setChannel hget rfl rfl
  | _ => exact h

theorem Quiescent.destroyStep (h : x.Quiescent) (hstep : DestroyStep x x') : x'.Quiescent := by
  cases hstep with
  | channel hnodes hchannels =>
    intro j hmem cell' hj
    have hmem' := hchannels ▸ List.mem_cons_of_mem _ hmem
    rcases getElem?_modify_cases hj with ⟨rfl, cell₀, hget₀, rfl⟩ | ⟨-, hget'⟩
    · exact h j hmem' cell₀ hget₀
    · exact h j hmem' cell' hget'
  | _ => exact h

end Graph

end LibaoaHid.Teardown

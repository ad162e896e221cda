import LibaoaHid.Profiles.Mutators
import LibaoaHid.Transport.PoolRuns

/-!
# The loss of the device

A request that finds no device makes the Device lost, for good: `present` stays false and the error
stays latched. A lost Device refuses each call of its Nodes and starts no request. Before that, the
latched error is the first failure of a request 57 since it was last read.

## Main definitions

* `Device.link`: what a Node finds behind it.
* `Call.Applies`: a profile call with valid arguments, on a Node of its kind.
* `Loses`, `LatchRun`: runs with the failures since the last reading, and the loss.
* `Frozen`: a lost Device.

## Main results

* `Call.perform_gone`: a profile call behind a loss.
* `LatchRun.loss_sticky`.
-/

namespace LibaoaHid

/-! ### Profile calls behind a loss -/

/-- A profile call with valid arguments, on a live Node of its kind: what it finds wrong before it
asks for the device is excluded. -/
def Call.Applies (node : Node) : Call → Prop
  | .kbd _ down => node.spec.kind = .keyboard ∧ validBoolean down
  | .mouseMove .. | .mouseScroll .. | .mouseButton .. => node.spec.kind = .mouse
  | .toggle _ down => node.spec.kind = .toggle ∧ validBoolean down
  | .gamepadButton .. | .gamepadSetAxis .. | .dpad .. => node.spec.kind = .gamepad
  | .touch _ down _ _ _ =>
    (node.spec.kind = .touchscreen ∨ node.spec.kind = .touchpad) ∧ validBoolean down
  | .touchpadButton .. => node.spec.kind = .touchpad
  | .penUpdate _ | .penDepart => node.spec.kind = .pen
  | .batteryUpdate .. => node.spec.kind = .battery

theorem usable_gone {node : Node} {kind : ProfileKind} (hlive : node.closed = false)
    (hkind : node.spec.kind = kind) (error : ErrorInfo) (field : String) :
    ∃ reply, usable node (.gone error) kind field = some reply ∧ reply.result = .errNoDevice := by
  rw [usable, if_neg (by simp [hlive, hkind])]
  exact ⟨_, rfl, rfl⟩

theorem linkAvailable_gone (node : Node) (error : ErrorInfo) (field : String) :
    ∃ reply, linkAvailable node (.gone error) field = some reply ∧
      reply.result = .errNoDevice :=
  ⟨_, rfl, rfl⟩

/-- **A profile call behind a loss.** Idle or busy, the Node stays as it is. -/
theorem Call.perform_gone {call : Call} {node : Node} (hlive : node.closed = false)
    (happlies : call.Applies node) (error : ErrorInfo) :
    ∃ reply, reply.result = .errNoDevice ∧ call.perform (.gone error) node = (reply, node) := by
  suffices h : ∃ reply : Reply, reply.result = .errNoDevice ∧
      call.outcome node (.gone error) = .error reply by
    obtain ⟨reply, hresult, houtcome⟩ := h
    exact ⟨reply, hresult, by rw [perform, houtcome]⟩
  cases call with
  | kbd usage down =>
    obtain ⟨reply, husable, hresult⟩ := usable_gone hlive happlies.1 error "kbd"
    refine ⟨reply, hresult, ?_⟩
    rw [outcome, LibaoaHid.kbd, happlies.2, husable]
    rfl
  | mouseMove dx dy =>
    obtain ⟨reply, husable, hresult⟩ := usable_gone hlive happlies error "mouse.move"
    refine ⟨reply, hresult, ?_⟩
    rw [outcome, LibaoaHid.mouseMove, husable]
  | mouseScroll wheel pan =>
    obtain ⟨reply, husable, hresult⟩ := usable_gone hlive happlies error "mouse.scroll"
    refine ⟨reply, hresult, ?_⟩
    rw [outcome, LibaoaHid.mouseScroll, husable]
  | mouseButton button pressed =>
    obtain ⟨reply, husable, hresult⟩ := usable_gone hlive happlies error "mouse.button"
    refine ⟨reply, hresult, ?_⟩
    rw [outcome, LibaoaHid.mouseButton, husable]
  | toggle usage down =>
    obtain ⟨reply, hlink, hresult⟩ := linkAvailable_gone node error "toggle"
    refine ⟨reply, hresult, ?_⟩
    rw [outcome, LibaoaHid.toggle, happlies.2, hlink, if_neg (by decide),
      if_neg (by simp [hlive, happlies.1])]
  | gamepadButton button pressed =>
    obtain ⟨reply, husable, hresult⟩ := usable_gone hlive happlies error "gamepad.button"
    refine ⟨reply, hresult, ?_⟩
    rw [outcome, LibaoaHid.gamepadButton, husable]
  | gamepadSetAxis axisIndex value =>
    obtain ⟨reply, husable, hresult⟩ := usable_gone hlive happlies error "gamepad.axis"
    refine ⟨reply, hresult, ?_⟩
    rw [outcome, LibaoaHid.gamepadSetAxis, husable]
  | dpad up down right left =>
    obtain ⟨reply, husable, hresult⟩ := usable_gone hlive happlies error "gamepad.dpad"
    refine ⟨reply, hresult, ?_⟩
    rw [outcome, LibaoaHid.dpad, husable]
  | touch contactId down x y extra =>
    obtain ⟨reply, hlink, hresult⟩ := linkAvailable_gone node error "touch"
    refine ⟨reply, hresult, ?_⟩
    have hkind : ¬((node.spec.kind ≠ .touchscreen ∧ node.spec.kind ≠ .touchpad) ∨
        node.closed = true ∨ (!validBoolean down) = true) := by
      rw [hlive, happlies.2]
      rintro (⟨hscreen, hpad⟩ | hfalse)
      · exact happlies.1.elim hscreen hpad
      · simp at hfalse
    rw [outcome, LibaoaHid.touch, if_neg hkind, hlink]
  | touchpadButton button pressed =>
    obtain ⟨reply, husable, hresult⟩ := usable_gone hlive happlies error "touchpad.button"
    refine ⟨reply, hresult, ?_⟩
    rw [outcome, LibaoaHid.touchpadButton, husable]
  | penUpdate sample =>
    obtain ⟨reply, husable, hresult⟩ := usable_gone hlive happlies error "pen.update"
    refine ⟨reply, hresult, ?_⟩
    rw [outcome, LibaoaHid.penUpdate.eq_def, husable]
  | penDepart =>
    obtain ⟨reply, husable, hresult⟩ := usable_gone hlive happlies error "pen.depart"
    refine ⟨reply, hresult, ?_⟩
    rw [outcome, LibaoaHid.penDepart, husable]
  | batteryUpdate hasValue strength =>
    obtain ⟨reply, husable, hresult⟩ := usable_gone hlive happlies error "battery.update"
    refine ⟨reply, hresult, ?_⟩
    rw [outcome, LibaoaHid.batteryUpdate, husable]

end LibaoaHid

namespace LibaoaHid.Transport

open Libusb

/-! ### Runs with a loss -/

/-- What a Node of the Device finds behind it. -/
def Device.link (d : Device) : Link := if d.present then .present else .gone d.latched

/-- The notices that a step adds. -/
def PoolState.newNotices (s s' : PoolState) : List Notice := s'.notices.drop s.notices.length

/-- The end of a request 57 that `latch_locked` records. -/
def Device.Latches (d : Device) (notice : Notice) : Bool :=
  notice.result ≠ .ok && !(d.closing && notice.nativeStatus == transferCancelled)

/-- A step that finds no device: the answer of a control request, or the end of a request 57. -/
inductive Loses (s : PoolState) : PoolOp → PoolState → Prop
  | request {s' : PoolState} : Loses s (.observe .errNoDevice) s'
  | transfer {op : PoolOp} {s' : PoolState} {notice : Notice} (hmem : notice ∈ s.newNotices s')
      (hlatches : s.device.Latches notice) (hresult : notice.result = .errNoDevice) :
      Loses s op s'

/-- A run, with the failures since the latched error was last read and whether the device was
lost. -/
inductive LatchRun (config : DeviceConfig) (handle poolSlots : ℕ) :
    List Notice → Prop → PoolState → Prop
  | opened : LatchRun config handle poolSlots [] False { device := .opened config handle poolSlots }
  | read {failures : List Notice} {lost : Prop} {s : PoolState}
      (h : LatchRun config handle poolSlots failures lost s) :
      LatchRun config handle poolSlots [] lost { s with device := s.device.latchedError.2 }
  | step {failures : List Notice} {lost : Prop} {s s' : PoolState} {op : PoolOp}
      (h : LatchRun config handle poolSlots failures lost s) (hstep : PoolStep s op s')
      (hop : op ≠ .latchedError) :
      LatchRun config handle poolSlots (failures ++ (s.newNotices s').filter s.device.Latches)
        (lost ∨ Loses s op s') s'

/-- A run with failures is a run. -/
theorem LatchRun.run {config : DeviceConfig} {handle poolSlots : ℕ} {failures : List Notice}
    {lost : Prop} {s : PoolState} (h : LatchRun config handle poolSlots failures lost s) :
    PoolRun config handle poolSlots s := by
  induction h with
  | opened => exact .opened
  | read _ ih => exact ih.step .latched
  | step _ hstep _ ih => exact ih.step hstep

/-! ### The latch -/

/-- What a section does to `present`, `latched` and the notices. -/
inductive LatchChange (s : PoolState) : PoolOp → PoolState → Prop
  | quiet {op : PoolOp} {s' : PoolState} (hop : ∀ result, op ≠ .observe result)
      (hpresent : s'.device.present = s.device.present)
      (hlatched : s'.device.latched = s.device.latched) (hnotices : s.newNotices s' = []) :
      LatchChange s op s'
  | finished {op : PoolOp} {s' : PoolState} {slot : Slot} {notice : Notice}
      (hop : ∀ result, op ≠ .observe result)
      (hpresent : s'.device.present =
        (s.device.latch slot notice.result notice.nativeStatus).present)
      (hlatched : s'.device.latched =
        (s.device.latch slot notice.result notice.nativeStatus).latched)
      (hnotices : s.newNotices s' = [notice]) : LatchChange s op s'
  | observed (result : Result) (lastError : ErrorInfo) :
      LatchChange s (.observe result)
        { s with device := s.device.observeControlResult result lastError }

namespace Device

variable {d d' : Device} {slot : Slot} {index : ℕ}

theorem returnSlot_latch (d : Device) (index : ℕ) (slot : Slot) :
    (d.returnSlot index slot).present = d.present ∧
      (d.returnSlot index slot).latched = d.latched := by
  change (d.releaseReservation slot).present = _ ∧ (d.releaseReservation slot).latched = _
  rw [releaseReservation]
  split
  · exact ⟨rfl, rfl⟩
  · split
    · dsimp only
      split <;> exact ⟨rfl, rfl⟩
    · exact ⟨rfl, rfl⟩

theorem take_latch (d : Device) (index : ℕ) (rest : List ℕ) (hidId : ℕ) (own : Option Reservation)
    (filling : Bool) (reportLength callback : ℕ) :
    (d.take index rest hidId own filling reportLength callback).present = d.present ∧
      (d.take index rest hidId own filling reportLength callback).latched = d.latched := by
  rw [take.eq_def]
  cases own with
  | none => exact ⟨rfl, rfl⟩
  | some r =>
    dsimp only
    split <;> exact ⟨rfl, rfl⟩

/-- The end of a transfer latches its result. -/
theorem finish_latch {result : Result} {nativeStatus : ℤ} {notice : Option Notice}
    (h : d.finish index slot result nativeStatus = (notice, d')) :
    d'.present = (d.latch slot result nativeStatus).present ∧
      d'.latched = (d.latch slot result nativeStatus).latched := by
  obtain ⟨-, rfl⟩ := Prod.mk.inj h
  obtain ⟨hpresent, hlatched⟩ := ({ d with
    callbacksActive :=
      if (slot.callback.map fun callback => (⟨callback, result, nativeStatus⟩ : Notice)).isSome
      then d.callbacksActive + 1 else d.callbacksActive }.latch slot result
        nativeStatus).returnSlot_latch index slot
  refine ⟨hpresent.trans ?_, hlatched.trans ?_⟩ <;>
  · rw [latch, latch]
    dsimp only
    split_ifs <;> rfl

end Device

variable {s s' : PoolState} {op : PoolOp}

/-- The end of a transfer of a sound pool has a notice. -/
theorem LatchChange.of_finish (hsound : PoolSound s.device) {index : ℕ} {slot slot' : Slot}
    (hslot : s.device.slots[index]? = some slot) (hstate : slot.state ≠ .free)
    (hcallback : slot'.callback = slot.callback) {result : Result} {nativeStatus : ℤ}
    {notice : Option Notice} {d : Device} (hop : ∀ result, op ≠ .observe result)
    (hfinish : s.device.finish index slot' result nativeStatus = (notice, d)) :
    LatchChange s op { s with device := d, notices := s.notices ++ notice.toList } := by
  obtain ⟨hnotice, -⟩ := Device.finish_cases hfinish
  obtain ⟨hpresent, hlatched⟩ := Device.finish_latch hfinish
  obtain ⟨ticket, hticket⟩ := Option.isSome_iff_exists.mp
    ((hsound.slots slot (List.mem_of_getElem? hslot)).busy hstate)
  rw [hcallback, hticket, Option.map_some] at hnotice
  subst hnotice
  exact .finished hop hpresent hlatched List.drop_left

/-- **What the sections do to the latch.** -/
theorem PoolStep.latchChange (h : PoolStep s op s') (hsound : PoolSound s.device)
    (hop : op ≠ .latchedError) : LatchChange s op s' := by
  cases h with
  | @setReservation hidId count address hfresh =>
    rcases s.device.setReservation_cases hidId count address with ⟨-, hd⟩ |
      ⟨a, -, -, -, -, -, -, hd⟩
    · rw [hd]
      exact .quiet (by rintro _ ⟨⟩) rfl rfl List.drop_length
    · rw [hd]
      exact .quiet (by rintro _ ⟨⟩) rfl rfl List.drop_length
  | clearReservation address =>
    rcases s.device.clearReservation_cases address with hd | ⟨a, r, -, -, -, hd⟩
    · rw [hd]
      exact .quiet (by rintro _ ⟨⟩) rfl rfl List.drop_length
    · rw [hd]
      exact .quiet (by rintro _ ⟨⟩) rfl rfl List.drop_length
  | acquire h =>
    rcases Device.acquire_cases h with ⟨rfl, rfl⟩ |
      ⟨index, rest, own, filling, rfl, -, -, -, -, -, -, rfl⟩
    · exact .quiet (by rintro _ ⟨⟩) rfl rfl List.drop_length
    · obtain ⟨hpresent, hlatched⟩ := s.device.take_latch index rest _ own filling _
        s.tickets.length
      exact .quiet (by rintro _ ⟨⟩) hpresent hlatched List.drop_length
  | submit h =>
    rcases Device.submit_cases h with ⟨rfl, rfl⟩ | ⟨slot, hslot, hstate, ⟨-, rfl, rfl⟩ |
      ⟨result, nativeStatus, hfinish⟩⟩
    · exact .quiet (by rintro _ ⟨⟩) rfl rfl List.drop_left
    · exact .quiet (by rintro _ ⟨⟩) rfl rfl List.drop_left
    · refine .of_finish hsound hslot (by rw [hstate]; rintro ⟨⟩) ?_ (by rintro _ ⟨⟩) hfinish
      rfl
  | abandon index =>
    rw [Device.abandon]
    split
    · exact .quiet (by rintro _ ⟨⟩) rfl rfl List.drop_length
    · split
      · exact .quiet (by rintro _ ⟨⟩) rfl rfl List.drop_length
      · obtain ⟨hpresent, hlatched⟩ := s.device.returnSlot_latch index _
        exact .quiet (by rintro _ ⟨⟩) hpresent hlatched List.drop_length
  | transferFinished h =>
    rcases Device.transferFinished_cases h with ⟨rfl, rfl⟩ |
      ⟨slot, result, nativeStatus, hslot, hstate, hfinish⟩
    · exact .quiet (by rintro _ ⟨⟩) rfl rfl List.drop_left
    · exact .of_finish hsound hslot (by rw [hstate]; rintro ⟨⟩) rfl (by rintro _ ⟨⟩) hfinish
  | @deliver notice hmem =>
    refine .quiet (by rintro _ ⟨⟩) rfl rfl (List.drop_eq_nil_of_le ?_)
    exact List.length_erase_le
  | begin_cancel => exact .quiet (by rintro _ ⟨⟩) rfl rfl List.drop_length
  | cancel h =>
    rcases Device.cancelSlot_cases h with ⟨rfl, rfl⟩ |
      ⟨slot, result, nativeStatus, hslot, hstate, hfinish⟩
    · exact .quiet (by rintro _ ⟨⟩) rfl rfl List.drop_left
    · exact .of_finish hsound hslot (by rw [hstate]; rintro ⟨⟩) rfl (by rintro _ ⟨⟩) hfinish
  | observe result lastError => exact .observed result lastError
  | latched => exact absurd rfl hop

/-! ### Losses and failures -/

/-- A Device that has lost its device. -/
def Device.Gone (d : Device) : Prop := d.present = false ∧ d.latched.result = .errNoDevice

/-- The error of the first failure, if there is one. -/
def FirstFailure (failures : List Notice) (error : ErrorInfo) : Prop :=
  match failures with
  | [] => error.result = .ok
  | notice :: _ =>
    error.result = notice.result ∧ error.nativeStatus = notice.nativeStatus ∧ error.aoaRequest = 57

theorem FirstFailure.ne_errNoDevice {failures : List Notice} {error : ErrorInfo}
    (h : FirstFailure failures error) (hfound : ∀ notice ∈ failures, notice.result ≠ .errNoDevice) :
    error.result ≠ .errNoDevice := by
  cases failures with
  | nil =>
    have hnone : error.result = .ok := h
    rw [hnone]
    nofun
  | cons first rest =>
    rw [h.1]
    exact hfound first List.mem_cons_self

theorem Device.latch_of_not_latches {d : Device} {notice : Notice} (h : d.Latches notice = false)
    (slot : Slot) : d.latch slot notice.result notice.nativeStatus = d := by
  refine if_pos ?_
  by_cases hok : notice.result = .ok
  · exact .inl hok
  · exact .inr (by simpa [Latches, hok] using h)

theorem Device.latch_of_latches {d : Device} {notice : Notice} (h : d.Latches notice = true)
    (slot : Slot) : ∃ error : ErrorInfo, FirstFailure [notice] error ∧
      d.latch slot notice.result notice.nativeStatus =
        if notice.result = .errNoDevice then { d with present := false, latched := error }
        else if d.latched.result = .ok then { d with latched := error }
        else d := by
  refine ⟨_, ⟨rfl, rfl, rfl⟩, if_neg ?_⟩
  rintro (hok | hcancelled)
  · simp [Latches, hok] at h
  · simp [Latches, hcancelled] at h

/-- **A loss stays.** -/
theorem LatchChange.gone (hchange : LatchChange s op s')
    (h : s.device.Gone ∨ Loses s op s') : s'.device.Gone := by
  cases hchange with
  | quiet hop hpresent hlatched hnotices =>
    rcases h with ⟨hgone, hresult⟩ | h
    · exact ⟨hpresent.trans hgone, hlatched ▸ hresult⟩
    · cases h with
      | request => exact absurd rfl (hop _)
      | transfer hmem =>
        rw [hnotices] at hmem
        cases hmem
  | @finished _ _ slot notice hop hpresent hlatched hnotices =>
    rw [Device.Gone, hpresent, hlatched]
    rcases h with ⟨hgone, hresult⟩ | h
    · cases hlatches : s.device.Latches notice with
      | false =>
        rw [Device.latch_of_not_latches hlatches]
        exact ⟨hgone, hresult⟩
      | true =>
        obtain ⟨error, ⟨herror, -⟩, heq⟩ := Device.latch_of_latches hlatches slot
        rw [heq]
        split_ifs with hlost hok
        · exact ⟨rfl, herror.trans hlost⟩
        · rw [hresult] at hok
          cases hok
        · exact ⟨hgone, hresult⟩
    · cases h with
      | request => exact absurd rfl (hop _)
      | transfer hmem hlatches hlost =>
        rw [hnotices, List.mem_singleton] at hmem
        subst hmem
        obtain ⟨error, ⟨herror, -⟩, heq⟩ := Device.latch_of_latches hlatches slot
        rw [heq, if_pos hlost]
        exact ⟨rfl, herror.trans hlost⟩
  | observed result lastError =>
    rw [Device.Gone, Device.observeControlResult]
    split
    · rename_i hresult
      rcases h with hgone | h
      · exact hgone
      · cases h with
        | request => exact absurd rfl hresult
        | transfer hmem =>
          rw [PoolState.newNotices, List.drop_length] at hmem
          cases hmem
    · refine ⟨rfl, ?_⟩
      dsimp only
      split
      · rfl
      · rename_i hlast
        exact not_not.mp hlast

/-- **The first failure stays latched.** -/
theorem LatchChange.firstFailure (hchange : LatchChange s op s') {failures : List Notice}
    (hpresent : s.device.present = true) (hfirst : FirstFailure failures s.device.latched)
    (hok : ∀ notice ∈ failures, notice.result ≠ .ok) (hlost : ¬Loses s op s') :
    s'.device.present = true ∧
      FirstFailure (failures ++ (s.newNotices s').filter s.device.Latches) s'.device.latched := by
  cases hchange with
  | quiet _ hpresent' hlatched hnotices =>
    rw [hpresent', hlatched, hnotices, List.filter_nil, List.append_nil]
    exact ⟨hpresent, hfirst⟩
  | @finished _ _ slot notice _ hpresent' hlatched hnotices =>
    rw [hpresent', hlatched, hnotices]
    cases hlatches : s.device.Latches notice with
    | false =>
      rw [Device.latch_of_not_latches hlatches, List.filter_cons_of_neg (by simp [hlatches]),
        List.filter_nil, List.append_nil]
      exact ⟨hpresent, hfirst⟩
    | true =>
      obtain ⟨error, herror, heq⟩ := Device.latch_of_latches hlatches slot
      have hresult : notice.result ≠ .errNoDevice := fun hresult =>
        hlost (.transfer (hnotices ▸ List.mem_cons_self) hlatches hresult)
      rw [heq, if_neg hresult, List.filter_cons_of_pos hlatches, List.filter_nil]
      cases failures with
      | nil =>
        have hnone : s.device.latched.result = .ok := hfirst
        rw [if_pos hnone]
        exact ⟨hpresent, herror⟩
      | cons first rest =>
        rw [if_neg (hfirst.1 ▸ hok first List.mem_cons_self)]
        exact ⟨hpresent, hfirst⟩
  | observed result lastError =>
    have hfound : result ≠ .errNoDevice := fun hresult => hlost (hresult ▸ .request)
    rw [Device.observeControlResult, if_pos hfound, PoolState.newNotices, List.drop_length,
      List.filter_nil, List.append_nil]
    exact ⟨hpresent, hfirst⟩

/-! ### A lost Device -/

/-- **A lost Device.** The loss stays latched, each profile call of its Nodes is refused without a
change, and no request is started: no slot is handed to libusb, and no registration sends. -/
structure Frozen (s : PoolState) : Prop where
  present : s.device.present = false
  latched : s.device.latchedError.1.result = .errNoDevice
  calls : ∀ (call : Call) (node : Node), node.closed = false → call.Applies node →
    ∃ reply, reply.result = .errNoDevice ∧ call.perform s.device.link node = (reply, node)
  acquire : ∀ hidId token reportLength callback,
    (s.device.acquire hidId token reportLength callback).1.result ≠ .ok
  handed : ∀ op s', PoolStep s op s' → ∀ (i : ℕ) (slot : Slot), s'.device.slots[i]? = some slot →
    slot.state = .submitted → s.device.slots[i]? = some slot
  register : ∀ hidId descriptor bus, (s.device.registerHid hidId descriptor bus).1 ≠ .ok ∧
    (s.device.registerHid hidId descriptor bus).2.2.sent = bus.sent
  unregister : ∀ hidId bus, (s.device.unregisterHid hidId bus).2.2.sent = bus.sent

/-- Without its device, a Device hands no slot to libusb. -/
theorem PoolChange.handed (hchange : PoolChange s op s') (hgone : s.device.present = false) {i : ℕ}
    {slot : Slot} (hget : s'.device.slots[i]? = some slot) (hstate : slot.state = .submitted) :
    s.device.slots[i]? = some slot := by
  have hset : ∀ {index : ℕ} {old new : Slot}, s.device.slots[index]? = some old →
      (s.device.slots.set index new)[i]? = some slot → new.state ≠ .submitted →
      s.device.slots[i]? = some slot := by
    intro index old new hold hget hnew
    rcases getElem?_set_cases hold hget with ⟨-, rfl⟩ | ⟨-, hkept⟩
    · exact absurd hstate hnew
    · exact hkept
  cases hchange with
  | quiet hsame => rwa [hsame.slots] at hget
  | handedOver _ _ _ hpresent =>
    rw [hgone] at hpresent
    cases hpresent
  | @finished _ index _ slot' _ _ hslot _ _ _ _ _ _ hfinish =>
    obtain ⟨-, d₀, hsame, -, rfl⟩ := Device.finish_cases hfinish
    rw [(d₀.returnSlot_frame index slot').1, hsame.slots] at hget
    exact hset hslot hget nofun
  | @abandoned _ index old hslot _ =>
    rw [(s.device.returnSlot_frame index old).1] at hget
    exact hset hslot hget nofun
  | @taken _ index rest own filling hidId reportLength hstack _ _ _ =>
    rw [(s.device.take_frame index rest hidId own filling reportLength s.tickets.length).1] at hget
    cases hold : s.device.slots[index]? with
    | none =>
      rw [List.set_eq_of_length_le (List.getElem?_eq_none_iff.mp hold)] at hget
      exact hget
    | some old => exact hset hold hget nofun
  | delivered => exact hget
  | reserved => exact hget
  | cleared => exact hget

/-- **A lost Device is frozen.** -/
theorem Device.Gone.frozen (h : s.device.Gone) : Frozen s := by
  obtain ⟨hpresent, hlatched⟩ := h
  constructor
  case present => exact hpresent
  case latched => exact hlatched
  case calls =>
    intro call node hlive happlies
    have hlink : s.device.link = .gone s.device.latched := by
      rw [Device.link, hpresent]
      rfl
    rw [hlink]
    exact Call.perform_gone hlive happlies s.device.latched
  case acquire =>
    intro hidId token reportLength callback
    rw [Device.acquire.eq_def]
    cases callback with
    | none =>
      dsimp only [refuse]
      split <;> rintro ⟨⟩
    | some callback =>
      dsimp only
      split
      · dsimp only [refuse]
        split <;> rintro ⟨⟩
      · split
        · rintro ⟨⟩
        · rw [hpresent]
          rintro ⟨⟩
  case handed => exact fun op s' hstep i slot hget => hstep.change.handed hpresent hget
  case register =>
    intro hidId descriptor bus
    rw [Device.registerHid]
    dsimp only
    split
    · refine ⟨?_, rfl⟩
      dsimp only
      split <;> rintro ⟨⟩
    · rw [hpresent]
      exact ⟨(by rintro ⟨⟩), rfl⟩
  case unregister =>
    intro hidId bus
    rw [Device.unregisterHid]
    split
    · rfl
    · rw [hpresent]
      rfl

/-! ### Runs -/

/-- A run keeps what the latch says. -/
theorem LatchRun.latch {config : DeviceConfig} {handle poolSlots : ℕ} {failures : List Notice}
    {lost : Prop} (h : LatchRun config handle poolSlots failures lost s) (hpos : 0 < poolSlots) :
    (lost → s.device.Gone) ∧
      (¬lost → s.device.present = true ∧ FirstFailure failures s.device.latched ∧
        ∀ notice ∈ failures, notice.result ≠ .errNoDevice) ∧
      ∀ notice ∈ failures, notice.result ≠ .ok := by
  induction h with
  | opened => exact ⟨False.elim, fun _ => ⟨rfl, rfl, nofun⟩, nofun⟩
  | @read failures lost s h ih =>
    obtain ⟨hgone, hkept, -⟩ := ih
    refine ⟨fun hlost => ?_, fun hlost => ?_, nofun⟩
    · obtain ⟨hpresent, hlatched⟩ := hgone hlost
      rw [Device.latchedError, if_neg (not_not.mpr hlatched)]
      exact ⟨hpresent, hlatched⟩
    · obtain ⟨hpresent, hfirst, hfound⟩ := hkept hlost
      rw [Device.latchedError, if_pos (hfirst.ne_errNoDevice hfound)]
      exact ⟨hpresent, rfl, nofun⟩
  | @step failures lost s s' op h hstep hop ih =>
    obtain ⟨hgone, hkept, hok⟩ := ih
    have hchange := hstep.latchChange (h.run.sound hpos).1 hop
    refine ⟨fun hlost => hchange.gone (hlost.imp_left hgone), fun hlost => ?_,
      fun notice hmem => ?_⟩
    · obtain ⟨hnot, hloses⟩ := not_or.mp hlost
      obtain ⟨hpresent, hfirst, hfound⟩ := hkept hnot
      obtain ⟨hpresent', hfirst'⟩ := hchange.firstFailure hpresent hfirst hok hloses
      refine ⟨hpresent', hfirst', fun notice hmem hresult => ?_⟩
      rcases List.mem_append.mp hmem with hmem | hmem
      · exact hfound notice hmem hresult
      · obtain ⟨hnew, hlatches⟩ := List.mem_filter.mp hmem
        exact hloses (.transfer hnew hlatches hresult)
    · rcases List.mem_append.mp hmem with hmem | hmem
      · exact hok notice hmem
      · have hlatches := (List.mem_filter.mp hmem).2
        rw [Device.Latches, Bool.and_eq_true, decide_eq_true_iff] at hlatches
        exact hlatches.1

/-- **The loss of the device is sticky.** In every state behind a loss the Device is frozen; before
it, the latched error is the first failure of a request 57 since the last reading, and reading it
clears it. -/
theorem LatchRun.loss_sticky {config : DeviceConfig} {handle poolSlots : ℕ}
    {failures : List Notice} {lost : Prop} (h : LatchRun config handle poolSlots failures lost s)
    (hpos : 0 < poolSlots) :
    (lost → Frozen s) ∧
      (¬lost → s.device.present = true ∧ FirstFailure failures s.device.latchedError.1 ∧
        s.device.latchedError.2.latchedError.1.result = .ok) := by
  obtain ⟨hgone, hkept, -⟩ := h.latch hpos
  refine ⟨fun hlost => (hgone hlost).frozen, fun hlost => ?_⟩
  obtain ⟨hpresent, hfirst, hfound⟩ := hkept hlost
  have hread : s.device.latchedError.2 = { s.device with latched := {} } :=
    if_pos (hfirst.ne_errNoDevice hfound)
  refine ⟨hpresent, hfirst, ?_⟩
  rw [hread]
  rfl

/-- A request 54 that times out is a failure of a control request, which is not latched. -/
theorem exists_registerHid_not_latched :
    ∃ device bus, (Device.opened Device.sampleConfig 0 1).registerHid 7 [0x05, 0x01, 0xC0]
        { answers := fun n => if n = 0 then ⟨errorTimeout, []⟩ else ⟨0, []⟩ } =
        (.errTimeout, device, bus) ∧
      device.latchedError.1.result = .ok :=
  ⟨_, _, rfl, rfl⟩

/-- A report that libusb rejects because the device is gone. -/
theorem LatchRun.loss_sticky_rejected :
    ∃ s : PoolState, s.device.latched.aoaRequest = 57 ∧ Frozen s := by
  have hacquired := (@LatchRun.opened Device.sampleConfig 0 1).step
    (@PoolStep.acquire _ 1 4 none _ _ _ rfl) nofun
  have hrejected := hacquired.step (@PoolStep.submit _ 0 4 0 errorNoDevice _ _ _ rfl) nofun
  exact ⟨_, rfl, (LatchRun.loss_sticky hrejected Nat.zero_lt_one).1
    (.inr (.transfer List.mem_cons_self rfl rfl))⟩

end LibaoaHid.Transport

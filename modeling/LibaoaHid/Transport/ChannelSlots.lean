import LibaoaHid.Transport.Channel
import Mathlib.Data.List.Nodup
import Mathlib.Data.List.Perm.Subperm

/-!
# The slots of a Channel

Where the transfers of a Channel are: with libusb, in the hands of its callback, in a ring, current
or spare, or in the hands of a thread. An IN slot is in at most one of these places and idle
otherwise; an OUT slot is always in exactly one.

The places are counted, so that each step is an equation between the counts before and behind it.

## Main definitions

* `Channel.inPlaces`, `Channel.outPlaces`: how often a slot occurs in all places.
* `InSound`, `OutSound`, `FlightSound`: the invariants of the IN slots, of the OUT slots, and of
  `in_flight`.
* `SlotsConserved`: what holds in every state of every run.

## Main results

* `ChannelRun.slots_conserved`.
-/

namespace LibaoaHid.Transport

/-! ### Places -/

/-- The IN slot in the hands of a callback. -/
def CallbackPc.inSlot : CallbackPc → List ℕ
  | .pushIn slot => [slot]
  | _ => []

/-- The OUT slot in the hands of a callback. -/
def CallbackPc.outSlot : CallbackPc → List ℕ
  | .storeError slot _ _ => [slot]
  | .storeLost slot => [slot]
  | .pushOut slot => [slot]
  | _ => []

/-- A callback that has not finished. -/
def CallbackPc.active : CallbackPc → ℕ
  | .none => 0
  | _ => 1

/-- The slot that the reader is about to submit. -/
def ReaderPc.holds : ReaderPc → List ℕ
  | .submitting slot _ _ => [slot]
  | .counted slot _ _ => [slot]
  | _ => []

/-- A submit of the reader that is counted and not handed to libusb. -/
def ReaderPc.counting : ReaderPc → ℕ
  | .counted _ _ _ => 1
  | _ => 0

/-- The slot of the running write. -/
def WriterPc.holds : WriterPc → List ℕ
  | .held _ _ _ slot => [slot]
  | .counted _ _ _ slot => [slot]
  | _ => []

/-- The writer looks for a slot, or has one. -/
def WriterPc.Takes : WriterPc → Prop
  | .popping _ _ _ => True
  | .empty _ _ _ => True
  | .held _ _ _ _ => True
  | .counted _ _ _ _ => True
  | _ => False

/-- A submit of the writer that is counted and not handed to libusb. -/
def WriterPc.counting : WriterPc → ℕ
  | .counted _ _ _ _ => 1
  | _ => 0

namespace Channel

/-- How often an IN slot is in flight, in the ring, current, or with the reader. -/
def inPlaces (c : Channel) (ready : List ℕ) (slot : ℕ) : ℕ :=
  c.inQueue.count slot + c.callback.inSlot.count slot + ready.count slot +
    c.current.toList.count slot + c.reader.holds.count slot

/-- How often an OUT slot is in flight, in the ring, spare, or with the writer. -/
def outPlaces (c : Channel) (free : List ℕ) (slot : ℕ) : ℕ :=
  (c.outQueue.map Prod.fst).count slot + c.callback.outSlot.count slot + free.count slot +
    c.spare.toList.count slot + c.writer.holds.count slot

end Channel

/-- What the reader relies on when it takes a slot that is idle. -/
def AfterSubmit.Sound (c : Channel) (ready : List ℕ) (slot : ℕ) : AfterSubmit → Prop
  | .opening n => c.config.requestReads = false ∧ slot = n ∧ ∀ s, n < s → c.inPlaces ready s = 0
  | .requested _ => c.config.requestReads = true ∧ c.requestPending = false ∧ c.current = none
  | .copied _ => c.config.requestReads = false
  | .skipped _ => c.config.requestReads = false

/-- The place of the reader agrees with the slots. -/
def ReaderPc.Sound (c : Channel) (ready : List ℕ) : ReaderPc → Prop
  | .opening n => ∀ s, n ≤ s → c.inPlaces ready s = 0
  | .submitting slot _ after => after.Sound c ready slot
  | .counted slot _ after => after.Sound c ready slot
  | .rejected result _ => result ≠ .ok
  | .popping _ => c.current = none
  | _ => True

/-- **IN slots.** `ready` is what the ring holds. In request mode the slot is idle or current unless
a read is pending. -/
structure InSound (c : Channel) (ready : List ℕ) : Prop where
  ring : c.readyIn.Represents ready
  room : c.config.inCount ≤ c.readyIn.slots.length
  order : c.inPushed = c.inPopped ++ ready
  places : ∀ s, c.inPlaces ready s ≤ if s < c.config.inCount then 1 else 0
  pending : c.config.requestReads = true → c.requestPending = false →
    c.inQueue = [] ∧ c.callback.inSlot = [] ∧ ready = []
  reader : c.reader.Sound c ready

/-- **OUT slots.** `free` is what the ring holds. -/
structure OutSound (c : Channel) (free : List ℕ) : Prop where
  ring : c.freeOut.Represents free
  room : c.config.outTransfers ≤ c.freeOut.slots.length
  order : c.outPushed = c.outPopped ++ free
  places : ∀ s, c.outPlaces free s = if s < c.config.outTransfers then 1 else 0
  noSpare : c.writer.Takes → c.spare = none

/-- **`in_flight`.** It counts the transfers with libusb, the callback that runs, and the submits
that are under way. -/
def FlightSound (c : Channel) : Prop :=
  c.inFlight = c.inQueue.length + c.outQueue.length + c.callback.active + c.reader.counting +
    c.writer.counting

/-! ### Counting -/

/-- The slots of a list that has none of them twice are at most as many as there are slots. -/
theorem length_le_of_count_le {slots : List ℕ} {n : ℕ}
    (h : ∀ s, slots.count s ≤ if s < n then 1 else 0) : slots.length ≤ n := by
  have hnodup : slots.Nodup := by
    rw [List.nodup_iff_count_le_one]
    intro s
    have := h s
    split at this <;> omega
  have hsubset : slots ⊆ List.range n := by
    intro s hmem
    have hcount := List.count_pos_iff.mpr hmem
    have := h s
    rw [List.mem_range]
    split at this
    · assumption
    · omega
  simpa using (hnodup.subperm hsubset).length_le

/-- One member of a list less. -/
theorem count_erase_add {slots : List ℕ} {slot : ℕ} (h : slot ∈ slots) (s : ℕ) :
    (slots.erase slot).count s + [slot].count s = slots.count s := by
  have hperm := List.perm_cons_erase h
  simp only [hperm.count_eq s, List.count_cons, List.count_nil, Nat.zero_add]

/-- One transfer of a queue less. -/
theorem count_map_erase_add {queue : List (ℕ × List UInt8)} {slot : ℕ} {payload : List UInt8}
    (h : (slot, payload) ∈ queue) (s : ℕ) :
    ((queue.erase (slot, payload)).map Prod.fst).count s + [slot].count s =
      (queue.map Prod.fst).count s := by
  have hperm := (List.perm_cons_erase h).map Prod.fst
  simp only [hperm.count_eq s, List.map_cons, List.count_cons, List.count_nil, Nat.zero_add]

/-! ### The IN slots -/

/-- The part of a Channel that the invariant of the IN slots reads. -/
structure SameIn (c c' : Channel) : Prop where
  config : c'.config = c.config
  reader : c'.reader = c.reader
  callback : c'.callback.inSlot = c.callback.inSlot
  current : c'.current = c.current
  requestPending : c'.requestPending = c.requestPending
  readyIn : c'.readyIn = c.readyIn
  inQueue : c'.inQueue = c.inQueue
  inPushed : c'.inPushed = c.inPushed
  inPopped : c'.inPopped = c.inPopped

theorem ReaderKept.sameIn {c c' : Channel} (h : ReaderKept c c') : SameIn c c' where
  config := h.config
  reader := h.reader
  callback := by rw [h.callback]
  current := h.current
  requestPending := h.requestPending
  readyIn := h.readyIn
  inQueue := h.inQueue
  inPushed := h.inPushed
  inPopped := h.inPopped

/-- The place of the reader agrees with slots that are in as many places. -/
theorem ReaderPc.Sound.congr {c c' : Channel} {ready ready' : List ℕ} {pc : ReaderPc}
    (h : pc.Sound c ready) (hconfig : c'.config = c.config)
    (hpending : c'.requestPending = c.requestPending) (hcurrent : c'.current = c.current)
    (hplaces : ∀ s, c'.inPlaces ready' s = c.inPlaces ready s) : pc.Sound c' ready' := by
  have hafter : ∀ (slot : ℕ) (after : AfterSubmit),
      after.Sound c ready slot → after.Sound c' ready' slot := by
    intro slot after hafter
    cases after with
    | opening => simpa only [AfterSubmit.Sound, hconfig, hplaces] using hafter
    | requested => simpa only [AfterSubmit.Sound, hconfig, hpending, hcurrent] using hafter
    | copied => simpa only [AfterSubmit.Sound, hconfig] using hafter
    | skipped => simpa only [AfterSubmit.Sound, hconfig] using hafter
  cases pc with
  | opening n => simpa only [ReaderPc.Sound, hplaces] using h
  | submitting => exact hafter _ _ h
  | counted => exact hafter _ _ h
  | rejected => exact h
  | popping => exact hcurrent.trans h
  | _ => trivial

namespace InSound

variable {c c' : Channel} {ready : List ℕ} {slot : ℕ}

/-- Steps that leave the IN side alone. -/
theorem congr (h : InSound c ready) (hsame : SameIn c c') : InSound c' ready := by
  have hplaces : ∀ s, c'.inPlaces ready s = c.inPlaces ready s := by
    intro s
    simp only [Channel.inPlaces, hsame.inQueue, hsame.callback, hsame.current, hsame.reader]
  constructor
  case ring => rw [hsame.readyIn]; exact h.ring
  case room => rw [hsame.readyIn, hsame.config]; exact h.room
  case order => rw [hsame.inPushed, hsame.inPopped]; exact h.order
  case places => intro s; rw [hplaces, hsame.config]; exact h.places s
  case pending =>
    rw [hsame.config, hsame.requestPending, hsame.inQueue, hsame.callback]
    exact h.pending
  case reader =>
    rw [hsame.reader]
    exact h.reader.congr hsame.config hsame.requestPending hsame.current hplaces

/-- A reader that goes somewhere without a slot. -/
theorem goto (h : InSound c ready) {pc : ReaderPc} (hholds : pc.holds = [])
    (hsound : pc.Sound { c with reader := pc } ready) :
    InSound { c with reader := pc } ready := by
  have hle : ∀ s, Channel.inPlaces { c with reader := pc } ready s ≤ c.inPlaces ready s := by
    intro s
    simp only [Channel.inPlaces, hholds, List.count_nil]
    omega
  exact ⟨h.ring, h.room, h.order, fun s => (hle s).trans (h.places s), h.pending, hsound⟩

/-- A reader that takes a slot which is idle. -/
theorem hold (h : InSound c ready) {slot length : ℕ} {after : AfterSubmit}
    (hholds : c.reader.holds = []) (hidle : c.inPlaces ready slot = 0)
    (hlt : slot < c.config.inCount)
    (hafter : after.Sound { c with reader := .submitting slot length after } ready slot) :
    InSound { c with reader := .submitting slot length after } ready := by
  refine ⟨h.ring, h.room, h.order, fun s => ?_, h.pending, hafter⟩
  have hplaces := h.places s
  simp only [Channel.inPlaces, hholds, List.count_nil] at hidle hplaces
  simp only [Channel.inPlaces, ReaderPc.holds, List.count_cons, List.count_nil, beq_iff_eq]
  by_cases hs : slot = s
  · subst hs
    rw [if_pos rfl, if_pos hlt]
    omega
  · rw [if_neg hs]
    exact hplaces

/-- The continuation behind a submit that failed; the slot is idle. -/
theorem afterSubmit_failed (h : InSound c ready) {result : Result} (hresult : result ≠ .ok)
    (after : AfterSubmit) : InSound (c.afterSubmit result after) ready := by
  cases after with
  | opening slot =>
    rw [Channel.afterSubmit, if_neg hresult]
    exact h.goto rfl trivial
  | copied bytes => exact (@goto _ _ h .idle rfl trivial).congr (by constructor <;> rfl)
  | requested capacity =>
    rw [Channel.afterSubmit, if_neg hresult]
    exact (@goto _ _ h .idle rfl trivial).congr (by constructor <;> rfl)
  | skipped capacity => exact h.goto rfl trivial

/-- The continuation behind a submit that libusb accepted. -/
theorem accepted (h : InSound c ready) {slot length : ℕ} {after : AfterSubmit}
    (hpc : c.reader = .counted slot length after) (inSubmitted : List ℕ)
    (inSlots : ℕ → InTransfer) :
    InSound (Channel.afterSubmit { c with
      inQueue := c.inQueue ++ [slot]
      inSubmitted
      inSlots } .ok after) ready := by
  have hsound := h.reader
  rw [hpc] at hsound
  have hmoved : ∀ {pc : ReaderPc}, pc.holds = [] → ∀ s,
      (c.inQueue ++ [slot]).count s + c.callback.inSlot.count s + ready.count s +
        c.current.toList.count s + pc.holds.count s = c.inPlaces ready s := by
    intro pc hholds s
    have hreader : c.reader.holds = [slot] := by rw [hpc]; rfl
    simp only [Channel.inPlaces, hreader, hholds, List.count_append, List.count_nil]
    omega
  have hplaces : ∀ {pc : ReaderPc}, pc.holds = [] → ∀ s,
      (c.inQueue ++ [slot]).count s + c.callback.inSlot.count s + ready.count s +
        c.current.toList.count s + pc.holds.count s ≤ if s < c.config.inCount then 1 else 0 :=
    fun hholds s => (hmoved hholds s).trans_le (h.places s)
  cases after with
  | opening n =>
    obtain ⟨hstream, rfl, hlater⟩ := hsound
    refine ⟨h.ring, h.room, h.order, hplaces rfl, fun hrequest => ?_, ?_⟩
    · exact absurd (hstream.symm.trans hrequest) Bool.false_ne_true
    · intro s hs
      exact (hmoved rfl s).trans (hlater s hs)
  | copied bytes =>
    refine ⟨h.ring, h.room, h.order, hplaces rfl, fun hrequest => ?_, trivial⟩
    exact absurd (hsound.symm.trans hrequest) Bool.false_ne_true
  | requested capacity =>
    exact ⟨h.ring, h.room, h.order, hplaces rfl, fun _ hpending => absurd hpending nofun,
      hsound.2.2⟩
  | skipped capacity =>
    refine ⟨h.ring, h.room, h.order, hplaces rfl, fun hrequest => ?_, trivial⟩
    exact absurd (hsound.symm.trans hrequest) Bool.false_ne_true

/-- The continuation behind a pop: the slot is current, or with the reader, or idle. -/
theorem afterPop (h : InSound c (slot :: ready)) {capacity : ℕ} {ring : IndexRing ℕ}
    (hholds : c.reader.holds = []) (hcurrent : c.current = none)
    (hring : ring.Represents ready) (hroom : c.config.inCount ≤ ring.slots.length) :
    InSound (Channel.afterPop { c with
      readyIn := ring
      inPopped := c.inPopped ++ [slot] } slot capacity) ready := by
  have horder : c.inPushed = c.inPopped ++ [slot] ++ ready := by
    rw [h.order, List.append_assoc, List.singleton_append]
  have hmoved : ∀ s, c.inQueue.count s + c.callback.inSlot.count s + ready.count s +
      [slot].count s = c.inPlaces (slot :: ready) s := by
    intro s
    simp only [Channel.inPlaces, hholds, hcurrent, Option.toList_none, List.count_cons,
      List.count_nil]
    omega
  have hpending : c.config.requestReads = true → c.inQueue = [] ∧ c.callback.inSlot = [] ∧
      ready = [] := by
    intro hrequest
    have hcount : c.config.inCount = 1 := if_pos hrequest
    have hone : ∀ s, c.inQueue.count s + c.callback.inSlot.count s + ready.count s = 0 := by
      intro s
      have hs := h.places s
      have hslot := h.places slot
      rw [← hmoved, hcount] at hs hslot
      rw [List.count_singleton_self] at hslot
      rcases Nat.eq_zero_or_pos slot with rfl | hpos
      · rcases Nat.eq_zero_or_pos s with rfl | hs'
        · rw [List.count_singleton_self, if_pos (by decide)] at hs
          omega
        · rw [if_neg (by omega)] at hs
          omega
      · rw [if_neg (by omega)] at hslot
        omega
    have hnil : ∀ l : List ℕ, (∀ s, l.count s = 0) → l = [] := fun l hl =>
      List.eq_nil_iff_forall_not_mem.mpr fun s => List.count_eq_zero.mp (hl s)
    refine ⟨hnil _ fun s => ?_, hnil _ fun s => ?_, hnil _ fun s => ?_⟩
    all_goals
      have := hone s
      omega
  unfold Channel.afterPop
  dsimp only
  split
  · split
    · refine ⟨hring, hroom, horder, fun s => ?_, fun hrequest _ => hpending hrequest, trivial⟩
      exact (hmoved s).trans_le (h.places s)
    · split
      · rename_i hstream
        refine ⟨hring, hroom, horder, fun s => ?_, fun hrequest _ => hpending hrequest, ?_⟩
        · refine Eq.trans_le ?_ (h.places s)
          rw [← hmoved]
          simp only [Channel.inPlaces, hcurrent, Option.toList_none, List.count_nil,
            ReaderPc.holds, Nat.add_zero]
        · simpa [ReaderPc.Sound, AfterSubmit.Sound] using hstream
      · refine ⟨hring, hroom, horder, fun s => ?_, fun hrequest _ => hpending hrequest, trivial⟩
        have := hmoved s
        have := h.places s
        simp only [Channel.inPlaces, hcurrent, Option.toList_none, List.count_nil, ReaderPc.holds]
        omega
  · refine ⟨hring, hroom, horder, fun s => ?_, fun hrequest _ => hpending hrequest, trivial⟩
    have := hmoved s
    have := h.places s
    simp only [Channel.inPlaces, hcurrent, Option.toList_none, List.count_nil, ReaderPc.holds]
    omega

/-- A copy from the current slot: it stays current, or goes to the reader, or is idle. -/
theorem copyCurrent (h : InSound c ready) {capacity : ℕ} (hholds : c.reader.holds = [])
    (hcurrent : c.current = some slot) : InSound (c.copyCurrent slot capacity) ready := by
  have hplaces : ∀ s, c.inQueue.count s + c.callback.inSlot.count s + ready.count s +
      [slot].count s = c.inPlaces ready s := by
    intro s
    simp only [Channel.inPlaces, hholds, hcurrent, Option.toList_some, List.count_nil, Nat.add_zero]
  unfold Channel.copyCurrent
  dsimp only
  split
  · split
    · rename_i hstream
      refine ⟨h.ring, h.room, h.order, fun s => ?_, h.pending, ?_⟩
      · refine Eq.trans_le ?_ (h.places s)
        rw [← hplaces]
        simp only [Channel.inPlaces, Option.toList_none, List.count_nil, ReaderPc.holds,
          Nat.add_zero]
      · simpa [ReaderPc.Sound, AfterSubmit.Sound] using hstream
    · refine ⟨h.ring, h.room, h.order, fun s => Nat.le_trans ?_ (h.places s), h.pending, trivial⟩
      rw [← hplaces]
      simp only [Channel.inPlaces, Channel.readReturns, Option.toList_none, List.count_nil,
        ReaderPc.holds]
      omega
  · exact (@goto _ _ h .idle rfl trivial).congr (by constructor <;> rfl)

/-- **A step of the reader.** -/
theorem readStep (h : InSound c ready) (hstep : ReadStep c c') : ∃ ready', InSound c' ready' := by
  have hsound := h.reader
  cases hstep with
  | @open_next slot hpc hmore =>
    rw [hpc] at hsound
    have hholds : c.reader.holds = [] := by rw [hpc]; rfl
    refine ⟨ready, h.hold hholds (hsound slot (Nat.le_refl _)) hmore.2 ⟨hmore.1, rfl, ?_⟩⟩
    intro s hs
    have hlater := hsound s (Nat.le_of_lt hs)
    simp only [Channel.inPlaces, hholds] at hlater
    simp only [Channel.inPlaces, ReaderPc.holds, List.count_cons, List.count_nil, beq_iff_eq,
      if_neg (Nat.ne_of_lt hs)]
    exact hlater
  | open_returns =>
    exact ⟨ready, (@goto _ _ h .idle rfl trivial).congr (by constructor <;> rfl)⟩
  | open_deletes => exact ⟨ready, h.goto rfl trivial⟩
  | open_loses =>
    exact ⟨ready, (@goto _ _ h .idle rfl trivial).congr (by constructor <;> rfl)⟩
  | read => exact ⟨ready, h.goto rfl trivial⟩
  | copy hpc hcurrent => exact ⟨ready, h.copyCurrent (by rw [hpc]; rfl) hcurrent⟩
  | request hpc hcurrent hrequest =>
    have hholds : c.reader.holds = [] := by rw [hpc]; rfl
    have hcount : c.config.inCount = 1 := if_pos hrequest.1
    obtain ⟨hqueue, hcallback, hready⟩ := h.pending hrequest.1 hrequest.2
    refine ⟨ready, h.hold hholds ?_ (by omega) ⟨hrequest.1, hrequest.2, hcurrent⟩⟩
    simp [Channel.inPlaces, hqueue, hcallback, hready, hcurrent, hholds]
  | wait hpc hcurrent => exact ⟨ready, h.goto rfl hcurrent⟩
  | submit_lost => exact ⟨ready, @afterSubmit_failed _ _ h .errNoDevice nofun _⟩
  | @submit slot length after hpc =>
    rw [hpc] at hsound
    have hplaces : ∀ s, Channel.inPlaces { c with reader := .counted slot length after } ready s =
        c.inPlaces ready s := by
      intro s
      simp only [Channel.inPlaces, hpc, ReaderPc.holds]
    refine ⟨ready, h.ring, h.room, h.order, fun s => (hplaces s).trans_le (h.places s), h.pending,
      ?_⟩
    cases after with
    | opening => exact ⟨hsound.1, hsound.2.1, fun s hs => (hplaces s).trans (hsound.2.2 s hs)⟩
    | _ => exact hsound
  | accepted hpc => exact ⟨ready, h.accepted hpc _ _⟩
  | rejected hpc hstatus =>
    have hresult := mapLibusbError_ne_ok hstatus false
    exact ⟨ready, (@goto _ _ h (.rejected _ _) rfl hresult).congr (by constructor <;> rfl)⟩
  | mark_lost hpc =>
    rw [hpc] at hsound
    exact ⟨ready, (h.congr (by constructor <;> rfl)).afterSubmit_failed hsound _⟩
  | @pop slot capacity ring hpc hpop =>
    rw [hpc] at hsound
    rcases ready with _ | ⟨first, rest⟩
    · rw [h.ring.pop_nil] at hpop
      cases hpop
    · obtain ⟨ring', hfirst, hroom, hrest⟩ := h.ring.pop
      rw [hfirst, Option.some.injEq, Prod.mk.injEq] at hpop
      obtain ⟨rfl, rfl⟩ := hpop
      exact ⟨rest, h.afterPop (by rw [hpc]; rfl) hsound hrest (hroom ▸ h.room)⟩
  | pop_empty => exact ⟨ready, h.goto rfl trivial⟩
  | failed_lost =>
    exact ⟨ready, (@goto _ _ h .idle rfl trivial).congr (by constructor <;> rfl)⟩
  | failed_live => exact ⟨ready, h.goto rfl trivial⟩
  | lose => exact ⟨ready, (@goto _ _ h .idle rfl trivial).congr (by constructor <;> rfl)⟩
  | empty_lost =>
    exact ⟨ready, (@goto _ _ h .idle rfl trivial).congr (by constructor <;> rfl)⟩
  | timeout => exact ⟨ready, (@goto _ _ h .idle rfl trivial).congr (by constructor <;> rfl)⟩
  | poll_failed =>
    exact ⟨ready, (@goto _ _ h .idle rfl trivial).congr (by constructor <;> rfl)⟩
  | wake => exact ⟨ready, h.goto rfl trivial⟩

/-- A transfer that completes moves from libusb to its callback. -/
theorem complete_in (h : InSound c ready) (hpc : c.callback = .none) (hslot : slot ∈ c.inQueue)
    (inSlots : ℕ → InTransfer) (completions : List (TransferStatus × List UInt8)) :
    InSound { c with
      inQueue := c.inQueue.erase slot
      inSlots
      completions
      callback := .pushIn slot } ready := by
  have hplaces : ∀ s, Channel.inPlaces { c with
      inQueue := c.inQueue.erase slot
      inSlots
      completions
      callback := .pushIn slot } ready s = c.inPlaces ready s := by
    intro s
    have hone := count_erase_add hslot s
    simp only [Channel.inPlaces, hpc, CallbackPc.inSlot, List.count_nil]
    omega
  refine ⟨h.ring, h.room, h.order, fun s => (hplaces s).trans_le (h.places s),
    fun hrequest hpending => ?_, h.reader.congr rfl rfl rfl hplaces⟩
  have hnil := (h.pending hrequest hpending).1
  rw [hnil] at hslot
  cases hslot

/-- **The ring has a place.** -/
theorem push_in (h : InSound c ready) (hpc : c.callback = .pushIn slot) :
    ∃ ring, c.readyIn.push slot = some ring ∧
      InSound { c with
        readyIn := ring
        inPushed := c.inPushed ++ [slot]
        callback := .finishing } (ready ++ [slot]) := by
  have hroom : ready.length < c.readyIn.slots.length := by
    refine Nat.lt_of_lt_of_le (Nat.lt_of_succ_le ?_) h.room
    refine @length_le_of_count_le (slot :: ready) _ fun s => ?_
    refine Nat.le_trans ?_ (h.places s)
    simp only [Channel.inPlaces, hpc, CallbackPc.inSlot, List.count_cons, List.count_nil]
    omega
  obtain ⟨ring, hpush, hlength, hring⟩ := h.ring.push hroom
  have hplaces : ∀ s, Channel.inPlaces { c with
      readyIn := ring
      inPushed := c.inPushed ++ [slot]
      callback := .finishing } (ready ++ [slot]) s = c.inPlaces ready s := by
    intro s
    simp only [Channel.inPlaces, hpc, CallbackPc.inSlot, List.count_append, List.count_nil]
    omega
  refine ⟨ring, hpush, hring, hlength ▸ h.room, ?_, fun s => (hplaces s).trans_le (h.places s),
    fun hrequest hpending => ?_, h.reader.congr rfl rfl rfl hplaces⟩
  · rw [h.order, List.append_assoc]
  · have hnil := (h.pending hrequest hpending).2.1
    rw [hpc] at hnil
    cases hnil

/-- **A step of a callback.** -/
theorem callbackStep (h : InSound c ready) (hstep : CallbackStep c c') :
    ∃ ready', InSound c' ready' := by
  cases hstep with
  | complete_in status received hpc hslot => exact ⟨ready, h.complete_in hpc hslot _ _⟩
  | push_in hpc =>
    obtain ⟨ring, hpush, hsound⟩ := h.push_in hpc
    rw [hpush]
    exact ⟨_, hsound⟩
  | complete_out hpc => exact ⟨ready, h.congr (by constructor <;> first | rfl | rw [hpc]; rfl)⟩
  | fail_out _ _ hpc => exact ⟨ready, h.congr (by constructor <;> first | rfl | rw [hpc]; rfl)⟩
  | store_error hpc =>
    refine ⟨ready, h.congr ?_⟩
    constructor
    case callback =>
      rw [hpc]
      dsimp only
      split <;> rfl
    all_goals rfl
  | store_lost hpc => exact ⟨ready, h.congr (by constructor <;> first | rfl | rw [hpc]; rfl)⟩
  | push_out hpc => exact ⟨ready, h.congr (by constructor <;> first | rfl | rw [hpc]; rfl)⟩
  | finish hpc => exact ⟨ready, h.congr (by constructor <;> first | rfl | rw [hpc]; rfl)⟩

end InSound

/-! ### The OUT slots -/

namespace OutSound

variable {c c' : Channel} {free : List ℕ} {slot : ℕ}

/-- Steps that leave every OUT slot in as many places. -/
theorem congr (h : OutSound c free) (hconfig : c'.config = c.config)
    (hring : c'.freeOut = c.freeOut) (hpushed : c'.outPushed = c.outPushed)
    (hpopped : c'.outPopped = c.outPopped)
    (hplaces : ∀ s, c'.outPlaces free s = c.outPlaces free s)
    (hspare : c'.writer.Takes → c'.spare = none) : OutSound c' free where
  ring := by rw [hring]; exact h.ring
  room := by rw [hring, hconfig]; exact h.room
  order := by rw [hpushed, hpopped]; exact h.order
  places := by intro s; rw [hplaces, hconfig]; exact h.places s
  noSpare := hspare

/-- Steps of the reader. -/
theorem readStep (h : OutSound c free) (hstep : ReadStep c c') : OutSound c' free := by
  have hkept := hstep.writerKept
  refine h.congr hkept.config hkept.freeOut hkept.outPushed hkept.outPopped (fun s => ?_) ?_
  · simp only [Channel.outPlaces, hkept.outQueue, hkept.callback, hkept.spare, hkept.writer]
  · rw [hkept.writer, hkept.spare]
    exact h.noSpare

/-- The slot that the writer takes from the ring. -/
theorem pop (h : OutSound c (slot :: free)) {pc : WriterPc} {ring : IndexRing ℕ}
    (hholds : c.writer.holds = []) (hpc : pc.holds = [slot]) (hring : ring.Represents free)
    (hroom : c.config.outTransfers ≤ ring.slots.length) (hspare : c.spare = none) :
    OutSound { c with
      freeOut := ring
      outPopped := c.outPopped ++ [slot]
      writer := pc } free := by
  refine ⟨hring, hroom, ?_, fun s => ?_, fun _ => hspare⟩
  · rw [h.order, List.append_assoc, List.singleton_append]
  · refine Eq.trans ?_ (h.places s)
    simp only [Channel.outPlaces, hholds, hpc, List.count_cons, List.count_nil]
    omega

/-- **A step of the writer.** -/
theorem writeStep (h : OutSound c free) (hstep : WriteStep c c') : ∃ free', OutSound c' free' := by
  have hnone := h.noSpare
  have hmoved : ∀ {pc : WriterPc} {spare : Option ℕ},
      (∀ s, spare.toList.count s + pc.holds.count s =
        c.spare.toList.count s + c.writer.holds.count s) → ∀ s,
      (c.outQueue.map Prod.fst).count s + c.callback.outSlot.count s + free.count s +
        spare.toList.count s + pc.holds.count s = c.outPlaces free s := by
    intro pc spare heq s
    have := heq s
    simp only [Channel.outPlaces]
    omega
  cases hstep with
  | take_spare hpc hmore hspare =>
    refine ⟨free, h.congr rfl rfl rfl rfl (hmoved fun s => ?_) fun _ => rfl⟩
    simp [hpc, hspare, WriterPc.holds]
  | no_spare hpc hmore hspare =>
    exact ⟨free, h.congr rfl rfl rfl rfl (hmoved fun s => by rw [hpc]; rfl) fun _ => hspare⟩
  | @pop data offset slot zeroLength ring hpc hpop =>
    rw [hpc] at hnone
    rcases free with _ | ⟨first, rest⟩
    · rw [h.ring.pop_nil] at hpop
      cases hpop
    · obtain ⟨ring', hfirst, hroom, hrest⟩ := h.ring.pop
      rw [hfirst, Option.some.injEq, Prod.mk.injEq] at hpop
      obtain ⟨rfl, rfl⟩ := hpop
      exact ⟨rest, h.pop (by rw [hpc]; rfl) rfl hrest (hroom ▸ h.room) (hnone trivial)⟩
  | pop_empty hpc =>
    rw [hpc] at hnone
    exact ⟨free, h.congr rfl rfl rfl rfl (hmoved fun s => by rw [hpc]; rfl) hnone⟩
  | wake hpc =>
    rw [hpc] at hnone
    exact ⟨free, h.congr rfl rfl rfl rfl (hmoved fun s => by rw [hpc]; rfl) hnone⟩
  | submit hpc =>
    rw [hpc] at hnone
    exact ⟨free, h.congr rfl rfl rfl rfl (hmoved fun s => by rw [hpc]; rfl) hnone⟩
  | accepted hpc =>
    refine ⟨free, h.congr rfl rfl rfl rfl (fun s => ?_) nofun⟩
    simp only [Channel.outPlaces, hpc, WriterPc.holds, List.map_append, List.map_cons,
      List.map_nil, List.count_append, List.count_nil]
    omega
  | held_lost hpc =>
    rw [hpc] at hnone
    refine ⟨free, h.congr rfl rfl rfl rfl (hmoved fun s => ?_) nofun⟩
    simp [hpc, hnone trivial, WriterPc.holds]
  | rejected hpc =>
    rw [hpc] at hnone
    refine ⟨free, h.congr rfl rfl rfl rfl (@hmoved .idle (some _) fun s => ?_) nofun⟩
    simp [hpc, hnone trivial, WriterPc.holds]
  | rejected_gone hpc =>
    rw [hpc] at hnone
    refine ⟨free, h.congr rfl rfl rfl rfl (hmoved fun s => ?_) nofun⟩
    simp [hpc, hnone trivial, WriterPc.holds]
  | _ hpc => exact ⟨free, h.congr rfl rfl rfl rfl (hmoved fun s => by rw [hpc]; rfl) nofun⟩

/-- A transfer that completes moves from libusb to its callback. -/
theorem complete_out (h : OutSound c free) (hpc : c.callback = .none) {payload : List UInt8}
    (hslot : (slot, payload) ∈ c.outQueue) {pc : CallbackPc} (hcallback : pc.outSlot = [slot]) :
    OutSound { c with
      outQueue := c.outQueue.erase (slot, payload)
      callback := pc } free := by
  refine h.congr rfl rfl rfl rfl (fun s => ?_) h.noSpare
  have hone := count_map_erase_add hslot s
  have hnone : c.callback.outSlot = [] := by rw [hpc]; rfl
  simp only [Channel.outPlaces, hnone, hcallback, List.count_nil]
  omega

/-- **The ring has a place.** -/
theorem push_out (h : OutSound c free) (hpc : c.callback = .pushOut slot) :
    ∃ ring, c.freeOut.push slot = some ring ∧
      OutSound { c with
        freeOut := ring
        outPushed := c.outPushed ++ [slot]
        callback := .finishing } (free ++ [slot]) := by
  have hroom : free.length < c.freeOut.slots.length := by
    refine Nat.lt_of_lt_of_le (Nat.lt_of_succ_le ?_) h.room
    refine @length_le_of_count_le (slot :: free) _ fun s => ?_
    rw [← h.places s]
    simp only [Channel.outPlaces, hpc, CallbackPc.outSlot, List.count_cons, List.count_nil]
    omega
  obtain ⟨ring, hpush, hlength, hring⟩ := h.ring.push hroom
  refine ⟨ring, hpush, hring, hlength ▸ h.room, ?_, fun s => ?_, h.noSpare⟩
  · rw [h.order, List.append_assoc]
  · refine Eq.trans ?_ (h.places s)
    simp only [Channel.outPlaces, hpc, CallbackPc.outSlot, List.count_append, List.count_nil]
    omega

/-- **A step of a callback.** -/
theorem callbackStep (h : OutSound c free) (hstep : CallbackStep c c') :
    ∃ free', OutSound c' free' := by
  have hcallback : ∀ {pc : CallbackPc}, pc.outSlot = c.callback.outSlot → ∀ s,
      (c.outQueue.map Prod.fst).count s + pc.outSlot.count s + free.count s +
        c.spare.toList.count s + c.writer.holds.count s = c.outPlaces free s := by
    intro pc heq s
    rw [heq]
    rfl
  cases hstep with
  | complete_out hpc hslot => exact ⟨free, h.complete_out hpc hslot rfl⟩
  | fail_out _ _ hpc hslot => exact ⟨free, h.complete_out hpc hslot rfl⟩
  | push_out hpc =>
    obtain ⟨ring, hpush, hsound⟩ := h.push_out hpc
    rw [hpush]
    exact ⟨_, hsound⟩
  | store_error hpc =>
    refine ⟨free, h.congr rfl rfl rfl rfl (hcallback ?_) h.noSpare⟩
    rw [hpc]
    dsimp only
    split <;> rfl
  | complete_in _ _ hpc =>
    exact ⟨free, h.congr rfl rfl rfl rfl (hcallback (by rw [hpc]; rfl)) h.noSpare⟩
  | push_in hpc =>
    exact ⟨free, h.congr rfl rfl rfl rfl (hcallback (by rw [hpc]; rfl)) h.noSpare⟩
  | store_lost hpc =>
    exact ⟨free, h.congr rfl rfl rfl rfl (hcallback (by rw [hpc]; rfl)) h.noSpare⟩
  | finish hpc =>
    exact ⟨free, h.congr rfl rfl rfl rfl (hcallback (by rw [hpc]; rfl)) h.noSpare⟩

end OutSound

/-! ### `in_flight` -/

namespace FlightSound

variable {c c' : Channel}

/-- The functions behind a submit, a pop and a copy neither count nor submit. -/
theorem afterSubmit (c : Channel) (result : Result) (after : AfterSubmit) :
    (c.afterSubmit result after).inFlight = c.inFlight ∧
      (c.afterSubmit result after).inQueue = c.inQueue ∧
      (c.afterSubmit result after).reader.counting = 0 := by
  cases after with
  | opening slot =>
    refine ⟨rfl, rfl, ?_⟩
    rw [Channel.afterSubmit]
    dsimp only
    split <;> rfl
  | copied bytes => exact ⟨rfl, rfl, rfl⟩
  | requested capacity =>
    rw [Channel.afterSubmit]
    split <;> exact ⟨rfl, rfl, rfl⟩
  | skipped capacity => exact ⟨rfl, rfl, rfl⟩

theorem afterPop (c : Channel) (slot capacity : ℕ) :
    (c.afterPop slot capacity).inFlight = c.inFlight ∧
      (c.afterPop slot capacity).inQueue = c.inQueue ∧
      (c.afterPop slot capacity).reader.counting = 0 := by
  unfold Channel.afterPop
  dsimp only
  split
  · split
    · exact ⟨rfl, rfl, rfl⟩
    · split <;> exact ⟨rfl, rfl, rfl⟩
  · exact ⟨rfl, rfl, rfl⟩

theorem copyCurrent (c : Channel) (slot capacity : ℕ) :
    (c.copyCurrent slot capacity).inFlight = c.inFlight ∧
      (c.copyCurrent slot capacity).inQueue = c.inQueue ∧
      (c.copyCurrent slot capacity).reader.counting = 0 := by
  unfold Channel.copyCurrent
  dsimp only
  split
  · split <;> exact ⟨rfl, rfl, rfl⟩
  · exact ⟨rfl, rfl, rfl⟩

/-- A step of the reader changes the count with its own submits. -/
theorem readStep (h : FlightSound c) (hstep : ReadStep c c') : FlightSound c' := by
  have hkept := hstep.writerKept
  have hcount : c'.inFlight + (c.inQueue.length + c.reader.counting) =
      c.inFlight + (c'.inQueue.length + c'.reader.counting) := by
    unfold FlightSound at h
    cases hstep with
    | copy hpc =>
      obtain ⟨hflight, hqueue, hreader⟩ := copyCurrent c _ _
      rw [hflight, hqueue, hreader, hpc]
      rfl
    | submit_lost hpc =>
      obtain ⟨hflight, hqueue, hreader⟩ := afterSubmit c _ _
      rw [hflight, hqueue, hreader, hpc]
      rfl
    | submit hpc =>
      rw [hpc]
      change c.inFlight + 1 + (c.inQueue.length + 0) = c.inFlight + (c.inQueue.length + 1)
      omega
    | accepted hpc =>
      obtain ⟨hflight, hqueue, hreader⟩ := afterSubmit _ _ _
      rw [hflight, hqueue, hreader, hpc, List.length_append, List.length_singleton]
      rfl
    | rejected hpc =>
      rw [hpc] at h ⊢
      simp only [ReaderPc.counting] at h ⊢
      omega
    | mark_lost hpc =>
      obtain ⟨hflight, hqueue, hreader⟩ := afterSubmit _ _ _
      rw [hflight, hqueue, hreader, hpc]
      rfl
    | pop hpc =>
      obtain ⟨hflight, hqueue, hreader⟩ := afterPop _ _ _
      rw [hflight, hqueue, hreader, hpc]
      rfl
    | _ hpc =>
      rw [hpc]
      rfl
  unfold FlightSound at *
  rw [hkept.outQueue, hkept.callback, hkept.writer]
  omega

/-- A step of the writer changes the count with its own submits. -/
theorem writeStep (h : FlightSound c) (hstep : WriteStep c c') : FlightSound c' := by
  have hkept := hstep.readerKept
  have hcount : c'.inFlight + (c.outQueue.length + c.writer.counting) =
      c.inFlight + (c'.outQueue.length + c'.writer.counting) := by
    unfold FlightSound at h
    cases hstep with
    | submit hpc =>
      rw [hpc]
      change c.inFlight + 1 + (c.outQueue.length + 0) = c.inFlight + (c.outQueue.length + 1)
      omega
    | accepted hpc =>
      rw [hpc, List.length_append, List.length_singleton]
      rfl
    | rejected hpc =>
      rw [hpc] at h ⊢
      simp only [Channel.writeReturns, WriterPc.counting] at h ⊢
      omega
    | rejected_gone hpc =>
      rw [hpc] at h ⊢
      simp only [WriterPc.counting] at h ⊢
      omega
    | _ hpc =>
      rw [hpc]
      rfl
  unfold FlightSound at *
  rw [hkept.inQueue, hkept.callback, hkept.reader]
  omega

/-- A completed transfer counts as its callback until the end of that. -/
theorem callbackStep (h : FlightSound c) (hstep : CallbackStep c c') : FlightSound c' := by
  have hkept := hstep.threadsKept
  have hcount : c'.inFlight + (c.inQueue.length + c.outQueue.length + c.callback.active) =
      c.inFlight + (c'.inQueue.length + c'.outQueue.length + c'.callback.active) := by
    unfold FlightSound at h
    cases hstep with
    | complete_in _ _ hpc hslot =>
      have hpos := List.length_pos_of_mem hslot
      simp only [hpc, CallbackPc.active, List.length_erase_of_mem hslot]
      omega
    | complete_out hpc hslot =>
      have hpos := List.length_pos_of_mem hslot
      simp only [hpc, CallbackPc.active, List.length_erase_of_mem hslot]
      omega
    | fail_out _ _ hpc hslot =>
      have hpos := List.length_pos_of_mem hslot
      simp only [hpc, CallbackPc.active, List.length_erase_of_mem hslot]
      omega
    | store_error hpc =>
      rw [hpc]
      dsimp only
      split <;> rfl
    | finish hpc =>
      simp only [hpc, CallbackPc.active] at h ⊢
      omega
    | push_in hpc => rw [hpc]; rfl
    | store_lost hpc => rw [hpc]; rfl
    | push_out hpc => rw [hpc]; rfl
  unfold FlightSound at *
  rw [hkept.reader, hkept.writer]
  omega

end FlightSound

/-! ### Runs -/

/-- Values that are pushed one by one are held in their order. -/
theorem pushAll_represents {ring : IndexRing ℕ} {held : List ℕ} (h : ring.Represents held)
    (values : List ℕ) (hroom : held.length + values.length ≤ ring.slots.length) :
    (Channel.pushAll ring values).Represents (held ++ values) ∧
      (Channel.pushAll ring values).slots.length = ring.slots.length := by
  induction values generalizing ring held with
  | nil => exact ⟨by rw [List.append_nil]; exact h, rfl⟩
  | cons value rest ih =>
    rw [List.length_cons] at hroom
    obtain ⟨ring', hpush, hlength, hring⟩ := @IndexRing.Represents.push _ _ _ value h (by omega)
    have hrest := ih hring (by rw [List.length_append, List.length_singleton]; omega)
    rw [List.append_assoc, List.singleton_append] at hrest
    rw [Channel.pushAll, List.foldl_cons, hpush]
    exact ⟨hrest.1, hrest.2.trans hlength⟩

theorem inSound_opened (config : ChannelConfig) : InSound (Channel.opened config) [] := by
  have hcount : config.inCount ≤ 2 ^ 63 := by
    have := config.in_lt
    unfold ChannelConfig.inCount
    split <;> omega
  obtain ⟨hring, hroom⟩ := IndexRing.Represents.init hcount 0
  exact ⟨hring, hroom, rfl, fun s => Nat.zero_le _, fun _ _ => ⟨rfl, rfl, rfl⟩, fun _ _ => rfl⟩

theorem outSound_opened (config : ChannelConfig) :
    OutSound (Channel.opened config) (List.range config.outTransfers) := by
  have hlt := config.out_lt
  have hcount : config.outTransfers ≤ 2 ^ 63 := by omega
  obtain ⟨hring, hroom⟩ := IndexRing.Represents.init hcount 0
  obtain ⟨hpushed, hlength⟩ := pushAll_represents hring (List.range config.outTransfers)
    (by rw [List.length_range, List.length_nil]; omega)
  refine ⟨hpushed, hlength ▸ hroom, rfl, fun s => ?_, fun _ => rfl⟩
  have hrange : (List.range config.outTransfers).count s =
      if s < config.outTransfers then 1 else 0 := by
    by_cases hs : s < config.outTransfers
    · rw [if_pos hs]
      exact List.count_eq_one_of_mem List.nodup_range (List.mem_range.mpr hs)
    · rw [if_neg hs]
      exact List.count_eq_zero.mpr (mt List.mem_range.mp hs)
  refine Eq.trans ?_ hrange
  simp [Channel.outPlaces, Channel.opened, CallbackPc.outSlot, WriterPc.holds]

/-- **The slots are where they should be**, in every state of every run. -/
theorem ChannelRun.sound {config : ChannelConfig} {c : Channel} (h : ChannelRun config c) :
    c.config = config ∧ (∃ ready, InSound c ready) ∧ (∃ free, OutSound c free) ∧
      FlightSound c := by
  induction h with
  | opened =>
    exact ⟨rfl, ⟨[], inSound_opened config⟩, ⟨_, outSound_opened config⟩, rfl⟩
  | step _ hstep ih =>
    obtain ⟨hconfig, ⟨ready, hin⟩, ⟨free, hout⟩, hflight⟩ := ih
    cases hstep with
    | read h =>
      exact ⟨h.writerKept.config.trans hconfig, hin.readStep h, ⟨free, hout.readStep h⟩,
        hflight.readStep h⟩
    | write h =>
      exact ⟨h.readerKept.config.trans hconfig, ⟨ready, hin.congr h.readerKept.sameIn⟩,
        hout.writeStep h, hflight.writeStep h⟩
    | callback h =>
      exact ⟨h.threadsKept.config.trans hconfig, hin.callbackStep h, hout.callbackStep h,
        hflight.callbackStep h⟩
    | lose =>
      exact ⟨hconfig, ⟨ready, hin.congr (by constructor <;> rfl)⟩,
        ⟨free, hout.congr rfl rfl rfl rfl (fun _ => rfl) hout.noSpare⟩, hflight⟩

/-- The slots of a Channel, with what its rings hold. An IN slot is in at most one place, and idle
otherwise; an OUT slot is in exactly one. A push has a place, and the rings give back what was
pushed in the same order. `in_flight` counts the transfers that libusb has accepted and whose
callback has not finished, and the submits that are under way. -/
structure SlotsConserved (c : Channel) (ready free : List ℕ) : Prop where
  in_places : ∀ slot, c.inQueue.count slot + c.callback.inSlot.count slot + ready.count slot +
    c.current.toList.count slot + c.reader.holds.count slot ≤
      if slot < c.config.inCount then 1 else 0
  out_places : ∀ slot, (c.outQueue.map Prod.fst).count slot + c.callback.outSlot.count slot +
    free.count slot + c.spare.toList.count slot + c.writer.holds.count slot =
      if slot < c.config.outTransfers then 1 else 0
  ready_push : ∀ slot, c.callback = .pushIn slot → c.readyIn.push slot ≠ none
  free_push : ∀ slot, c.callback = .pushOut slot → c.freeOut.push slot ≠ none
  ready_order : c.inPushed = c.inPopped ++ ready
  free_order : c.outPushed = c.outPopped ++ free
  ready_pop : c.readyIn.pop.map Prod.fst = ready.head?
  free_pop : c.freeOut.pop.map Prod.fst = free.head?
  in_flight : c.inFlight = c.inQueue.length + c.outQueue.length + c.callback.active +
    (c.reader.counting + c.writer.counting)
  drained : c.inFlight = 0 → c.inQueue = [] ∧ c.outQueue = [] ∧ c.callback = .none

/-- A ring gives back the first value that it holds. -/
theorem pop_head {ring : IndexRing ℕ} {held : List ℕ} (h : ring.Represents held) :
    ring.pop.map Prod.fst = held.head? := by
  rcases held with _ | ⟨value, rest⟩
  · rw [h.pop_nil]
    rfl
  · obtain ⟨ring', hpop, -⟩ := h.pop
    rw [hpop]
    rfl

/-- **The slots of a Channel are conserved.** -/
theorem ChannelRun.slots_conserved {config : ChannelConfig} {c : Channel}
    (h : ChannelRun config c) : ∃ ready free, SlotsConserved c ready free := by
  obtain ⟨-, ⟨ready, hin⟩, ⟨free, hout⟩, hflight⟩ := h.sound
  refine ⟨ready, free, hin.places, hout.places, fun slot hpc => ?_, fun slot hpc => ?_, hin.order,
    hout.order, pop_head hin.ring, pop_head hout.ring, ?_, fun hzero => ?_⟩
  · obtain ⟨ring, hpush, -⟩ := hin.push_in hpc
    rw [hpush]
    nofun
  · obtain ⟨ring, hpush, -⟩ := hout.push_out hpc
    rw [hpush]
    nofun
  · unfold FlightSound at hflight
    omega
  · unfold FlightSound at hflight
    refine ⟨List.eq_nil_of_length_eq_zero (by omega), List.eq_nil_of_length_eq_zero (by omega), ?_⟩
    cases hpc : c.callback with
    | none => rfl
    | _ =>
      rw [hpc] at hflight
      simp only [CallbackPc.active] at hflight
      omega

/-- A Channel in traffic. The first transfer completes, goes through the ring to a read and is
submitted again; libusb rejects the submit of a write, whose slot is spare then; and the Channel is
lost. -/
theorem ChannelRun.slots_conserved_rejected :
    ∃ c : Channel, c.inSubmitted = [0, 1, 0] ∧ c.inPopped = [0] ∧ c.inQueue = [1, 0] ∧
      c.spare = some 0 ∧ c.lost = true ∧ c.writes.map (·.result) = [.errIo] ∧
      ∃ ready free, SlotsConserved c ready free := by
  have hzero := ((ChannelRun.opened.step (.read (@ReadStep.open_next (.opened streamConfig) 0 rfl
    (by decide)))).step (.read (.submit rfl rfl))).step (.read (.accepted rfl))
  have hone := ((hzero.step (.read (@ReadStep.open_next _ 1 rfl (by decide)))).step
    (.read (.submit rfl rfl))).step (.read (.accepted rfl))
  have hopen := hone.step (.read (@ReadStep.open_returns _ 2 rfl (by decide)))
  have hcompleted := ((hopen.step (.callback (@CallbackStep.complete_in _ 0 .completed [7] rfl
    List.mem_cons_self))).step (.callback (.push_in rfl))).step (.callback (.finish rfl))
  have hpopped := ((hcompleted.step (.read (@ReadStep.read _ 4 rfl (by decide)))).step
    (.read (.wait rfl rfl (by decide)))).step (.read (@ReadStep.pop _ 0 4
      { slots := [0, 0], head := 1, tail := 1 } rfl (by decide +kernel)))
  have hread := ((hpopped.step (.read (.copy rfl rfl))).step (.read (.submit rfl rfl))).step
    (.read (.accepted rfl))
  have hheld := ((((hread.step (.write (@WriteStep.write _ [1] rfl rfl))).step
    (.write (.start rfl rfl))).step (.write (.checked rfl rfl))).step
    (.write (.no_spare rfl (.inl (by decide)) rfl))).step
    (.write (@WriteStep.pop _ [1] 0 0 false { slots := [0], head := 1, tail := 1 } rfl
      (by decide +kernel)))
  have hrejected := (hheld.step (.write (.submit rfl rfl))).step
    (.write (@WriteStep.rejected _ [1] 0 0 false Libusb.errorIo rfl (by decide) (by decide)))
  exact ⟨_, rfl, rfl, rfl, rfl, rfl, rfl, ChannelRun.slots_conserved (hrejected.step (.lose rfl))⟩

/-- A read that has counted its transfer and not yet submitted it: libusb has nothing. -/
theorem exists_run_counted :
    ∃ c, ChannelRun smallConfig c ∧
      c.inFlight ≠ c.inQueue.length + c.outQueue.length + c.callback.active := by
  have hopen := ChannelRun.opened.step
    (.read (@ReadStep.open_returns (.opened smallConfig) 0 rfl (by decide)))
  have hcounted := ((hopen.step (.read (@ReadStep.read _ 1 rfl (by decide)))).step
    (.read (.request rfl rfl ⟨rfl, rfl⟩))).step (.read (.submit rfl rfl))
  exact ⟨_, hcounted, by decide⟩

end LibaoaHid.Transport

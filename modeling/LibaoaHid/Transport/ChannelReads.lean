import LibaoaHid.Transport.ChannelSlots

/-!
# The bytes that a Channel reads

What the reads of a Channel return, beside the payloads of its IN transfers. Every completion goes
through the ring once, and a read takes the bytes of a slot from where the last one has stopped. So
the reads return the payloads in their order, as long as no transfer completes with data behind one
that has failed.

The code does not stop at a failure by itself: a failed transfer loses the Channel, but a read takes
what is in the ring before it looks whether the Channel is lost.

## Main definitions

* `returnedBytes`, `goodBytes`: what the reads have returned, and the payloads up to the first
  failure.
* `EndsAtFailure`: no transfer completes with data behind one that has failed.
* `ReadsRun`, `ReadsExact`.

## Main results

* `ReadsRun.readsExact`.
-/

namespace LibaoaHid.Transport

/-! ### Bytes -/

/-- The bytes of the reads that have succeeded. -/
def returnedBytes (reads : List ReadReturn) : List UInt8 :=
  (reads.filter (·.result = .ok)).flatMap (·.bytes)

/-- The payloads up to the first transfer that did not complete. -/
def goodBytes (completions : List (TransferStatus × List UInt8)) : List UInt8 :=
  (completions.takeWhile (·.1 = .completed)).flatMap Prod.snd

@[simp] theorem returnedBytes_append_ok (reads : List ReadReturn) (bytes : List UInt8) :
    returnedBytes (reads ++ [{ result := .ok, bytes }]) = returnedBytes reads ++ bytes := by
  simp [returnedBytes]

theorem returnedBytes_append_failed {reads : List ReadReturn} {ret : ReadReturn}
    (h : ret.result ≠ .ok) : returnedBytes (reads ++ [ret]) = returnedBytes reads := by
  simp [returnedBytes, h]

/-- The payloads before a failure are all that count. -/
theorem goodBytes_of_failed {good rest : List (TransferStatus × List UInt8)}
    {bad : TransferStatus × List UInt8} (hgood : ∀ p ∈ good, p.1 = .completed)
    (hbad : bad.1 ≠ .completed) :
    goodBytes (good ++ bad :: rest) = good.flatMap Prod.snd := by
  have htake : (good ++ bad :: rest).takeWhile (·.1 = .completed) = good := by
    rw [List.takeWhile_append_of_pos (by simpa using hgood), List.takeWhile_cons]
    simp [hbad]
  rw [goodBytes, htake]

/-- Payloads that all completed come before those of anything behind them. -/
theorem prefix_goodBytes {good rest : List (TransferStatus × List UInt8)}
    (hgood : ∀ p ∈ good, p.1 = .completed) :
    good.flatMap Prod.snd <+: goodBytes (good ++ rest) := by
  rw [goodBytes, List.takeWhile_append_of_pos (by simpa using hgood), List.flatMap_append]
  exact List.prefix_append _ _

/-! ### Runs -/

/-- A completion is that of the oldest transfer with libusb. -/
def CompletesFirst (c c' : Channel) : Prop :=
  ∀ slot, c.callback = .none → c'.callback = .pushIn slot → c.inQueue.head? = some slot

/-- A transfer that completes behind one that has failed brings no data. -/
def EndsAtFailure (c c' : Channel) : Prop :=
  ∀ completion, c'.completions = c.completions ++ [completion] →
    (∃ earlier ∈ c.completions, earlier.1 ≠ .completed) →
    completion.1 = .completed → completion.2 = []

/-- A run in which libusb completes the IN transfers in their order. -/
inductive OrderedRun (config : ChannelConfig) : Channel → Prop
  | opened : OrderedRun config (Channel.opened config)
  | step {c c' : Channel} (h : OrderedRun config c) (hstep : ChannelStep c c')
      (horder : CompletesFirst c c') : OrderedRun config c'

/-- A run in which libusb completes the IN transfers in their order, and none with data behind one
that has failed. -/
inductive ReadsRun (config : ChannelConfig) : Channel → Prop
  | opened : ReadsRun config (Channel.opened config)
  | step {c c' : Channel} (h : ReadsRun config c) (hstep : ChannelStep c c')
      (horder : CompletesFirst c c') (hends : EndsAtFailure c c') : ReadsRun config c'

theorem ReadsRun.run {config : ChannelConfig} {c : Channel} (h : ReadsRun config c) :
    ChannelRun config c := by
  induction h with
  | opened => exact .opened
  | step _ hstep _ _ ih => exact ih.step hstep

/-- The reads of a Channel: the completions are those of the transfers in the order of their
submits, the reads have returned the payloads up to the first failure in their order, and no read
behind one that has reported a failure succeeds. -/
structure ReadsExact (c : Channel) : Prop where
  order : c.inSubmitted = c.inPushed ++ c.callback.inSlot ++ c.inQueue
  count : c.completions.length = (c.inPushed ++ c.callback.inSlot).length
  stream : returnedBytes c.reads <+: goodBytes c.completions
  failures : c.reads.Pairwise fun earlier later =>
    earlier.transferFailed = true → later.result ≠ .ok

/-! ### Data behind a failure -/

/-- No completion behind a failed one has data. -/
def NothingBehind (completions : List (TransferStatus × List UInt8)) : Prop :=
  completions.Pairwise fun earlier later =>
    earlier.1 ≠ .completed → later.1 = .completed → later.2 = []

/-- A step completes one transfer at most. -/
def CompletesOne (c c' : Channel) : Prop :=
  c'.completions = c.completions ∨ ∃ completion, c'.completions = c.completions ++ [completion]

theorem NothingBehind.step {c c' : Channel} (h : NothingBehind c.completions)
    (hone : CompletesOne c c') (hends : EndsAtFailure c c') : NothingBehind c'.completions := by
  rcases hone with heq | ⟨completion, heq⟩
  · rw [heq]
    exact h
  · rw [heq]
    refine List.pairwise_append.mpr ⟨h, List.pairwise_singleton _ _, ?_⟩
    intro earlier hmem later hlater hfailed
    rw [List.mem_singleton.mp hlater]
    exact hends completion heq ⟨earlier, hmem, hfailed⟩

/-! ### What the reader has in hand -/

/-- The bytes that a read has copied and not yet returned. -/
def AfterSubmit.copying : AfterSubmit → Option (List UInt8)
  | .copied bytes => some bytes
  | _ => none

/-- The bytes that a read has copied and not yet returned. -/
def ReaderPc.copying : ReaderPc → Option (List UInt8)
  | .submitting _ _ after => after.copying
  | .counted _ _ after => after.copying
  | .rejected _ after => after.copying
  | _ => none

/-- The status of a failed transfer that was popped and not yet reported. -/
def ReaderPc.failure : ReaderPc → Option TransferStatus
  | .failed status => some status
  | .losing status => some status
  | _ => none

namespace Channel

/-- The completion that a slot holds. -/
def record (c : Channel) (slot : ℕ) : TransferStatus × List UInt8 :=
  ((c.inSlots slot).status, (c.inSlots slot).received)

/-- The bytes that were popped and not yet returned. -/
def inHand (c : Channel) : List UInt8 :=
  c.reader.copying.getD [] ++
    (c.current.map fun slot => (c.inSlots slot).received.drop c.offset).getD []

end Channel

/-- The reader and the completions that it has popped: all of them succeeded, and their bytes are
returned or in hand; or the last one failed and is not yet reported; or a failure was reported, and
nothing was taken since. -/
inductive Stream (c : Channel) (popped : List (TransferStatus × List UInt8)) : Prop
  | clean (hgood : ∀ p ∈ popped, p.1 = .completed) (hpc : c.reader.failure = none)
      (hreads : ∀ ret ∈ c.reads, ret.transferFailed = false)
      (hbytes : returnedBytes c.reads ++ c.inHand = popped.flatMap Prod.snd)
  | failed {good : List (TransferStatus × List UInt8)} {bad : TransferStatus × List UInt8}
      (hpopped : popped = good ++ [bad]) (hgood : ∀ p ∈ good, p.1 = .completed)
      (hbad : bad.1 ≠ .completed) (hpc : c.reader.failure = some bad.1)
      (hreads : ∀ ret ∈ c.reads, ret.transferFailed = false) (hcurrent : c.current = none)
      (hbytes : returnedBytes c.reads = good.flatMap Prod.snd)
  | reported {good rest : List (TransferStatus × List UInt8)} {bad : TransferStatus × List UInt8}
      (hpopped : popped = good ++ bad :: rest) (hgood : ∀ p ∈ good, p.1 = .completed)
      (hbad : bad.1 ≠ .completed) (hpc : ∀ status ∈ c.reader.failure, status ≠ .completed)
      (hreads : ∃ ret ∈ c.reads, ret.transferFailed = true) (hcurrent : c.current = none)
      (hcopied : c.reader.copying = none) (hbytes : returnedBytes c.reads = good.flatMap Prod.snd)

/-- **The reads of a Channel.** What was popped, what the ring holds, and what a callback is about
to push are all completions. -/
structure ReadsSound (c : Channel) (ready : List ℕ)
    (popped : List (TransferStatus × List UInt8)) : Prop where
  order : c.inPushed = c.inPopped ++ ready
  completions_eq : c.completions =
    popped ++ (ready.map c.record ++ c.callback.inSlot.map c.record)
  stream : Stream c popped
  failures : c.reads.Pairwise fun earlier later =>
    earlier.transferFailed = true → later.result ≠ .ok

/-! ### Steps of the reader -/

variable {c c' : Channel} {ready : List ℕ} {popped : List (TransferStatus × List UInt8)}

/-- Steps that neither take nor return anything. -/
theorem Stream.kept (h : Stream c popped) (hreads : c'.reads = c.reads)
    (hfailure : c'.reader.failure = c.reader.failure) (hhand : c'.inHand = c.inHand)
    (hcurrent : c'.current = c.current) (hcopying : c'.reader.copying = c.reader.copying) :
    Stream c' popped := by
  cases h with
  | clean hgood hpc hnone hbytes =>
    exact .clean hgood (hfailure.trans hpc) (hreads ▸ hnone) (by rw [hreads, hhand, hbytes])
  | failed hpopped hgood hbad hpc hnone hempty hbytes =>
    exact .failed hpopped hgood hbad (hfailure.trans hpc) (hreads ▸ hnone) (hcurrent.trans hempty)
      (by rw [hreads, hbytes])
  | reported hpopped hgood hbad hpc hsome hempty hcopied hbytes =>
    exact .reported hpopped hgood hbad (hfailure ▸ hpc) (hreads ▸ hsome) (hcurrent.trans hempty)
      (hcopying.trans hcopied) (by rw [hreads, hbytes])

/-- A read that fails without a failed transfer. -/
theorem Stream.returns (h : Stream c popped) (hfailure : c.reader.failure = none)
    (hcopying : c.reader.copying = none) {result : Result} (hresult : result ≠ .ok) :
    Stream (c.readReturns { result }) popped := by
  have hbytes' : returnedBytes (c.reads ++ [({ result } : ReadReturn)]) =
      returnedBytes c.reads :=
    returnedBytes_append_failed hresult
  cases h with
  | clean hgood hpc hnone hbytes =>
    refine .clean hgood rfl (fun ret hmem => ?_) ?_
    · rcases List.mem_append.mp hmem with hmem | hmem
      · exact hnone ret hmem
      · rw [List.mem_singleton.mp hmem]
    · rw [Channel.inHand, hcopying] at hbytes
      exact (congrArg (· ++ _) hbytes').trans hbytes
  | failed _ _ _ hpc =>
    rw [hfailure] at hpc
    cases hpc
  | reported hpopped hgood hbad hpc hsome hempty hcopied hbytes =>
    obtain ⟨ret, hmem, hfailed⟩ := hsome
    exact .reported hpopped hgood hbad nofun ⟨ret, List.mem_append_left _ hmem, hfailed⟩ hempty rfl
      (hbytes'.trans hbytes)

/-- One more return behind the others. -/
theorem failures_append {reads : List ReadReturn} {ret : ReadReturn}
    (h : reads.Pairwise fun earlier later => earlier.transferFailed = true → later.result ≠ .ok)
    (hret : ∀ earlier ∈ reads, earlier.transferFailed = true → ret.result ≠ .ok) :
    (reads ++ [ret]).Pairwise fun earlier later =>
      earlier.transferFailed = true → later.result ≠ .ok := by
  refine List.pairwise_append.mpr
    ⟨h, List.pairwise_singleton _ _, fun earlier hmem later hlater => ?_⟩
  rw [List.mem_singleton.mp hlater]
  exact hret earlier hmem

/-- A read that fails without a failed transfer. -/
theorem ReadsSound.returns (h : ReadsSound c ready popped) (hfailure : c.reader.failure = none)
    (hcopying : c.reader.copying = none) {result : Result} (hresult : result ≠ .ok) :
    ReadsSound (c.readReturns { result }) ready popped :=
  ⟨h.order, h.completions_eq, h.stream.returns hfailure hcopying hresult,
    failures_append h.failures fun _ _ _ => hresult⟩

/-- A read that returns the bytes it has copied. -/
theorem ReadsSound.returns_copied (h : ReadsSound c ready popped) {bytes : List UInt8}
    (hfailure : c.reader.failure = none) (hcopying : c.reader.copying = some bytes) :
    ReadsSound (c.readReturns { result := .ok, bytes }) ready popped := by
  cases h.stream with
  | clean hgood hpc hnone hbytes =>
    refine ⟨h.order, h.completions_eq, .clean hgood rfl (fun ret hmem => ?_) ?_, ?_⟩
    · rcases List.mem_append.mp hmem with hmem | hmem
      · exact hnone ret hmem
      · rw [List.mem_singleton.mp hmem]
    · rw [Channel.inHand, hcopying, Option.getD_some, ← List.append_assoc] at hbytes
      exact (congrArg (· ++ _) (returnedBytes_append_ok c.reads bytes)).trans hbytes
    · refine failures_append h.failures fun earlier hmem hfailed => ?_
      rw [hnone earlier hmem] at hfailed
      cases hfailed
  | failed _ _ _ hpc =>
    rw [hfailure] at hpc
    cases hpc
  | reported _ _ _ _ _ _ hcopied =>
    rw [hcopying] at hcopied
    cases hcopied

/-- The reader behind a submit. -/
theorem ReadsSound.afterSubmit (h : ReadsSound c ready popped) {after : AfterSubmit}
    (hfailure : c.reader.failure = none) (hcopying : c.reader.copying = after.copying)
    (result : Result) : ReadsSound (c.afterSubmit result after) ready popped := by
  cases after with
  | opening slot =>
    have hpc : ∀ pc : ReaderPc, (pc = .opening (slot + 1) ∨ pc = .openFailed) →
        ReadsSound { c with reader := pc } ready popped := by
      rintro pc (rfl | rfl) <;>
        exact ⟨h.order, h.completions_eq, h.stream.kept rfl hfailure.symm
          (by rw [Channel.inHand, Channel.inHand, hcopying]; rfl) rfl hcopying.symm, h.failures⟩
    refine hpc _ ?_
    split
    · exact .inl rfl
    · exact .inr rfl
  | copied bytes => exact h.returns_copied hfailure hcopying
  | requested capacity =>
    rw [Channel.afterSubmit]
    split
    · exact ⟨h.order, h.completions_eq, h.stream.kept rfl hfailure.symm
        (by rw [Channel.inHand, Channel.inHand, hcopying]; rfl) rfl hcopying.symm, h.failures⟩
    · rename_i hresult
      exact h.returns hfailure hcopying hresult
  | skipped capacity =>
    exact ⟨h.order, h.completions_eq, h.stream.kept rfl hfailure.symm
      (by rw [Channel.inHand, Channel.inHand, hcopying]; rfl) rfl hcopying.symm, h.failures⟩

/-- A slot with the reader is in no other place. -/
theorem InSound.not_elsewhere (h : InSound c ready) {slot : ℕ} (hholds : c.reader.holds = [slot]) :
    slot ∉ ready ∧ slot ∉ c.callback.inSlot ∧ c.current ≠ some slot := by
  have hplaces := h.places slot
  simp only [Channel.inPlaces, hholds, List.count_singleton_self] at hplaces
  have hone : (if slot < c.config.inCount then 1 else 0) ≤ 1 := by split <;> omega
  refine ⟨List.count_eq_zero.mp (by omega), List.count_eq_zero.mp (by omega), fun hcurrent => ?_⟩
  rw [hcurrent, Option.toList_some, List.count_singleton_self] at hplaces
  omega

/-- What libusb does with a slot that it accepts is not seen by the reads. -/
theorem ReadsSound.accepted (h : ReadsSound c ready popped) (hin : InSound c ready)
    {slot length : ℕ} (hholds : c.reader.holds = [slot]) (inQueue inSubmitted : List ℕ) :
    ReadsSound { c with
      inQueue
      inSubmitted
      inSlots := fun s => if s = slot then { length } else c.inSlots s } ready popped := by
  obtain ⟨hready, hcallback, hcurrent⟩ := hin.not_elsewhere hholds
  have hrecord : ∀ list : List ℕ, slot ∉ list →
      list.map (Channel.record { c with
        inQueue
        inSubmitted
        inSlots := fun s => if s = slot then { length } else c.inSlots s }) =
      list.map c.record := by
    intro list hlist
    refine List.map_congr_left fun s hs => ?_
    have hne : s ≠ slot := by
      rintro rfl
      exact hlist hs
    simp only [Channel.record, if_neg hne]
  have hhand : (c.current.map fun s =>
      (if s = slot then ({ length } : InTransfer) else c.inSlots s).received.drop c.offset) =
      c.current.map fun s => (c.inSlots s).received.drop c.offset := by
    cases hc : c.current with
    | none => rfl
    | some s =>
      have hne : s ≠ slot := by
        rintro rfl
        exact hcurrent hc
      simp only [Option.map_some, if_neg hne]
  refine ⟨h.order, ?_, h.stream.kept rfl rfl ?_ rfl rfl, h.failures⟩
  · rw [hrecord ready hready, hrecord _ hcallback]
    exact h.completions_eq
  · simp only [Channel.inHand, hhand]

/-- A copy takes the next bytes of the current slot. -/
theorem ReadsSound.copyCurrent (h : ReadsSound c ready popped) {slot capacity : ℕ}
    (hpc : c.reader = .reading capacity) (hcurrent : c.current = some slot) :
    ReadsSound (c.copyCurrent slot capacity) ready popped := by
  have hfailure : c.reader.failure = none := by rw [hpc]; rfl
  cases h.stream with
  | clean hgood _ hnone hbytes =>
    have hhand : c.inHand = (c.inSlots slot).received.drop c.offset := by
      rw [Channel.inHand, hpc, hcurrent]
      rfl
    rw [hhand] at hbytes
    have hreturned : ∀ (current : Option ℕ) (offset : ℕ) (bytes : List UInt8),
        bytes ++ (current.map fun s => (c.inSlots s).received.drop offset).getD [] =
          (c.inSlots slot).received.drop c.offset →
        ReadsSound (Channel.readReturns { c with
          current
          offset } { result := .ok, bytes }) ready popped := by
      intro current offset bytes hsplit
      refine ⟨h.order, h.completions_eq, .clean hgood rfl (fun ret hmem => ?_) ?_,
        failures_append h.failures fun earlier hmem hfailed => ?_⟩
      · rcases List.mem_append.mp hmem with hmem | hmem
        · exact hnone ret hmem
        · rw [List.mem_singleton.mp hmem]
      · rw [← hbytes, ← hsplit, ← List.append_assoc]
        exact congrArg (· ++ _) (returnedBytes_append_ok c.reads bytes)
      · rw [hnone earlier hmem] at hfailed
        cases hfailed
    unfold Channel.copyCurrent
    dsimp only
    split
    · rename_i hall
      have hwhole : ((c.inSlots slot).received.drop c.offset).take
          (min ((c.inSlots slot).received.length - c.offset) capacity) =
          (c.inSlots slot).received.drop c.offset := by
        rw [hall, List.take_of_length_le (by rw [List.length_drop])]
      split
      · refine ⟨h.order, h.completions_eq, .clean hgood rfl hnone ?_, h.failures⟩
        rw [← hbytes]
        exact congrArg (returnedBytes c.reads ++ ·) ((List.append_nil _).trans hwhole)
      · refine hreturned none _ _ ?_
        rw [hwhole]
        exact List.append_nil _
    · refine hreturned _ _ _ ?_
      rw [hcurrent, Option.map_some, Option.getD_some, ← List.drop_drop]
      exact List.take_append_drop _ _
  | failed _ _ _ hbad =>
    rw [hfailure] at hbad
    cases hbad
  | reported _ _ _ _ _ hempty =>
    rw [hcurrent] at hempty
    cases hempty

/-- The next transfer in the ring has completed behind all that were popped. -/
theorem ReadsSound.no_data {slot : ℕ} (h : ReadsSound c (slot :: ready) popped)
    (hbehind : NothingBehind c.completions) {bad : TransferStatus × List UInt8}
    (hpopped : bad ∈ popped) (hbad : bad.1 ≠ .completed)
    (hgone : (c.inSlots slot).status = .completed) : (c.inSlots slot).received = [] := by
  rw [NothingBehind, h.completions_eq] at hbehind
  exact (List.pairwise_append.mp hbehind).2.2 bad hpopped (c.record slot)
    (List.mem_append_left _ List.mem_cons_self) hbad hgone

/-- What the reader takes stands behind all that it has popped before: the bytes of a transfer that
completed, or nothing and the failure. -/
private theorem ReadsSound.popTo {slot capacity : ℕ} (h : ReadsSound c (slot :: ready) popped)
    (hpc : c.reader = .popping capacity) (hcurrent : c.current = none)
    (hbehind : NothingBehind c.completions) (ring : IndexRing ℕ) (current : Option ℕ) (offset : ℕ)
    {reader : ReaderPc} (hcopying : reader.copying = none)
    (hcompleted : (c.inSlots slot).status = .completed → reader.failure = none ∧
      (current.map fun s => (c.inSlots s).received.drop offset).getD [] =
        (c.inSlots slot).received ∧
      ((c.inSlots slot).received = [] → current = none))
    (hfailed : (c.inSlots slot).status ≠ .completed →
      reader.failure = some (c.inSlots slot).status ∧ current = none) :
    ReadsSound { c with
      readyIn := ring
      inPopped := c.inPopped ++ [slot]
      requestPending := false
      current
      offset
      reader } ready (popped ++ [c.record slot]) := by
  have horder : c.inPushed = c.inPopped ++ [slot] ++ ready := by
    rw [h.order, List.append_assoc, List.singleton_append]
  have hcompletions : c.completions = popped ++ [c.record slot] ++
      (ready.map c.record ++ c.callback.inSlot.map c.record) := by
    rw [h.completions_eq, List.map_cons, List.append_assoc, List.singleton_append,
      List.cons_append]
  refine ⟨horder, hcompletions, ?_, h.failures⟩
  cases h.stream with
  | clean hgood _ hnone hbytes =>
    have hhand : c.inHand = [] := by
      rw [Channel.inHand, hpc, hcurrent]
      rfl
    rw [hhand, List.append_nil] at hbytes
    by_cases hstatus : (c.inSlots slot).status = .completed
    · obtain ⟨hreader, htaken, -⟩ := hcompleted hstatus
      refine .clean (fun p hp => ?_) hreader hnone ?_
      · rcases List.mem_append.mp hp with hp | hp
        · exact hgood p hp
        · rw [List.mem_singleton.mp hp]
          exact hstatus
      · rw [List.flatMap_append, ← hbytes, List.flatMap_singleton, Channel.inHand, hcopying]
        exact congrArg (returnedBytes c.reads ++ ·) htaken
    · obtain ⟨hreader, hempty⟩ := hfailed hstatus
      exact .failed rfl hgood hstatus hreader hnone hempty hbytes
  | failed _ _ _ hbad =>
    rw [hpc] at hbad
    cases hbad
  | @reported good rest bad hpopped hgood hbad _ hsome _ _ hbytes =>
    refine .reported (by rw [hpopped, List.append_assoc, List.cons_append]) hgood hbad
      (fun status hstatus => ?_) hsome ?_ hcopying hbytes
    · by_cases hgone : (c.inSlots slot).status = .completed
      · rw [(hcompleted hgone).1] at hstatus
        cases hstatus
      · rw [(hfailed hgone).1] at hstatus
        cases hstatus
        exact hgone
    · by_cases hgone : (c.inSlots slot).status = .completed
      · have hmem : bad ∈ popped := by
          rw [hpopped]
          exact List.mem_append_right _ List.mem_cons_self
        exact (hcompleted hgone).2.2 (h.no_data hbehind hmem hbad hgone)
      · exact (hfailed hgone).2

/-- A pop takes the completion of a slot: its bytes are in hand, it carries none, or it failed. -/
theorem ReadsSound.afterPop {slot capacity : ℕ} (h : ReadsSound c (slot :: ready) popped)
    (hpc : c.reader = .popping capacity) (hcurrent : c.current = none)
    (hbehind : NothingBehind c.completions) (ring : IndexRing ℕ) :
    ReadsSound (Channel.afterPop { c with
      readyIn := ring
      inPopped := c.inPopped ++ [slot] } slot capacity) ready (popped ++ [c.record slot]) := by
  have hnext := @ReadsSound.popTo c ready popped slot capacity h hpc hcurrent hbehind ring
  unfold Channel.afterPop
  dsimp only
  split
  · rename_i hstatus
    split
    · rename_i hne
      exact hnext (some slot) 0 rfl (fun _ => ⟨rfl, rfl, fun hnil => absurd hnil hne⟩)
        fun hgone => absurd hstatus hgone
    · rename_i hnil
      have hempty : (c.inSlots slot).received = [] := Decidable.not_not.mp hnil
      split
      · exact hnext c.current c.offset rfl
          (fun _ => ⟨rfl, by rw [hcurrent, hempty]; rfl, fun _ => hcurrent⟩)
          fun hgone => absurd hstatus hgone
      · exact hnext c.current c.offset rfl
          (fun _ => ⟨rfl, by rw [hcurrent, hempty]; rfl, fun _ => hcurrent⟩)
          fun hgone => absurd hstatus hgone
  · rename_i hstatus
    exact hnext c.current c.offset rfl (fun hgone => absurd hgone hstatus)
      fun _ => ⟨rfl, hcurrent⟩

/-- The report of a failed transfer. -/
theorem ReadsSound.reports (h : ReadsSound c ready popped) {status : TransferStatus}
    (hfailure : c.reader.failure = some status) {result : Result}
    (hresult : status ≠ .completed → result ≠ .ok) :
    ReadsSound (c.readReturns { result, transferFailed := true }) ready popped := by
  have hmem : ∀ reads : List ReadReturn, ∃ ret ∈ reads ++
      [({ result, transferFailed := true } : ReadReturn)], ret.transferFailed = true :=
    fun reads => ⟨_, List.mem_append_right _ List.mem_cons_self, rfl⟩
  cases h.stream with
  | clean _ hpc =>
    rw [hfailure] at hpc
    cases hpc
  | @failed good bad hpopped hgood hbad hpc hnone hempty hbytes =>
    rw [hfailure, Option.some.injEq] at hpc
    have hne := hresult (hpc ▸ hbad)
    refine ⟨h.order, h.completions_eq, .reported hpopped hgood hbad nofun (hmem _) hempty rfl
      ((returnedBytes_append_failed hne).trans hbytes), ?_⟩
    exact failures_append h.failures fun _ _ _ => hne
  | reported hpopped hgood hbad hpc hsome hempty hcopied hbytes =>
    have hne := hresult (hpc status hfailure)
    refine ⟨h.order, h.completions_eq, .reported hpopped hgood hbad nofun (hmem _) hempty rfl
      ((returnedBytes_append_failed hne).trans hbytes), ?_⟩
    exact failures_append h.failures fun _ _ _ => hne

/-- The part of a Channel that its reads see. -/
structure SameReads (c c' : Channel) : Prop where
  failure : c'.reader.failure = c.reader.failure
  copying : c'.reader.copying = c.reader.copying
  callback : c'.callback.inSlot = c.callback.inSlot
  current : c'.current = c.current
  offset : c'.offset = c.offset
  inSlots : c'.inSlots = c.inSlots
  inPushed : c'.inPushed = c.inPushed
  inPopped : c'.inPopped = c.inPopped
  completions : c'.completions = c.completions
  reads : c'.reads = c.reads

theorem ReaderKept.sameReads (h : ReaderKept c c') : SameReads c c' where
  failure := by rw [h.reader]
  copying := by rw [h.reader]
  callback := by rw [h.callback]
  current := h.current
  offset := h.offset
  inSlots := h.inSlots
  inPushed := h.inPushed
  inPopped := h.inPopped
  completions := h.completions
  reads := h.reads

/-- Steps that the reads do not see. -/
theorem ReadsSound.congr (h : ReadsSound c ready popped) (hsame : SameReads c c') :
    ReadsSound c' ready popped := by
  have hrecord : c'.record = c.record := by
    funext slot
    rw [Channel.record, hsame.inSlots, Channel.record]
  refine ⟨?_, ?_, h.stream.kept hsame.reads hsame.failure ?_ hsame.current hsame.copying, ?_⟩
  · rw [hsame.inPushed, hsame.inPopped]
    exact h.order
  · rw [hsame.completions, hrecord, hsame.callback]
    exact h.completions_eq
  · rw [Channel.inHand, hsame.copying, hsame.current, hsame.inSlots, hsame.offset, Channel.inHand]
  · rw [hsame.reads]
    exact h.failures

/-- A failed status has a failed result. -/
theorem statusResult_ne_ok {status : TransferStatus} (h : status ≠ .completed) :
    statusResult status ≠ .ok := by
  cases status with
  | completed => exact absurd rfl h
  | _ => nofun

/-- **A step of the reader.** -/
theorem ReadsSound.readStep (h : ReadsSound c ready popped) (hin : InSound c ready)
    (hbehind : NothingBehind c.completions) (hstep : ReadStep c c') :
    ∃ ready' popped', ReadsSound c' ready' popped' := by
  cases hstep with
  | copy hpc hcurrent => exact ⟨ready, popped, h.copyCurrent hpc hcurrent⟩
  | submit_lost hpc =>
    exact ⟨ready, popped, h.afterSubmit (by rw [hpc]; rfl) (by rw [hpc]; rfl) _⟩
  | @accepted slot length after hpc =>
    have hholds : c.reader.holds = [slot] := by rw [hpc]; rfl
    refine ⟨ready, popped, ReadsSound.afterSubmit (h.accepted hin hholds _ _) ?_ ?_ _⟩
    all_goals
      dsimp only
      rw [hpc]
      rfl
  | mark_lost hpc =>
    refine ⟨ready, popped, ReadsSound.afterSubmit (h.congr (by constructor <;> rfl)) ?_ ?_ _⟩
    all_goals
      dsimp only
      rw [hpc]
      rfl
  | @pop slot capacity ring hpc hpop =>
    have hcurrent := hin.reader
    rw [hpc] at hcurrent
    have hhead := pop_head hin.ring
    rw [hpop, Option.map_some] at hhead
    obtain ⟨rest, rfl⟩ := List.head?_eq_some_iff.mp hhead.symm
    exact ⟨rest, _, h.afterPop hpc hcurrent hbehind ring⟩
  | failed_lost hpc =>
    exact ⟨ready, popped, h.reports (by rw [hpc]; rfl) fun _ => nofun⟩
  | lose hpc =>
    refine ⟨ready, popped, ReadsSound.reports (h.congr (by constructor <;> rfl)) ?_
      statusResult_ne_ok⟩
    dsimp only
    rw [hpc]
    rfl
  | empty_lost hpc =>
    exact ⟨ready, popped, h.returns (by rw [hpc]; rfl) (by rw [hpc]; rfl) nofun⟩
  | timeout hpc =>
    exact ⟨ready, popped, h.returns (by rw [hpc]; rfl) (by rw [hpc]; rfl) nofun⟩
  | poll_failed hpc _ hresult =>
    exact ⟨ready, popped, h.returns (by rw [hpc]; rfl) (by rw [hpc]; rfl) hresult⟩
  | _ hpc =>
    refine ⟨ready, popped, h.congr ?_⟩
    constructor
    case failure => rw [hpc]; rfl
    case copying => rw [hpc]; rfl
    all_goals rfl

/-- A transfer completes: its slot was with libusb, so it is neither in the ring nor current. -/
theorem ReadsSound.complete_in (h : ReadsSound c ready popped) (hin : InSound c ready) {slot : ℕ}
    (hpc : c.callback = .none) (hslot : slot ∈ c.inQueue) (inSlots : ℕ → InTransfer)
    (hothers : ∀ s, s ≠ slot → inSlots s = c.inSlots s) (inQueue : List ℕ) :
    ReadsSound { c with
      inQueue
      inSlots
      completions := c.completions ++ [((inSlots slot).status, (inSlots slot).received)]
      callback := .pushIn slot } ready popped := by
  have hplaces := hin.places slot
  have hqueue := List.count_pos_iff.mpr hslot
  have hone : (if slot < c.config.inCount then 1 else 0) ≤ 1 := by split <;> omega
  unfold Channel.inPlaces at hplaces
  have hready : ∀ s ∈ ready, s ≠ slot := by
    rintro s hs rfl
    have := List.count_pos_iff.mpr hs
    omega
  have hcurrent : ∀ s, c.current = some s → s ≠ slot := by
    rintro s hs rfl
    rw [hs, Option.toList_some, List.count_singleton_self] at hplaces
    omega
  have hnone : c.callback.inSlot = [] := by rw [hpc]; rfl
  refine ⟨h.order, ?_, h.stream.kept rfl rfl ?_ rfl rfl, h.failures⟩
  · have hpushed : ready.map c.record =
        ready.map fun s => ((inSlots s).status, (inSlots s).received) := by
      refine List.map_congr_left fun s hs => ?_
      rw [hothers s (hready s hs)]
      rfl
    rw [h.completions_eq, hnone, hpushed, List.map_nil, List.append_nil, List.append_assoc]
    rfl
  · cases hc : c.current with
    | none => simp only [Channel.inHand, hc, Option.map_none]
    | some s => simp only [Channel.inHand, hc, Option.map_some, hothers s (hcurrent s hc)]

/-- The push of a callback. -/
theorem ReadsSound.push_in (h : ReadsSound c ready popped) {slot : ℕ}
    (hpc : c.callback = .pushIn slot) (ring : IndexRing ℕ) :
    ReadsSound { c with
      readyIn := ring
      inPushed := c.inPushed ++ [slot]
      callback := .finishing } (ready ++ [slot]) popped := by
  have hone : c.callback.inSlot = [slot] := by rw [hpc]; rfl
  refine ⟨?_, ?_, h.stream.kept rfl rfl rfl rfl rfl, h.failures⟩
  · rw [h.order, List.append_assoc]
  · rw [h.completions_eq, hone, List.map_append, List.append_assoc]
    rfl

/-- **A step of a callback.** -/
theorem ReadsSound.callbackStep (h : ReadsSound c ready popped) (hin : InSound c ready)
    (hstep : CallbackStep c c') : ∃ ready', ReadsSound c' ready' popped := by
  cases hstep with
  | @complete_in slot status received hpc hslot =>
    have hcompleted := h.complete_in hin hpc hslot
      (fun s => if s = slot then { c.inSlots slot with status, received } else c.inSlots s)
      (fun s hs => if_neg hs) (c.inQueue.erase slot)
    simp only [if_pos] at hcompleted
    exact ⟨ready, hcompleted⟩
  | @push_in slot hpc => exact ⟨_, h.push_in hpc _⟩
  | store_error hpc =>
    refine ⟨ready, h.congr ?_⟩
    constructor
    case callback =>
      rw [hpc]
      dsimp only
      split <;> rfl
    all_goals rfl
  | complete_out hpc => exact ⟨ready, h.congr (by constructor <;> first | rfl | rw [hpc]; rfl)⟩
  | fail_out _ _ hpc => exact ⟨ready, h.congr (by constructor <;> first | rfl | rw [hpc]; rfl)⟩
  | store_lost hpc => exact ⟨ready, h.congr (by constructor <;> first | rfl | rw [hpc]; rfl)⟩
  | push_out hpc => exact ⟨ready, h.congr (by constructor <;> first | rfl | rw [hpc]; rfl)⟩
  | finish hpc => exact ⟨ready, h.congr (by constructor <;> first | rfl | rw [hpc]; rfl)⟩

/-! ### The order of the transfers -/

/-- The transfers that libusb has accepted: pushed, in the hands of a callback, or with libusb. -/
def InOrder (c : Channel) : Prop :=
  c.inSubmitted = c.inPushed ++ c.callback.inSlot ++ c.inQueue ∧
    c.completions.length = (c.inPushed ++ c.callback.inSlot).length

/-- The functions behind a submit, a pop and a copy hand nothing to libusb. -/
theorem InOrder.congr (h : InOrder c) (hsubmitted : c'.inSubmitted = c.inSubmitted)
    (hpushed : c'.inPushed = c.inPushed) (hcallback : c'.callback.inSlot = c.callback.inSlot)
    (hqueue : c'.inQueue = c.inQueue) (hcompletions : c'.completions = c.completions) :
    InOrder c' := by
  rw [InOrder, hsubmitted, hpushed, hcallback, hqueue, hcompletions]
  exact h

/-- The IN transfers are as before. -/
structure SameTransfers (c c' : Channel) : Prop where
  inSubmitted : c'.inSubmitted = c.inSubmitted
  inPushed : c'.inPushed = c.inPushed
  inQueue : c'.inQueue = c.inQueue
  completions : c'.completions = c.completions

theorem Channel.afterSubmit_sameTransfers (c : Channel) (result : Result) (after : AfterSubmit) :
    SameTransfers c (c.afterSubmit result after) := by
  cases after with
  | opening slot => constructor <;> rfl
  | copied bytes => constructor <;> rfl
  | requested capacity =>
    rw [Channel.afterSubmit]
    split <;> constructor <;> rfl
  | skipped capacity => constructor <;> rfl

theorem Channel.afterPop_sameTransfers (c : Channel) (slot capacity : ℕ) :
    SameTransfers c (c.afterPop slot capacity) := by
  unfold Channel.afterPop
  dsimp only
  split
  · split
    · constructor <;> rfl
    · split <;> constructor <;> rfl
  · constructor <;> rfl

theorem Channel.copyCurrent_sameTransfers (c : Channel) (slot capacity : ℕ) :
    SameTransfers c (c.copyCurrent slot capacity) := by
  unfold Channel.copyCurrent
  dsimp only
  split
  · split <;> constructor <;> rfl
  · constructor <;> rfl

namespace InOrder

/-- A step of the reader submits behind what libusb has. -/
theorem readStep (h : InOrder c) (hstep : ReadStep c c') : InOrder c' := by
  have hcallback : c'.callback.inSlot = c.callback.inSlot := by rw [hstep.writerKept.callback]
  have hkept : SameTransfers c c' → InOrder c' := fun hsame =>
    h.congr hsame.inSubmitted hsame.inPushed hcallback hsame.inQueue hsame.completions
  cases hstep with
  | copy => exact hkept (c.copyCurrent_sameTransfers _ _)
  | submit_lost => exact hkept (c.afterSubmit_sameTransfers _ _)
  | @accepted slot length after hpc =>
    have hsame := Channel.afterSubmit_sameTransfers { c with
      inQueue := c.inQueue ++ [slot]
      inSubmitted := c.inSubmitted ++ [slot]
      inSlots := fun s => if s = slot then { length } else c.inSlots s } .ok after
    have hsubmitted : c.inSubmitted ++ [slot] =
        c.inPushed ++ c.callback.inSlot ++ (c.inQueue ++ [slot]) := by
      rw [h.1, List.append_assoc _ c.inQueue]
    refine ⟨?_, ?_⟩
    · rw [hsame.inSubmitted, hsame.inPushed, hcallback, hsame.inQueue]
      exact hsubmitted
    · rw [hsame.completions, hsame.inPushed, hcallback]
      exact h.2
  | @mark_lost result after =>
    have hsame := Channel.afterSubmit_sameTransfers { c with lost := true } result after
    exact hkept ⟨hsame.inSubmitted, hsame.inPushed, hsame.inQueue, hsame.completions⟩
  | @pop slot capacity ring =>
    have hsame := Channel.afterPop_sameTransfers { c with
      readyIn := ring
      inPopped := c.inPopped ++ [slot] } slot capacity
    exact hkept ⟨hsame.inSubmitted, hsame.inPushed, hsame.inQueue, hsame.completions⟩
  | _ => exact hkept (by constructor <;> rfl)

/-- A callback takes the oldest transfer, and pushes it. -/
theorem callbackStep (h : InOrder c) (hfirst : CompletesFirst c c') (hstep : CallbackStep c c') :
    InOrder c' := by
  cases hstep with
  | @complete_in slot status received hpc =>
    have hnone : c.callback.inSlot = [] := by rw [hpc]; rfl
    obtain ⟨rest, hqueue⟩ := List.head?_eq_some_iff.mp (hfirst slot hpc rfl)
    obtain ⟨horder, hcount⟩ := h
    rw [hnone, List.append_nil] at horder hcount
    refine ⟨?_, ?_⟩
    · simp only [horder, hqueue, List.erase_cons_head, CallbackPc.inSlot, List.append_assoc,
        List.singleton_append]
    · simp only [List.length_append, List.length_singleton, hcount, CallbackPc.inSlot]
  | @push_in slot hpc =>
    have hone : c.callback.inSlot = [slot] := by rw [hpc]; rfl
    obtain ⟨horder, hcount⟩ := h
    rw [hone] at horder hcount
    refine ⟨?_, ?_⟩
    · simpa only [CallbackPc.inSlot, List.append_nil] using horder
    · simpa only [CallbackPc.inSlot, List.append_nil] using hcount
  | store_error hpc =>
    refine h.congr rfl rfl ?_ rfl rfl
    rw [hpc]
    dsimp only
    split <;> rfl
  | complete_out hpc => exact h.congr rfl rfl (by rw [hpc]; rfl) rfl rfl
  | fail_out _ _ hpc => exact h.congr rfl rfl (by rw [hpc]; rfl) rfl rfl
  | store_lost hpc => exact h.congr rfl rfl (by rw [hpc]; rfl) rfl rfl
  | push_out hpc => exact h.congr rfl rfl (by rw [hpc]; rfl) rfl rfl
  | finish hpc => exact h.congr rfl rfl (by rw [hpc]; rfl) rfl rfl

end InOrder

/-! ### Runs -/

/-- **A step of a run.** -/
theorem ReadsSound.step (h : ReadsSound c ready popped) (hin : InSound c ready)
    (hbehind : NothingBehind c.completions) (hstep : ChannelStep c c') :
    ∃ ready' popped', ReadsSound c' ready' popped' := by
  cases hstep with
  | read hstep => exact h.readStep hin hbehind hstep
  | write hstep => exact ⟨ready, popped, h.congr hstep.readerKept.sameReads⟩
  | callback hstep =>
    obtain ⟨ready', hnext⟩ := h.callbackStep hin hstep
    exact ⟨ready', popped, hnext⟩
  | lose => exact ⟨ready, popped, h.congr (by constructor <;> rfl)⟩

/-- A step of the reader completes nothing. -/
theorem ReadStep.completions_eq (h : ReadStep c c') : c'.completions = c.completions := by
  cases h with
  | copy => exact (c.copyCurrent_sameTransfers _ _).completions
  | submit_lost => exact (c.afterSubmit_sameTransfers _ _).completions
  | accepted => exact (Channel.afterSubmit_sameTransfers _ _ _).completions
  | mark_lost => exact (Channel.afterSubmit_sameTransfers _ _ _).completions
  | pop => exact (Channel.afterPop_sameTransfers _ _ _).completions
  | _ => rfl

theorem ChannelStep.completesOne (h : ChannelStep c c') : CompletesOne c c' := by
  cases h with
  | read hstep => exact .inl hstep.completions_eq
  | write hstep => exact .inl hstep.readerKept.completions
  | callback hstep =>
    cases hstep with
    | complete_in => exact .inr ⟨_, rfl⟩
    | _ => exact .inl rfl
  | lose => exact .inl rfl

/-- Nothing completes with data behind a failure. -/
theorem ReadsRun.nothingBehind {config : ChannelConfig} (h : ReadsRun config c) :
    NothingBehind c.completions := by
  induction h with
  | opened => exact .nil
  | step _ hstep _ hends ih => exact ih.step hstep.completesOne hends

/-- **The reads of a Channel are exact**, in every state of every run. -/
theorem ReadsRun.readsSound {config : ChannelConfig} (h : ReadsRun config c) :
    InOrder c ∧ ∃ ready popped, ReadsSound c ready popped := by
  induction h with
  | opened =>
    exact ⟨⟨rfl, rfl⟩, [], [], rfl, rfl, .clean nofun rfl nofun rfl, .nil⟩
  | @step c c' hrun hstep horder _ ih =>
    obtain ⟨hinOrder, ready, popped, hsound⟩ := ih
    obtain ⟨-, ⟨held, hin⟩, -, -⟩ := hrun.run.sound
    have hready : held = ready :=
      List.append_cancel_left (hin.order.symm.trans hsound.order)
    refine ⟨?_, hsound.step (hready ▸ hin) hrun.nothingBehind hstep⟩
    cases hstep with
    | read hstep => exact hinOrder.readStep hstep
    | write hstep =>
      have hkept := hstep.readerKept
      exact hinOrder.congr hkept.inSubmitted hkept.inPushed (by rw [hkept.callback]) hkept.inQueue
        hkept.completions
    | callback hstep => exact hinOrder.callbackStep horder hstep
    | lose => exact hinOrder

/-- What was popped and returned is what has completed. -/
theorem Stream.prefix_goodBytes (h : Stream c popped) (rest : List (TransferStatus × List UInt8)) :
    returnedBytes c.reads <+: goodBytes (popped ++ rest) := by
  cases h with
  | clean hgood _ _ hbytes =>
    refine List.IsPrefix.trans ?_ (Transport.prefix_goodBytes hgood)
    rw [← hbytes]
    exact List.prefix_append _ _
  | @failed good bad hpopped hgood hbad _ _ _ hbytes =>
    have hpayloads : goodBytes (popped ++ rest) = good.flatMap Prod.snd := by
      rw [hpopped, List.append_assoc, List.singleton_append, goodBytes_of_failed hgood hbad]
    exact (hbytes.trans hpayloads.symm) ▸ List.prefix_rfl
  | @reported good behind bad hpopped hgood hbad _ _ _ _ hbytes =>
    have hpayloads : goodBytes (popped ++ rest) = good.flatMap Prod.snd := by
      rw [hpopped, List.append_assoc, List.cons_append, goodBytes_of_failed hgood hbad]
    exact (hbytes.trans hpayloads.symm) ▸ List.prefix_rfl

/-- **The reads of a Channel neither skip nor repeat bytes**, in every run in which no transfer
completes with data behind one that has failed. -/
theorem ReadsRun.readsExact {config : ChannelConfig} (h : ReadsRun config c) : ReadsExact c := by
  obtain ⟨⟨horder, hcount⟩, ready, popped, hsound⟩ := h.readsSound
  refine ⟨horder, hcount, ?_, hsound.failures⟩
  rw [hsound.completions_eq]
  exact hsound.stream.prefix_goodBytes _

/-- A step that completes nothing. -/
theorem EndsAtFailure.of_eq (h : c'.completions = c.completions) : EndsAtFailure c c' := by
  intro completion heq
  rw [h] at heq
  exact absurd (congrArg List.length heq) (by simp)

/-- A completion before any failure, or one that has failed itself. -/
theorem EndsAtFailure.of_append {completion : TransferStatus × List UInt8}
    (heq : c'.completions = c.completions ++ [completion])
    (h : (∀ earlier ∈ c.completions, earlier.1 = .completed) ∨ completion.1 ≠ .completed) :
    EndsAtFailure c c' := by
  rintro other hother ⟨earlier, hmem, hfailed⟩ hcompleted
  rw [heq, List.append_cancel_left_eq, List.singleton_inj] at hother
  subst hother
  rcases h with hgood | hbad
  · exact absurd (hgood earlier hmem) hfailed
  · exact absurd hcompleted hbad

/-- A Channel that reads ahead. The two bytes of the first transfer are returned by two reads, and
the slot is submitted again. The second transfer fails, and the one behind it is cancelled: the next
read reports the failure, and the read after it fails as well. -/
theorem ReadsRun.readsExact_received :
    ∃ c : Channel, c.completions = [(.completed, [7, 8]), (.error, []), (.cancelled, [])] ∧
      c.inSubmitted = [0, 1, 0] ∧
      c.reads = [{ result := .ok, bytes := [7] }, { result := .ok, bytes := [8] },
        { result := .errIo, transferFailed := true },
        { result := .errNoDevice, transferFailed := true }] ∧ ReadsExact c := by
  have hzero := ((ReadsRun.opened.step (.read (@ReadStep.open_next (.opened streamConfig) 0 rfl
    (by decide))) nofun (.of_eq rfl)).step (.read (.submit rfl rfl)) nofun (.of_eq rfl)).step
    (.read (.accepted rfl)) nofun (.of_eq rfl)
  have hone := ((hzero.step (.read (@ReadStep.open_next _ 1 rfl (by decide))) nofun
    (.of_eq rfl)).step (.read (.submit rfl rfl)) nofun (.of_eq rfl)).step
    (.read (.accepted rfl)) nofun (.of_eq rfl)
  have hopen := hone.step (.read (@ReadStep.open_returns _ 2 rfl (by decide))) nofun (.of_eq rfl)
  -- The first transfer completes, and a read takes one of its bytes.
  have hreceived := ((hopen.step (.callback (@CallbackStep.complete_in _ 0 .completed [7, 8] rfl
    List.mem_cons_self)) (fun _ _ h => by cases h; rfl) (.of_append rfl (.inl (by decide)))).step
    (.callback (.push_in rfl)) nofun (.of_eq rfl)).step (.callback (.finish rfl)) nofun
    (.of_eq rfl)
  have hfirst := (((hreceived.step (.read (@ReadStep.read _ 1 rfl (by decide))) nofun
    (.of_eq rfl)).step (.read (.wait rfl rfl (by decide))) nofun (.of_eq rfl)).step
    (.read (@ReadStep.pop _ 0 1 { slots := [0, 0], head := 1, tail := 1 } rfl
      (by decide +kernel))) nofun (.of_eq rfl)).step (.read (.copy rfl rfl)) nofun (.of_eq rfl)
  have hsecond := (((hfirst.step (.read (@ReadStep.read _ 4 rfl (by decide))) nofun
    (.of_eq rfl)).step (.read (.copy rfl rfl)) nofun (.of_eq rfl)).step
    (.read (.submit rfl rfl)) nofun (.of_eq rfl)).step (.read (.accepted rfl)) nofun (.of_eq rfl)
  -- The transfer behind it fails, and the next one is cancelled.
  have hfailed := ((hsecond.step (.callback (@CallbackStep.complete_in _ 1 .error [] rfl
    List.mem_cons_self)) (fun _ _ h => by cases h; rfl) (.of_append rfl (.inl (by decide)))).step
    (.callback (.push_in rfl)) nofun (.of_eq rfl)).step (.callback (.finish rfl)) nofun
    (.of_eq rfl)
  have hcancelled := ((hfailed.step (.callback (@CallbackStep.complete_in _ 0 .cancelled [] rfl
    List.mem_cons_self)) (fun _ _ h => by cases h; rfl) (.of_append rfl (.inr nofun))).step
    (.callback (.push_in rfl)) nofun (.of_eq rfl)).step (.callback (.finish rfl)) nofun
    (.of_eq rfl)
  have hreported := ((((hcancelled.step (.read (@ReadStep.read _ 4 rfl (by decide))) nofun
    (.of_eq rfl)).step (.read (.wait rfl rfl (by decide))) nofun (.of_eq rfl)).step
    (.read (@ReadStep.pop _ 1 4 { slots := [0, 1], head := 2, tail := 3 } rfl
      (by decide +kernel))) nofun (.of_eq rfl)).step (.read (.failed_live rfl rfl)) nofun
    (.of_eq rfl)).step (.read (.lose rfl)) nofun (.of_eq rfl)
  have hlost := (((hreported.step (.read (@ReadStep.read _ 4 rfl (by decide))) nofun
    (.of_eq rfl)).step (.read (.wait rfl rfl (by decide))) nofun (.of_eq rfl)).step
    (.read (@ReadStep.pop _ 0 4 { slots := [0, 1], head := 3, tail := 3 } rfl
      (by decide +kernel))) nofun (.of_eq rfl)).step (.read (.failed_lost rfl rfl)) nofun
    (.of_eq rfl)
  exact ⟨_, rfl, rfl, rfl, ReadsRun.readsExact hlost⟩

/-- **A gap in the stream.** The first transfer of a Channel fails and is reported; the next read
returns the bytes of the one behind it. -/
theorem exists_orderedRun_gap :
    ∃ c, OrderedRun streamConfig c ∧
      c.completions = [(.error, []), (.completed, [7])] ∧
      c.reads = [{ result := .errIo, transferFailed := true }, { result := .ok, bytes := [7] }] ∧
      ¬ returnedBytes c.reads <+: goodBytes c.completions := by
  have hzero := ((OrderedRun.opened.step (.read (@ReadStep.open_next
    (.opened streamConfig) 0 rfl (by decide))) nofun).step (.read (.submit rfl rfl)) nofun).step
    (.read (.accepted rfl)) nofun
  have hone := ((hzero.step (.read (@ReadStep.open_next _ 1 rfl (by decide))) nofun).step
    (.read (.submit rfl rfl)) nofun).step (.read (.accepted rfl)) nofun
  have hopen := hone.step (.read (@ReadStep.open_returns _ 2 rfl (by decide))) nofun
  have hfailed := ((hopen.step (.callback (@CallbackStep.complete_in _ 0 .error [] rfl
    List.mem_cons_self)) (fun _ _ h => by cases h; rfl)).step (.callback (.push_in rfl)) nofun).step
    (.callback (.finish rfl)) nofun
  have hreceived := ((hfailed.step (.callback (@CallbackStep.complete_in _ 1 .completed [7] rfl
    List.mem_cons_self)) (fun _ _ h => by cases h; rfl)).step (.callback (.push_in rfl)) nofun).step
    (.callback (.finish rfl)) nofun
  have hfirst := ((((hreceived.step (.read (@ReadStep.read _ 4 rfl (by decide))) nofun).step
    (.read (.wait rfl rfl (by decide))) nofun).step (.read (@ReadStep.pop _ 0 4
      { slots := [0, 1], head := 1, tail := 2 } rfl (by decide +kernel))) nofun).step
    (.read (.failed_live rfl rfl)) nofun).step (.read (.lose rfl)) nofun
  have hsecond := ((((hfirst.step (.read (@ReadStep.read _ 4 rfl (by decide))) nofun).step
    (.read (.wait rfl rfl (by decide))) nofun).step (.read (@ReadStep.pop _ 1 4
      { slots := [0, 1], head := 2, tail := 2 } rfl (by decide +kernel))) nofun).step
    (.read (.copy rfl rfl)) nofun).step (.read (.submit_lost rfl rfl)) nofun
  exact ⟨_, hsecond, rfl, rfl, by decide⟩

end LibaoaHid.Transport

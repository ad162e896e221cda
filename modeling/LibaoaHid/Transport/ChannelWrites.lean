import LibaoaHid.Transport.Channel

/-!
# Resumed writes

What the writes of a Channel queue on the wire. A call queues the bytes that `out_written` counts,
in chunks, and behind all of them the zero-length packet, when the length of its data asks for one.

A write that times out before the zero-length packet has queued all of its data. The caller that
resumes it passes the empty rest, which asks for no packet: the stream ends as it should exactly
when no call of a resumed write is made with an empty rest.

## Main definitions

* `ChannelConfig.terminates`: the data that a write ends with a zero-length packet.
* `WriteReturn.Sound`, `Progress`: what a call has queued.
* `Resumed`: the calls of a resumed write.

## Main results

* `ChannelRun.writes_sound`: every call of every run.
* `ChannelRun.resumed_write_iff`.
-/

namespace LibaoaHid.Transport

/-! ### One call -/

/-- The test of `write` for a zero-length packet. -/
def ChannelConfig.terminates (config : ChannelConfig) (data : List UInt8) : Bool :=
  config.zeroLengthTermination && data.length != 0 && data.length % config.maxPacket == 0

/-- What a call that has returned queued: the bytes that `out_written` counts, and the zero-length
packet behind all data that asks for it. -/
structure WriteReturn.Sound (config : ChannelConfig) (ret : WriteReturn) : Prop where
  written_le : ret.written ≤ ret.data.length
  flatten_eq : ret.payloads.flatten = ret.data.take ret.written
  packets : ret.written < ret.data.length → config.maxPacket ∣ ret.written
  whole : ret.result = .ok → ret.written = ret.data.length
  terminated : ret.result = .ok → config.terminates ret.data = true →
    ret.payloads.getLast? = some []
  unterminated : ret.result ≠ .ok ∨ config.terminates ret.data = false → [] ∉ ret.payloads

/-- What a running call has queued up to some offset, before its zero-length packet. -/
structure Progress (config : ChannelConfig) (payloads : List (List UInt8)) (data : List UInt8)
    (offset : ℕ) : Prop where
  offset_le : offset ≤ data.length
  flatten_eq : payloads.flatten = data.take offset
  packets : offset < data.length → config.maxPacket ∣ offset
  unterminated : [] ∉ payloads

/-- The place of a writer and what it has queued. -/
inductive WriterSound (config : ChannelConfig) (payloads : List (List UInt8)) : WriterPc → Prop
  | idle : WriterSound config payloads .idle
  | starting (data : List UInt8) (h : payloads = []) :
      WriterSound config payloads (.starting data)
  | checking (data : List UInt8) (h : payloads = []) :
      WriterSound config payloads (.checking data)
  | writing {data : List UInt8} {offset : ℕ} (h : Progress config payloads data offset) :
      WriterSound config payloads (.writing data offset (config.terminates data))
  | terminated {data : List UInt8} (hflatten : payloads.flatten = data)
      (hlast : payloads.getLast? = some []) (hterminates : config.terminates data = true) :
      WriterSound config payloads (.writing data data.length false)
  | popping {data : List UInt8} {offset : ℕ} (h : Progress config payloads data offset)
      (hmore : offset < data.length ∨ config.terminates data = true) :
      WriterSound config payloads (.popping data offset (config.terminates data))
  | empty {data : List UInt8} {offset : ℕ} (h : Progress config payloads data offset)
      (hmore : offset < data.length ∨ config.terminates data = true) :
      WriterSound config payloads (.empty data offset (config.terminates data))
  | held {data : List UInt8} {offset : ℕ} (slot : ℕ) (h : Progress config payloads data offset)
      (hmore : offset < data.length ∨ config.terminates data = true) :
      WriterSound config payloads (.held data offset (config.terminates data) slot)
  | counted {data : List UInt8} {offset : ℕ} (slot : ℕ) (h : Progress config payloads data offset)
      (hmore : offset < data.length ∨ config.terminates data = true) :
      WriterSound config payloads (.counted data offset (config.terminates data) slot)
  | losing {data : List UInt8} {offset : ℕ} (h : Progress config payloads data offset) :
      WriterSound config payloads (.losing data offset)

/-- A call that fails has queued what it says, and no zero-length packet. -/
theorem Progress.sound {config : ChannelConfig} {payloads : List (List UInt8)} {data : List UInt8}
    {offset : ℕ} (h : Progress config payloads data offset) {result : Result}
    (hresult : result ≠ .ok) :
    WriteReturn.Sound config { data, result, written := offset, payloads } where
  written_le := h.offset_le
  flatten_eq := h.flatten_eq
  packets := h.packets
  whole := fun hok => absurd hok hresult
  terminated := fun hok => absurd hok hresult
  unterminated := fun _ => h.unterminated

/-- A call that has queued nothing yet. -/
theorem Progress.nil (config : ChannelConfig) (data : List UInt8) : Progress config [] data 0 where
  offset_le := Nat.zero_le _
  flatten_eq := rfl
  packets := fun _ => Nat.dvd_zero _
  unterminated := by simp

/-- A call that is refused before its loop has queued nothing. -/
theorem sound_of_refused {config : ChannelConfig} {data : List UInt8} {payloads : List (List UInt8)}
    {result : Result} (hpayloads : payloads = []) (hresult : result ≠ .ok) :
    WriteReturn.Sound config { data, result, written := 0, payloads } := by
  rw [hpayloads]
  exact (Progress.nil config data).sound hresult

theorem ChannelConfig.maxPacket_dvd_roundedBytes (config : ChannelConfig) :
    config.maxPacket ∣ config.roundedBytes := Nat.dvd_mul_left _ _

theorem ChannelConfig.roundedBytes_pos (config : ChannelConfig) : 0 < config.roundedBytes := by
  have hbytes := config.transferBytes_pos
  have hpacket := config.maxPacket_pos
  refine Nat.mul_pos (Nat.div_pos ?_ hpacket) hpacket
  omega

/-- **One more transfer.** A chunk of data carries the call on, and the chunk without data is the
zero-length packet. -/
theorem Progress.accepted {config : ChannelConfig} {payloads : List (List UInt8)}
    {data chunk : List UInt8} {offset : ℕ} (h : Progress config payloads data offset)
    (hmore : offset < data.length ∨ config.terminates data = true)
    (hchunk : chunk = (data.drop offset).take config.roundedBytes) :
    WriterSound config (payloads ++ [chunk])
      (.writing data (offset + chunk.length) (config.terminates data && chunk.length != 0)) := by
  have hlength : chunk.length = min config.roundedBytes (data.length - offset) := by
    rw [hchunk, List.length_take, List.length_drop]
  have hle := h.offset_le
  have hpos := config.roundedBytes_pos
  have hflatten : (payloads ++ [chunk]).flatten = data.take (offset + chunk.length) := by
    rw [List.flatten_concat, h.flatten_eq, List.take_add, hlength, hchunk]
    congr 1
    rw [List.take_eq_take_iff, List.length_drop]
    omega
  rcases Nat.lt_or_eq_of_le hle with hlt | heq
  · have hne : chunk.length ≠ 0 := by omega
    rw [bne_iff_ne.mpr hne, Bool.and_true]
    refine .writing ⟨by omega, hflatten, fun hmore => ?_, ?_⟩
    · have hwhole : chunk.length = config.roundedBytes := by omega
      rw [hwhole]
      exact Nat.dvd_add (h.packets hlt) config.maxPacket_dvd_roundedBytes
    · intro hmem
      rcases List.mem_append.mp hmem with hmem | hmem
      · exact h.unterminated hmem
      · rw [← List.mem_singleton.mp hmem, List.length_nil] at hne
        exact hne rfl
  · have hnil : chunk = [] := List.eq_nil_of_length_eq_zero (by omega)
    have hterminates := hmore.resolve_left (by omega)
    rw [hnil, List.length_nil, Nat.add_zero, heq, bne_self_eq_false, Bool.and_false]
    refine .terminated ?_ List.getLast?_concat hterminates
    rw [hnil, List.length_nil, Nat.add_zero, heq, List.take_length] at hflatten
    exact hflatten

/-! ### Runs -/

/-- All calls of a Channel, those that have returned and the running one. -/
structure WritesSound (c : Channel) : Prop where
  returned : ∀ ret ∈ c.writes, ret.Sound c.config
  running : WriterSound c.config c.payloads c.writer

/-- A call that returns is sound. -/
theorem WritesSound.writeReturns {c : Channel} (hreturned : ∀ ret ∈ c.writes, ret.Sound c.config)
    {data : List UInt8} {result : Result} {written : ℕ}
    (h : WriteReturn.Sound c.config { data, result, written, payloads := c.payloads }) :
    WritesSound (c.writeReturns data result written) where
  returned := by
    intro ret hmem
    rcases List.mem_append.mp hmem with hmem | hmem
    · exact hreturned ret hmem
    · rw [List.mem_singleton.mp hmem]
      exact h
  running := .idle

/-- A call that has nothing more to queue returns all of its data as written. -/
theorem WriterSound.done {config : ChannelConfig} {payloads : List (List UInt8)}
    {data : List UInt8} {offset : ℕ} {zeroLength : Bool}
    (h : WriterSound config payloads (.writing data offset zeroLength))
    (hdone : ¬ (offset < data.length ∨ zeroLength = true)) :
    WriteReturn.Sound config { data, result := .ok, written := offset, payloads } := by
  rw [not_or] at hdone
  cases h with
  | writing h =>
    have hterminates : config.terminates data = false := by simpa using hdone.2
    have heq : offset = data.length := Nat.le_antisymm h.offset_le (Nat.le_of_not_lt hdone.1)
    exact
      { written_le := h.offset_le
        flatten_eq := h.flatten_eq
        packets := h.packets
        whole := fun _ => heq
        terminated := fun _ hneeds => absurd hneeds (by simp [hterminates])
        unterminated := fun _ => h.unterminated }
  | terminated hflatten hlast hterminates =>
    exact
      { written_le := Nat.le_refl _
        flatten_eq := by rw [List.take_length]; exact hflatten
        packets := fun hlt => absurd hlt (Nat.lt_irrefl _)
        whole := fun _ => rfl
        terminated := fun _ _ => hlast
        unterminated := by simp [hterminates] }

/-- A step of the writer. -/
theorem WritesSound.writeStep {c c' : Channel} (h : WritesSound c) (hstep : WriteStep c c') :
    WritesSound c' := by
  have hrunning := h.running
  cases hstep with
  | write hpc => exact ⟨h.returned, .starting _ rfl⟩
  | start_lost hpc =>
    rw [hpc] at hrunning
    cases hrunning with
    | starting _ hnil => exact .writeReturns h.returned (sound_of_refused hnil nofun)
  | start hpc =>
    rw [hpc] at hrunning
    cases hrunning with
    | starting _ hnil => exact ⟨h.returned, .checking _ hnil⟩
  | earlier hpc herror =>
    rw [hpc] at hrunning
    cases hrunning with
    | checking _ hnil =>
      refine .writeReturns ?_ (sound_of_refused hnil herror)
      exact h.returned
  | checked hpc =>
    rw [hpc] at hrunning
    cases hrunning with
    | checking _ hnil =>
      refine ⟨h.returned, ?_⟩
      rw [hnil]
      exact .writing (.nil _ _)
  | done hpc hdone =>
    rw [hpc] at hrunning
    exact .writeReturns h.returned (hrunning.done hdone)
  | take_spare hpc hmore =>
    rw [hpc] at hrunning
    cases hrunning with
    | writing hprogress => exact ⟨h.returned, .held _ hprogress hmore⟩
    | terminated => exact absurd hmore (by simp)
  | no_spare hpc hmore =>
    rw [hpc] at hrunning
    cases hrunning with
    | writing hprogress => exact ⟨h.returned, .popping hprogress hmore⟩
    | terminated => exact absurd hmore (by simp)
  | pop hpc =>
    rw [hpc] at hrunning
    cases hrunning with
    | popping hprogress hmore => exact ⟨h.returned, .held _ hprogress hmore⟩
  | pop_empty hpc =>
    rw [hpc] at hrunning
    cases hrunning with
    | popping hprogress hmore => exact ⟨h.returned, .empty hprogress hmore⟩
  | empty_lost hpc =>
    rw [hpc] at hrunning
    cases hrunning with
    | empty hprogress => exact .writeReturns h.returned (hprogress.sound nofun)
  | timeout hpc =>
    rw [hpc] at hrunning
    cases hrunning with
    | empty hprogress => exact .writeReturns h.returned (hprogress.sound nofun)
  | poll_failed hpc _ hresult =>
    rw [hpc] at hrunning
    cases hrunning with
    | empty hprogress => exact .writeReturns h.returned (hprogress.sound hresult)
  | wake hpc =>
    rw [hpc] at hrunning
    cases hrunning with
    | empty hprogress hmore => exact ⟨h.returned, .popping hprogress hmore⟩
  | held_lost hpc =>
    rw [hpc] at hrunning
    cases hrunning with
    | held _ hprogress => exact ⟨h.returned, .losing hprogress⟩
  | submit hpc =>
    rw [hpc] at hrunning
    cases hrunning with
    | held _ hprogress hmore => exact ⟨h.returned, .counted _ hprogress hmore⟩
  | accepted hpc =>
    rw [hpc] at hrunning
    cases hrunning with
    | counted _ hprogress hmore => exact ⟨h.returned, hprogress.accepted hmore rfl⟩
  | rejected hpc hstatus =>
    rw [hpc] at hrunning
    cases hrunning with
    | counted _ hprogress =>
      refine .writeReturns ?_ (hprogress.sound (mapLibusbError_ne_ok hstatus false))
      exact h.returned
  | rejected_gone hpc =>
    rw [hpc] at hrunning
    cases hrunning with
    | counted _ hprogress => exact ⟨h.returned, .losing hprogress⟩
  | mark_lost hpc =>
    rw [hpc] at hrunning
    cases hrunning with
    | losing hprogress =>
      refine .writeReturns ?_ (hprogress.sound nofun)
      exact h.returned

/-- A step that the writer does not take. -/
theorem WritesSound.kept {c c' : Channel} (h : WritesSound c) (hconfig : c'.config = c.config)
    (hwriter : c'.writer = c.writer) (hwrites : c'.writes = c.writes)
    (hpayloads : c'.payloads = c.payloads) : WritesSound c' := by
  constructor
  · rw [hwrites, hconfig]
    exact h.returned
  · rw [hconfig, hpayloads, hwriter]
    exact h.running

/-- **Every call of every run is sound.** -/
theorem ChannelRun.writes_sound {config : ChannelConfig} {c : Channel} (h : ChannelRun config c) :
    c.config = config ∧ WritesSound c := by
  induction h with
  | opened => exact ⟨rfl, ⟨fun ret hmem => absurd hmem List.not_mem_nil, .idle⟩⟩
  | step _ hstep ih =>
    obtain ⟨hconfig, hsound⟩ := ih
    cases hstep with
    | read h =>
      have hkept := h.writerKept
      exact ⟨hkept.config.trans hconfig,
        hsound.kept hkept.config hkept.writer hkept.writes hkept.payloads⟩
    | write h => exact ⟨h.readerKept.config.trans hconfig, hsound.writeStep h⟩
    | callback h =>
      have hkept := h.threadsKept
      exact ⟨hkept.config.trans hconfig,
        hsound.kept hkept.config hkept.writer hkept.writes hkept.payloads⟩
    | lose => exact ⟨hconfig, hsound.kept rfl rfl rfl rfl⟩

/-! ### Resumed writes -/

/-- The calls of a resumed write: each that times out is followed by one with the rest of its data,
up to one that succeeds. -/
inductive Resumed : List UInt8 → List WriteReturn → Prop
  | done {ret : WriteReturn} (h : ret.result = .ok) : Resumed ret.data [ret]
  | resume {ret : WriteReturn} {calls : List WriteReturn} (h : ret.result = .errTimeout)
      (hrest : Resumed (ret.data.drop ret.written) calls) : Resumed ret.data (ret :: calls)

/-- The payloads of some calls, in their order on the wire. -/
def wire (calls : List WriteReturn) : List (List UInt8) := calls.flatMap (·.payloads)

/-- A resumed write as it should be: every call queues the bytes that it says, together they are the
data, and the zero-length packet ends them when one write of the data would have sent it. -/
structure WriteResumes (config : ChannelConfig) (data : List UInt8) (calls : List WriteReturn) :
    Prop where
  written : ∀ ret ∈ calls, ret.payloads.flatten = ret.data.take ret.written
  flatten_eq : (wire calls).flatten = data
  terminated : (wire calls).getLast? = some [] ↔ config.terminates data = true

variable {config : ChannelConfig} {data : List UInt8} {calls : List WriteReturn}

/-- All data of a resumed write is on the wire. -/
theorem Resumed.flatten_eq (h : Resumed data calls) (hsound : ∀ ret ∈ calls, ret.Sound config) :
    (wire calls).flatten = data := by
  induction h with
  | done hok =>
    have hret := hsound _ List.mem_cons_self
    rw [wire, List.flatMap_singleton, hret.flatten_eq, hret.whole hok, List.take_length]
  | resume _ _ ih =>
    have hret := hsound _ List.mem_cons_self
    have hrest := ih fun other hmem => hsound other (List.mem_cons_of_mem _ hmem)
    rw [wire] at hrest
    rw [wire, List.flatMap_cons, List.flatten_append, hret.flatten_eq, hrest,
      List.take_append_drop]

/-- The rest of a write asks for a zero-length packet as the whole does, unless it is empty. -/
theorem WriteReturn.Sound.terminates_drop {ret : WriteReturn} (h : ret.Sound config)
    (hrest : ret.data.drop ret.written ≠ []) :
    config.terminates (ret.data.drop ret.written) = config.terminates ret.data := by
  have hlt : ret.written < ret.data.length := by
    have hpos := List.length_pos_iff.mpr hrest
    rw [List.length_drop] at hpos
    omega
  obtain ⟨k, hk⟩ := h.packets hlt
  have hmod : (ret.data.length - ret.written) % config.maxPacket =
      ret.data.length % config.maxPacket := by
    have hle : config.maxPacket * k ≤ ret.data.length := by omega
    rw [hk, Nat.sub_mul_mod hle]
  have hne : ret.data.length - ret.written ≠ 0 := by omega
  have hdata : ret.data.length ≠ 0 := by omega
  simp only [ChannelConfig.terminates, List.length_drop, hmod, bne_iff_ne.mpr hne,
    bne_iff_ne.mpr hdata]

theorem ChannelConfig.terminates_nil : config.terminates [] = false := by
  simp [ChannelConfig.terminates]

theorem Resumed.exists_first (h : Resumed data calls) :
    ∃ first rest, calls = first :: rest ∧ first.data = data := by
  cases h with
  | done => exact ⟨_, _, rfl, rfl⟩
  | resume => exact ⟨_, _, rfl, rfl⟩

/-- The rest of an empty rest is empty. -/
theorem Resumed.data_eq_nil (h : Resumed data calls) (hdata : data = []) :
    ∀ ret ∈ calls, ret.data = [] := by
  induction h with
  | done =>
    intro ret hmem
    rw [List.mem_singleton.mp hmem, hdata]
  | resume _ _ ih =>
    intro ret hmem
    rcases List.mem_cons.mp hmem with rfl | hmem
    · exact hdata
    · exact ih (by rw [hdata, List.drop_nil]) ret hmem

/-- Every call asks for what the whole data asks, or has an empty rest. -/
theorem Resumed.terminates_cases (h : Resumed data calls)
    (hsound : ∀ ret ∈ calls, ret.Sound config) :
    ∀ ret ∈ calls, ret.data = [] ∨ config.terminates ret.data = config.terminates data := by
  induction h with
  | done =>
    intro ret hmem
    rw [List.mem_singleton.mp hmem]
    exact .inr rfl
  | @resume first rest _ hnext ih =>
    intro ret hmem
    rcases List.mem_cons.mp hmem with rfl | hmem
    · exact .inr rfl
    · by_cases hnil : first.data.drop first.written = []
      · exact .inl (hnext.data_eq_nil hnil ret hmem)
      · rw [← (hsound first List.mem_cons_self).terminates_drop hnil]
        exact ih (fun other hother => hsound other (List.mem_cons_of_mem _ hother)) ret hmem

/-- No zero-length packet is on the wire where no call that succeeds asks for one. -/
theorem nil_notMem_wire (hsound : ∀ ret ∈ calls, ret.Sound config)
    (h : ∀ ret ∈ calls, ret.result ≠ .ok ∨ config.terminates ret.data = false) :
    [] ∉ wire calls := by
  intro hmem
  obtain ⟨ret, hret, hnil⟩ := List.mem_flatMap.mp hmem
  exact (hsound ret hret).unterminated (h ret hret) hnil

/-- A resumed write with an empty rest ends without a zero-length packet. -/
theorem Resumed.nil_notMem_wire (h : Resumed data calls) (hsound : ∀ ret ∈ calls, ret.Sound config)
    (hempty : ∃ ret ∈ calls, ret.data = []) : [] ∉ wire calls := by
  induction h with
  | done =>
    refine Transport.nil_notMem_wire hsound fun ret hmem => .inr ?_
    obtain ⟨other, hother, hnil⟩ := hempty
    rw [List.mem_singleton.mp hother] at hnil
    rw [List.mem_singleton.mp hmem, hnil]
    exact ChannelConfig.terminates_nil
  | @resume first rest hresult hnext ih =>
    have hlater : ∃ ret ∈ rest, ret.data = [] := by
      obtain ⟨ret, hmem, hnil⟩ := hempty
      rcases List.mem_cons.mp hmem with rfl | hmem
      · obtain ⟨next, others, rfl, hdata⟩ := hnext.exists_first
        exact ⟨next, List.mem_cons_self, by rw [hdata, hnil, List.drop_nil]⟩
      · exact ⟨ret, hmem, hnil⟩
    intro hmem
    rw [wire, List.flatMap_cons, List.mem_append] at hmem
    rcases hmem with hmem | hmem
    · have hfailed : first.result ≠ .ok := by
        rw [hresult]
        nofun
      exact (hsound first List.mem_cons_self).unterminated (.inl hfailed) hmem
    · exact ih (fun other hother => hsound other (List.mem_cons_of_mem _ hother)) hlater hmem

/-- A resumed write whose rests are nonempty ends with the zero-length packet that its data asks
for. -/
theorem Resumed.getLast_wire (h : Resumed data calls) (hsound : ∀ ret ∈ calls, ret.Sound config)
    (hrests : ∀ ret ∈ calls, ret.data ≠ []) (hterminates : config.terminates data = true) :
    (wire calls).getLast? = some [] := by
  induction h with
  | done hok =>
    rw [wire, List.flatMap_singleton]
    exact (hsound _ List.mem_cons_self).terminated hok hterminates
  | @resume first rest _ hnext ih =>
    obtain ⟨next, others, rfl, hdata⟩ := hnext.exists_first
    have hne : first.data.drop first.written ≠ [] := by
      rw [← hdata]
      exact hrests next (List.mem_cons_of_mem _ List.mem_cons_self)
    have hrest := ih (fun other hother => hsound other (List.mem_cons_of_mem _ hother))
      (fun other hother => hrests other (List.mem_cons_of_mem _ hother))
      (by rw [(hsound first List.mem_cons_self).terminates_drop hne, hterminates])
    rw [wire] at hrest
    rw [wire, List.flatMap_cons, List.getLast?_append, hrest]
    rfl

/-- **A resumed write.** In every run of a Channel, the calls of a resumed write leave the stream
that one write would have left exactly when the data asks for no zero-length packet, or no call is
made with an empty rest. -/
theorem ChannelRun.resumed_write_iff {c : Channel} (h : ChannelRun config c)
    (hcalls : calls <:+: c.writes) (hresumed : Resumed data calls) :
    WriteResumes config data calls ↔
      config.terminates data = false ∨ ∀ ret ∈ calls, ret.data ≠ [] := by
  obtain ⟨hconfig, hwrites⟩ := h.writes_sound
  have hsound : ∀ ret ∈ calls, ret.Sound config := by
    intro ret hmem
    rw [← hconfig]
    exact hwrites.returned ret (hcalls.subset hmem)
  constructor
  · intro hstream
    by_cases hterminates : config.terminates data = true
    · refine .inr fun ret hmem hnil => ?_
      have hlast := hstream.terminated.mpr hterminates
      exact hresumed.nil_notMem_wire hsound ⟨ret, hmem, hnil⟩ (List.mem_of_getLast? hlast)
    · exact .inl (by simpa using hterminates)
  · intro hcondition
    refine ⟨fun ret hmem => (hsound ret hmem).flatten_eq, hresumed.flatten_eq hsound, ?_⟩
    constructor
    · intro hlast
      by_contra hterminates
      refine nil_notMem_wire hsound (fun ret hmem => .inr ?_) (List.mem_of_getLast? hlast)
      rcases hresumed.terminates_cases hsound ret hmem with hnil | hsame
      · rw [hnil]
        exact ChannelConfig.terminates_nil
      · rw [hsame]
        simpa using hterminates
    · intro hterminates
      refine hresumed.getLast_wire hsound (hcondition.resolve_left ?_) hterminates
      rw [hterminates]
      nofun

/-! ### A write that is resumed with nothing -/

/-- A write of two bytes that times out before its zero-length packet. -/
def timedOutWrite : WriteReturn where
  data := [1, 2]
  result := .errTimeout
  written := 2
  payloads := [[1, 2]]

/-- The write that resumes it. -/
def emptyWrite : WriteReturn where
  data := []
  result := .ok
  written := 0
  payloads := []

/-- A run with both writes, and a completion between them. -/
theorem exists_run_emptyWrite :
    ∃ c, ChannelRun smallConfig c ∧ c.writes = [timedOutWrite, emptyWrite] := by
  have hopen := ChannelRun.opened.step
    (.read (@ReadStep.open_returns (.opened smallConfig) 0 rfl (by decide)))
  have hcheck := ((hopen.step (.write (@WriteStep.write _ [1, 2] rfl rfl))).step
    (.write (.start rfl rfl))).step (.write (.checked rfl rfl))
  have hsent := (((hcheck.step (.write (.no_spare rfl (by decide) rfl))).step
    (.write (.pop rfl rfl))).step (.write (.submit rfl rfl))).step (.write (.accepted rfl))
  have htimeout := ((hsent.step (.write (.no_spare rfl (by decide) rfl))).step
    (.write (.pop_empty rfl rfl))).step (.write (.timeout rfl rfl))
  have hcompleted := ((htimeout.step (.callback (.complete_out rfl List.mem_cons_self))).step
    (.callback (.push_out rfl))).step (.callback (.finish rfl))
  have hresumed := (((hcompleted.step (.write (@WriteStep.write _ [] rfl rfl))).step
    (.write (.start rfl rfl))).step (.write (.checked rfl rfl))).step
    (.write (.done rfl (by decide)))
  exact ⟨_, hresumed, rfl⟩

theorem resumed_emptyWrite : Resumed [1, 2] [timedOutWrite, emptyWrite] :=
  @Resumed.resume timedOutWrite [emptyWrite] rfl (@Resumed.done emptyWrite rfl)

/-- The two writes leave the stream without the zero-length packet that one write would have
sent. -/
theorem not_writeResumes_emptyWrite :
    ∃ c, ChannelRun smallConfig c ∧ [timedOutWrite, emptyWrite] <:+: c.writes ∧
      Resumed [1, 2] [timedOutWrite, emptyWrite] ∧
      ¬ WriteResumes smallConfig [1, 2] [timedOutWrite, emptyWrite] := by
  obtain ⟨c, hrun, hwrites⟩ := exists_run_emptyWrite
  refine ⟨c, hrun, hwrites ▸ List.infix_rfl, resumed_emptyWrite, fun h => ?_⟩
  exact absurd (h.terminated.mpr (by decide)) (by decide)

/-- A write that timed out and the empty one that resumes it: they fall short of one whole write,
since its data fill their packets and one of the two has none. -/
theorem ChannelRun.resumed_write_iff_emptyWrite :
    WriteResumes smallConfig [1, 2] [timedOutWrite, emptyWrite] ↔
      smallConfig.terminates [1, 2] = false ∨
        ∀ ret ∈ [timedOutWrite, emptyWrite], ret.data ≠ [] := by
  obtain ⟨c, hrun, hwrites⟩ := exists_run_emptyWrite
  exact ChannelRun.resumed_write_iff hrun (hwrites ▸ List.infix_rfl)
    resumed_emptyWrite

end LibaoaHid.Transport

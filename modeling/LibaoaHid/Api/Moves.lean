import LibaoaHid.Api.SubmitFacts
import LibaoaHid.Api.System
import Mathlib.Logic.Relation

/-!
# Runs as sequences of moves

Every event of a run is a sequence of small moves: a pause that changes diagnostics only, a report
that goes out, a report that completes, and for a close also the neutral state and the release of
the Node. An invariant of runs is proved for these moves; the loops of the blocking calls and of
the close do not come up again.

## Main definitions

* `System.Fits`: the invariant of a Node and its wire.
* `System.ReportMove`, `System.CloseMove`.

## Main results

* `System.submit_moves`, `pollUntilIdle_moves`, `nodeSubmitBlocking_moves`, `nodeClose_moves`.
* `System.run_invariant`, `System.run_invariant_close`: the induction over runs.
-/

namespace LibaoaHid

open Relation

/-! ### The invariant -/

/-- **The invariant of a Node and its wire.** A report in flight carries the state of the Node. -/
structure System.Fits (s : System) : Prop where
  node : s.node.Fits
  inflight : s.node.transferInflight = s.inflight.isSome
  carries : ∀ report, s.inflight = some report → s.node.spec.Carries s.node.state report
  dirty : s.inflight.isSome → s.node.dirty = true
  nonNeutral : s.inflight.isSome → s.node.submittedNonNeutral = hasNonNeutralState s.node

/-! ### Moves -/

namespace System

/-- What a submit, a completion or the loop of a blocking call does to a Node and its wire. -/
inductive ReportMove : System → System → Prop
  | pause {s : System} {node : Node} (h : s.node.Same node) : ReportMove s { s with node }
  | send {s : System} {now : ℤ} {report : List UInt8} (hcallable : s.node.Callable)
      (hdirty : s.node.dirty = true) (hidle : s.inflight = none)
      (hcarries : s.node.spec.Carries (s.node.sent now).state report) :
      ReportMove s { s with node := s.node.sent now, inflight := some report }
  | finish {s : System} {report : List UInt8} {result : Result} {nativeStatus : ℤ}
      (hinflight : s.inflight = some report) (hnative : 0 ≤ nativeStatus) :
      ReportMove s
        { node := transferComplete s.node result nativeStatus
          wire := s.wire ++ [⟨report, result⟩]
          inflight := none }

/-- What a close does besides: the state is made neutral between two frames, and the Node is
released. -/
inductive CloseMove : System → System → Prop
  | report {s s' : System} (h : ReportMove s s') : CloseMove s s'
  | neutral {s : System} (hidle : s.inflight = none) (hopen : s.node.closed = false)
      (hframe : touchFrameInProgress s.node = false) :
      CloseMove s { s with node := makeNeutral s.node }
  | release {s : System} (hidle : s.inflight = none) :
      CloseMove s { s with node := { s.node with closed := true } }

variable {s s' : System}

theorem CloseMove.of_reports (h : ReflTransGen ReportMove s s') : ReflTransGen CloseMove s s' :=
  ReflTransGen.mono (fun _ _ h => CloseMove.report h) s s' h

theorem transferComplete_spec_dirty (node : Node) (result : Result) (nativeStatus : ℤ) :
    (transferComplete node result nativeStatus).spec = node.spec ∧
      (transferComplete node result nativeStatus).closed = node.closed ∧
      (transferComplete node result nativeStatus).transferInflight = false := by
  unfold transferComplete
  split <;> exact ⟨rfl, rfl, rfl⟩

/-- The result of the completion is stored until it is consumed. -/
theorem transferComplete_completionResult (node : Node) (result : Result) (nativeStatus : ℤ) :
    (transferComplete node result nativeStatus).completionResult = result := by
  unfold transferComplete
  split <;> rfl

theorem ReportMove.fits (h : ReportMove s s') (hfits : s.Fits) : s'.Fits := by
  cases h with
  | pause hsame =>
    exact
      { node := hsame.fits hfits.node
        inflight := hsame.transferInflight.trans hfits.inflight
        carries := fun report hreport => by
          rw [hsame.spec, hsame.state]
          exact hfits.carries report hreport
        dirty := fun hinflight => hsame.dirty.trans (hfits.dirty hinflight)
        nonNeutral := fun hinflight => by
          rw [hasNonNeutralState_congr hsame.spec hsame.state, hsame.nonNeutral]
          exact hfits.nonNeutral hinflight }
  | @send now report hcallable hdirty hidle hcarries =>
    exact
      { node := hfits.node.sent hdirty now
        inflight := by simp
        carries := fun other hother => by
          cases hother
          rw [Node.sent_spec]
          exact hcarries
        dirty := fun _ => by rw [Node.sent_dirty]; exact hdirty
        nonNeutral := fun _ => by
          have hcongr : hasNonNeutralState (s.node.sent now) = hasNonNeutralState
              { s.node with state := s.node.state.stamped s.node.spec.config now } :=
            hasNonNeutralState_congr (Node.sent_spec s.node now) (Node.sent_state s.node now)
          rw [Node.sent_submittedNonNeutral, hcongr] }
  | finish hinflight hnative =>
    have hbusy : s.node.transferInflight = true := by rw [hfits.inflight, hinflight]; rfl
    exact
      { node := hfits.node.transferComplete hbusy _ _
        inflight := (transferComplete_spec_dirty _ _ _).2.2
        carries := fun report hreport => by simp at hreport
        dirty := fun h => by simp at h
        nonNeutral := fun h => by simp at h }

theorem CloseMove.fits (h : CloseMove s s') (hfits : s.Fits) : s'.Fits := by
  cases h with
  | report h => exact h.fits hfits
  | neutral hidle hopen hframe =>
    exact
      { node := hfits.node.makeNeutral
        inflight := hfits.inflight
        carries := fun report hreport => by simp [hidle] at hreport
        dirty := fun h => by simp [hidle] at h
        nonNeutral := fun h => by simp [hidle] at h }
  | release hidle =>
    exact
      { node := hfits.node.of_closed
        inflight := hfits.inflight
        carries := hfits.carries
        dirty := fun h => by simp [hidle] at h
        nonNeutral := fun h => by simp [hidle] at h }

/-- The moves leave the Spec. -/
theorem ReportMove.spec_eq (h : ReportMove s s') : s'.node.spec = s.node.spec := by
  cases h with
  | pause hsame => exact hsame.spec
  | send => exact Node.sent_spec _ _
  | finish => exact (transferComplete_spec_dirty _ _ _).1

theorem CloseMove.spec_eq (h : CloseMove s s') : s'.node.spec = s.node.spec := by
  cases h with
  | report h => exact h.spec_eq
  | neutral => rfl
  | release => rfl

theorem ReportMove.closed_eq (h : ReportMove s s') : s'.node.closed = s.node.closed := by
  cases h with
  | pause hsame => exact hsame.closed
  | send => exact Node.sent_closed _ _
  | finish => exact (transferComplete_spec_dirty _ _ _).2.1

theorem reports_closed_eq (h : ReflTransGen ReportMove s s') :
    s'.node.closed = s.node.closed := by
  induction h with
  | refl => rfl
  | tail _ hmove ih => exact hmove.closed_eq.trans ih

theorem reports_spec_eq (h : ReflTransGen ReportMove s s') : s'.node.spec = s.node.spec := by
  induction h with
  | refl => rfl
  | tail _ hmove ih => exact hmove.spec_eq.trans ih

theorem reports_fits (h : ReflTransGen ReportMove s s') (hfits : s.Fits) : s'.Fits := by
  induction h with
  | refl => exact hfits
  | tail _ hmove ih => exact hmove.fits ih

/-- A wire only grows. -/
theorem ReportMove.wire_prefix (h : ReportMove s s') : s.wire <+: s'.wire := by
  cases h with
  | pause | send => exact List.prefix_rfl
  | finish => exact List.prefix_append _ _

theorem CloseMove.wire_prefix (h : CloseMove s s') : s.wire <+: s'.wire := by
  cases h with
  | report h => exact h.wire_prefix
  | neutral | release => exact List.prefix_rfl

/-! ### Events -/

theorem submit_move (hfits : s.Fits) (env : SubmitEnv) : ReportMove s (s.submit env).2 := by
  unfold submit
  dsimp only
  rcases nodeSubmit_cases hfits.node env with
    ⟨hnone, hsame⟩ | ⟨report, heq, hcallable, hdirty, hcarries⟩
  · rw [hnone, Option.none_or]
    exact .pause hsame
  · have hidle : s.inflight = none := by
      have := hfits.inflight
      rw [hcallable.idle] at this
      exact Option.isNone_iff_eq_none.mp (by simpa using this.symm)
    rw [heq, hidle]
    exact .send hcallable hdirty hidle hcarries

theorem submit_moves (hfits : s.Fits) (env : SubmitEnv) :
    ReflTransGen ReportMove s (s.submit env).2 :=
  ReflTransGen.single (submit_move hfits env)

theorem consume_moves (s : System) (field : String) :
    ReflTransGen ReportMove s (s.consume field).2 :=
  ReflTransGen.single (.pause (same_consumeCompletion s.node field))

theorem complete_eq {report : List UInt8} (h : s.inflight = some report)
    (status : TransferStatus) (actualLength : ℕ) :
    s.complete status actualLength =
      { node := transferComplete s.node (completionResult status actualLength report.length)
          status.nativeStatus
        wire := s.wire ++ [⟨report, completionResult status actualLength report.length⟩]
        inflight := none } := by
  unfold complete
  rw [h]

theorem complete_moves (s : System) (status : TransferStatus) (actualLength : ℕ) :
    ReflTransGen ReportMove s (s.complete status actualLength) := by
  cases hinflight : s.inflight with
  | none =>
    unfold complete
    rw [hinflight]
  | some report =>
    rw [complete_eq hinflight]
    exact ReflTransGen.single (.finish hinflight status.nativeStatus_nonneg)

theorem poll_moves (s : System) (turn : PollTurn) : ReflTransGen ReportMove s (s.poll turn) := by
  unfold poll
  split
  · exact ReflTransGen.refl
  · exact s.complete_moves _ _

end System

open LibaoaHid.System

/-! ### Loops -/

/-- Where a loop ends with success: nothing is in flight and nothing is pending. -/
structure System.Settled (s : System) : Prop where
  idle : s.inflight = none
  clean : s.node.dirty = false

/-- One turn of the loop: its moves, and what its success means. -/
theorem pollTurn_moves {s : System} (hfits : s.Fits) (turn : PollTurn) :
    ReflTransGen ReportMove s (pollTurn s turn).2 ∧
      ∀ reply, (pollTurn s turn).1 = some reply → reply.result = .ok →
        (pollTurn s turn).2.Settled := by
  have hpolled (s₁ : System) (hmoves : ReflTransGen ReportMove s s₁) :
      ReflTransGen ReportMove s (s₁.poll turn) ∧
        ∀ reply, turn.eventError.map (·.reply) = some reply → reply.result = .ok →
          (s₁.poll turn).Settled := by
    refine ⟨hmoves.trans (s₁.poll_moves turn), fun reply hreply hok => ?_⟩
    obtain ⟨refusal, -, rfl⟩ := Option.map_eq_some_iff.mp hreply
    exact absurd hok refusal.failed
  have hconsume := s.consume_moves "node.completion"
  have hconsumed := reports_fits hconsume hfits
  unfold pollTurn
  simp only [pollTurn_waits]
  split
  · exact hpolled s ReflTransGen.refl
  next hidle =>
  split
  next hfailed => exact ⟨hconsume, fun reply hreply hok => by
    cases hreply
    exact absurd hok hfailed⟩
  split
  next hclean =>
    refine ⟨hconsume, fun reply hreply _ => ⟨?_, by simpa using hclean⟩⟩
    have := hfits.inflight
    rw [Bool.not_eq_true] at hidle
    rw [hidle] at this
    change s.inflight = none
    exact Option.isNone_iff_eq_none.mp (by simpa using this.symm)
  next hdirty =>
  have hsubmit := hconsume.trans (submit_moves hconsumed turn.submit)
  split
  next hfailed => exact ⟨hsubmit, fun reply hreply hok => by
    cases hreply
    exact absurd hok hfailed.1⟩
  · exact hpolled _ hsubmit

theorem pollLoop_moves : {rest : List PollTurn} → {s : System} → {turn : PollTurn} → s.Fits →
    ReflTransGen ReportMove s (pollLoop s turn rest).2 ∧
      ((pollLoop s turn rest).1.result = .ok → (pollLoop s turn rest).2.Settled)
  | [], s, turn, hfits => by
    obtain ⟨hmoves, hsettled⟩ := pollTurn_moves hfits turn
    unfold pollLoop
    split
    next reply s' heq =>
      rw [heq] at hmoves hsettled
      exact ⟨hmoves, hsettled reply rfl⟩
    next s' heq =>
      rw [heq] at hmoves
      exact ⟨hmoves, fun h => by simp at h⟩
  | next :: rest, s, turn, hfits => by
    obtain ⟨hmoves, hsettled⟩ := pollTurn_moves hfits turn
    unfold pollLoop
    split
    next reply s' heq =>
      rw [heq] at hmoves hsettled
      exact ⟨hmoves, hsettled reply rfl⟩
    next s' heq =>
      rw [heq] at hmoves
      obtain ⟨hrest, hok⟩ :=
        pollLoop_moves (reports_fits hmoves hfits)
      exact ⟨hmoves.trans hrest, hok⟩

theorem pollUntilIdle_moves {s : System} (hfits : s.Fits) (script : PollScript) :
    ReflTransGen ReportMove s (pollUntilIdle s script).2 ∧
      ((pollUntilIdle s script).1.result = .ok → (pollUntilIdle s script).2.Settled) := by
  unfold pollUntilIdle
  split
  next refusal _ => exact ⟨ReflTransGen.refl, fun h => absurd h refusal.failed⟩
  · exact pollLoop_moves hfits

theorem nodeSubmitBlocking_moves {s : System} (hfits : s.Fits) (script : Option PollScript) :
    ReflTransGen ReportMove s (nodeSubmitBlocking s script).2 := by
  unfold nodeSubmitBlocking
  split
  · exact ReflTransGen.refl
  · split
    · exact ReflTransGen.refl
    · exact (pollUntilIdle_moves hfits _).1

/-! ### Completions in a loop -/

/-- Since a point of the wire every completion was `AOAHID_OK`. -/
def System.OkSince (start : ℕ) (s : System) : Prop :=
  start ≤ s.wire.length ∧ ∀ t ∈ s.wire.drop start, t.result = .ok

/-- Since a point of the wire every completion was `AOAHID_OK`, or the last one was not and waits
to be consumed. -/
def System.WatchedSince (start : ℕ) (s : System) : Prop :=
  s.OkSince start ∨ start ≤ s.wire.length ∧ s.inflight = none ∧ s.node.completionResult ≠ .ok

namespace System

variable {s : System} {start : ℕ}

theorem OkSince.complete (h : s.OkSince start) (status : TransferStatus) (actualLength : ℕ) :
    (s.complete status actualLength).WatchedSince start := by
  unfold System.complete
  split
  · exact Or.inl h
  next report hinflight =>
    have hlength : start ≤ (s.wire ++ [Transmission.mk report
        (completionResult status actualLength report.length)]).length := by
      have := h.1
      simp only [List.length_append, List.length_singleton]
      omega
    by_cases hok : completionResult status actualLength report.length = .ok
    · refine Or.inl ⟨hlength, fun t ht => ?_⟩
      rw [List.drop_append_of_le_length h.1] at ht
      rcases List.mem_append.mp ht with ht | ht
      · exact h.2 t ht
      · rw [List.mem_singleton.mp ht]
        exact hok
    · exact Or.inr ⟨hlength, rfl, (transferComplete_completionResult _ _ _).trans_ne hok⟩

theorem OkSince.poll (h : s.OkSince start) (turn : PollTurn) :
    (s.poll turn).WatchedSince start := by
  unfold System.poll
  split
  · exact Or.inl h
  · exact h.complete _ _

/-- A turn consumes the completion before it goes on. -/
theorem WatchedSince.pollTurn (h : s.WatchedSince start) (hfits : s.Fits) (turn : PollTurn) :
    ((LibaoaHid.pollTurn s turn).1 = none → (LibaoaHid.pollTurn s turn).2.WatchedSince start) ∧
      ∀ reply, (LibaoaHid.pollTurn s turn).1 = some reply → reply.result = .ok →
        (LibaoaHid.pollTurn s turn).2.OkSince start := by
  have hpolled (s₁ : System) (h₁ : s₁.OkSince start) :
      (turn.eventError.map (·.reply) = none → (s₁.poll turn).WatchedSince start) ∧
        ∀ reply, turn.eventError.map (·.reply) = some reply → reply.result = .ok →
          (s₁.poll turn).OkSince start := by
    refine ⟨fun _ => h₁.poll turn, fun reply hreply hok => ?_⟩
    obtain ⟨refusal, -, rfl⟩ := Option.map_eq_some_iff.mp hreply
    exact absurd hok refusal.failed
  unfold LibaoaHid.pollTurn
  simp only [pollTurn_waits]
  split
  next hinflight =>
    have hsome := hfits.inflight.symm.trans hinflight
    refine hpolled s (h.resolve_right ?_)
    rintro ⟨-, hnone, -⟩
    rw [hnone] at hsome
    simp at hsome
  split
  next hfailed => exact ⟨fun hnone => by simp at hnone, fun reply hreply hok => by
    cases hreply
    exact absurd hok hfailed⟩
  next hconsumed =>
  have hok : s.OkSince start := by
    refine h.resolve_right ?_
    rintro ⟨-, -, hresult⟩
    refine hconsumed ?_
    unfold System.consume consumeCompletion
    dsimp only
    rw [if_neg hresult]
    exact hresult
  split
  · exact ⟨fun hnone => by simp at hnone, fun _ _ _ => hok⟩
  split
  next hfailed => exact ⟨fun hnone => by simp at hnone, fun reply hreply hok => by
    cases hreply
    exact absurd hok hfailed.1⟩
  · exact hpolled _ hok

theorem WatchedSince.pollLoop : {rest : List PollTurn} → {s : System} → {turn : PollTurn} →
    s.WatchedSince start → s.Fits → (LibaoaHid.pollLoop s turn rest).1.result = .ok →
    (LibaoaHid.pollLoop s turn rest).2.OkSince start
  | [], s, turn, h, hfits => by
    obtain ⟨-, hok⟩ := h.pollTurn hfits turn
    unfold LibaoaHid.pollLoop
    split
    next reply s' heq =>
      rw [heq] at hok
      exact hok reply rfl
    · exact fun h => by simp at h
  | next :: rest, s, turn, h, hfits => by
    obtain ⟨hwatched, hok⟩ := h.pollTurn hfits turn
    have hmoves := (pollTurn_moves hfits turn).1
    unfold LibaoaHid.pollLoop
    split
    next reply s' heq =>
      rw [heq] at hok
      exact hok reply rfl
    next s' heq =>
      rw [heq] at hwatched hmoves
      exact (hwatched rfl).pollLoop (reports_fits hmoves hfits)

/-- **A blocking loop that succeeds has seen no other completion than `AOAHID_OK`.** -/
theorem okSince_pollUntilIdle (hfits : s.Fits) (script : PollScript)
    (hok : (pollUntilIdle s script).1.result = .ok) :
    (pollUntilIdle s script).2.OkSince s.wire.length := by
  unfold pollUntilIdle at hok ⊢
  split at hok
  next refusal _ => exact absurd hok refusal.failed
  · exact WatchedSince.pollLoop (Or.inl ⟨le_rfl, by simp⟩) hfits hok

end System

/-! ### Closing -/

/-- A Node between two frames, without a report in flight. -/
structure System.Resting (s : System) : Prop where
  idle : s.inflight = none
  frame : touchFrameInProgress s.node = false

/-- A Node that has nothing pending is between two frames. -/
theorem System.Settled.resting {s : System} (h : s.Settled) (hfits : s.Fits) : s.Resting := by
  refine ⟨h.idle, ?_⟩
  unfold touchFrameInProgress
  split
  next touch hs =>
    by_contra hcursor
    have := hfits.node.frame touch hs (by simpa using hcursor)
    rw [h.clean] at this
    simp at this
  · rfl

theorem releaseNode_moves {s : System} (hidle : s.inflight = none) (env : CloseEnv) :
    ReflTransGen CloseMove s (releaseNode s env).2 := by
  unfold releaseNode
  split
  · exact ReflTransGen.refl
  · exact ReflTransGen.single (.release hidle)

/-- What the successful close of a present device has done: the neutral state was made between
two frames, and reports were delivered until nothing was pending. -/
structure System.ClosedNeutral (s s' : System) : Prop where
  resting : s.Resting
  opened : s.node.closed = false
  neutral : ∃ settled, ReflTransGen ReportMove { s with node := makeNeutral s.node } settled ∧
    settled.OkSince s.wire.length ∧ settled.Settled ∧
      s' = { settled with node := { settled.node with closed := true } }

theorem System.Fits.makeNeutral {s : System} (hfits : s.Fits) (h : s.Resting)
    (hopen : s.node.closed = false) : System.Fits { s with node := makeNeutral s.node } :=
  (CloseMove.neutral h.idle hopen h.frame).fits hfits

theorem neutralizeAndUnregister_moves {s : System} (hfits : s.Fits) (hresting : s.Resting)
    (hopen : s.node.closed = false) (env : CloseEnv) :
    ReflTransGen CloseMove s (neutralizeAndUnregister s env).2 ∧
      ((neutralizeAndUnregister s env).1 = none →
        ReflTransGen ReportMove { s with node := makeNeutral s.node }
          (neutralizeAndUnregister s env).2 ∧
        (neutralizeAndUnregister s env).2.OkSince s.wire.length ∧
        (neutralizeAndUnregister s env).2.Settled) ∧
      ∀ reply, (neutralizeAndUnregister s env).1 = some reply → reply.result ≠ .ok := by
  have hfitsNeutral := hfits.makeNeutral hresting hopen
  obtain ⟨hmoves, hsettled⟩ := pollUntilIdle_moves hfitsNeutral env.neutral
  have hsince := okSince_pollUntilIdle hfitsNeutral env.neutral
  have hneutral : CloseMove s { s with node := makeNeutral s.node } :=
    .neutral hresting.idle hopen hresting.frame
  have hclose := (ReflTransGen.single hneutral).trans (CloseMove.of_reports hmoves)
  unfold neutralizeAndUnregister
  dsimp only
  split
  next hfailed =>
    refine ⟨hclose, fun h => by simp at h, fun reply hreply => ?_⟩
    cases hreply
    unfold drainFailure
    split_ifs
    · simp
    · exact hfailed
  next hok =>
  have hsince := hsince (not_not.mp hok)
  have hok := hsettled (not_not.mp hok)
  split
  next error _ =>
    split
    · refine ⟨hclose, fun h => by simp at h, fun reply hreply => ?_⟩
      cases hreply
      exact error.failed
    · exact ⟨hclose, fun _ => ⟨hmoves, hsince, hok⟩, fun reply hreply => by simp at hreply⟩
  · exact ⟨hclose, fun _ => ⟨hmoves, hsince, hok⟩, fun reply hreply => by simp at hreply⟩

/-- The drain in front of a close. -/
theorem drain_moves {s : System} (hfits : s.Fits) (env : CloseEnv) {reply : Reply}
    {s' : System} (h : (if s.node.transferInflight = true ∨ touchFrameInProgress s.node = true then
      pollUntilIdle s env.drain else (Reply.ok, s)) = (reply, s')) :
    ReflTransGen ReportMove s s' ∧ (reply.result = .ok → s'.Resting) := by
  split at h
  · obtain ⟨hmoves, hsettled⟩ := pollUntilIdle_moves hfits env.drain
    rw [h] at hmoves hsettled
    exact ⟨hmoves, fun hok => (hsettled hok).resting (reports_fits hmoves hfits)⟩
  next hresting =>
    cases h
    simp only [not_or, Bool.not_eq_true] at hresting
    refine ⟨ReflTransGen.refl, fun _ => ⟨?_, hresting.2⟩⟩
    have := hfits.inflight
    rw [hresting.1] at this
    exact Option.isNone_iff_eq_none.mp (by simpa using this.symm)

/-- **The moves of a close**, and what its success means for a device that is present. -/
theorem nodeClose_moves {s : System} (hfits : s.Fits) (env : CloseEnv) :
    ReflTransGen CloseMove s (nodeClose s env).2 ∧
      (env.present = true → (nodeClose s env).1.result = .ok →
        ∃ drained, ReflTransGen ReportMove s drained ∧
          drained.ClosedNeutral (nodeClose s env).2) := by
  unfold nodeClose
  split
  · exact ⟨ReflTransGen.refl, fun _ h => by simp at h⟩
  next hopen =>
  simp only [not_or, Bool.not_eq_true] at hopen
  generalize hdrain : (if s.node.transferInflight = true ∨ touchFrameInProgress s.node = true then
    pollUntilIdle s env.drain else (Reply.ok, s)) = drained
  obtain ⟨reply, s₁⟩ := drained
  obtain ⟨hmoves, hresting⟩ := drain_moves hfits env hdrain
  dsimp only
  split
  next hfailed =>
    refine ⟨CloseMove.of_reports hmoves, fun _ hok => absurd hok ?_⟩
    unfold drainFailure
    split_ifs
    · simp
    · exact hfailed
  next hok =>
  have hresting := hresting (not_not.mp hok)
  have hfits₁ := reports_fits hmoves hfits
  have hconsume := s₁.consume_moves "node.completion"
  have hresting₂ : (s₁.consume "node.completion").2.Resting := by
    refine ⟨hresting.idle, ?_⟩
    have hstate : (s₁.consume "node.completion").2.node.state = s₁.node.state :=
      (same_consumeCompletion s₁.node "node.completion").state
    have hframe := hresting.frame
    unfold touchFrameInProgress at hframe ⊢
    rwa [hstate]
  generalize hconsumed : s₁.consume "node.completion" = consumed at hconsume hresting₂
  obtain ⟨terminal, s₂⟩ := consumed
  dsimp only at hconsume hresting₂ ⊢
  have hreports := hmoves.trans hconsume
  have hfits₂ := reports_fits hconsume hfits₁
  have hopen₂ : s₂.node.closed = false := (reports_closed_eq hreports).trans hopen.1
  split
  next hfailed => exact ⟨CloseMove.of_reports hreports, fun _ h => absurd h hfailed⟩
  split
  next hpresent =>
    obtain ⟨hclose, hok, hfailed⟩ := neutralizeAndUnregister_moves hfits₂ hresting₂ hopen₂ env
    split
    next reply' s₃ heq =>
      rw [heq] at hclose hfailed
      exact ⟨(CloseMove.of_reports hreports).trans hclose,
        fun _ h => absurd h (hfailed reply' rfl)⟩
    next s₃ heq =>
      rw [heq] at hclose hok
      obtain ⟨hsent, hsince, hsettled⟩ := hok rfl
      refine ⟨((CloseMove.of_reports hreports).trans hclose).trans
        (releaseNode_moves hsettled.idle env), fun _ h => ?_⟩
      refine ⟨s₂, hreports, hresting₂, hopen₂, s₃, hsent, hsince, hsettled, ?_⟩
      unfold releaseNode at h ⊢
      split at h
      next error _ => exact absurd h error.failed
      · rfl
  next habsent =>
    exact ⟨(CloseMove.of_reports hreports).trans (releaseNode_moves hresting₂.idle env),
      fun hpresent => absurd hpresent habsent⟩

/-! ### Runs -/

namespace System

/-- What one event does, apart from a profile call. -/
theorem step_moves {s : System} (hfits : s.Fits) {e : Event} (hcall : ∀ c link, e ≠ .call c link) :
    ReflTransGen CloseMove s (s.step e) ∧
      (e.isClose = false → ReflTransGen ReportMove s (s.step e)) := by
  cases e with
  | call c link => exact absurd rfl (hcall c link)
  | submit env =>
    have h := submit_moves hfits env
    exact ⟨CloseMove.of_reports h, fun _ => h⟩
  | submitBlocking script =>
    have h := nodeSubmitBlocking_moves hfits script
    exact ⟨CloseMove.of_reports h, fun _ => h⟩
  | complete status actualLength =>
    have h := s.complete_moves status actualLength
    exact ⟨CloseMove.of_reports h, fun _ => h⟩
  | close env => exact ⟨(nodeClose_moves hfits env).1, fun h => by simp [Event.isClose] at h⟩

/-- A profile call. -/
theorem Fits.call {s : System} (hfits : s.Fits) (c : Call) (link : Link) :
    (s.call c link).2.Fits := by
  have hnode := hfits.node.perform c link
  rcases c.perform_cases hfits.node.fitting link with
    ⟨reply, -, heq⟩ | ⟨state, changed, hcallable, hstep, heq⟩
  · unfold System.call
    rw [heq]
    exact hfits
  · have hidle : s.inflight = none := by
      have := hfits.inflight
      rw [hcallable.idle] at this
      exact Option.isNone_iff_eq_none.mp (by simpa using this.symm)
    unfold System.call
    rw [heq] at hnode ⊢
    exact
      { node := hnode
        inflight := hfits.inflight
        carries := fun report hreport => by simp [hidle] at hreport
        dirty := fun h => by simp [hidle] at h
        nonNeutral := fun h => by simp [hidle] at h }

/-- One step of a Node: a profile call, or a move of a submit, a completion or a close. -/
inductive Move : System → System → Prop
  | call {s : System} (c : Call) (link : Link) : Move s (s.call c link).2
  | close {s s' : System} (h : CloseMove s s') : Move s s'

theorem Move.fits {s s' : System} (h : Move s s') (hfits : s.Fits) : s'.Fits := by
  cases h with
  | call c link => exact hfits.call c link
  | close h => exact h.fits hfits

/-- A move completes at most one report. -/
theorem Move.wire_cases {s s' : System} (h : Move s s') :
    s'.wire = s.wire ∨ ∃ t, s'.wire = s.wire ++ [t] := by
  cases h with
  | call c link => exact Or.inl rfl
  | close h =>
    cases h with
    | report h =>
      cases h with
      | pause | send => exact Or.inl rfl
      | finish => exact Or.inr ⟨_, rfl⟩
    | neutral | release => exact Or.inl rfl

theorem Move.wire_prefix {s s' : System} (h : Move s s') : s.wire <+: s'.wire := by
  rcases h.wire_cases with heq | ⟨t, heq⟩
  · exact heq ▸ List.prefix_rfl
  · exact heq ▸ List.prefix_append _ _

/-- A property that every move keeps holds behind all of them. -/
theorem moves_invariant {P : System → Prop} (hmove : ∀ s s', s.Fits → P s → Move s s' → P s')
    {s s' : System} (h : ReflTransGen Move s s') (hfits : s.Fits) (hs : P s) : s'.Fits ∧ P s' := by
  induction h with
  | refl => exact ⟨hfits, hs⟩
  | tail _ hstep ih => exact ⟨hstep.fits ih.1, hmove _ _ ih.1 ih.2 hstep⟩

/-- **The moves of a run.** The states inside of the loops and of a close are states of the
moves. -/
theorem run_moves : (events : List Event) → {s : System} → s.Fits →
    ReflTransGen Move s (s.run events)
  | [], _, _ => ReflTransGen.refl
  | e :: events, s, hfits => by
    have hnext : ReflTransGen Move s (s.step e) := by
      by_cases hc : ∃ c link, e = .call c link
      · obtain ⟨c, link, rfl⟩ := hc
        exact ReflTransGen.single (.call c link)
      · have hmoves := (step_moves hfits fun c link he => hc ⟨c, link, he⟩).1
        exact ReflTransGen.mono (fun _ _ h => Move.close h) _ _ hmoves
    exact hnext.trans (run_moves events (moves_invariant (P := fun _ => True)
      (fun _ _ _ _ _ => trivial) hnext hfits trivial).1)

/-- **Induction over runs.** A property that every call and every move of a close keeps holds
after every run. -/
theorem run_invariant_close {P : System → Prop}
    (hcall : ∀ s, s.Fits → P s → ∀ c link, P (s.call c link).2)
    (hmove : ∀ s s', s.Fits → P s → CloseMove s s' → P s')
    (events : List Event) {s : System} (hfits : s.Fits) (h : P s) :
    (s.run events).Fits ∧ P (s.run events) := by
  refine moves_invariant (fun s s' hfits h hstep => ?_) (run_moves events hfits) hfits h
  cases hstep with
  | call c link => exact hcall s hfits h c link
  | close hstep => exact hmove s s' hfits h hstep

/-- **Induction over runs without a close.** -/
theorem run_invariant {P : System → Prop}
    (hcall : ∀ s, s.Fits → P s → ∀ c link, P (s.call c link).2)
    (hmove : ∀ s s', s.Fits → P s → ReportMove s s' → P s') :
    (events : List Event) → (∀ e ∈ events, e.isClose = false) → {s : System} → s.Fits → P s →
      (s.run events).Fits ∧ P (s.run events)
  | [], _, _, hfits, h => ⟨hfits, h⟩
  | e :: events, hopen, s, hfits, h => by
    have hnext : (s.step e).Fits ∧ P (s.step e) := by
      by_cases hc : ∃ c link, e = .call c link
      · obtain ⟨c, link, rfl⟩ := hc
        exact ⟨hfits.call c link, hcall s hfits h c link⟩
      · have hmoves := (step_moves hfits fun c link he => hc ⟨c, link, he⟩).2
          (hopen e List.mem_cons_self)
        generalize s.step e = next at hmoves ⊢
        induction hmoves with
        | refl => exact ⟨hfits, h⟩
        | tail _ hstep ih => exact ⟨hstep.fits ih.1, hmove _ _ ih.1 ih.2 hstep⟩
    exact run_invariant hcall hmove events
      (fun e he => hopen e (List.mem_cons_of_mem _ he)) hnext.1 hnext.2

/-- A new Node fits, with nothing on its wire. -/
theorem fits_opened {spec : Spec} (hsound : spec.Sound) {hidId : ℕ} {s : System}
    (h : opened spec hidId = some s) : s.Fits := by
  obtain ⟨node, hnode, rfl⟩ := Option.map_eq_some_iff.mp h
  have hfits := fits_openNode hsound hnode
  obtain ⟨state, -, rfl⟩ := Option.map_eq_some_iff.mp hnode
  exact
    { node := hfits
      inflight := rfl
      carries := fun report hreport => by simp at hreport
      dirty := fun h => by simp at h
      nonNeutral := fun h => by simp at h }

/-- A new Node has its Spec, and nothing on its wire. -/
theorem eq_of_opened {spec : Spec} {hidId : ℕ} {s : System} (h : opened spec hidId = some s) :
    s.node.spec = spec ∧ s.wire = [] := by
  obtain ⟨node, hnode, rfl⟩ := Option.map_eq_some_iff.mp h
  obtain ⟨state, -, rfl⟩ := Option.map_eq_some_iff.mp hnode
  exact ⟨rfl, rfl⟩

/-- Every state of a run fits. -/
theorem Fits.run {s : System} (hfits : s.Fits) (events : List Event) : (s.run events).Fits :=
  (run_invariant_close (P := fun _ => True) (fun _ _ _ _ _ => trivial)
    (fun _ _ _ _ _ => trivial) events hfits trivial).1

end System

end LibaoaHid

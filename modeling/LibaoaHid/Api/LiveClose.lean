import LibaoaHid.Api.Reachable

/-!
# Closing a live Node of a Device

The step of `device_close_impl` of `src/api/c_api.cpp` that drains, neutralizes and unregisters one
Node, and the reports that each public call submits.

A report that libusb accepts is seen with the Node that submits it, because a blocking call submits
several of them. A Node that was closed is no longer on the list of its Device.

## Main definitions

* `LiveCloseEnv`, `closeLiveNodeUntil`.
* `NodeEvent`: the events of a Node, the close of its Device included.
* `Sent`, `NodeEvent.sends`, `System.sentReports`: the reports of a run.

## Main results

* `System.closeLiveNodeUntil_moves`: the step is a sequence of moves.
* `System.submittedFrom_sentReports`: where a run submits a report.
-/

namespace LibaoaHid

open Relation

/-! ### The step of a Device close -/

/-- What the close of a Device meets outside one Node. A loop without a script finds no time
left. -/
structure LiveCloseEnv where
  drain : Option PollScript
  /-- The transport still has its device. -/
  present : Bool := true
  neutral : Option PollScript
  /-- The failure of AOA request 55, if it fails. -/
  unregister : Option TransportError := none
  clearReservation : Option TransportError := none

/-- `poll_until_idle` with the time that is left; its result. -/
def pollUntilDeadline (s : System) (script : Option PollScript) : Result × System :=
  match script with
  | none => (.errTimeout, s)
  | some script => ((pollUntilIdle s script).1.result, (pollUntilIdle s script).2)

/-- The end of `close_live_node_until`: the reservation is cleared, and the Node leaves the list. -/
def releaseLiveNode (s : System) (env : LiveCloseEnv) : Result × System :=
  match env.clearReservation with
  | some error => (error.result, s)
  | none => (.ok, { s with node := { s.node with closed := true } })

/-- The part of `close_live_node_until` for a device that is present. -/
def neutralizeLiveNode (s : System) (env : LiveCloseEnv) : Result × System :=
  let s : System := { s with node := makeNeutral s.node }
  let (neutral, s) := if s.node.dirty then pollUntilDeadline s env.neutral else (.ok, s)
  if neutral ≠ .ok then (neutral, s)
  else
    match env.unregister with
    | some error =>
      if error.result ≠ .errNoDevice then (error.result, s) else releaseLiveNode s env
    | none => releaseLiveNode s env

/-- `close_live_node_until`: its result. -/
def closeLiveNodeUntil (s : System) (env : LiveCloseEnv) : Result × System :=
  let (drained, s) :=
    if s.node.transferInflight ∨ touchFrameInProgress s.node then pollUntilDeadline s env.drain
    else (.ok, s)
  if drained ≠ .ok then (drained, s)
  else
    let (terminal, s) := s.consume "node.completion"
    if terminal.result ≠ .ok then (terminal.result, s)
    else if env.present then neutralizeLiveNode s env
    else releaseLiveNode s env

/-! ### The events of a Node -/

/-- What can happen to an open Node, the close of its Device included. -/
inductive NodeEvent
  | event (e : Event)
  | deviceClose (env : LiveCloseEnv)

namespace System

/-- One event; a Node that is closed is not on the list of its Device. -/
def nodeStep (s : System) : NodeEvent → System
  | .event e => s.step e
  | .deviceClose env => if s.node.closed then s else (closeLiveNodeUntil s env).2

end System

/-! ### The reports that are submitted -/

/-- A report that libusb accepted, with the Node that submitted it. -/
structure Sent where
  node : Node
  report : List UInt8

/-- The report of one submit. -/
def System.submitSends (s : System) (env : SubmitEnv) : List Sent :=
  (nodeSubmit s.node env).accepted.toList.map fun report => ⟨s.node, report⟩

/-- The report of one turn of `poll_until_idle`. -/
def pollTurnSends (s : System) (turn : PollTurn) : List Sent :=
  if s.node.transferInflight then []
  else
    let (completion, s) := s.consume "node.completion"
    if completion.result ≠ .ok then []
    else if !s.node.dirty then []
    else s.submitSends turn.submit

/-- The reports of the loop of `poll_until_idle`. -/
def pollLoopSends (s : System) (turn : PollTurn) : List PollTurn → List Sent
  | [] => pollTurnSends s turn
  | next :: rest =>
    pollTurnSends s turn ++
      match pollTurn s turn with
      | (some _, _) => []
      | (none, s) => pollLoopSends s next rest

/-- The reports of `poll_until_idle`. -/
def pollUntilIdleSends (s : System) (script : PollScript) : List Sent :=
  match script.preflight with
  | some _ => []
  | none => pollLoopSends s script.first script.rest

/-- The reports of `poll_until_idle` with the time that is left. -/
def pollUntilDeadlineSends (s : System) (script : Option PollScript) : List Sent :=
  match script with
  | none => []
  | some script => pollUntilIdleSends s script

/-- The reports of `aoahid_node_submit_blocking`. -/
def nodeSubmitBlockingSends (s : System) (script : Option PollScript) : List Sent :=
  if s.node.closed then []
  else
    match script with
    | none => []
    | some script => pollUntilIdleSends s script

/-- The reports of `aoahid_node_close`. -/
def nodeCloseSends (s : System) (env : CloseEnv) : List Sent :=
  if s.node.closed ∨ env.closing then []
  else
    let draining :=
      if s.node.transferInflight ∨ touchFrameInProgress s.node then pollUntilIdleSends s env.drain
      else []
    let (drained, s) :=
      if s.node.transferInflight ∨ touchFrameInProgress s.node then pollUntilIdle s env.drain
      else (.ok, s)
    if drained.result ≠ .ok then draining
    else
      let (terminal, s) := s.consume "node.completion"
      if terminal.result ≠ .ok then draining
      else if env.present then
        draining ++ pollUntilIdleSends { s with node := makeNeutral s.node } env.neutral
      else draining

/-- The reports of `close_live_node_until`. -/
def closeLiveNodeUntilSends (s : System) (env : LiveCloseEnv) : List Sent :=
  let draining :=
    if s.node.transferInflight ∨ touchFrameInProgress s.node then pollUntilDeadlineSends s env.drain
    else []
  let (drained, s) :=
    if s.node.transferInflight ∨ touchFrameInProgress s.node then pollUntilDeadline s env.drain
    else (.ok, s)
  if drained ≠ .ok then draining
  else
    let (terminal, s) := s.consume "node.completion"
    if terminal.result ≠ .ok then draining
    else if env.present ∧ (makeNeutral s.node).dirty then
      draining ++ pollUntilDeadlineSends { s with node := makeNeutral s.node } env.neutral
    else draining

/-- The reports that an event submits. -/
def NodeEvent.sends (s : System) : NodeEvent → List Sent
  | .event (.call _ _) | .event (.complete _ _) => []
  | .event (.submit env) => s.submitSends env
  | .event (.submitBlocking script) => nodeSubmitBlockingSends s script
  | .event (.close env) => nodeCloseSends s env
  | .deviceClose env => if s.node.closed then [] else closeLiveNodeUntilSends s env

/-- The reports that a run submits, in order. -/
def System.sentReports (s : System) : List NodeEvent → List Sent
  | [] => []
  | e :: events => e.sends s ++ (s.nodeStep e).sentReports events

/-! ### Moves -/

namespace System

variable {s : System}

theorem pollUntilDeadline_moves (hfits : s.Fits) (script : Option PollScript) :
    ReflTransGen ReportMove s (pollUntilDeadline s script).2 ∧
      ((pollUntilDeadline s script).1 = .ok → (pollUntilDeadline s script).2.Settled) := by
  cases script with
  | none => exact ⟨.refl, nofun⟩
  | some script => exact pollUntilIdle_moves hfits script

theorem releaseLiveNode_moves (hidle : s.inflight = none) (env : LiveCloseEnv) :
    ReflTransGen CloseMove s (releaseLiveNode s env).2 := by
  rw [releaseLiveNode]
  split
  · exact .refl
  · exact .single (.release hidle)

/-- The drain in front of the step of a Device close. -/
theorem liveDrain_moves (hfits : s.Fits) (script : Option PollScript) {result : Result}
    {s' : System} (h : (if s.node.transferInflight = true ∨ touchFrameInProgress s.node = true then
      pollUntilDeadline s script else (.ok, s)) = (result, s')) :
    ReflTransGen ReportMove s s' ∧ (result = .ok → s'.Resting) := by
  split at h
  · obtain ⟨hmoves, hsettled⟩ := pollUntilDeadline_moves hfits script
    rw [h] at hmoves hsettled
    exact ⟨hmoves, fun hok => (hsettled hok).resting (reports_fits hmoves hfits)⟩
  · rename_i hresting
    cases h
    rw [not_or, Bool.not_eq_true, Bool.not_eq_true] at hresting
    refine ⟨.refl, fun _ => ⟨?_, hresting.2⟩⟩
    have hidle := hfits.inflight
    rw [hresting.1] at hidle
    exact Option.isNone_iff_eq_none.mp (by simpa using hidle.symm)

/-- A consumed completion leaves a Node between two frames. -/
theorem Resting.consume (h : s.Resting) (field : String) : (s.consume field).2.Resting := by
  refine ⟨h.idle, ?_⟩
  have hstate : (s.consume field).2.node.state = s.node.state :=
    (same_consumeCompletion s.node field).state
  have hframe := h.frame
  unfold touchFrameInProgress at hframe ⊢
  rwa [hstate]

theorem neutralizeLiveNode_moves (hfits : s.Fits) (hresting : s.Resting)
    (hopen : s.node.closed = false) (env : LiveCloseEnv) :
    ReflTransGen CloseMove s (neutralizeLiveNode s env).2 := by
  have hneutral : CloseMove s { s with node := makeNeutral s.node } :=
    .neutral hresting.idle hopen hresting.frame
  have hfits' := hfits.makeNeutral hresting hopen
  rw [neutralizeLiveNode]
  generalize hpolled : (if (makeNeutral s.node).dirty = true then
    pollUntilDeadline { s with node := makeNeutral s.node } env.neutral else
      (.ok, { s with node := makeNeutral s.node })) = polled
  obtain ⟨result, s'⟩ := polled
  have hmoves : ReflTransGen ReportMove { s with node := makeNeutral s.node } s' ∧
      (result = .ok → s'.inflight = none) := by
    split at hpolled
    · obtain ⟨hmoves, hsettled⟩ := pollUntilDeadline_moves hfits' env.neutral
      rw [hpolled] at hmoves hsettled
      exact ⟨hmoves, fun hok => (hsettled hok).idle⟩
    · cases hpolled
      exact ⟨.refl, fun _ => hresting.idle⟩
  have hclose := (ReflTransGen.single hneutral).trans (CloseMove.of_reports hmoves.1)
  dsimp only
  split
  · exact hclose
  · rename_i hok
    have hrelease := hclose.trans (releaseLiveNode_moves (hmoves.2 (not_not.mp hok)) env)
    split
    · split
      · exact hclose
      · exact hrelease
    · exact hrelease

/-- **The moves of the step of a Device close.** -/
theorem closeLiveNodeUntil_moves (hfits : s.Fits) (hopen : s.node.closed = false)
    (env : LiveCloseEnv) : ReflTransGen CloseMove s (closeLiveNodeUntil s env).2 := by
  rw [closeLiveNodeUntil]
  generalize hdrain : (if s.node.transferInflight = true ∨ touchFrameInProgress s.node = true then
    pollUntilDeadline s env.drain else (.ok, s)) = drained
  obtain ⟨result, s₁⟩ := drained
  obtain ⟨hmoves, hresting⟩ := liveDrain_moves hfits env.drain hdrain
  dsimp only
  split
  · exact CloseMove.of_reports hmoves
  · rename_i hok
    have hresting₂ := (hresting (not_not.mp hok)).consume "node.completion"
    have hreports := hmoves.trans (s₁.consume_moves "node.completion")
    have hclose := CloseMove.of_reports hreports
    have hopen₂ := (reports_closed_eq hreports).trans hopen
    split
    · exact hclose
    · split
      · exact hclose.trans
          (neutralizeLiveNode_moves (reports_fits hreports hfits) hresting₂ hopen₂ env)
      · exact hclose.trans (releaseLiveNode_moves hresting₂.idle env)

/-- The moves of one event. -/
theorem nodeStep_moves (hfits : s.Fits) (e : NodeEvent) :
    ReflTransGen Move s (s.nodeStep e) := by
  cases e with
  | event e => exact run_moves [e] hfits
  | deviceClose env =>
    rw [nodeStep]
    split
    · exact .refl
    · rename_i hopen
      exact ReflTransGen.mono (fun _ _ h => Move.close h) _ _
        (closeLiveNodeUntil_moves hfits (by simpa using hopen) env)

/-! ### Where a report is submitted -/

/-- A report of a submit in some state that the moves reach. -/
def SubmittedFrom (R : System → System → Prop) (s : System) (x : Sent) : Prop :=
  ∃ s' env, ReflTransGen R s s' ∧ x ∈ s'.submitSends env

theorem SubmittedFrom.of_moves {R : System → System → Prop} {s' : System} {x : Sent}
    (h : SubmittedFrom R s' x) (hmoves : ReflTransGen R s s') : SubmittedFrom R s x := by
  obtain ⟨s₁, env, hmoves₁, hmem⟩ := h
  exact ⟨s₁, env, hmoves.trans hmoves₁, hmem⟩

theorem SubmittedFrom.mono {R R' : System → System → Prop} {x : Sent}
    (h : SubmittedFrom R s x) (hle : ∀ s s', R s s' → R' s s') : SubmittedFrom R' s x := by
  obtain ⟨s₁, env, hmoves₁, hmem⟩ := h
  exact ⟨s₁, env, ReflTransGen.mono hle _ _ hmoves₁, hmem⟩

theorem submittedFrom_pollTurn {turn : PollTurn} {x : Sent} (hmem : x ∈ pollTurnSends s turn) :
    SubmittedFrom ReportMove s x := by
  unfold pollTurnSends at hmem
  split at hmem
  · cases hmem
  · dsimp only at hmem
    split_ifs at hmem
    · cases hmem
    · cases hmem
    · exact ⟨_, turn.submit, s.consume_moves "node.completion", hmem⟩

theorem submittedFrom_pollLoop : {rest : List PollTurn} → {s : System} → {turn : PollTurn} →
    s.Fits → {x : Sent} → x ∈ pollLoopSends s turn rest → SubmittedFrom ReportMove s x
  | [], _, _, _, _, hmem => submittedFrom_pollTurn hmem
  | next :: rest, s, turn, hfits, x, hmem => by
    have hmoves := (pollTurn_moves hfits turn).1
    rw [pollLoopSends] at hmem
    rcases List.mem_append.mp hmem with hmem | hmem
    · exact submittedFrom_pollTurn hmem
    · split at hmem
      · cases hmem
      · rename_i heq
        rw [heq] at hmoves
        exact (submittedFrom_pollLoop (reports_fits hmoves hfits) hmem).of_moves hmoves

theorem submittedFrom_pollUntilIdle (hfits : s.Fits) {script : PollScript} {x : Sent}
    (hmem : x ∈ pollUntilIdleSends s script) : SubmittedFrom ReportMove s x := by
  rw [pollUntilIdleSends] at hmem
  split at hmem
  · cases hmem
  · exact submittedFrom_pollLoop hfits hmem

theorem submittedFrom_pollUntilDeadline (hfits : s.Fits) {script : Option PollScript} {x : Sent}
    (hmem : x ∈ pollUntilDeadlineSends s script) : SubmittedFrom ReportMove s x := by
  cases script with
  | none => cases hmem
  | some script => exact submittedFrom_pollUntilIdle hfits hmem

/-- A report of a loop is submitted by a move of a close. -/
theorem SubmittedFrom.close {x : Sent} (h : SubmittedFrom ReportMove s x) :
    SubmittedFrom CloseMove s x :=
  h.mono fun _ _ => CloseMove.report

theorem submittedFrom_nodeClose (hfits : s.Fits) {env : CloseEnv} {x : Sent}
    (hmem : x ∈ nodeCloseSends s env) : SubmittedFrom CloseMove s x := by
  rw [nodeCloseSends] at hmem
  split at hmem
  · cases hmem
  · rename_i hopen
    rw [not_or, Bool.not_eq_true] at hopen
    have hdraining : ∀ {x : Sent}, (x ∈ if s.node.transferInflight = true ∨
        touchFrameInProgress s.node = true then pollUntilIdleSends s env.drain else []) →
        SubmittedFrom CloseMove s x := by
      intro x hmem
      split at hmem
      · exact (submittedFrom_pollUntilIdle hfits hmem).close
      · cases hmem
    generalize hdrain : (if s.node.transferInflight = true ∨ touchFrameInProgress s.node = true then
      pollUntilIdle s env.drain else (Reply.ok, s)) = drained at hmem
    obtain ⟨reply, s₁⟩ := drained
    obtain ⟨hmoves, hresting⟩ := drain_moves hfits env hdrain
    dsimp only at hmem
    split at hmem
    · exact hdraining hmem
    · rename_i hok
      split at hmem
      · exact hdraining hmem
      · split at hmem
        · rcases List.mem_append.mp hmem with hmem | hmem
          · exact hdraining hmem
          · have hreports := hmoves.trans (s₁.consume_moves "node.completion")
            have hresting₂ := (hresting (not_not.mp hok)).consume "node.completion"
            have hfits₂ := reports_fits hreports hfits
            have hopen₂ := (reports_closed_eq hreports).trans hopen.1
            have hneutral := CloseMove.neutral hresting₂.idle hopen₂ hresting₂.frame
            exact (submittedFrom_pollUntilIdle (hneutral.fits hfits₂) hmem).close.of_moves
              ((CloseMove.of_reports hreports).tail hneutral)
        · exact hdraining hmem

theorem submittedFrom_closeLiveNodeUntil (hfits : s.Fits) (hopen : s.node.closed = false)
    {env : LiveCloseEnv} {x : Sent} (hmem : x ∈ closeLiveNodeUntilSends s env) :
    SubmittedFrom CloseMove s x := by
  rw [closeLiveNodeUntilSends] at hmem
  have hdraining : ∀ {x : Sent}, (x ∈ if s.node.transferInflight = true ∨
      touchFrameInProgress s.node = true then pollUntilDeadlineSends s env.drain else []) →
      SubmittedFrom CloseMove s x := by
    intro x hmem
    split at hmem
    · exact (submittedFrom_pollUntilDeadline hfits hmem).close
    · cases hmem
  generalize hdrain : (if s.node.transferInflight = true ∨ touchFrameInProgress s.node = true then
    pollUntilDeadline s env.drain else (.ok, s)) = drained at hmem
  obtain ⟨result, s₁⟩ := drained
  obtain ⟨hmoves, hresting⟩ := liveDrain_moves hfits env.drain hdrain
  dsimp only at hmem
  split at hmem
  · exact hdraining hmem
  · rename_i hok
    split at hmem
    · exact hdraining hmem
    · split at hmem
      · rcases List.mem_append.mp hmem with hmem | hmem
        · exact hdraining hmem
        · have hreports := hmoves.trans (s₁.consume_moves "node.completion")
          have hresting₂ := (hresting (not_not.mp hok)).consume "node.completion"
          have hfits₂ := reports_fits hreports hfits
          have hopen₂ := (reports_closed_eq hreports).trans hopen
          have hneutral := CloseMove.neutral hresting₂.idle hopen₂ hresting₂.frame
          exact (submittedFrom_pollUntilDeadline (hneutral.fits hfits₂) hmem).close.of_moves
            ((CloseMove.of_reports hreports).tail hneutral)
      · exact hdraining hmem

/-- **Where a run submits a report.** Each is the report of a submit in some state of the moves of
the run. -/
theorem submittedFrom_sentReports : {events : List NodeEvent} → {s : System} → s.Fits →
    {x : Sent} → x ∈ s.sentReports events → SubmittedFrom Move s x
  | [], _, _, _, hmem => nomatch hmem
  | e :: events, s, hfits, x, hmem => by
    have hclose : ∀ {x : Sent}, SubmittedFrom CloseMove s x → SubmittedFrom Move s x :=
      fun h => h.mono fun _ _ => Move.close
    rw [sentReports] at hmem
    rcases List.mem_append.mp hmem with hmem | hmem
    · cases e with
      | event e =>
        cases e with
        | call c link => cases hmem
        | complete status actualLength => cases hmem
        | submit env => exact ⟨s, env, .refl, hmem⟩
        | submitBlocking script =>
          change x ∈ nodeSubmitBlockingSends s script at hmem
          rw [nodeSubmitBlockingSends.eq_def] at hmem
          split at hmem
          · cases hmem
          · split at hmem
            · cases hmem
            · exact hclose (submittedFrom_pollUntilIdle hfits hmem).close
        | close env => exact hclose (submittedFrom_nodeClose hfits hmem)
      | deviceClose env =>
        change x ∈ (if s.node.closed then [] else closeLiveNodeUntilSends s env) at hmem
        split at hmem
        · cases hmem
        · rename_i hopen
          exact hclose (submittedFrom_closeLiveNodeUntil hfits (by simpa using hopen) hmem)
    · have hstep := nodeStep_moves hfits e
      have hfits' := (moves_invariant (P := fun _ => True) (fun _ _ _ _ _ => trivial) hstep hfits
        trivial).1
      exact (submittedFrom_sentReports hfits' hmem).of_moves hstep

end System

end LibaoaHid

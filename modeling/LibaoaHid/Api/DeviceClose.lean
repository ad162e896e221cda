import LibaoaHid.Api.Closing
import LibaoaHid.Api.LiveClose

/-!
# Closing a Device

The Nodes of a Device in `device_close_impl` and `destroy_drained_device` of `src/api/c_api.cpp`,
and the Nodes to which AOA request 55 is sent. The loop takes the Nodes from the last opened one on
and ends at the first step that fails. The Nodes that are left are unregistered when the graph is
destroyed, and no neutral report is sent for them.

A Node has at most one report in flight when the close begins. It completes before the Node has its
turn, in its turn, or after the transfers were cancelled. An exception in a turn is an error of its
blocking loop.

## Main definitions

* `CloseFailure`, `closeTrace`: why a step fails, and the Node at its request 55.
* `TeardownEnv`, `closeNodes`, `destroyRequests`, `deviceTeardown`.

## Main results

* `closeTrace_eq_none_iff`, `closedNeutral_of_closeTrace`.
-/

namespace LibaoaHid

open Relation

/-! ### The step of one Node -/

/-- The loop of `poll_until_idle` comes to its deadline. -/
def pollLoopExpires (s : System) (turn : PollTurn) : List PollTurn → Bool
  | [] => (pollTurn s turn).1.isNone
  | next :: rest =>
    match pollTurn s turn with
    | (some _, _) => false
    | (none, s) => pollLoopExpires s next rest

/-- `poll_until_idle` comes to its deadline, or is not called since no time is left. -/
def deadlineExpires (s : System) : Option PollScript → Bool
  | none => true
  | some script => script.preflight.isNone && pollLoopExpires s script.first script.rest

/-- Why `close_live_node_until` does not answer `AOAHID_OK`. -/
inductive CloseFailure
  | drain
  | completion
  | neutral
  | unregister
  | reservation
  /-- The budget of the close ran out. -/
  | budget
  deriving DecidableEq

/-- The drain, the pending completion, the neutral report or request 55 of the Node failed. -/
def CloseFailure.IsOwn : CloseFailure → Prop
  | .drain | .completion | .neutral | .unregister => True
  | .reservation | .budget => False

/-- The failure of a blocking loop that failed. -/
def loopFailure (s : System) (script : Option PollScript) (own : CloseFailure) : CloseFailure :=
  if deadlineExpires s script then .budget else own

/-- The failure of the end of `close_live_node_until`. -/
def releaseFailure (env : LiveCloseEnv) : Option CloseFailure :=
  env.clearReservation.map fun _ => .reservation

/-- The Node at AOA request 55, and the failure, for a device that is present. -/
def neutralTrace (s : System) (env : LiveCloseEnv) : Option System × Option CloseFailure :=
  let s : System := { s with node := makeNeutral s.node }
  let (neutral, settled) := if s.node.dirty then pollUntilDeadline s env.neutral else (.ok, s)
  if neutral ≠ .ok then (none, some (loopFailure s env.neutral .neutral))
  else
    match env.unregister with
    | some error =>
      if error.result ≠ .errNoDevice then (some settled, some .unregister)
      else (some settled, releaseFailure env)
    | none => (some settled, releaseFailure env)

/-- The Node at AOA request 55 of `close_live_node_until`, and the failure of the step. -/
def closeTrace (s : System) (env : LiveCloseEnv) : Option System × Option CloseFailure :=
  let (drained, drainedSystem) :=
    if s.node.transferInflight ∨ touchFrameInProgress s.node then pollUntilDeadline s env.drain
    else (.ok, s)
  if drained ≠ .ok then (none, some (loopFailure s env.drain .drain))
  else
    let (terminal, s) := drainedSystem.consume "node.completion"
    if terminal.result ≠ .ok then (none, some .completion)
    else if env.present then neutralTrace s env
    else (none, releaseFailure env)

/-! ### The Nodes of a Device -/

/-- The completion of the report in flight, if it comes. -/
def System.completeWith (s : System) : Option (TransferStatus × ℕ) → System
  | none => s
  | some (status, actualLength) => s.complete status actualLength

/-- What the close of a Device meets. A Node is named by its place in the order of opening. -/
structure TeardownEnv where
  /-- The completion of the report in flight of a Node that comes before its turn; for a Node that
  has no turn, before the graph is destroyed. -/
  early : ℕ → Option (TransferStatus × ℕ) := fun _ => none
  turn : ℕ → LiveCloseEnv
  /-- The completion of the report that the Node of the failed turn still has in flight. -/
  late : Option (TransferStatus × ℕ) := none
  channelsDrained : Bool := true
  /-- The transport still has its device when the graph is destroyed and the Node is taken. -/
  present : ℕ → Bool := fun _ => true
  /-- A device that has left does not come back. -/
  stays : ∀ i j, i ≤ j → present i = true → (turn j).present = true

/-- A Node at its AOA request 55. -/
structure Unregistration where
  position : ℕ
  system : System

/-- The step that ended the loop. -/
structure LoopStop where
  position : ℕ
  failure : Option CloseFailure

/-- The requests 55 of a close, the Nodes that are left, and the step that ended the loop. -/
structure NodesClose where
  requests : List Unregistration := []
  left : List System := []
  stop : Option LoopStop := none

section Loop

variable (env : TeardownEnv)

/-- The Nodes that have no turn. -/
def awaiting : List System → List System
  | [] => []
  | s :: rest => s.completeWith (env.early rest.length) :: awaiting rest

/-- The loop of `device_close_impl`, over the Nodes from the last opened one on. -/
def closeNodes : List System → NodesClose
  | [] => {}
  | s :: rest =>
    let s := s.completeWith (env.early rest.length)
    let turn := env.turn rest.length
    let requests := (closeTrace s turn).1.toList.map (Unregistration.mk rest.length)
    let (result, closed) := closeLiveNodeUntil s turn
    if result = .ok then
      let others := closeNodes rest
      { others with requests := requests ++ others.requests }
    else
      { requests
        left := closed.completeWith env.late :: awaiting env rest
        stop := some ⟨rest.length, (closeTrace s turn).2⟩ }

/-- The requests 55 of `destroy_drained_device`. -/
def destroyRequests : List System → List Unregistration
  | [] => []
  | s :: rest =>
    (if env.present rest.length then [⟨rest.length, s⟩] else []) ++ destroyRequests rest

/-- `graph_drained`, for the Nodes that are left. -/
def graphDrained (left : List System) : Bool :=
  left.all (·.inflight.isNone) && env.channelsDrained

/-- `aoahid_device_close` of a Device with these Nodes, in the order of opening, until the graph is
destroyed. A graph that does not drain is never destroyed. -/
def deviceTeardown (nodes : List System) : NodesClose :=
  let closing := closeNodes env nodes.reverse
  if graphDrained env closing.left then
    { closing with requests := closing.requests ++ destroyRequests env closing.left }
  else closing

end Loop

/-! ### What a step does -/

section Step

variable {s : System} {env : LiveCloseEnv}

theorem releaseFailure_eq_none_iff :
    releaseFailure env = none ↔ (releaseLiveNode s env).1 = .ok := by
  rw [releaseFailure, releaseLiveNode]
  cases hreservation : env.clearReservation with
  | none => simp
  | some error => simpa using error.failed

theorem neutralTrace_eq_none_iff :
    (neutralTrace s env).2 = none ↔ (neutralizeLiveNode s env).1 = .ok := by
  rw [neutralTrace, neutralizeLiveNode]
  dsimp only
  generalize (if (makeNeutral s.node).dirty = true then
    pollUntilDeadline { s with node := makeNeutral s.node } env.neutral else
      (.ok, { s with node := makeNeutral s.node })) = polled
  obtain ⟨result, settled⟩ := polled
  dsimp only
  by_cases hfailed : result ≠ .ok
  · rw [if_pos hfailed, if_pos hfailed]
    simpa using hfailed
  · rw [if_neg hfailed, if_neg hfailed]
    cases hunregister : env.unregister with
    | none => exact releaseFailure_eq_none_iff
    | some error =>
      dsimp only
      by_cases hrefused : error.result ≠ .errNoDevice
      · rw [if_pos hrefused, if_pos hrefused]
        simpa using error.failed
      · rw [if_neg hrefused, if_neg hrefused]
        exact releaseFailure_eq_none_iff

/-- **A step has no failure exactly when it answers `AOAHID_OK`.** -/
theorem closeTrace_eq_none_iff :
    (closeTrace s env).2 = none ↔ (closeLiveNodeUntil s env).1 = .ok := by
  rw [closeTrace, closeLiveNodeUntil]
  generalize (if s.node.transferInflight = true ∨ touchFrameInProgress s.node = true then
    pollUntilDeadline s env.drain else (.ok, s)) = drained
  obtain ⟨result, s₁⟩ := drained
  dsimp only
  by_cases hfailed : result ≠ .ok
  · rw [if_pos hfailed, if_pos hfailed]
    simpa using hfailed
  · rw [if_neg hfailed, if_neg hfailed]
    by_cases hterminal : (s₁.consume "node.completion").1.result ≠ .ok
    · rw [if_pos hterminal, if_pos hterminal]
      simpa using hterminal
    · rw [if_neg hterminal, if_neg hterminal]
      split
      · exact neutralTrace_eq_none_iff
      · exact releaseFailure_eq_none_iff

/-- The neutral reports in front of request 55. -/
theorem closedNeutral_of_neutralTrace (hfits : s.Fits) (hresting : s.Resting)
    (hopen : s.node.closed = false) {atRequest : System}
    (h : (neutralTrace s env).1 = some atRequest) :
    s.ClosedNeutral { atRequest with node := { atRequest.node with closed := true } } ∧
      atRequest.inflight = none := by
  have hfitsNeutral := hfits.makeNeutral hresting hopen
  rw [neutralTrace] at h
  dsimp only at h
  generalize hpolled : (if (makeNeutral s.node).dirty = true then
    pollUntilDeadline { s with node := makeNeutral s.node } env.neutral else
      (.ok, { s with node := makeNeutral s.node })) = polled at h
  obtain ⟨result, settled⟩ := polled
  have hsettles : result = .ok →
      ReflTransGen System.ReportMove { s with node := makeNeutral s.node } settled ∧
        settled.OkSince s.wire.length ∧ settled.Settled := by
    rintro rfl
    split at hpolled
    · cases hneutral : env.neutral with
      | none =>
        rw [hneutral] at hpolled
        cases hpolled
      | some script =>
        rw [hneutral, pollUntilDeadline, Prod.mk.injEq] at hpolled
        obtain ⟨hok, rfl⟩ := hpolled
        obtain ⟨hmoves, hsettled⟩ := pollUntilIdle_moves hfitsNeutral script
        exact ⟨hmoves, System.okSince_pollUntilIdle hfitsNeutral script hok, hsettled hok⟩
    · rename_i hclean
      cases hpolled
      exact ⟨.refl, ⟨le_rfl, by simp⟩, ⟨hresting.idle, by simpa using hclean⟩⟩
  dsimp only at h
  by_cases hfailed : result ≠ .ok
  · rw [if_pos hfailed] at h
    cases h
  · rw [if_neg hfailed] at h
    obtain ⟨hmoves, hsince, hsettled⟩ := hsettles (not_not.mp hfailed)
    have hrequest : settled = atRequest := by
      split at h
      · split at h <;> exact Option.some.inj h
      · exact Option.some.inj h
    subst hrequest
    exact ⟨⟨hresting, hopen, settled, hmoves, hsince, hsettled, rfl⟩, hsettled.idle⟩

/-- **The neutral reports of a Node in front of its request 55.** -/
theorem closedNeutral_of_closeTrace (hfits : s.Fits) (hopen : s.node.closed = false)
    {atRequest : System} (h : (closeTrace s env).1 = some atRequest) :
    ∃ drained, ReflTransGen System.ReportMove s drained ∧
      drained.ClosedNeutral { atRequest with node := { atRequest.node with closed := true } } ∧
      atRequest.inflight = none := by
  rw [closeTrace] at h
  generalize hdrain : (if s.node.transferInflight = true ∨ touchFrameInProgress s.node = true then
    pollUntilDeadline s env.drain else (.ok, s)) = drained at h
  obtain ⟨result, s₁⟩ := drained
  obtain ⟨hmoves, hresting⟩ := System.liveDrain_moves hfits env.drain hdrain
  dsimp only at h
  by_cases hfailed : result ≠ .ok
  · rw [if_pos hfailed] at h
    cases h
  · rw [if_neg hfailed] at h
    by_cases hterminal : (s₁.consume "node.completion").1.result ≠ .ok
    · rw [if_pos hterminal] at h
      cases h
    · rw [if_neg hterminal] at h
      split at h
      · have hreports := hmoves.trans (s₁.consume_moves "node.completion")
        have hresting₂ := (hresting (not_not.mp hfailed)).consume "node.completion"
        exact ⟨_, hreports, closedNeutral_of_neutralTrace (System.reports_fits hreports hfits)
          hresting₂ ((System.reports_closed_eq hreports).trans hopen) h⟩
      · cases h

/-- A Node whose reservation is not released stays as it was at its request 55. -/
theorem neutralTrace_of_reservation (h : (neutralTrace s env).2 = some .reservation) :
    (neutralTrace s env).1 = some (neutralizeLiveNode s env).2 := by
  have hrelease (settled : System) (hfailed : releaseFailure env = some .reservation) :
      some settled = some (releaseLiveNode settled env).2 := by
    rw [releaseFailure] at hfailed
    rw [releaseLiveNode]
    split
    · rfl
    · rename_i hnone
      rw [hnone] at hfailed
      cases hfailed
  rw [neutralTrace] at h ⊢
  rw [neutralizeLiveNode]
  dsimp only at h ⊢
  generalize (if (makeNeutral s.node).dirty = true then
    pollUntilDeadline { s with node := makeNeutral s.node } env.neutral else
      (.ok, { s with node := makeNeutral s.node })) = polled at h ⊢
  obtain ⟨result, settled⟩ := polled
  dsimp only at h ⊢
  by_cases hfailed : result ≠ .ok
  · rw [if_pos hfailed, loopFailure] at h
    split at h <;> cases h
  · rw [if_neg hfailed] at h ⊢
    rw [if_neg hfailed]
    cases hunregister : env.unregister with
    | none =>
      rw [hunregister] at h
      exact hrelease settled h
    | some error =>
      rw [hunregister] at h
      dsimp only at h ⊢
      by_cases hrefused : error.result ≠ .errNoDevice
      · rw [if_pos hrefused] at h
        cases h
      · rw [if_neg hrefused] at h ⊢
        rw [if_neg hrefused]
        exact hrelease settled h

theorem closeTrace_of_reservation (hpresent : env.present = true)
    (h : (closeTrace s env).2 = some .reservation) :
    (closeTrace s env).1 = some (closeLiveNodeUntil s env).2 := by
  rw [closeTrace] at h ⊢
  rw [closeLiveNodeUntil]
  generalize (if s.node.transferInflight = true ∨ touchFrameInProgress s.node = true then
    pollUntilDeadline s env.drain else (.ok, s)) = drained at h ⊢
  obtain ⟨result, s₁⟩ := drained
  dsimp only at h ⊢
  by_cases hfailed : result ≠ .ok
  · rw [if_pos hfailed, loopFailure] at h
    split at h <;> cases h
  · rw [if_neg hfailed] at h ⊢
    rw [if_neg hfailed]
    by_cases hterminal : (s₁.consume "node.completion").1.result ≠ .ok
    · rw [if_pos hterminal] at h
      cases h
    · rw [if_neg hterminal, if_pos hpresent] at h ⊢
      rw [if_neg hterminal, if_pos hpresent]
      exact neutralTrace_of_reservation h

end Step

end LibaoaHid

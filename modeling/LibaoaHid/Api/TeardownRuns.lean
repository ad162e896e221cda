import LibaoaHid.Api.GraphTraffic

/-!
# Runs of the teardown

The invariant of a Context and its threads, over every interleaving of its calls, of the event
thread and of the completions. Each graph is in one place, a graph that is being destroyed is
drained and stays so, and nothing is left when the Context is freed.

## Main definitions

* `State.held`, `State.destroys`: the places of the graphs.
* `GraphSound`, `State.Sound`: what holds behind every step.

## Main results

* `Step.sound`, `Run.sound`.
* `Run.destroyed_once`, `Run.completion_alive`, `Run.freed_last`.
-/

namespace LibaoaHid.Teardown

open Transport

/-! ### Places -/

/-- The destruction that a call of the application is at. -/
def AppPc.destroys : AppPc → List DestroyPc
  | destroying pc _ => [pc]
  | _ => []

/-- The destruction that the event thread is at. -/
def EventPc.destroys : EventPc → List DestroyPc
  | destroying pc => [pc]
  | _ => []

/-- From here on `context_destroy_impl` has seen no active Device. -/
def AppPc.Emptied : AppPc → Prop
  | reaping .destroy => True
  | destroying _ (.reap .destroy) => True
  | checking => True
  | joining => True
  | freed => True
  | _ => False

/-- There is no event thread, or it has returned. -/
def EventPc.Gone (pc : EventPc) : Prop := pc = absent ∨ pc = exited

namespace State

/-- The graphs by their places: the active list, the graveyard, the call of the application and the
event thread. -/
def held (s : State) : List ℕ := s.devices ++ s.graveyard ++ s.app.holds ++ s.event.holds

/-- The destructions under way. -/
def destroys (s : State) : List DestroyPc := s.app.destroys ++ s.event.destroys

end State

/-! ### Invariants -/

/-- What holds of one graph: only a call on an active Device, or the loop of its close over the
Nodes, is within a submit, a closing graph has no thread on its Channels, and a deleted one is
drained. -/
structure GraphSound (app : AppPc) (devices : List ℕ) (g : ℕ) (x : Graph) : Prop where
  sound : x.Sound
  submitting : x.submission ≠ none →
    (app = .idle ∧ g ∈ devices) ∨ ∃ within, app = .closing g .nodes within
  opening : x.opening ≠ none → app = .idle ∧ g ∈ devices
  quiescent : g ∉ devices → x.Quiescent
  closing : x.closing = true ↔ g ∉ devices
  deleted : x.frees ≠ 0 → x.drained = true ∧ x.nodes = [] ∧ x.channels = []

/-- **What holds behind every step.** -/
structure State.Sound (s : State) : Prop where
  graphs : ∀ g x, s.graphs[g]? = some x → GraphSound s.app s.devices g x
  places : Placed (·.frees) s.graphs s.held
  holding : ∀ pc ∈ s.destroys, ∀ x, s.graphs[pc.graph]? = some x → x.drained = true
  tearing : s.app.Emptied → s.devices = []
  ended : s.app = .joining ∨ s.app = .freed → s.graveyard = []
  freed : s.app = .freed → s.event.Gone

variable {s s' : State} {g : ℕ} {x x' : Graph}

namespace GraphSound

variable {app : AppPc} {devices : List ℕ}

/-- A graph outside every submit and every open of a Channel does not depend on the place of the
application. -/
theorem move (h : GraphSound app devices g x) (app' : AppPc) (hsubmission : x.submission = none)
    (hopening : x.opening = none) : GraphSound app' devices g x where
  sound := h.sound
  submitting hne := absurd hsubmission hne
  opening hne := absurd hopening hne
  quiescent := h.quiescent
  closing := h.closing
  deleted := h.deleted

/-- A step on a graph that was not deleted. -/
theorem next (h : GraphSound app devices g x) (hsound : x'.Sound) (hkept : Graph.Kept x x')
    (hfrees : x.frees = 0)
    (hsubmitting : x'.submission ≠ none →
      (app = .idle ∧ g ∈ devices) ∨ ∃ within, app = .closing g .nodes within)
    (hopening : x'.opening ≠ none → app = .idle ∧ g ∈ devices)
    (hquiescent : g ∉ devices → x'.Quiescent) : GraphSound app devices g x' where
  sound := hsound
  submitting := hsubmitting
  opening := hopening
  quiescent := hquiescent
  closing := by rw [hkept.closing, h.closing]
  deleted hne := absurd (hkept.frees.trans hfrees) hne

end GraphSound

theorem AppPc.destroys_of_holds {app : AppPc} (h : app.holds = []) : app.destroys = [] := by
  cases app with
  | destroying => cases h
  | _ => rfl

/-- The application behind a destruction holds no graph, and is at no other. -/
theorem AfterDestroy.next_cases (after : AfterDestroy) :
    after.next.holds = [] ∧ after.next.destroys = [] ∧
      (∀ pc, after.next.Emptied → (AppPc.destroying pc after).Emptied) ∧
        ¬(after.next = .joining ∨ after.next = .freed) := by
  rcases after with (_ | _) | (_ | _)
  all_goals
    refine ⟨rfl, rfl, fun _ hempty => hempty, ?_⟩
    rintro (⟨⟨⟩⟩ | ⟨⟨⟩⟩)

namespace State.Sound

/-! ### The places of a graph -/

theorem holds_of_destroys {pc : DestroyPc} (hmem : pc ∈ s.destroys) :
    pc ∈ s.app.destroys ∧ s.app.holds = [pc.graph] ∨
      pc ∈ s.event.destroys ∧ s.event.holds = [pc.graph] := by
  rcases List.mem_append.mp hmem with happ | hevent
  · refine .inl ⟨happ, ?_⟩
    rcases hpc : s.app with _ | _ | ⟨pc', after⟩ | _ | _ | _ | _ | _ <;> rw [hpc] at happ
    case destroying => rw [List.mem_singleton.mp happ]; rfl
    all_goals cases happ
  · refine .inr ⟨hevent, ?_⟩
    rcases hpc : s.event with _ | _ | _ | _ | ⟨pc'⟩ | _ | _ <;> rw [hpc] at hevent
    case destroying => rw [List.mem_singleton.mp hevent]; rfl
    all_goals cases hevent

/-- The places of a graph add up to one at most. -/
theorem count_le (h : s.Sound) (g : ℕ) :
    s.devices.count g + s.graveyard.count g + s.app.holds.count g + s.event.holds.count g ≤ 1 := by
  have := h.places g
  rw [State.held, List.count_append, List.count_append, List.count_append] at this
  split at this <;> omega

/-- A graph of a destruction is no active Device, and nobody else is at work on it. -/
theorem of_destroys (h : s.Sound) {pc : DestroyPc} (hmem : pc ∈ s.destroys)
    (hget : s.graphs[pc.graph]? = some x) :
    pc.graph ∉ s.devices ∧ x.submission = none ∧ x.opening = none ∧ x.frees = 0 := by
  have hle := h.count_le pc.graph
  have hone : s.app.holds.count pc.graph + s.event.holds.count pc.graph ≥ 1 := by
    rcases holds_of_destroys hmem with ⟨-, hholds⟩ | ⟨-, hholds⟩ <;>
      rw [hholds, List.count_singleton_self] <;> omega
  have hout : pc.graph ∉ s.devices := List.count_eq_zero.mp (by omega)
  have hx := h.graphs _ x hget
  refine ⟨hout, ?_, ?_, ?_⟩
  · by_contra hne
    rcases hx.submitting hne with ⟨-, hin⟩ | ⟨within, hpc⟩
    · exact hout hin
    · rcases holds_of_destroys hmem with ⟨happ, -⟩ | ⟨-, hholds⟩
      · rw [hpc] at happ
        cases happ
      · rw [hholds, hpc, AppPc.holds, List.count_singleton_self] at hle
        omega
  · by_contra hne
    exact hout (hx.opening hne).2
  · refine h.places.unreleased ?_ hget
    rw [State.held, List.append_assoc, List.mem_append,
      ← List.count_pos_iff (l := s.app.holds ++ _), List.count_append]
    exact .inr (by omega)

/-- Nobody destroys a graph that another place holds, and its storage is there. -/
theorem alive_of_device (h : s.Sound) (hopen : g ∈ s.devices) (hget : s.graphs[g]? = some x) :
    x.frees = 0 ∧ ∀ pc ∈ s.destroys, pc.graph ≠ g := by
  refine ⟨h.places.unreleased ?_ hget, ?_⟩
  · simp only [State.held, List.mem_append]
    exact .inl (.inl (.inl hopen))
  · rintro pc hmem rfl
    exact (h.of_destroys hmem hget).1 hopen

/-- Nobody destroys the graph that a close is at work on. -/
theorem alive_of_closing (h : s.Sound) {phase : ClosePhase} {within : Bool}
    (hpc : s.app = .closing g phase within) (hget : s.graphs[g]? = some x) :
    g ∉ s.devices ∧ x.frees = 0 ∧ ∀ pc ∈ s.destroys, pc.graph ≠ g := by
  have hle := h.count_le g
  rw [hpc, AppPc.holds, List.count_singleton_self] at hle
  refine ⟨List.count_eq_zero.mp (by omega), h.places.unreleased ?_ hget, ?_⟩
  · simp only [State.held, List.mem_append, hpc]
    exact .inl (.inr (List.mem_singleton_self _))
  · rintro pc hmem rfl
    rcases holds_of_destroys hmem with ⟨happ, -⟩ | ⟨-, hholds⟩
    · rw [hpc] at happ
      cases happ
    · rw [hholds, List.count_singleton_self] at hle
      omega

/-- **A completion comes to a live graph only**: its storage is there, and nobody destroys it. -/
theorem alive_of_event (h : s.Sound) (hget : s.graphs[g]? = some x) (hstep : EventStep x x') :
    x.frees = 0 ∧ ∀ pc ∈ s.destroys, pc.graph ≠ g := by
  have hx := h.graphs g x hget
  by_cases hopen : g ∈ s.devices
  · exact h.alive_of_device hopen hget
  · have hopening : x.opening = none := by
      by_contra hne
      exact hopen (hx.opening hne).2
    have hlive : ¬x.drained = true := fun hd =>
      hx.sound.not_event_of_drained hopening hd hstep
    refine ⟨?_, ?_⟩
    · by_contra hne
      exact hlive (hx.deleted hne).1
    · rintro pc hmem rfl
      exact hlive (h.holding pc hmem x hget)

/-! ### Steps on one graph -/

/-- **A step on a graph** that nobody destroys. -/
theorem set_alive (h : s.Sound) (hget : s.graphs[g]? = some x)
    (halive : ∀ pc ∈ s.destroys, pc.graph ≠ g) (hfrees : x'.frees = x.frees)
    (hx' : GraphSound s.app s.devices g x') : (s.setGraph g x').Sound where
  graphs := by
    intro g' y hy
    rcases getElem?_set_cases hget hy with ⟨rfl, rfl⟩ | ⟨-, hy⟩
    · exact hx'
    · exact h.graphs g' y hy
  places := h.places.set hget hfrees
  holding := by
    intro pc hmem y hy
    rcases getElem?_set_cases hget hy with ⟨heq, -⟩ | ⟨-, hy⟩
    · exact absurd heq (halive pc hmem)
    · exact h.holding pc hmem y hy
  tearing := h.tearing
  ended := h.ended
  freed := h.freed

theorem event (h : s.Sound) (hget : s.graphs[g]? = some x) (hstep : EventStep x x') :
    (s.setGraph g x').Sound := by
  obtain ⟨hfrees, halive⟩ := h.alive_of_event hget hstep
  obtain ⟨hkept, hsubmission, hopening⟩ := Graph.kept_event hstep
  have hx := h.graphs g x hget
  refine h.set_alive hget halive hkept.frees (hx.next (hx.sound.event hstep) hkept hfrees ?_ ?_ ?_)
  · rw [hsubmission]
    exact hx.submitting
  · rw [hopening]
    exact hx.opening
  · exact fun hout => (hx.quiescent hout).event hstep

theorem node_call (h : s.Sound) (hpc : s.app = .idle) (hopen : g ∈ s.devices)
    (hget : s.graphs[g]? = some x) (hstep : NodeCall x x') : (s.setGraph g x').Sound := by
  obtain ⟨hfrees, halive⟩ := h.alive_of_device hopen hget
  have hkept := (Graph.kept_nodeCall hstep).1
  have hx := h.graphs g x hget
  exact h.set_alive hget halive hkept.frees (hx.next (hx.sound.nodeCall hstep) hkept hfrees
    (fun _ => .inl ⟨hpc, hopen⟩) (fun _ => ⟨hpc, hopen⟩) (fun hout => absurd hopen hout))

theorem channel_call (h : s.Sound) (hpc : s.app = .idle) (hopen : g ∈ s.devices)
    (hget : s.graphs[g]? = some x) (hstep : ChannelCall x x') : (s.setGraph g x').Sound := by
  obtain ⟨hfrees, halive⟩ := h.alive_of_device hopen hget
  have hkept := (Graph.kept_channelCall hstep).1
  have hx := h.graphs g x hget
  exact h.set_alive hget halive hkept.frees (hx.next (hx.sound.channelCall hstep) hkept hfrees
    (fun _ => .inl ⟨hpc, hopen⟩) (fun _ => ⟨hpc, hopen⟩) (fun hout => absurd hopen hout))

theorem transfer_call (h : s.Sound) (hopen : g ∈ s.devices) (hget : s.graphs[g]? = some x)
    (hstep : TransferCall x x') : (s.setGraph g x').Sound := by
  obtain ⟨hfrees, halive⟩ := h.alive_of_device hopen hget
  obtain ⟨hkept, hsubmission, hopening⟩ := Graph.kept_transferCall hstep
  have hx := h.graphs g x hget
  refine h.set_alive hget halive hkept.frees
    (hx.next (hx.sound.transferCall hstep) hkept hfrees ?_ ?_ (fun hout => absurd hopen hout))
  · rw [hsubmission]
    exact hx.submitting
  · rw [hopening]
    exact hx.opening

theorem close_nodes (h : s.Sound) {within : Bool} (hpc : s.app = .closing g .nodes within)
    (hget : s.graphs[g]? = some x) (hstep : NodeCall x x') : (s.setGraph g x').Sound := by
  obtain ⟨hout, hfrees, halive⟩ := h.alive_of_closing hpc hget
  obtain ⟨hkept, hopening, hchannels, hcells⟩ := Graph.kept_nodeCall hstep
  have hx := h.graphs g x hget
  refine h.set_alive hget halive hkept.frees (hx.next (hx.sound.nodeCall hstep) hkept hfrees
    (fun _ => .inr ⟨within, hpc⟩) ?_ fun hout => ?_)
  · rw [hopening]
    exact hx.opening
  · have hquiescent := hx.quiescent hout
    rw [Graph.Quiescent, hchannels, hcells]
    exact hquiescent

theorem cancel (h : s.Sound) {within : Bool} (hpc : s.app = .closing g .cancelling within)
    (hget : s.graphs[g]? = some x) (hstep : CancelStep x x') : (s.setGraph g x').Sound := by
  obtain ⟨hout, hfrees, halive⟩ := h.alive_of_closing hpc hget
  obtain ⟨hkept, hsubmission, hopening⟩ := Graph.kept_cancelStep hstep
  have hx := h.graphs g x hget
  have hidle : x.submission = none := by
    by_contra hne
    rcases hx.submitting hne with ⟨-, hin⟩ | ⟨within, hnodes⟩
    · exact hout hin
    · rw [hpc] at hnodes
      cases hnodes
  refine h.set_alive hget halive hkept.frees
    (hx.next (hx.sound.cancelStep hidle hstep) hkept hfrees ?_ ?_ fun hout => ?_)
  · rw [hsubmission]
    exact hx.submitting
  · rw [hopening]
    exact hx.opening
  · exact (hx.quiescent hout).cancelStep hstep

/-- **A step of a destruction.** -/
theorem destroy_works (h : s.Sound) {pc : DestroyPc} (hmem : pc ∈ s.destroys)
    (hget : s.graphs[pc.graph]? = some x) (hstep : DestroyStep x x') :
    (s.setGraph pc.graph x').Sound := by
  obtain ⟨hout, hidle, hopening, hfrees⟩ := h.of_destroys hmem hget
  obtain ⟨hkept, hsubmission', hopening'⟩ := Graph.kept_destroyStep hstep
  have hx := h.graphs _ x hget
  have hd := h.holding pc hmem x hget
  have hx' : GraphSound s.app s.devices pc.graph x' :=
    hx.next (hx.sound.destroyStep hidle hd hstep) hkept hfrees
      (fun hne => absurd (hsubmission'.trans hidle) hne)
      (fun hne => absurd (hopening'.trans hopening) hne)
      (fun hout => (hx.quiescent hout).destroyStep hstep)
  exact
    { graphs := by
        intro g' y hy
        rcases getElem?_set_cases hget hy with ⟨rfl, rfl⟩ | ⟨-, hy⟩
        · exact hx'
        · exact h.graphs g' y hy
      places := h.places.set hget hkept.frees
      holding := by
        intro pc' hmem' y hy
        rcases getElem?_set_cases hget hy with ⟨-, rfl⟩ | ⟨-, hy⟩
        · exact Graph.drained_destroyStep hd hstep
        · exact h.holding pc' hmem' y hy
      tearing := h.tearing
      ended := h.ended
      freed := h.freed }

/-! ### Steps of the application -/

/-- Every graph is outside the submits and the opens of Channels. -/
def Still (s : State) : Prop :=
  ∀ (g : ℕ) (x : Graph), s.graphs[g]? = some x → x.submission = none ∧ x.opening = none

theorem still_of_between (hpc : s.Between) : Still s :=
  fun _ x hget => hpc.2 x (List.mem_of_getElem? hget)

theorem still (h : s.Sound) (hidle : s.app ≠ .idle)
    (hnodes : ∀ g within, s.app ≠ .closing g .nodes within) : Still s := by
  intro g x hget
  have hx := h.graphs g x hget
  refine ⟨?_, ?_⟩
  · by_contra hne
    rcases hx.submitting hne with ⟨hpc, -⟩ | ⟨within, hpc⟩
    · exact hidle hpc
    · exact hnodes g within hpc
  · by_contra hne
    exact hidle (hx.opening hne).1

/-- **The application moves on**, and no graph changes its place. -/
theorem app_move (h : s.Sound) (hstill : Still s) {app : AppPc} (stopEventThread : Bool)
    (hholds : app.holds = s.app.holds)
    (hdestroys : ∀ pc ∈ app.destroys, ∀ x, s.graphs[pc.graph]? = some x → x.drained = true)
    (htearing : app.Emptied → s.devices = [])
    (hended : app = .joining ∨ app = .freed → s.graveyard = [])
    (hfreed : app = .freed → s.event.Gone) :
    State.Sound { s with
      stopEventThread
      app } where
  graphs g x hget := (h.graphs g x hget).move app (hstill g x hget).1 (hstill g x hget).2
  places := by
    rw [State.held, hholds]
    exact h.places
  holding := by
    intro pc hmem x hget
    rcases List.mem_append.mp hmem with happ | hevent
    · exact hdestroys pc happ x hget
    · exact h.holding pc (List.mem_append_right _ hevent) x hget
  tearing := htearing
  ended := hended
  freed := hfreed

/-- `aoahid_device_open`. -/
theorem open_device (h : s.Sound) (hpc : s.Between) (config : DeviceConfig) (handle : ℕ)
    {poolSlots : ℕ} (hslots : 0 < poolSlots) :
    State.Sound { s with
      graphs := s.graphs ++ [{ pool := { device := .opened config handle poolSlots } }]
      devices := s.devices ++ [s.graphs.length] } where
  graphs := by
    intro g x hget
    rcases Nat.lt_trichotomy g s.graphs.length with hlt | rfl | hlt
    · rw [List.getElem?_append_left hlt] at hget
      have hx := h.graphs g x hget
      have hmem : g ∈ s.devices ++ [s.graphs.length] ↔ g ∈ s.devices := by
        rw [List.mem_append, List.mem_singleton]
        exact or_iff_left (Nat.ne_of_lt hlt)
      exact
        { sound := hx.sound
          submitting := fun hne =>
            absurd (still_of_between hpc g x hget).1 hne
          opening := fun hne => absurd (still_of_between hpc g x hget).2 hne
          quiescent := fun hout => hx.quiescent fun hin => hout (hmem.mpr hin)
          closing := hx.closing.trans (not_congr hmem.symm)
          deleted := hx.deleted }
    · rw [List.getElem?_concat_length, Option.some.injEq] at hget
      subst hget
      have hin : s.graphs.length ∈ s.devices ++ [s.graphs.length] :=
        List.mem_append_right _ (List.mem_singleton_self _)
      exact
        { sound := .opened config handle hslots
          submitting := fun hne => absurd rfl hne
          opening := fun hne => absurd rfl hne
          quiescent := fun hout => absurd hin hout
          closing := iff_of_false Bool.false_ne_true fun hout => hout hin
          deleted := fun hne => absurd rfl hne }
    · rw [List.getElem?_eq_none (by rw [List.length_append, List.length_singleton]; omega)] at hget
      cases hget
  places := by
    refine (h.places.push (a := { pool := { device := .opened config handle poolSlots } })
      rfl).perm ?_
    simp only [State.held, List.append_assoc, List.singleton_append]
    exact List.perm_middle.symm
  holding := by
    intro pc hmem x hget
    have hdestroys : s.destroys = s.event.destroys := by rw [State.destroys, hpc.1]; rfl
    have hlt : pc.graph < s.graphs.length := by
      refine h.places.lt ?_
      rcases holds_of_destroys hmem with ⟨-, hholds⟩ | ⟨-, hholds⟩ <;>
        simp [State.held, hholds]
    rw [List.getElem?_append_left hlt] at hget
    exact h.holding pc hmem x hget
  tearing hempty := by
    rw [hpc.1] at hempty
    exact hempty.elim
  ended hend := by
    rw [hpc.1] at hend
    rcases hend with hend | hend <;> cases hend
  freed hfreed := by
    rw [hpc.1] at hfreed
    cases hfreed

/-- The first section of `device_close_impl` takes the Device off the active list. -/
theorem consume (h : s.Sound) (hstill : Still s) (hholds : s.app.holds = [])
    (hopen : g ∈ s.devices) (hget : s.graphs[g]? = some x) (hquiet : x.Quiescent) (within : Bool) :
    (s.consume g x within).Sound := by
  have happ := AppPc.destroys_of_holds hholds
  have hx := h.graphs g x hget
  obtain ⟨hfrees, halive⟩ := h.alive_of_device hopen hget
  have hnodup : s.devices.Nodup := by
    have := h.places.nodup
    rw [State.held, List.append_assoc, List.append_assoc] at this
    exact this.of_append_left
  have hfilter : s.devices.filter (· ≠ g) = s.devices.erase g := by
    rw [hnodup.erase_eq_filter]
    refine List.filter_congr fun i _ => ?_
    by_cases hi : i = g <;> simp [hi]
  exact
    { graphs := by
        intro g' y hy
        rcases getElem?_set_cases hget hy with ⟨rfl, rfl⟩ | ⟨hne, hy⟩
        · have hout : g' ∉ s.devices.filter (· ≠ g') := by simp
          exact
            { sound := hx.sound.set_flags true x.frees
              submitting := fun hne => absurd (hstill g' x hget).1 hne
              opening := fun hne => absurd (hstill g' x hget).2 hne
              quiescent := fun _ => hquiet
              closing := iff_of_true rfl hout
              deleted := fun hne => absurd hfrees hne }
        · have hy' := h.graphs g' y hy
          have hmem : g' ∈ s.devices.filter (· ≠ g) ↔ g' ∈ s.devices := by simp [hne]
          exact
            { sound := hy'.sound
              submitting := fun hne => absurd (hstill g' y hy).1 hne
              opening := fun hne => absurd (hstill g' y hy).2 hne
              quiescent := fun hout => hy'.quiescent fun hin => hout (hmem.mpr hin)
              closing := hy'.closing.trans (not_congr hmem.symm)
              deleted := hy'.deleted }
      places := by
        refine (h.places.set hget (b := { x with closing := true }) rfl).perm ?_
        change (s.devices ++ s.graveyard ++ s.app.holds ++ s.event.holds).Perm
          (s.devices.filter (· ≠ g) ++ s.graveyard ++ [g] ++ s.event.holds)
        rw [hholds, List.append_nil, hfilter]
        refine List.Perm.append_right _ ?_
        refine ((List.perm_cons_erase hopen).append_right _).trans ?_
        exact (List.perm_append_singleton g (s.devices.erase g ++ s.graveyard)).symm
      holding := by
        intro pc hmem y hy
        have hmem' : pc ∈ s.destroys := by
          rw [State.destroys, happ]
          exact hmem
        rcases getElem?_set_cases hget hy with ⟨heq, -⟩ | ⟨-, hy⟩
        · exact absurd heq (halive pc hmem')
        · exact h.holding pc hmem' y hy
      tearing := fun hempty => hempty.elim
      ended := by rintro (⟨⟨⟩⟩ | ⟨⟨⟩⟩)
      freed := by rintro ⟨⟩ }

/-- The loop of a close over the Nodes ends outside every submit. -/
theorem nodes_closed (h : s.Sound) {within : Bool} (hpc : s.app = .closing g .nodes within)
    (hget : s.graphs[g]? = some x) (hidle : x.submission = none) :
    State.Sound { s with app := .closing g .cancelling within } := by
  refine h.app_move (fun g' y hy => ⟨?_, ?_⟩) s.stopEventThread (by rw [hpc]; rfl)
    (fun _ hmem => absurd hmem List.not_mem_nil) (fun hempty => hempty.elim) ?_ ?_
  · by_contra hne
    rcases (h.graphs g' y hy).submitting hne with ⟨happ, -⟩ | ⟨within', happ⟩
    · rw [hpc] at happ
      cases happ
    · rw [hpc] at happ
      cases happ
      rw [hget, Option.some.injEq] at hy
      exact hne (hy ▸ hidle)
  · by_contra hne
    have happ := ((h.graphs g' y hy).opening hne).1
    rw [hpc] at happ
    cases happ
  · rintro (⟨⟨⟩⟩ | ⟨⟨⟩⟩)
  · rintro ⟨⟩

/-- The application moves on between places that hold no graph. -/
theorem app_goto (h : s.Sound) (hstill : Still s) {app : AppPc} (hheld : s.app.holds = [])
    (hholds : app.holds = []) (htearing : app.Emptied → s.devices = [])
    (hrunning : ¬(app = .joining ∨ app = .freed)) : State.Sound { s with app } := by
  refine h.app_move hstill s.stopEventThread (hholds.trans hheld.symm) (fun pc hmem => ?_) htearing
    (fun hend => absurd hend hrunning) (fun hfreed => absurd (.inr hfreed) hrunning)
  rw [AppPc.destroys_of_holds hholds] at hmem
  cases hmem

/-- A poll reaches `reap_graveyard`. -/
theorem poll (h : s.Sound) (hpc : s.Between) : State.Sound { s with app := .reaping .poll } := by
  refine h.app_goto (still_of_between hpc) (by rw [hpc.1]; rfl) rfl (fun hempty => hempty.elim) ?_
  rintro (⟨⟨⟩⟩ | ⟨⟨⟩⟩)

/-- `park_in_graveyard`. -/
theorem park (h : s.Sound) {within : Bool} (hpc : s.app = .closing g .draining within) :
    State.Sound { s with
      graveyard := s.graveyard ++ [g]
      app := .afterClose within } := by
  have hstill : Still s := h.still (by rw [hpc]; rintro ⟨⟩) fun g within => by rw [hpc]; rintro ⟨⟩
  have hdestroys : s.destroys = s.event.destroys := by rw [State.destroys, hpc]; rfl
  exact
    { graphs := fun g x hget => (h.graphs g x hget).move _ (hstill g x hget).1 (hstill g x hget).2
      places := by
        refine h.places.perm ?_
        cases within <;> simp [State.held, hpc, AppPc.holds, AppPc.afterClose]
      holding := by
        intro pc hmem x hget
        refine h.holding pc ?_ x hget
        rw [hdestroys]
        cases within <;> exact hmem
      tearing := by cases within <;> exact fun hempty => hempty.elim
      ended := by cases within <;> rintro (⟨⟨⟩⟩ | ⟨⟨⟩⟩)
      freed := by cases within <;> rintro ⟨⟩ }

/-- What the search of `reap_graveyard` finds is drained. -/
theorem drained_of_find (hfound : s.graveyard.find? s.ready = some g)
    (hget : s.graphs[g]? = some x) : x.drained = true := by
  have := List.find?_some hfound
  rwa [State.ready, hget, Option.any_some] at this

/-- The application takes a drained graph off the graveyard. -/
theorem reap (h : s.Sound) {after : AfterReap} (hpc : s.app = .reaping after)
    (hfound : s.graveyard.find? s.ready = some g) :
    State.Sound { s with
      graveyard := s.graveyard.erase g
      app := .destroying (.entering g) (.reap after) } := by
  have hstill : Still s := h.still (by rw [hpc]; rintro ⟨⟩) fun g within => by rw [hpc]; rintro ⟨⟩
  have hmem := List.mem_of_find?_eq_some hfound
  have hdestroys : s.destroys = s.event.destroys := by rw [State.destroys, hpc]; rfl
  exact
    { graphs := fun g x hget => (h.graphs g x hget).move _ (hstill g x hget).1 (hstill g x hget).2
      places := by
        refine h.places.perm ?_
        change (s.devices ++ s.graveyard ++ s.app.holds ++ s.event.holds).Perm
          (s.devices ++ s.graveyard.erase g ++ [g] ++ s.event.holds)
        have hholds : s.app.holds = [] := by rw [hpc]; rfl
        rw [hholds, List.append_nil]
        refine List.Perm.append_right _ ?_
        rw [List.append_assoc]
        refine List.Perm.append_left _ ?_
        exact (List.perm_cons_erase hmem).trans (List.perm_append_singleton ..).symm
      holding := by
        intro pc hmem x hget
        rcases List.mem_cons.mp hmem with rfl | hevent
        · exact drained_of_find hfound hget
        · exact h.holding pc (hdestroys ▸ hevent) x hget
      tearing := by
        intro hempty
        refine h.tearing ?_
        rw [hpc]
        cases after <;> exact hempty
      ended := by rintro (⟨⟨⟩⟩ | ⟨⟨⟩⟩)
      freed := by rintro ⟨⟩ }

/-- **The end of a destruction**: the storage of the graph is released, and nobody holds it. -/
theorem deletes (h : s.Sound) {pc : DestroyPc} (hmem : pc ∈ s.destroys)
    (hget : s.graphs[pc.graph]? = some x) (hnodes : x.nodes = []) (hchannels : x.channels = [])
    {app : AppPc} {event : EventPc} (hstill : app = s.app ∨ Still s)
    (hheld : (s.app.holds ++ s.event.holds).Perm (pc.graph :: (app.holds ++ event.holds)))
    (hdestroys : app.destroys ++ event.destroys ⊆ s.destroys)
    (htearing : app.Emptied → s.devices = [])
    (hended : app = .joining ∨ app = .freed → s.graveyard = [])
    (hfreed : app = .freed → event.Gone) :
    State.Sound { s.setGraph pc.graph { x with frees := x.frees + 1 } with
      app
      event } := by
  obtain ⟨hout, hsubmission, hopening, -⟩ := h.of_destroys hmem hget
  have hx := h.graphs _ x hget
  have hd := h.holding pc hmem x hget
  exact
    { graphs := by
        intro g y hy
        rcases getElem?_set_cases hget hy with ⟨rfl, rfl⟩ | ⟨-, hy⟩
        · exact
            { sound := hx.sound.set_flags x.closing (x.frees + 1)
              submitting := fun hne => absurd hsubmission hne
              opening := fun hne => absurd hopening hne
              quiescent := hx.quiescent
              closing := hx.closing
              deleted := fun _ => ⟨hd, hnodes, hchannels⟩ }
        · rcases hstill with heq | hstill
          · rw [heq]
            exact h.graphs g y hy
          · exact (h.graphs g y hy).move app (hstill g y hy).1 (hstill g y hy).2
      places := by
        refine Placed.set_release (h.places.perm ?_) hget rfl
        change (s.devices ++ s.graveyard ++ s.app.holds ++ s.event.holds).Perm
          (pc.graph :: (s.devices ++ s.graveyard ++ app.holds ++ event.holds))
        rw [List.append_assoc _ s.app.holds, List.append_assoc _ app.holds]
        exact (hheld.append_left _).trans List.perm_middle
      holding := by
        intro pc' hmem' y hy
        rcases getElem?_set_cases hget hy with ⟨-, rfl⟩ | ⟨-, hy⟩
        · exact hd
        · exact h.holding pc' (hdestroys hmem') y hy
      tearing := htearing
      ended := hended
      freed := hfreed }

/-- `destroy_drained_device` in the application. -/
theorem app_destroy (h : s.Sound) {pc : DestroyPc} {next : Option DestroyPc} {after : AfterDestroy}
    (hpc : s.app = .destroying pc after) (hstep : Destroys s pc next s') :
    State.Sound { s' with app := (next.map (AppPc.destroying · after)).getD after.next } := by
  have hstill : Still s := h.still (by rw [hpc]; rintro ⟨⟩) fun g within => by rw [hpc]; rintro ⟨⟩
  have hmem : pc ∈ s.destroys := by
    rw [State.destroys, hpc]
    exact List.mem_cons_self ..
  have htearing : ∀ pc' : DestroyPc, (AppPc.destroying pc' after).Emptied → s.devices = [] := by
    intro pc' hempty
    refine h.tearing ?_
    rw [hpc]
    rcases after with within | (_ | _) <;> exact hempty
  cases hstep with
  | refused hget hd => exact absurd (h.holding _ hmem _ hget) (by rw [hd]; exact Bool.false_ne_true)
  | @enters g x hget hd =>
    refine h.app_move hstill s.stopEventThread ?_ ?_ (htearing _) ?_ ?_
    · rw [hpc]
      rfl
    · intro pc' hmem' y hy
      rw [List.mem_singleton.mp hmem'] at hy
      exact h.holding _ hmem y hy
    · rintro (⟨⟨⟩⟩ | ⟨⟨⟩⟩)
    · rintro ⟨⟩
  | @works g x x' hget hwork =>
    have hset := h.destroy_works hmem hget hwork
    change State.Sound { s.setGraph g x' with app := .destroying (.destroying g) after }
    rw [← hpc]
    exact hset
  | @deletes g x hget hnodes hchannels =>
    obtain ⟨hholds, hnone, hemptied, hrunning⟩ := AfterDestroy.next_cases after
    refine h.deletes hmem hget hnodes hchannels (.inr hstill) ?_ ?_
      (fun hempty => htearing _ (hemptied (.destroying g) hempty))
      (fun hend => absurd hend hrunning)
      (fun hfreed => absurd (.inr hfreed) hrunning)
    · rw [hpc]
      change ([g] ++ s.event.holds).Perm (g :: (after.next.holds ++ s.event.holds))
      rw [hholds]
      rfl
    · change after.next.destroys ++ s.event.destroys ⊆ s.destroys
      rw [hnone]
      exact List.subset_append_right ..

/-! ### Steps of the event thread -/

/-- **The event thread moves on**, and no graph changes its place. -/
theorem event_move (h : s.Sound) {event : EventPc} (hholds : event.holds = s.event.holds)
    (hdestroys : ∀ pc ∈ event.destroys, ∀ x, s.graphs[pc.graph]? = some x → x.drained = true)
    (hrunning : ¬s.event.Gone) : State.Sound { s with event } where
  graphs := h.graphs
  places := by
    rw [State.held, hholds]
    exact h.places
  holding := by
    intro pc hmem x hget
    rcases List.mem_append.mp hmem with happ | hevent
    · exact h.holding pc (List.mem_append_left _ happ) x hget
    · exact hdestroys pc hevent x hget
  tearing := h.tearing
  ended := h.ended
  freed hfreed := absurd (h.freed hfreed) hrunning

/-- The event thread takes a drained graph off the graveyard. -/
theorem event_reap (h : s.Sound) (hpc : s.event = .reaping)
    (hfound : s.graveyard.find? s.ready = some g) :
    State.Sound { s with
      graveyard := s.graveyard.erase g
      event := .destroying (.entering g) } := by
  have hmem := List.mem_of_find?_eq_some hfound
  have hrunning : ¬s.event.Gone := by rw [hpc]; rintro (⟨⟨⟩⟩ | ⟨⟨⟩⟩)
  exact
    { graphs := h.graphs
      places := by
        refine h.places.perm ?_
        change (s.devices ++ s.graveyard ++ s.app.holds ++ s.event.holds).Perm
          (s.devices ++ s.graveyard.erase g ++ s.app.holds ++ [g])
        have hholds : s.event.holds = [] := by rw [hpc]; rfl
        rw [hholds, List.append_nil, List.append_assoc, List.append_assoc, List.append_assoc]
        refine List.Perm.append_left _ ?_
        refine ((List.perm_cons_erase hmem).append_right _).trans ?_
        rw [← List.append_assoc]
        exact (List.perm_append_singleton ..).symm
      holding := by
        intro pc hmem x hget
        rcases List.mem_append.mp hmem with happ | hevent
        · exact h.holding pc (List.mem_append_left _ happ) x hget
        · rw [List.mem_singleton.mp hevent] at hget
          exact drained_of_find hfound hget
      tearing := h.tearing
      ended := fun hend => by rw [h.ended hend]; rfl
      freed := fun hfreed => absurd (h.freed hfreed) hrunning }

/-- `destroy_drained_device` in the event thread. -/
theorem event_destroy (h : s.Sound) {pc : DestroyPc} {next : Option DestroyPc}
    (hpc : s.event = .destroying pc) (hstep : Destroys s pc next s') :
    State.Sound { s' with event := (next.map EventPc.destroying).getD .reaping } := by
  have hmem : pc ∈ s.destroys := by
    rw [State.destroys, hpc]
    exact List.mem_append_right _ (List.mem_cons_self ..)
  have hrunning : ¬s.event.Gone := by rw [hpc]; rintro (⟨⟨⟩⟩ | ⟨⟨⟩⟩)
  cases hstep with
  | refused hget hd => exact absurd (h.holding _ hmem _ hget) (by rw [hd]; exact Bool.false_ne_true)
  | @enters g x hget hd =>
    refine h.event_move ?_ ?_ hrunning
    · rw [hpc]
      rfl
    · intro pc' hmem' y hy
      rw [List.mem_singleton.mp hmem'] at hy
      exact h.holding _ hmem y hy
  | @works g x x' hget hwork =>
    have hset := h.destroy_works hmem hget hwork
    change State.Sound { s.setGraph g x' with event := .destroying (.destroying g) }
    rw [← hpc]
    exact hset
  | @deletes g x hget hnodes hchannels =>
    refine h.deletes hmem hget hnodes hchannels (.inl rfl) ?_ ?_ h.tearing h.ended
      (fun hfreed => absurd (h.freed hfreed) hrunning)
    · rw [hpc]
      change (s.app.holds ++ [g]).Perm (g :: (s.app.holds ++ []))
      rw [List.append_nil]
      exact List.perm_append_singleton ..
    · exact List.append_subset.mpr ⟨List.subset_append_left .., List.nil_subset _⟩

end State.Sound

/-! ### Every step -/

theorem AppStep.sound (h : s.Sound) (hstep : AppStep s s') : s'.Sound := by
  cases hstep with
  | open_device config handle poolSlots hslots hpc => exact h.open_device hpc config handle hslots
  | node_call hpc hopen hget hcall => exact h.node_call hpc hopen hget hcall
  | channel_call hpc hopen hget hcall => exact h.channel_call hpc hopen hget hcall
  | transfer_call hopen hget hcall => exact h.transfer_call hopen hget hcall
  | device_close hpc hopen hget hquiet =>
    exact h.consume (State.Sound.still_of_between hpc) (by rw [hpc.1]; rfl) hopen hget hquiet false
  | close_nodes hpc hget hcall hopened => exact h.close_nodes hpc hget hcall
  | nodes_closed hpc hget hidle => exact h.nodes_closed hpc hget hidle
  | cancel hpc hget hcancel => exact h.cancel hpc hget hcancel
  | @cancelled g within hpc =>
    have hstill := h.still (by rw [hpc]; rintro ⟨⟩) fun g within => by rw [hpc]; rintro ⟨⟩
    refine h.app_move hstill _ (by rw [hpc]; rfl) (fun _ hmem => absurd hmem List.not_mem_nil)
      (fun hempty => hempty.elim) ?_ ?_
    · rintro (⟨⟨⟩⟩ | ⟨⟨⟩⟩)
    · rintro ⟨⟩
  | @drained g x within hpc hget hd =>
    have hstill := h.still (by rw [hpc]; rintro ⟨⟩) fun g within => by rw [hpc]; rintro ⟨⟩
    refine h.app_move hstill _ (by rw [hpc]; rfl) (fun pc hmem y hy => ?_)
      (fun hempty => hempty.elim) ?_ ?_
    · rw [List.mem_singleton.mp hmem] at hy
      rw [DestroyPc.graph, hget, Option.some.injEq] at hy
      rwa [← hy]
    · rintro (⟨⟨⟩⟩ | ⟨⟨⟩⟩)
    · rintro ⟨⟩
  | park hpc hget hd => exact h.park hpc
  | destroy hpc hdestroy => exact h.app_destroy hpc hdestroy
  | poll hpc hmode => exact h.poll hpc
  | take_over hpc hexited => exact h.poll hpc
  | reap hpc hfound => exact h.reap hpc hfound
  | @reaped after hpc hnone =>
    have hstill := h.still (by rw [hpc]; rintro ⟨⟩) fun g within => by rw [hpc]; rintro ⟨⟩
    have htearing := h.tearing
    rw [hpc] at htearing
    refine h.app_goto hstill (by rw [hpc]; rfl) (by cases after <;> rfl) ?_ ?_
    · cases after with
      | poll => exact fun hempty => hempty.elim
      | destroy => exact htearing
    · cases after <;> rintro (⟨⟨⟩⟩ | ⟨⟨⟩⟩)
  | context_destroy hpc =>
    refine h.app_goto (State.Sound.still_of_between hpc) (by rw [hpc.1]; rfl) rfl
      (fun hempty => hempty.elim) ?_
    rintro (⟨⟨⟩⟩ | ⟨⟨⟩⟩)
  | next_device hpc hlast hget hquiet =>
    have hstill := h.still (by rw [hpc]; rintro ⟨⟩) fun g within => by rw [hpc]; rintro ⟨⟩
    exact h.consume hstill (by rw [hpc]; rfl) (List.mem_of_getLast? hlast) hget hquiet true
  | devices_closed hpc hdevices =>
    have hstill := h.still (by rw [hpc]; rintro ⟨⟩) fun g within => by rw [hpc]; rintro ⟨⟩
    refine h.app_goto hstill (by rw [hpc]; rfl) rfl (fun _ => hdevices) ?_
    rintro (⟨⟨⟩⟩ | ⟨⟨⟩⟩)
  | pending hpc hgraveyard =>
    have hstill := h.still (by rw [hpc]; rintro ⟨⟩) fun g within => by rw [hpc]; rintro ⟨⟩
    refine h.app_goto hstill (by rw [hpc]; rfl) rfl (fun hempty => hempty.elim) ?_
    rintro (⟨⟨⟩⟩ | ⟨⟨⟩⟩)
  | stop hpc hgraveyard =>
    have hstill := h.still (by rw [hpc]; rintro ⟨⟩) fun g within => by rw [hpc]; rintro ⟨⟩
    have htearing := h.tearing
    rw [hpc] at htearing
    refine h.app_move hstill true (by rw [hpc]; rfl) (fun _ hmem => absurd hmem List.not_mem_nil)
      htearing (fun _ => hgraveyard) ?_
    rintro ⟨⟩
  | free hpc hjoined =>
    have hstill := h.still (by rw [hpc]; rintro ⟨⟩) fun g within => by rw [hpc]; rintro ⟨⟩
    have htearing := h.tearing
    rw [hpc] at htearing
    exact h.app_move hstill s.stopEventThread (by rw [hpc]; rfl)
      (fun _ hmem => absurd hmem List.not_mem_nil) htearing (fun _ => h.ended (.inl hpc))
      (fun _ => hjoined)
  | stop_failed hpc hfailed =>
    exact h.app_move (State.Sound.still_of_between hpc) true rfl
      (fun pc hmem => h.holding pc (List.mem_append_left _ hmem)) h.tearing h.ended h.freed

theorem PumpStep.sound (h : s.Sound) (hstep : PumpStep s s') : s'.Sound := by
  cases hstep with
  | turn hpc hstop | stops hpc hstop | exits hpc | polled hpc | reaped hpc hnone =>
    refine h.event_move (by rw [hpc]; rfl) (fun _ hmem => absurd hmem List.not_mem_nil) ?_
    rw [hpc]
    rintro (⟨⟨⟩⟩ | ⟨⟨⟩⟩)
  | fails hpc =>
    rcases hpc with hpc | hpc <;>
      refine h.event_move (by rw [hpc]; rfl) (fun _ hmem => absurd hmem List.not_mem_nil) ?_ <;>
      · rw [hpc]
        rintro (⟨⟨⟩⟩ | ⟨⟨⟩⟩)
  | reap hpc hfound => exact h.event_reap hpc hfound
  | destroy hpc hdestroy => exact h.event_destroy hpc hdestroy

/-- **Every step keeps the invariant.** -/
theorem Step.sound (h : s.Sound) (hstep : Step s s') : s'.Sound := by
  cases hstep with
  | event hget hevent => exact h.event hget hevent
  | app happ => exact AppStep.sound h happ
  | pump hpump => exact PumpStep.sound h hpump

/-- The Context of `aoahid_context_create`. -/
theorem State.Sound.created (callerPoll : Bool) : (State.created callerPoll).Sound where
  graphs := by
    intro g x hget
    cases hget
  places := by
    cases callerPoll <;> exact .nil
  holding := by
    intro pc hmem
    cases callerPoll <;> cases hmem
  tearing hempty := hempty.elim
  ended := by rintro (⟨⟨⟩⟩ | ⟨⟨⟩⟩)
  freed := by rintro ⟨⟩

/-- **Every state of every run is sound.** -/
theorem Run.sound {callerPoll : Bool} (h : Run callerPoll s) : s.Sound := by
  induction h with
  | refl => exact .created callerPoll
  | tail _ hstep ih => exact Step.sound ih hstep

/-! ### Results -/

/-- The application takes no step behind the release of the Context. -/
theorem AppStep.before_freed (hstep : AppStep s s') : s.app ≠ .freed ∨ s.devices ≠ [] := by
  cases hstep with
  | transfer_call hopen hget hcall => exact .inr (List.ne_nil_of_mem hopen)
  | open_device config handle poolSlots hslots hpc =>
    exact .inl (by rw [hpc.1]; rintro ⟨⟩)
  | device_close hpc hopen hget hquiet => exact .inl (by rw [hpc.1]; rintro ⟨⟩)
  | poll hpc hmode => exact .inl (by rw [hpc.1]; rintro ⟨⟩)
  | take_over hpc hexited => exact .inl (by rw [hpc.1]; rintro ⟨⟩)
  | context_destroy hpc => exact .inl (by rw [hpc.1]; rintro ⟨⟩)
  | stop_failed hpc hfailed => exact .inl (by rw [hpc.1]; rintro ⟨⟩)
  | node_call hpc | channel_call hpc | close_nodes hpc | nodes_closed hpc | cancel hpc
  | cancelled hpc | drained hpc | park hpc | destroy hpc | reap hpc | reaped hpc | next_device hpc
  | devices_closed hpc | pending hpc | stop hpc | free hpc =>
    exact .inl (by rw [hpc]; rintro ⟨⟩)

/-- The event thread takes no step behind its end. -/
theorem PumpStep.not_gone (hstep : PumpStep s s') : ¬s.event.Gone := by
  cases hstep with
  | fails hpc => rcases hpc with hpc | hpc <;> rw [hpc] <;> rintro (⟨⟨⟩⟩ | ⟨⟨⟩⟩)
  | turn hpc | stops hpc | exits hpc | polled hpc | reap hpc | reaped hpc | destroy hpc =>
    rw [hpc]
    rintro (⟨⟨⟩⟩ | ⟨⟨⟩⟩)

/-- A graph whose Nodes and Channels left its lists has released each of them once. -/
theorem Graph.Sound.released (h : x.Sound) (hnodes : x.nodes = []) (hchannels : x.channels = [])
    (hopening : x.opening = none) : (∀ cell ∈ x.nodeCells, cell.frees = 1) ∧
      ∀ cell ∈ x.channelCells, cell.frees = 1 ∧ cell.transport.inFlight = 0 := by
  refine ⟨fun cell hmem => ?_, fun cell hmem => ?_⟩
  · obtain ⟨n, hget⟩ := List.mem_iff_getElem?.mp hmem
    rcases h.nodes.held_or_released hget with ⟨hheld, -⟩ | ⟨-, hfrees⟩
    · rw [hnodes] at hheld
      cases hheld
    · exact hfrees
  · obtain ⟨i, hget⟩ := List.mem_iff_getElem?.mp hmem
    rcases h.channels.held_or_released hget with ⟨hheld, -⟩ | ⟨-, hfrees⟩
    · rw [hchannels, hopening] at hheld
      cases hheld
    · exact ⟨hfrees, (h.cells cell hmem).freed (by rw [hfrees]; exact Nat.one_ne_zero)⟩

/-- A run up to the release of the Context: a Device is closed with a report in flight, the event
thread delivers the completion, takes the graph off the graveyard and destroys it. -/
theorem exists_run_freed : ∃ s x, Run false s ∧ s.app = .freed ∧ s.graphs[0]? = some x ∧
    x.frees = 1 ∧ x.pool.tickets = [0] ∧ x.nodeCells.length = 1 := by
  have hcreated : Run false (.created false) := .refl
  have hopened := hcreated.tail (.app (.open_device Device.sampleConfig 0 1 Nat.one_pos
    ⟨rfl, fun _ hmem => absurd hmem List.not_mem_nil⟩))
  have hnode := hopened.tail (.app (@AppStep.node_call _ 0 _ _ rfl (List.mem_singleton_self _) rfl
    (.open rfl)))
  have hentered := hnode.tail (.app (@AppStep.node_call _ 0 _ _ rfl (List.mem_singleton_self _) rfl
    (@NodeCall.enter _ 0 _ rfl (List.mem_singleton_self _) rfl rfl)))
  have hacquired := hentered.tail (.app (@AppStep.node_call _ 0 _ _ rfl
    (List.mem_singleton_self _) rfl (@NodeCall.acquire _ 0 0 1 4 none _ _ rfl rfl)))
  have hsubmitted := hacquired.tail (.app (@AppStep.node_call _ 0 _ _ rfl
    (List.mem_singleton_self _) rfl (@NodeCall.submit _ 0 0 4 0 0 _ _ _ rfl rfl)))
  have hconsumed := hsubmitted.tail (.app (@AppStep.device_close _ 0 _
    ⟨rfl, fun x hmem => by rw [List.mem_singleton.mp hmem]; exact ⟨rfl, rfl⟩⟩
    (List.mem_singleton_self _) rfl (fun i hmem => absurd hmem List.not_mem_nil)))
  have hclosed := hconsumed.tail (.app (@AppStep.nodes_closed _ 0 _ _ rfl rfl rfl))
  have hcancelled := hclosed.tail (.app (@AppStep.cancelled _ 0 _ rfl))
  have hparked := hcancelled.tail (.app (@AppStep.park _ 0 _ _ rfl rfl rfl))
  have hpolling := hparked.tail (.pump (.turn rfl rfl))
  have hfinished := hpolling.tail (@Step.event _ 0 _ _ rfl
    (@EventStep.transfer_finished _ 0 _ .completed 4 _ _ rfl rfl rfl))
  have hcomplete := hfinished.tail (@Step.event _ 0 _ _ rfl
    (@EventStep.transfer_complete _ _ (List.mem_singleton_self _) List.not_mem_nil))
  have hleft := hcomplete.tail (@Step.event _ 0 _ _ rfl
    (@EventStep.leave _ _ (List.mem_singleton_self _) (List.mem_singleton_self _)))
  have hreaping := hleft.tail (.pump (.polled rfl))
  have hreaped := hreaping.tail (.pump (@PumpStep.reap _ 0 rfl rfl))
  have hentering := hreaped.tail (.pump (.destroy rfl (@Destroys.enters _ 0 _ rfl rfl)))
  have hreleased := hentering.tail (.pump (.destroy rfl (@Destroys.works _ 0 _ _ rfl
    (@DestroyStep.node _ 0 [] rfl))))
  have hdeleted := hreleased.tail (.pump (.destroy rfl (@Destroys.deletes _ 0 _ rfl rfl rfl)))
  have hhead := hdeleted.tail (.pump (.reaped rfl rfl))
  have hdestroy := hhead.tail (.app (.context_destroy
    ⟨rfl, fun x hmem => by rw [List.mem_singleton.mp hmem]; exact ⟨rfl, rfl⟩⟩))
  have hempty := hdestroy.tail (.app (.devices_closed rfl rfl))
  have hchecking := hempty.tail (.app (@AppStep.reaped _ .destroy rfl rfl))
  have hstopping := hchecking.tail (.app (.stop rfl rfl))
  have hexited := hstopping.tail (.pump (.stops rfl rfl))
  have hfreed := hexited.tail (.app (.free rfl (.inr rfl)))
  exact ⟨_, _, hfreed, rfl, rfl, rfl, rfl, rfl⟩

/-- **Each graph is destroyed once, and never early.** In every interleaving, a graph that was
opened is in exactly one place: the active list, the graveyard, a call of the application, the event
thread, or destroyed. It is destroyed only where nothing of it is outstanding and no callback is
active, and every Node and Channel of it was released once, the Channels with nothing in flight. -/
theorem Run.destroyed_once {callerPoll : Bool} (h : Run callerPoll s)
    (hget : s.graphs[g]? = some x) :
    s.devices.count g + s.graveyard.count g + s.app.holds.count g + s.event.holds.count g +
        x.frees = 1 ∧
      (0 < x.frees → x.pool.device.outstanding = 0 ∧ x.pool.device.callbacksActive = 0 ∧
        (∀ cell ∈ x.nodeCells, cell.frees = 1) ∧
        ∀ cell ∈ x.channelCells, cell.frees = 1 ∧ cell.transport.inFlight = 0) := by
  have hsound := h.sound
  have hx := hsound.graphs g x hget
  have hplace := hsound.places g
  rw [releases_of_get hget, if_pos (List.getElem?_eq_some_iff.mp hget).1] at hplace
  simp only [State.held, List.count_append] at hplace
  refine ⟨hplace, fun hfrees => ?_⟩
  obtain ⟨hd, hnodes, hchannels⟩ := hx.deleted (Nat.ne_of_gt hfrees)
  have hopening : x.opening = none := by
    by_contra hne
    have := List.count_pos_iff.mpr (hx.opening hne).2
    omega
  have hpool := (Bool.and_eq_true_iff.mp hd).1
  rw [Device.drained, Bool.and_eq_true, beq_iff_eq, beq_iff_eq] at hpool
  exact ⟨hpool.1, hpool.2, hx.sound.released hnodes hchannels hopening⟩

/-- The graph of a report that was in flight when its Device was closed. -/
theorem Run.destroyed_once_reaped : ∃ (s : State) (x : Graph),
    s.graphs[0]? = some x ∧ x.pool.tickets = [0] ∧ x.nodeCells.length = 1 ∧ x.frees = 1 ∧
    s.devices.count 0 + s.graveyard.count 0 + s.app.holds.count 0 + s.event.holds.count 0 +
        x.frees = 1 ∧
      (0 < x.frees → x.pool.device.outstanding = 0 ∧ x.pool.device.callbacksActive = 0 ∧
        (∀ cell ∈ x.nodeCells, cell.frees = 1) ∧
        ∀ cell ∈ x.channelCells, cell.frees = 1 ∧ cell.transport.inFlight = 0) := by
  obtain ⟨s, x, hrun, -, hget, hfrees, htickets, hlength⟩ := exists_run_freed
  exact ⟨s, x, hget, htickets, hlength, hfrees, Run.destroyed_once hrun hget⟩

/-- A run up to a report in flight. -/
theorem exists_run_submitted : ∃ s x, Run true s ∧ s.graphs[0]? = some x ∧
    ∃ slot ∈ x.pool.device.slots, slot.state = .submitted := by
  have hcreated : Run true (.created true) := .refl
  have hopened := hcreated.tail (.app (.open_device Device.sampleConfig 0 1 Nat.one_pos
    ⟨rfl, fun _ hmem => absurd hmem List.not_mem_nil⟩))
  have hnode := hopened.tail (.app (@AppStep.node_call _ 0 _ _ rfl (List.mem_singleton_self _) rfl
    (.open rfl)))
  have hentered := hnode.tail (.app (@AppStep.node_call _ 0 _ _ rfl (List.mem_singleton_self _) rfl
    (@NodeCall.enter _ 0 _ rfl (List.mem_singleton_self _) rfl rfl)))
  have hacquired := hentered.tail (.app (@AppStep.node_call _ 0 _ _ rfl
    (List.mem_singleton_self _) rfl (@NodeCall.acquire _ 0 0 1 4 none _ _ rfl rfl)))
  have hsubmitted := hacquired.tail (.app (@AppStep.node_call _ 0 _ _ rfl
    (List.mem_singleton_self _) rfl (@NodeCall.submit _ 0 0 4 0 0 _ _ _ rfl rfl)))
  exact ⟨_, _, hsubmitted, rfl, _, List.mem_singleton_self _, rfl⟩

/-- **No completion reaches released storage.** In every interleaving, a graph to which a completion
of libusb can still come was not destroyed. The Node of every slot in use, and of every callback
that has not returned, and the Channel of every Bulk callback, were not released. -/
theorem Run.completion_alive {callerPoll : Bool} (h : Run callerPoll s)
    (hget : s.graphs[g]? = some x) :
    (∀ x', EventStep x x' → x.frees = 0) ∧
      (∀ slot ∈ x.pool.device.slots, slot.state ≠ .free →
        ∃ t n, slot.callback = some t ∧ x.owners[t]? = some n ∧ x.Marked n) ∧
      (∀ notice ∈ x.pool.notices, notice.callback ∉ x.returned →
        ∃ n, x.owners[notice.callback]? = some n ∧ x.Marked n) ∧
      ∀ cell ∈ x.channelCells, ∀ c, CallbackStep cell.transport c → cell.frees = 0 := by
  have hsound := h.sound
  have hx := (hsound.graphs g x hget).sound
  have howner : ∀ t, x.Live t → ∃ n, x.owners[t]? = some n ∧ x.Marked n := by
    intro t ht
    have hn := List.getElem?_eq_getElem (hx.marks.length.symm ▸ ht.1)
    exact ⟨_, hn, hx.marks.marked t _ ht hn⟩
  refine ⟨fun x' hstep => (hsound.alive_of_event hget hstep).1, ?_, ?_, ?_⟩
  · intro slot hmem hbusy
    obtain ⟨t, hticket⟩ := Option.isSome_iff_exists.mp ((hx.accounts.1.slots slot hmem).busy hbusy)
    obtain ⟨n, hn, hmarked⟩ := howner t (hx.live_of_slot hmem hticket)
    exact ⟨t, n, hticket, hn, hmarked⟩
  · intro notice hmem hnew
    obtain ⟨hlt, habandoned, -⟩ := hx.of_notice hmem
    exact howner _ ⟨hlt, habandoned, hnew⟩
  · intro cell hmem c hcallback
    by_contra hne
    have hcell := hx.cells cell hmem
    exact hcell.not_callbackStep (hcell.freed hne) hcallback

/-- The report in flight. -/
theorem Run.completion_alive_submitted : ∃ x : Graph,
    (∃ slot ∈ x.pool.device.slots, slot.state = .submitted) ∧
      (∀ x', EventStep x x' → x.frees = 0) ∧
      (∀ slot ∈ x.pool.device.slots, slot.state ≠ .free →
        ∃ t n, slot.callback = some t ∧ x.owners[t]? = some n ∧ x.Marked n) ∧
      (∀ notice ∈ x.pool.notices, notice.callback ∉ x.returned →
        ∃ n, x.owners[notice.callback]? = some n ∧ x.Marked n) ∧
      ∀ cell ∈ x.channelCells, ∀ c, CallbackStep cell.transport c → cell.frees = 0 := by
  obtain ⟨s, x, hrun, hget, hslot⟩ := exists_run_submitted
  exact ⟨x, hslot, Run.completion_alive hrun hget⟩

/-- **The Context is freed last.** Behind it every graph was destroyed, once, the event thread has
returned, and no thread and no completion takes a step any more. -/
theorem Run.freed_last {callerPoll : Bool} (h : Run callerPoll s) (hfreed : s.app = .freed) :
    (∀ x ∈ s.graphs, x.frees = 1) ∧ s.event.Gone ∧ ∀ s', ¬Step s s' := by
  have hsound := h.sound
  have hdevices : s.devices = [] := hsound.tearing (by rw [hfreed]; trivial)
  have hgone := hsound.freed hfreed
  have hevent : s.event.holds = [] := by
    rcases hgone with hpc | hpc <;> rw [hpc] <;> rfl
  have hheld : s.held = [] := by
    rw [State.held, hdevices, hsound.ended (.inr hfreed), hfreed, hevent]
    rfl
  have hdestroyed : ∀ (g : ℕ) (x : Graph), s.graphs[g]? = some x → x.frees = 1 := by
    intro g x hget
    rcases hsound.places.held_or_released hget with ⟨hcount, -⟩ | ⟨-, hfrees⟩
    · rw [hheld] at hcount
      cases hcount
    · exact hfrees
  refine ⟨fun x hmem => ?_, hgone, fun s' hstep => ?_⟩
  · obtain ⟨g, hget⟩ := List.mem_iff_getElem?.mp hmem
    exact hdestroyed g x hget
  · cases hstep with
    | @event g x x' hget hevent =>
      have hzero := (hsound.alive_of_event hget hevent).1
      rw [hdestroyed g x hget] at hzero
      cases hzero
    | app happ => exact happ.before_freed.elim (absurd hfreed) (absurd hdevices)
    | pump hpump => exact hpump.not_gone hgone

/-- The Context whose one Device was closed with a report in flight. -/
theorem Run.freed_last_reaped : ∃ s : State, s.app = .freed ∧ (∃ x ∈ s.graphs, x.frees = 1) ∧
    (∀ x ∈ s.graphs, x.frees = 1) ∧ s.event.Gone ∧ ∀ s', ¬Step s s' := by
  obtain ⟨s, x, hrun, hfreed, hget, hfrees, -, -⟩ := exists_run_freed
  exact ⟨s, hfreed, ⟨x, List.mem_of_getElem? hget, hfrees⟩, Run.freed_last hrun hfreed⟩

end LibaoaHid.Teardown

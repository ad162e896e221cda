import LibaoaHid.Api.DeviceClose

/-!
# What the close of a Device leaves held

Which Nodes get their AOA request 55 while the other side still holds one of their controls. Every
Node that the loop of `device_close_impl` closes was neutralized. When a Node fails the loop ends,
and the Nodes opened before it are unregistered as they are. So the close of a Device keeps what
it promises exactly when no Node fails for another reason than the budget while one opened before
it holds something.

## Main definitions

* `StopsAt`, `Drains`: how a close goes, in terms of its Nodes and of what it meets.
* `OnDevice`: the Nodes that a Device can have.
* `Unregistration.Excused`.

## Main results

* `closeNodes_cases`, `mem_deviceTeardown_of_stopsAt`.
* `deviceTeardown_neutralizes_iff`, `deviceTeardown_unregisters_held`.
-/

namespace LibaoaHid

open Relation

/-! ### Places in the order of opening -/

theorem getElem?_reverse_cons {α : Type*} {x y : α} {l : List α} {k : ℕ} :
    (x :: l).reverse[k]? = some y ↔ l.reverse[k]? = some y ∨ k = l.length ∧ x = y := by
  rw [List.reverse_cons, List.getElem?_append, List.length_reverse]
  split
  · rename_i hlt
    exact ⟨Or.inl, fun h => h.elim id fun hlast => absurd hlast.1 (by omega)⟩
  · rename_i hle
    rw [List.getElem?_eq_none (by rw [List.length_reverse]; omega : l.reverse.length ≤ k),
      List.getElem?_singleton]
    constructor
    · intro h
      split at h
      · exact Or.inr ⟨by omega, Option.some.inj h⟩
      · cases h
    · rintro (h | ⟨rfl, rfl⟩)
      · cases h
      · simp

theorem lt_of_getElem?_reverse {α : Type*} {y : α} {l : List α} {k : ℕ}
    (h : l.reverse[k]? = some y) : k < l.length := by
  have hlt := (List.getElem?_eq_some_iff.mp h).1
  rwa [List.length_reverse] at hlt

/-! ### The loop -/

section Loop

variable {env : TeardownEnv} {nodes : List System}

/-- A Node as its turn finds it. -/
def TeardownEnv.atTurn (env : TeardownEnv) (k : ℕ) (s : System) : System :=
  s.completeWith (env.early k)

/-- What happens in the turn of a Node: its request 55, and the failure. -/
def TeardownEnv.trace (env : TeardownEnv) (k : ℕ) (s : System) :
    Option System × Option CloseFailure :=
  closeTrace (env.atTurn k s) (env.turn k)

/-- A Node after its turn. -/
def TeardownEnv.afterTurn (env : TeardownEnv) (k : ℕ) (s : System) : System :=
  (closeLiveNodeUntil (env.atTurn k s) (env.turn k)).2

/-- The loop ends at this Node: its step fails, and the Nodes opened after it close. -/
def StopsAt (env : TeardownEnv) (nodes : List System) (j : ℕ) (failure : CloseFailure) : Prop :=
  (∃ s, nodes[j]? = some s ∧ (env.trace j s).2 = some failure) ∧
    ∀ k s, j < k → nodes[k]? = some s → (env.trace k s).2 = none

theorem StopsAt.unique {i j : ℕ} {first second : CloseFailure} (h : StopsAt env nodes i first)
    (h' : StopsAt env nodes j second) : i = j ∧ first = second := by
  obtain ⟨⟨s, hs, hfirst⟩, hlater⟩ := h
  obtain ⟨⟨s', hs', hsecond⟩, hlater'⟩ := h'
  rcases Nat.lt_trichotomy i j with hlt | rfl | hlt
  · rw [hlater j s' hlt hs'] at hsecond
    cases hsecond
  · rw [hs] at hs'
    cases hs'
    rw [hfirst] at hsecond
    exact ⟨rfl, Option.some.inj hsecond⟩
  · rw [hlater' i s hlt hs] at hfirst
    cases hfirst

theorem length_awaiting (env : TeardownEnv) (nodes : List System) :
    (awaiting env nodes).length = nodes.length := by
  induction nodes with
  | nil => rfl
  | cons s rest ih => rw [awaiting, List.length_cons, List.length_cons, ih]

theorem getElem?_awaiting {k : ℕ} {x : System} : (awaiting env nodes).reverse[k]? = some x ↔
    ∃ s, nodes.reverse[k]? = some s ∧ x = env.atTurn k s := by
  induction nodes with
  | nil => simp [awaiting]
  | cons s rest ih =>
    rw [awaiting]
    simp only [getElem?_reverse_cons, ih, length_awaiting]
    constructor
    · rintro (⟨s', hs', rfl⟩ | ⟨rfl, rfl⟩)
      · exact ⟨s', Or.inl hs', rfl⟩
      · exact ⟨s, Or.inr ⟨rfl, rfl⟩, rfl⟩
    · rintro ⟨s', hs' | ⟨rfl, rfl⟩, rfl⟩
      · exact Or.inl ⟨s', hs', rfl⟩
      · exact Or.inr ⟨rfl, rfl⟩

/-- The requests of the loop are those of the turns. -/
theorem mem_closeNodes {u : Unregistration} (h : u ∈ (closeNodes env nodes).requests) :
    ∃ s, nodes.reverse[u.position]? = some s ∧ (env.trace u.position s).1 = some u.system := by
  induction nodes with
  | nil => cases h
  | cons s rest ih =>
    have hown {u : Unregistration} (h : u ∈ (closeTrace (s.completeWith (env.early rest.length))
        (env.turn rest.length)).1.toList.map (Unregistration.mk rest.length)) :
        ∃ s', (s :: rest).reverse[u.position]? = some s' ∧
          (env.trace u.position s').1 = some u.system := by
      obtain ⟨atRequest, hmem, rfl⟩ := List.mem_map.mp h
      exact ⟨s, getElem?_reverse_cons.mpr (Or.inr ⟨rfl, rfl⟩), Option.mem_toList.mp hmem⟩
    rw [closeNodes] at h
    dsimp only at h
    split at h
    · rcases List.mem_append.mp h with h | h
      · exact hown h
      · obtain ⟨s', hs', htrace⟩ := ih h
        exact ⟨s', getElem?_reverse_cons.mpr (Or.inl hs'), htrace⟩
    · exact hown h

/-- **How the loop ends.** Either every Node closes, or it ends at a Node; then the Nodes opened
before are left as they are. -/
theorem closeNodes_cases (env : TeardownEnv) (nodes : List System) :
    (closeNodes env nodes).stop = none ∧ (closeNodes env nodes).left = [] ∧
        (∀ k s, nodes.reverse[k]? = some s → (env.trace k s).2 = none) ∨
      ∃ j failure s, (closeNodes env nodes).stop = some ⟨j, some failure⟩ ∧
        StopsAt env nodes.reverse j failure ∧ nodes.reverse[j]? = some s ∧
        ∀ k x, (closeNodes env nodes).left.reverse[k]? = some x ↔
          (k < j ∧ ∃ s, nodes.reverse[k]? = some s ∧ x = env.atTurn k s) ∨
          k = j ∧ x = (env.afterTurn j s).completeWith env.late := by
  induction nodes with
  | nil => exact Or.inl ⟨rfl, rfl, by simp⟩
  | cons s rest ih =>
    rw [closeNodes]
    dsimp only
    by_cases hok : (closeLiveNodeUntil (s.completeWith (env.early rest.length))
        (env.turn rest.length)).1 = .ok
    · rw [if_pos hok]
      have htrace : (env.trace rest.length s).2 = none := closeTrace_eq_none_iff.mpr hok
      rcases ih with ⟨hstop, hleft, hall⟩ | ⟨j, failure, s', hstop, hstops, hs', hleft⟩
      · refine Or.inl ⟨hstop, hleft, fun k x hx => ?_⟩
        rcases getElem?_reverse_cons.mp hx with hx | ⟨rfl, rfl⟩
        · exact hall k x hx
        · exact htrace
      · have hj := lt_of_getElem?_reverse hs'
        obtain ⟨⟨s'', hs'', hfails⟩, hlater⟩ := hstops
        refine Or.inr ⟨j, failure, s', hstop,
          ⟨⟨s'', getElem?_reverse_cons.mpr (Or.inl hs''), hfails⟩, fun k x hk hx => ?_⟩,
          getElem?_reverse_cons.mpr (Or.inl hs'), fun k x => ?_⟩
        · rcases getElem?_reverse_cons.mp hx with hx | ⟨rfl, rfl⟩
          · exact hlater k x hk hx
          · exact htrace
        · rw [hleft]
          refine or_congr_left (and_congr_right fun hk => exists_congr fun x' => ?_)
          rw [getElem?_reverse_cons]
          exact and_congr_left fun _ => ⟨Or.inl, fun h => h.elim id fun h => absurd h.1 (by omega)⟩
    · rw [if_neg hok]
      obtain ⟨failure, hfailure⟩ := Option.ne_none_iff_exists'.mp
        (mt closeTrace_eq_none_iff.mp hok)
      refine Or.inr ⟨rest.length, failure, s, by rw [hfailure],
        ⟨⟨s, getElem?_reverse_cons.mpr (Or.inr ⟨rfl, rfl⟩), hfailure⟩, fun k x hk hx => ?_⟩,
        getElem?_reverse_cons.mpr (Or.inr ⟨rfl, rfl⟩), fun k x => ?_⟩
      · have := lt_of_getElem?_reverse hx
        rw [List.length_cons] at this
        omega
      · rw [getElem?_reverse_cons, getElem?_awaiting, length_awaiting]
        refine or_congr ⟨?_, ?_⟩ (and_congr_right fun _ => eq_comm)
        · rintro ⟨x', hx', rfl⟩
          exact ⟨lt_of_getElem?_reverse hx', x', getElem?_reverse_cons.mpr (Or.inl hx'), rfl⟩
        · rintro ⟨hk, x', hx', rfl⟩
          rcases getElem?_reverse_cons.mp hx' with hx' | ⟨rfl, -⟩
          · exact ⟨x', hx', rfl⟩
          · exact absurd hk (lt_irrefl _)

theorem mem_destroyRequests {u : Unregistration} : u ∈ destroyRequests env nodes ↔
    nodes.reverse[u.position]? = some u.system ∧ env.present u.position = true := by
  induction nodes with
  | nil => simp [destroyRequests]
  | cons s rest ih =>
    rw [destroyRequests, List.mem_append, ih, getElem?_reverse_cons, or_and_right, or_comm]
    refine or_congr_right ?_
    split
    · rename_i hpresent
      rw [List.mem_singleton]
      constructor
      · rintro rfl
        exact ⟨⟨rfl, rfl⟩, hpresent⟩
      · rintro ⟨⟨hposition, hsystem⟩, -⟩
        rw [← hposition, hsystem]
    · rename_i habsent
      refine ⟨nofun, ?_⟩
      rintro ⟨⟨hposition, -⟩, hpresent⟩
      rw [hposition] at hpresent
      exact absurd hpresent habsent

theorem stop_deviceTeardown (env : TeardownEnv) (nodes : List System) :
    (deviceTeardown env nodes).stop = (closeNodes env nodes.reverse).stop := by
  rw [deviceTeardown]
  split <;> rfl

theorem mem_deviceTeardown {u : Unregistration} : u ∈ (deviceTeardown env nodes).requests ↔
    u ∈ (closeNodes env nodes.reverse).requests ∨
      graphDrained env (closeNodes env nodes.reverse).left = true ∧
        u ∈ destroyRequests env (closeNodes env nodes.reverse).left := by
  rw [deviceTeardown]
  split
  · rename_i hdrained
    simp [hdrained]
  · rename_i hpending
    simp [hpending]

/-- The reports in flight of the Nodes that a loop leaves complete, and the Channels drain. -/
structure Drains (env : TeardownEnv) (nodes : List System) (j : ℕ) : Prop where
  before : ∀ k s, k < j → nodes[k]? = some s → (env.atTurn k s).inflight = none
  failed : ∀ s, nodes[j]? = some s → ((env.afterTurn j s).completeWith env.late).inflight = none
  channels : env.channelsDrained = true

/-- **The requests of a close that stops.** -/
theorem mem_deviceTeardown_of_stopsAt {j : ℕ} {failure : CloseFailure}
    (h : StopsAt env nodes j failure) {u : Unregistration} :
    (deviceTeardown env nodes).stop = some ⟨j, some failure⟩ ∧
    (u ∈ (deviceTeardown env nodes).requests ↔
      u ∈ (closeNodes env nodes.reverse).requests ∨ Drains env nodes j ∧
        env.present u.position = true ∧ ((u.position < j ∧ ∃ s, nodes[u.position]? = some s ∧
          u.system = env.atTurn u.position s) ∨ u.position = j ∧ ∃ s, nodes[j]? = some s ∧
          u.system = (env.afterTurn j s).completeWith env.late)) := by
  have hcases := closeNodes_cases env nodes.reverse
  rw [List.reverse_reverse] at hcases
  rcases hcases with ⟨-, -, hall⟩ | ⟨j', failure', s, hstop, hstops, hs, hleft⟩
  · obtain ⟨⟨s, hs, hfails⟩, -⟩ := h
    rw [hall j s hs] at hfails
    cases hfails
  · obtain ⟨rfl, rfl⟩ := hstops.unique h
    rw [stop_deviceTeardown]
    refine ⟨hstop, ?_⟩
    rw [mem_deviceTeardown, mem_destroyRequests, hleft]
    have hdrained : graphDrained env (closeNodes env nodes.reverse).left = true ↔
        Drains env nodes j' := by
      rw [graphDrained, Bool.and_eq_true, List.all_eq_true]
      have hmem (x : System) : x ∈ (closeNodes env nodes.reverse).left ↔
          ∃ k : ℕ, (closeNodes env nodes.reverse).left.reverse[k]? = some x := by
        rw [← List.mem_reverse, List.mem_iff_getElem?]
      simp only [hmem, hleft, Option.isNone_iff_eq_none]
      constructor
      · rintro ⟨hidle, hchannels⟩
        refine ⟨fun k x hk hx => hidle _ ⟨k, Or.inl ⟨hk, x, hx, rfl⟩⟩, fun x hx => ?_, hchannels⟩
        rw [hs] at hx
        cases hx
        exact hidle _ ⟨j', Or.inr ⟨rfl, rfl⟩⟩
      · rintro ⟨hbefore, hfailed, hchannels⟩
        refine ⟨?_, hchannels⟩
        rintro x ⟨k, ⟨hk, x', hx', rfl⟩ | ⟨rfl, rfl⟩⟩
        · exact hbefore k x' hk hx'
        · exact hfailed s hs
    rw [hdrained]
    refine or_congr_right (and_congr_right fun _ => ?_)
    rw [and_comm]
    refine and_congr_right fun _ => or_congr_right (and_congr_right fun _ => ?_)
    simp [hs]

end Loop

/-! ### What is still held -/

/-- The Nodes that a Device can have: a generated one after any run, and a raw one in any state,
whose reports say nothing about controls to the library. -/
inductive OnDevice : System → Prop
  | generated {spec : Spec} {hidId : ℕ} {opened : System} (hspec : Generated spec)
      (hopened : System.opened spec hidId = some opened) (events : List Event)
      (hopen : (opened.run events).node.closed = false) : OnDevice (opened.run events)
  | raw {s : System} (hkind : s.node.spec.kind = .raw) : OnDevice s

/-- The Node itself has failed, or the budget ran out before its request. -/
def Unregistration.Excused (u : Unregistration) (stop : Option LoopStop) : Prop :=
  ∃ j failure, stop = some ⟨j, some failure⟩ ∧
    (u.position = j ∧ failure.IsOwn ∨ u.position ≤ j ∧ failure = .budget)

/-- A Battery has no controls. -/
theorem not_covers_of_battery {spec : Spec} (hsound : spec.Sound) (hkind : spec.kind = .battery)
    {field : FieldLayout} (hmem : field ∈ spec.layout.fields) (control : Control) :
    ¬control.Covers spec.config field := by
  have haccepted := hsound.accepted
  have hstrength (hpadding : field.semantic ≠ .constantPadding) :
      field.semantic = .batteryStrength := by
    have hdecl := ReportLayout.decl_mem_declared hmem hpadding
    rw [hsound.declared] at hdecl
    rw [hkind] at haccepted
    cases hconfig : spec.config with
    | battery c =>
      rw [hconfig] at hdecl
      exact congrArg FieldDecl.semantic (List.mem_singleton.mp hdecl)
    | _ =>
      rw [hconfig] at haccepted
      exact haccepted.elim
  intro hcovers
  have hsemantic : field.semantic ∈ [.keyBitmap, .modifier, .buttons, .hat, .consumerUsage,
      .gamepadAxis, .inRange, .tip] := by
    cases control with
    | dpad => rcases hcovers with h | ⟨h, -⟩ <;> simp [h]
    | usage | inRange | tip => simp [show field.semantic = _ from hcovers]
    | _ => simp [hcovers.1]
  rw [hstrength fun hpadding => by simp [hpadding] at hsemantic] at hsemantic
  simp at hsemantic

theorem not_held_of_battery {spec : Spec} (hsound : spec.Sound) (hkind : spec.kind = .battery)
    (control : Control) (wire : List Transmission) :
    ¬Held (Transmission.Holds spec control) (Transmission.Frees spec control) wire := by
  rintro ⟨-, t, -, -, ⟨-, hnot⟩, -⟩
  exact hnot fun field hmem hcovers =>
    absurd hcovers (not_covers_of_battery hsound hkind hmem control)

theorem run_completeWith (s : System) (events : List Event)
    (completion : Option (TransferStatus × ℕ)) :
    ∃ events', (s.run events).completeWith completion = s.run events' := by
  rcases completion with - | ⟨status, actualLength⟩
  · exact ⟨events, rfl⟩
  · refine ⟨events ++ [.complete status actualLength], ?_⟩
    rw [System.run_append]
    rfl

theorem closed_completeWith (s : System) (completion : Option (TransferStatus × ℕ)) :
    (s.completeWith completion).node.closed = s.node.closed := by
  cases completion with
  | none => rfl
  | some completion => exact System.reports_closed_eq (s.complete_moves completion.1 completion.2)

theorem completeWith_of_idle {s : System} (h : s.inflight = none)
    (completion : Option (TransferStatus × ℕ)) : s.completeWith completion = s := by
  cases completion with
  | none => rfl
  | some completion =>
    rw [System.completeWith, System.complete]
    split
    · rfl
    · rename_i hinflight
      rw [h] at hinflight
      cases hinflight

variable {env : TeardownEnv} {nodes : List System}

/-- **A Node at the request 55 of its turn holds nothing.** -/
theorem OnDevice.nothingHeld {s : System} (h : OnDevice s) (hkind : s.node.spec.kind ≠ .raw)
    {k : ℕ} {atRequest : System} (htrace : (env.trace k s).1 = some atRequest) :
    atRequest.NothingHeld ∧ atRequest.inflight = none := by
  cases h with
  | raw hraw => exact absurd hraw hkind
  | @generated spec hidId opened hspec hopened events hopen =>
    have hclosed := (closed_completeWith (opened.run events) (env.early k)).trans hopen
    obtain ⟨events', heq⟩ := run_completeWith opened events (env.early k)
    rw [TeardownEnv.trace, TeardownEnv.atTurn, heq] at htrace
    rw [heq] at hclosed
    have hfits := System.fits_opened hspec.sound hopened
    obtain ⟨drained, hdrained, hneutral, hidle⟩ :=
      closedNeutral_of_closeTrace (hfits.run events') hclosed htrace
    refine ⟨?_, hidle⟩
    by_cases hbattery : spec.kind = .battery
    · have hspec' : atRequest.node.spec = spec := by
        obtain ⟨settled, hmoves, -, -, hsettled⟩ := hneutral.neutral
        have hsame : atRequest.node.spec = settled.node.spec := by
          have h := congrArg (fun s : System => s.node.spec) hsettled
          exact h
        have hspec₁ := (System.run_spec_eq hfits events').trans (System.eq_of_opened hopened).1
        have hspec₂ := (System.reports_spec_eq hdrained).trans hspec₁
        exact hsame.trans ((System.reports_spec_eq hmoves).trans hspec₂)
      refine ⟨fun control => ?_, fun htouch => ?_⟩
      · rw [hspec']
        exact not_held_of_battery hspec.sound hbattery control atRequest.wire
      · rw [hspec', hbattery] at htouch
        simp at htouch
    · obtain ⟨hcontrols, hcontacts⟩ :=
        System.nothingHeld_of_closedNeutral hspec hbattery hopened events' hdrained hneutral
      exact ⟨hcontrols, hcontacts⟩

/-- **When the close of a Device neutralizes.** Whatever the requests and transfers do: AOA request
55 is sent only for Nodes of which nothing is held, or which failed themselves, or when the budget
ran out, exactly when the loop does not stop at a Node for another reason than the budget while a
Node opened before it, which is then unregistered, holds something. -/
theorem deviceTeardown_neutralizes_iff (hnodes : ∀ s ∈ nodes, OnDevice s) (env : TeardownEnv) :
    (∀ u ∈ (deviceTeardown env nodes).requests, ∀ s, nodes[u.position]? = some s →
      s.node.spec.kind ≠ .raw →
        u.Excused (deviceTeardown env nodes).stop ∨ u.system.NothingHeld) ↔
    ∀ j failure, StopsAt env nodes j failure → failure ≠ .budget → Drains env nodes j →
      ∀ k < j, env.present k = true → ∀ s, nodes[k]? = some s → s.node.spec.kind ≠ .raw →
        (env.atTurn k s).NothingHeld := by
  constructor
  · intro hproperty j failure hstops hbudget hdrains k hk hpresent s hs hkind
    have hmem := mem_deviceTeardown_of_stopsAt (u := ⟨k, env.atTurn k s⟩) hstops
    have hrequest := hmem.2.mpr (Or.inr ⟨hdrains, hpresent, Or.inl ⟨hk, s, hs, rfl⟩⟩)
    refine (hproperty _ hrequest s hs hkind).resolve_left ?_
    rintro ⟨j', failure', hstop, hexcuse⟩
    rw [hmem.1] at hstop
    cases hstop
    rcases hexcuse with ⟨rfl, -⟩ | ⟨-, hexpired⟩
    · exact lt_irrefl _ hk
    · exact hbudget hexpired
  · intro hcondition u hu s hs hkind
    have honDevice := hnodes s (List.mem_of_getElem? hs)
    have hturn (h : u ∈ (closeNodes env nodes.reverse).requests) : u.system.NothingHeld := by
      obtain ⟨s', hs', htrace⟩ := mem_closeNodes h
      rw [List.reverse_reverse, hs] at hs'
      cases hs'
      exact (honDevice.nothingHeld hkind htrace).1
    have hcases := closeNodes_cases env nodes.reverse
    rw [List.reverse_reverse] at hcases
    rcases hcases with ⟨-, hleft, -⟩ | ⟨j, failure, -, -, hstops, -⟩
    · rw [mem_deviceTeardown, hleft] at hu
      exact Or.inr (hu.elim hturn fun h => nomatch h.2)
    · obtain ⟨hstop, hmem⟩ := mem_deviceTeardown_of_stopsAt (u := u) hstops
      rw [hstop]
      rcases hmem.mp hu with hu | ⟨hdrains, hpresent,
        ⟨hk, s', hs', hsystem⟩ | ⟨hj, s', hs', hsystem⟩⟩
      · exact Or.inr (hturn hu)
      · rw [hs] at hs'
        cases hs'
        by_cases hbudget : failure = .budget
        · exact Or.inl ⟨j, failure, rfl, Or.inr ⟨hk.le, hbudget⟩⟩
        · rw [hsystem]
          exact Or.inr (hcondition j failure hstops hbudget hdrains _ hk hpresent s hs hkind)
      · rw [hj] at hs hpresent
        rw [hs] at hs'
        cases hs'
        cases failure with
        | drain | completion | neutral | unregister =>
          exact Or.inl ⟨j, _, rfl, Or.inl ⟨hj, trivial⟩⟩
        | budget => exact Or.inl ⟨j, _, rfl, Or.inr ⟨hj.le, rfl⟩⟩
        | reservation =>
          obtain ⟨⟨s', hs', hfails⟩, -⟩ := hstops
          rw [hs] at hs'
          cases hs'
          have htrace := closeTrace_of_reservation (env.stays j j le_rfl hpresent) hfails
          obtain ⟨hnothing, hidle⟩ := honDevice.nothingHeld hkind htrace
          rw [hsystem, TeardownEnv.afterTurn, completeWith_of_idle hidle]
          exact Or.inr hnothing

/-- A second sample mouse on the Device. -/
def secondOpened : System :=
  (System.opened sampleMouse 2).get (by
    rw [System.opened, Option.isSome_map]
    exact isSome_openNode generated_sampleMouse 2)

/-- A report that the target refused with a STALL. -/
def stalledReport : List Event :=
  [.call (.mouseButton 1 1) .present, .submit { acquire := .ok (List.replicate 8 0) },
    .complete .stall 0]

/-- A close in which every request and transfer succeeds at once. -/
def promptTeardown : TeardownEnv where
  turn := fun _ => { drain := none, neutral := some promptClose.neutral }
  stays := fun _ _ _ _ => rfl

theorem onDevice_secondOpened : OnDevice (secondOpened.run stalledReport) :=
  .generated generated_sampleMouse (Option.some_get _).symm stalledReport (by decide +kernel)

theorem stopsAt_secondOpened (s : System) :
    StopsAt promptTeardown [s, secondOpened.run stalledReport] 1 .completion := by
  refine ⟨⟨_, rfl, by decide +kernel⟩, fun k s' hk hs' => ?_⟩
  have hlt := (List.getElem?_eq_some_iff.mp hs').1
  rw [List.length_cons, List.length_singleton] at hlt
  omega

/-- The first of two Nodes is unregistered when the second one has failed. -/
theorem mem_requests_first {first second : System} {failure : CloseFailure}
    (hstops : StopsAt promptTeardown [first, second] 1 failure) (hfirst : first.inflight = none)
    (hsecond : (promptTeardown.afterTurn 1 second).inflight = none) :
    ⟨0, first⟩ ∈ (deviceTeardown promptTeardown [first, second]).requests := by
  refine (mem_deviceTeardown_of_stopsAt hstops).2.mpr (Or.inr ⟨⟨fun k s hk hs => ?_, fun s hs => ?_,
    rfl⟩, rfl, Or.inl ⟨Nat.zero_lt_one, first, rfl, rfl⟩⟩)
  · obtain rfl : k = 0 := by omega
    cases hs
    exact hfirst
  · cases hs
    exact hsecond

theorem deviceTeardown_neutralizes_sampleOpened :
    (deviceTeardown promptTeardown
      [sampleOpened, secondOpened.run stalledReport]).requests.map (·.position) = [1, 0] ∧
    ∀ u ∈ (deviceTeardown promptTeardown
        [sampleOpened, secondOpened.run stalledReport]).requests,
      ∀ s, [sampleOpened, secondOpened.run stalledReport][u.position]? = some s →
        s.node.spec.kind ≠ .raw →
          u.Excused (deviceTeardown promptTeardown
            [sampleOpened, secondOpened.run stalledReport]).stop ∨ u.system.NothingHeld := by
  have hnodes : ∀ s ∈ [sampleOpened, secondOpened.run stalledReport], OnDevice s := by
    intro s hs
    rcases List.mem_cons.mp hs with rfl | hs
    · exact .generated generated_sampleMouse opened_sampleOpened [] (by decide +kernel)
    · rw [List.mem_singleton.mp hs]
      exact onDevice_secondOpened
  refine ⟨by decide +kernel, (deviceTeardown_neutralizes_iff hnodes promptTeardown).mpr ?_⟩
  intro j failure hstops hbudget hdrains k hk hpresent s hs hkind
  obtain ⟨rfl, rfl⟩ := hstops.unique (stopsAt_secondOpened sampleOpened)
  obtain rfl : k = 0 := by omega
  cases hs
  exact ⟨fun _ => not_held_nil, fun htouch => absurd htouch (by decide +kernel)⟩

/-- The first mouse is unregistered with its button down, since the second one has failed. -/
theorem deviceTeardown_unregisters_held :
    ¬∀ (nodes : List System) (env : TeardownEnv), (∀ s ∈ nodes, OnDevice s) →
      ∀ u ∈ (deviceTeardown env nodes).requests, ∀ s, nodes[u.position]? = some s →
        s.node.spec.kind ≠ .raw →
          u.Excused (deviceTeardown env nodes).stop ∨ u.system.NothingHeld := by
  intro hclaim
  have hstops := stopsAt_secondOpened (sampleOpened.run heldMouse)
  have hstop := (mem_deviceTeardown_of_stopsAt (u := ⟨0, sampleOpened⟩) hstops).1
  have hrequest := mem_requests_first hstops (by decide +kernel) (by decide +kernel)
  refine (hclaim [sampleOpened.run heldMouse, secondOpened.run stalledReport] promptTeardown
    ?_ _ hrequest _ rfl (by decide +kernel)).elim ?_ ?_
  · intro s hs
    rcases List.mem_cons.mp hs with rfl | hs
    · exact .generated generated_sampleMouse opened_sampleOpened heldMouse (by decide +kernel)
    · rw [List.mem_singleton.mp hs]
      exact onDevice_secondOpened
  · rintro ⟨j, failure, hstop', hexcuse⟩
    rw [hstop] at hstop'
    cases hstop'
    rcases hexcuse with ⟨hposition, -⟩ | ⟨-, hbudget⟩
    · cases hposition
    · cases hbudget
  · rintro ⟨hcontrols, -⟩
    refine hcontrols (.button 0) ⟨[], heldReport, [], by decide +kernel, ?_, nofun⟩
    exact holds_heldReport

end LibaoaHid

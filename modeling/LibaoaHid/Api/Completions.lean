import LibaoaHid.Api.CompletionLog
import LibaoaHid.Api.Reachable

/-!
# Completions are returned once

The slot of a Node follows the log of every run: what the calls do to the slot is a step of the
automaton, whether the Node is generated or raw and whatever the calls meet.

## Main definitions

* `CompletionSlot.Holds`: the slot that a state holds.
* `ReturnsOnce`: a log that returns each failed completion once.

## Main results

* `System.follows_apiRun`: every run follows its log.
* `completions_returned_once`: failed completions are returned once and are never outrun.
-/

namespace LibaoaHid

/-! ### The slot of a state -/

/-- The slot that a state holds. -/
def CompletionSlot.Holds : CompletionSlot → System → Prop
  | clear, s =>
    s.inflight = none ∧ s.node.transferInflight = false ∧ s.node.completionResult = .ok
  | busy report, s =>
    s.inflight = some report ∧ s.node.transferInflight = true ∧ s.node.completionResult = .ok
  | failed result, s =>
    s.inflight = none ∧ s.node.transferInflight = false ∧ s.node.completionResult = result ∧
      result ≠ .ok
  | returning result, s =>
    s.inflight = none ∧ s.node.transferInflight = false ∧ s.node.completionResult = .ok ∧
      result ≠ .ok

/-- The completed report of an occurrence. -/
def Occurrence.transmission? : Occurrence → Option Transmission
  | .finished report result => some ⟨report, result⟩
  | _ => none

/-- From a slot the log leads to a state and its slot, and the completions of the log are on the
wire. -/
structure Follows (slot : CompletionSlot) (s : System) (log : List Occurrence) (s' : System)
    (slot' : CompletionSlot) : Prop where
  run : slot.run log = some slot'
  holds : slot'.Holds s'
  wire : s'.wire = s.wire ++ log.filterMap Occurrence.transmission?

/-- A call that is not about to return a failure. -/
def CompletionSlot.Steady (slot : CompletionSlot) : Prop := ∀ result, slot ≠ returning result

/-- The reply that a call gives from a slot. -/
def CompletionSlot.Answers (slot : CompletionSlot) (reply : Reply) : Prop :=
  ∀ result, slot = returning result → reply.result = result

namespace Follows

variable {slot slot₁ slot₂ : CompletionSlot} {s s₁ s₂ : System} {log log' : List Occurrence}

theorem refl (h : slot.Holds s) : Follows slot s [] s slot := ⟨rfl, h, by simp⟩

theorem trans (h : Follows slot s log s₁ slot₁) (h' : Follows slot₁ s₁ log' s₂ slot₂) :
    Follows slot s (log ++ log') s₂ slot₂ where
  run := by rw [CompletionSlot.run_append, h.run]; exact h'.run
  holds := h'.holds
  wire := by rw [h'.wire, h.wire, List.filterMap_append, List.append_assoc]

/-- A change that leaves the slot alone. -/
theorem congr (h : Follows slot s log s₁ slot₁) (hinflight : s₂.inflight = s₁.inflight)
    (hwire : s₂.wire = s₁.wire) (hbusy : s₂.node.transferInflight = s₁.node.transferInflight)
    (hresult : s₂.node.completionResult = s₁.node.completionResult) :
    Follows slot s log s₂ slot₁ where
  run := h.run
  holds := by
    have hholds := h.holds
    cases slot₁ <;> rw [CompletionSlot.Holds] at hholds ⊢ <;> rwa [hinflight, hbusy, hresult]
  wire := hwire.trans h.wire

/-- The return of the call. -/
theorem returned (h : Follows slot s log s₁ slot₁) {reply : Reply}
    (hanswers : slot₁.Answers reply) :
    ∃ slot₂, Follows slot s (log ++ [.returned reply.result]) s₁ slot₂ ∧ slot₂.Steady := by
  cases slot₁ with
  | returning result =>
    refine ⟨.clear, ⟨?_, ⟨h.holds.1, h.holds.2.1, h.holds.2.2.1⟩, ?_⟩, (by rintro _ ⟨⟩)⟩
    · rw [CompletionSlot.run_append, h.run, Option.bind_some, CompletionSlot.run_cons,
        CompletionSlot.next, if_pos (hanswers result rfl)]
      rfl
    · rw [List.filterMap_append, h.wire]
      simp [Occurrence.transmission?]
  | _ =>
    refine ⟨_, ⟨?_, h.holds, ?_⟩, (by rintro _ ⟨⟩)⟩
    · rw [CompletionSlot.run_append, h.run]
      rfl
    · rw [List.filterMap_append, h.wire]
      simp [Occurrence.transmission?]

end Follows

/-! ### Submits -/

/-- Two Nodes with the same slot. -/
structure Node.SameSlot (node node' : Node) : Prop where
  transferInflight : node'.transferInflight = node.transferInflight
  completionResult : node'.completionResult = node.completionResult

theorem Node.SameSlot.trans {node node' node'' : Node} (h : node.SameSlot node')
    (h' : node'.SameSlot node'') : node.SameSlot node'' :=
  ⟨h'.1.trans h.1, h'.2.trans h.2⟩

theorem sameSlot_recordFragment (node : Node) (field : FieldLayout) (value : ℤ) :
    node.SameSlot (recordFragment node field value) := by
  unfold recordFragment
  split <;> exact ⟨rfl, rfl⟩

theorem sameSlot_serializeFields : (fields : List FieldLayout) → (node : Node) →
    (report : List UInt8) → (ok : Bool) →
    node.SameSlot (serializeFields fields node report ok).1
  | [], _, _, _ => ⟨rfl, rfl⟩
  | field :: rest, node, report, ok => by
    rw [serializeFields]
    split
    · exact sameSlot_serializeFields rest node report ok
    · rename_i value allowNull _
      have hrecord := sameSlot_recordFragment node field value
      split
      · split <;> exact hrecord.trans (sameSlot_serializeFields rest _ _ _)
      · exact hrecord.trans (sameSlot_serializeFields rest _ _ _)

theorem sameSlot_recordPacket (node : Node) : node.SameSlot (recordPacket node) := by
  unfold recordPacket
  split <;> exact ⟨rfl, rfl⟩

theorem sameSlot_serializeNode (node : Node) (buffer : List UInt8) :
    node.SameSlot (serializeNode node buffer).node := by
  have hfields := sameSlot_serializeFields node.spec.layout.fields node
    (clearedReport node.spec.layout buffer) true
  rw [serializeNode]
  split
  · exact ⟨rfl, rfl⟩
  · split <;> rename_i heq <;> rw [heq] at hfields
    · exact hfields
    · exact hfields.trans (sameSlot_recordPacket _)

theorem sameSlot_rollbackScanTime (before node : Node) :
    node.SameSlot (rollbackScanTime before node) := by
  unfold rollbackScanTime
  split
  · split <;> exact ⟨rfl, rfl⟩
  · exact ⟨rfl, rfl⟩

theorem sameSlot_perform (call : Call) (link : Link) (node : Node) :
    node.SameSlot (call.perform link node).2 := by
  rw [Call.perform]
  split <;> exact ⟨rfl, rfl⟩

/-- What a submit does to the slot of its Node. -/
structure Submitted.Respects (x : Submitted) (node : Node) (refuses : Bool) : Prop where
  refused : refuses = true → x.accepted = none ∧ x.node = node
  idle : refuses = false → node.transferInflight = false
  completionResult : refuses = false → x.node.completionResult = .ok
  transferInflight : refuses = false → x.node.transferInflight = x.accepted.isSome
  failed : refuses = false → node.completionResult ≠ .ok →
    x.accepted = none ∧ x.reply.result = node.completionResult

theorem consumeCompletion_result (node : Node) (field : String) :
    (consumeCompletion node field).1.result = node.completionResult := by
  rw [consumeCompletion]
  split
  · rename_i hok
    rw [hok]
    rfl
  · rfl

theorem consumeCompletion_slot (node : Node) (field : String) :
    (consumeCompletion node field).2.completionResult = .ok ∧
      (consumeCompletion node field).2.transferInflight = node.transferInflight ∧
      (consumeCompletion node field).2.dirty = node.dirty := by
  rw [consumeCompletion]
  split <;> exact ⟨rfl, rfl, rfl⟩

/-- The slot behind a submit that has acquired a transfer. -/
theorem submitInto_slot {node : Node} (hresult : node.completionResult = .ok)
    (hbusy : node.transferInflight = true) (env : SubmitEnv) (payload : List UInt8) :
    (submitInto node env payload).node.completionResult = .ok ∧
      (submitInto node env payload).node.transferInflight =
        (submitInto node env payload).accepted.isSome := by
  have hserialize : node.SameSlot (serializeNode (updateScanTime node env.now) payload).node := by
    have hsame := sameSlot_serializeNode (updateScanTime node env.now) payload
    rw [updateScanTime_eq] at hsame ⊢
    exact ⟨hsame.1, hsame.2⟩
  rw [submitInto]
  dsimp only
  generalize serializeNode (updateScanTime node env.now) payload = serialized at hserialize ⊢
  have hrollback := hserialize.trans (sameSlot_rollbackScanTime node serialized.node)
  generalize (if env.validateReports = true then validateSerializedReport node.spec
    (serialized.buffer.take serialized.reportLength) else Reply.ok) = validated
  by_cases hserialized : serialized.reply.result ≠ .ok
  · rw [if_pos hserialized]
    exact ⟨hrollback.completionResult.trans hresult, rfl⟩
  rw [if_neg hserialized]
  by_cases hvalidated : validated.result ≠ .ok
  · rw [if_pos hvalidated]
    exact ⟨hrollback.completionResult.trans hresult, rfl⟩
  rw [if_neg hvalidated]
  cases env.rejection with
  | none =>
    exact ⟨hserialize.completionResult.trans hresult, hserialize.transferInflight.trans hbusy⟩
  | some rejection =>
    dsimp only
    generalize hcompleted : transferComplete _ rejection.result rejection.nativeStatus = completed
    have hidle : completed.transferInflight = false :=
      hcompleted ▸ (System.transferComplete_spec_dirty _ _ _).2.2
    have hslot := consumeCompletion_slot (rollbackScanTime node completed) "node.submit"
    have hafter := hslot.2.1.trans
      ((sameSlot_rollbackScanTime node completed).transferInflight.trans hidle)
    split <;> exact ⟨hslot.1, hafter⟩

/-- The slot behind a raw submit that has acquired a transfer. -/
theorem rawSubmitInto_slot {node : Node} (hresult : node.completionResult = .ok)
    (hbusy : node.transferInflight = true) (env : SubmitEnv) (report : List UInt8)
    (accepted : RawReport) :
    (rawSubmitInto node env report accepted).node.completionResult = .ok ∧
      (rawSubmitInto node env report accepted).node.transferInflight =
        (rawSubmitInto node env report accepted).accepted.isSome := by
  rw [rawSubmitInto]
  cases env.rejection with
  | none => exact ⟨hresult, hbusy⟩
  | some rejection =>
    dsimp only
    generalize hcompleted : transferComplete _ rejection.result rejection.nativeStatus = completed
    have hidle : completed.transferInflight = false :=
      hcompleted ▸ (System.transferComplete_spec_dirty _ _ _).2.2
    have hslot := consumeCompletion_slot completed "raw.submit"
    split <;> exact ⟨hslot.1, hslot.2.1.trans hidle⟩

/-- A pending failure is the reply of the submit that takes it. -/
theorem Submitted.Respects.taken {node : Node} {field : String}
    (hidle : node.transferInflight = false) :
    Submitted.Respects
      { reply := (consumeCompletion node field).1, node := (consumeCompletion node field).2 }
      node false where
  refused := nofun
  idle _ := hidle
  completionResult _ := (consumeCompletion_slot node field).1
  transferInflight _ := (consumeCompletion_slot node field).2.1.trans hidle
  failed _ _ := ⟨rfl, consumeCompletion_result node field⟩

/-- A submit that finds no failure in the slot. -/
theorem Submitted.Respects.of_clear {x : Submitted} {node : Node}
    (hidle : node.transferInflight = false) (hok : node.completionResult = .ok)
    (hslot : x.node.completionResult = .ok ∧ x.node.transferInflight = x.accepted.isSome) :
    x.Respects node false where
  refused := nofun
  idle _ := hidle
  completionResult _ := hslot.1
  transferInflight _ := hslot.2
  failed _ hfailed := absurd hok hfailed

/-- A submit that answers without a look into the slot. -/
theorem Submitted.Respects.of_refused {node : Node} (reply : Reply) :
    Submitted.Respects { reply, node } node true where
  refused _ := ⟨rfl, rfl⟩
  idle := nofun
  completionResult := nofun
  transferInflight := nofun
  failed := nofun

theorem respects_nodeSubmit (node : Node) (env : SubmitEnv) :
    (nodeSubmit node env).Respects node (nodeSubmitRefuses node env) := by
  rw [nodeSubmit, nodeSubmitRefuses]
  cases hclosed : node.closed
  case true => exact .of_refused _
  rw [if_neg Bool.false_ne_true, Bool.false_or]
  by_cases hraw : node.spec.kind = .raw
  · rw [if_pos hraw, hraw]
    exact .of_refused _
  rw [if_neg hraw, beq_eq_false_iff_ne.mpr hraw, Bool.false_or]
  cases env.deferred with
  | some refusal => exact .of_refused _
  | none =>
    cases hidle : node.transferInflight with
    | true => exact .of_refused _
    | false =>
      have hslot := consumeCompletion_slot node "node.completion"
      dsimp only [Option.isSome_none, Bool.or_false]
      rw [if_neg Bool.false_ne_true]
      by_cases hfailed : (consumeCompletion node "node.completion").1.result ≠ .ok
      · rw [if_pos hfailed]
        exact .taken hidle
      · rw [if_neg hfailed]
        rw [not_not, consumeCompletion_result] at hfailed
        refine .of_clear hidle hfailed ?_
        split
        · exact ⟨hslot.1, hslot.2.1.trans hidle⟩
        · cases env.acquire with
          | error error => exact ⟨hslot.1, hslot.2.1.trans hidle⟩
          | ok payload =>
            exact @submitInto_slot { (consumeCompletion node "node.completion").2 with
              transferInflight := true } hslot.1 rfl env payload

theorem respects_rawSubmit (node : Node) (report : Option (List UInt8)) (env : SubmitEnv) :
    (rawSubmit node report env).Respects node (rawSubmitRefuses node report env) := by
  rw [rawSubmit.eq_def, rawSubmitRefuses]
  cases report with
  | none => exact .of_refused _
  | some report =>
    dsimp only [Option.isNone_some]
    rw [Bool.false_or]
    by_cases hraw : node.closed = true ∨ node.spec.kind ≠ .raw
    · rw [if_pos hraw]
      have : (node.closed || node.spec.kind != .raw) = true := by
        rcases hraw with hclosed | hraw
        · rw [hclosed, Bool.true_or]
        · rw [bne_iff_ne.mpr hraw, Bool.or_true]
      rw [this]
      exact .of_refused _
    · rw [if_neg hraw]
      rw [not_or, Bool.not_eq_true, not_not] at hraw
      rw [hraw.1, hraw.2]
      cases env.deferred with
      | some refusal => exact .of_refused _
      | none =>
        cases hidle : node.transferInflight with
        | true => exact .of_refused _
        | false =>
          have hslot := consumeCompletion_slot node "raw.completion"
          dsimp only [Option.isSome_none, Bool.or_false]
          rw [if_neg Bool.false_ne_true]
          by_cases hfailed : (consumeCompletion node "raw.completion").1.result ≠ .ok
          · rw [if_pos hfailed]
            exact .taken hidle
          · rw [if_neg hfailed]
            rw [not_not, consumeCompletion_result] at hfailed
            refine .of_clear hidle hfailed ?_
            split
            · exact ⟨hslot.1, hslot.2.1.trans hidle⟩
            · split
              · exact ⟨hslot.1, hslot.2.1.trans hidle⟩
              · cases env.acquire with
                | error error => exact ⟨hslot.1, hslot.2.1.trans hidle⟩
                | ok payload =>
                  exact @rawSubmitInto_slot { (consumeCompletion node "raw.completion").2 with
                    transferInflight := true } hslot.1 rfl env report _

/-! ### Steps of the slot -/

namespace System

variable {s : System} {slot : CompletionSlot}

/-- A submit follows its log. -/
theorem follows_submitted {x : Submitted} {refuses : Bool} (hx : x.Respects s.node refuses)
    (hholds : slot.Holds s) (hsteady : slot.Steady) :
    ∃ slot', Follows slot s (if refuses then [] else submitLog s x)
        { s with node := x.node, inflight := x.accepted.or s.inflight } slot' ∧
      slot'.Answers x.reply ∧ (slot = .clear → slot'.Steady) := by
  cases refuses with
  | true =>
    obtain ⟨haccepted, hnode⟩ := hx.refused rfl
    refine ⟨slot, ?_, fun result h => absurd h (hsteady result), fun _ => hsteady⟩
    rw [if_pos rfl, haccepted, hnode]
    exact .refl hholds
  | false =>
    rw [if_neg Bool.false_ne_true, submitLog]
    have hresult := hx.completionResult rfl
    have hbusy := hx.transferInflight rfl
    cases slot with
    | returning result => exact absurd rfl (hsteady result)
    | busy report => exact absurd (hx.idle rfl) (by rw [hholds.2.1]; nofun)
    | clear =>
      rw [hholds.2.2]
      cases haccepted : x.accepted with
      | none =>
        rw [haccepted] at hbusy
        exact ⟨.clear, ⟨rfl, ⟨hholds.1, hbusy, hresult⟩, by simp [Occurrence.transmission?]⟩,
          nofun, fun _ => nofun⟩
      | some report =>
        rw [haccepted] at hbusy
        exact ⟨.busy report, ⟨rfl, ⟨rfl, hbusy, hresult⟩, by simp [Occurrence.transmission?]⟩,
          nofun, fun _ => nofun⟩
    | failed result =>
      obtain ⟨hinflight, -, heq, hne⟩ := hholds
      obtain ⟨haccepted, hreply⟩ := hx.failed rfl (heq ▸ hne)
      rw [haccepted] at hbusy ⊢
      rw [heq] at hreply ⊢
      refine ⟨.returning result, ⟨?_, ⟨hinflight, hbusy, hresult, hne⟩, ?_⟩, ?_, nofun⟩
      · rw [CompletionSlot.run_cons, CompletionSlot.next, if_pos rfl]
        rfl
      · simp [Occurrence.transmission?]
      · rintro _ ⟨⟩
        exact hreply

theorem follows_nodeSubmit (hholds : slot.Holds s) (hsteady : slot.Steady) (env : SubmitEnv) :
    ∃ slot', Follows slot s (nodeSubmitLog s env) (s.submit env).2 slot' ∧
      slot'.Answers (s.submit env).1 ∧ (slot = .clear → slot'.Steady) :=
  follows_submitted (respects_nodeSubmit s.node env) hholds hsteady

theorem follows_rawSubmit (hholds : slot.Holds s) (hsteady : slot.Steady)
    (report : Option (List UInt8)) (env : SubmitEnv) :
    ∃ slot', Follows slot s (rawSubmitLog s report env) (s.rawSubmit report env).2 slot' ∧
      slot'.Answers (s.rawSubmit report env).1 ∧ (slot = .clear → slot'.Steady) :=
  follows_submitted (respects_rawSubmit s.node report env) hholds hsteady

/-- A completion callback follows its log. -/
theorem follows_complete (hholds : slot.Holds s) (hsteady : slot.Steady) (status : TransferStatus)
    (actualLength : ℕ) :
    ∃ slot', Follows slot s (completeLog s status actualLength) (s.complete status actualLength)
      slot' ∧ slot'.Steady := by
  rw [completeLog, complete]
  cases slot with
  | returning result => exact absurd rfl (hsteady result)
  | clear =>
    rw [hholds.1]
    exact ⟨.clear, .refl hholds, hsteady⟩
  | failed result =>
    rw [hholds.1]
    exact ⟨.failed result, .refl hholds, hsteady⟩
  | busy report =>
    rw [hholds.1]
    simp only [Option.toList_some, List.map_cons, List.map_nil]
    generalize completionResult status actualLength report.length = result
    have hidle := (transferComplete_spec_dirty s.node result status.nativeStatus).2.2
    have hresult := transferComplete_completionResult s.node result status.nativeStatus
    by_cases hok : result = .ok
    · refine ⟨.clear, ⟨?_, ⟨rfl, hidle, hok ▸ hresult⟩, ?_⟩, (by rintro _ ⟨⟩)⟩
      · rw [CompletionSlot.run_cons, CompletionSlot.next, if_pos rfl, if_pos hok]
        rfl
      · simp [Occurrence.transmission?]
    · refine ⟨.failed result, ⟨?_, ⟨rfl, hidle, hresult, hok⟩, ?_⟩, (by rintro _ ⟨⟩)⟩
      · rw [CompletionSlot.run_cons, CompletionSlot.next, if_pos rfl, if_neg hok]
        rfl
      · simp [Occurrence.transmission?]

theorem follows_poll (hholds : slot.Holds s) (hsteady : slot.Steady) (turn : PollTurn) :
    ∃ slot', Follows slot s (pollLog s turn) (s.poll turn) slot' ∧ slot'.Steady := by
  rw [pollLog, poll]
  cases turn.completion with
  | none => exact ⟨slot, .refl hholds, hsteady⟩
  | some completion => exact follows_complete hholds hsteady completion.1 completion.2

/-- A call that finds the Node idle takes what is in the slot. -/
theorem follows_consume (hholds : slot.Holds s) (hsteady : slot.Steady)
    (hidle : s.node.transferInflight = false) (field : String) :
    ∃ slot', Follows slot s [.taken (s.consume field).1.result] (s.consume field).2 slot' ∧
      slot'.Answers (s.consume field).1 ∧ ((s.consume field).1.result = .ok → slot' = .clear) := by
  have hresult := consumeCompletion_result s.node field
  have hslot := consumeCompletion_slot s.node field
  rw [consume]
  dsimp only
  rw [hresult]
  cases slot with
  | returning result => exact absurd rfl (hsteady result)
  | busy report => exact absurd hidle (by rw [hholds.2.1]; nofun)
  | clear =>
    refine ⟨.clear, ⟨?_, ⟨hholds.1, hslot.2.1.trans hidle, hslot.1⟩, ?_⟩, nofun, fun _ => rfl⟩
    · rw [hholds.2.2]
      rfl
    · simp [Occurrence.transmission?]
  | failed result =>
    obtain ⟨hinflight, -, heq, hne⟩ := hholds
    rw [heq] at hresult ⊢
    refine ⟨.returning result, ⟨?_, ⟨hinflight, hslot.2.1.trans hidle, hslot.1, hne⟩, ?_⟩, ?_,
      fun hok => absurd hok hne⟩
    · rw [CompletionSlot.run_cons, CompletionSlot.next, if_pos rfl]
      rfl
    · simp [Occurrence.transmission?]
    · rintro _ ⟨⟩
      exact hresult

/-! ### Loops -/

/-- What a turn of a loop leaves: the slot answers the reply that ends the loop, and a loop that
goes on has nothing to return. -/
structure TurnEnd (slot : CompletionSlot) (reply : Option Reply) : Prop where
  answers : ∀ r, reply = some r → slot.Answers r
  steady : reply = none → slot.Steady

theorem TurnEnd.of_steady (h : slot.Steady) (reply : Option Reply) : TurnEnd slot reply :=
  ⟨fun _ _ result heq => absurd heq (h result), fun _ => h⟩

/-- One turn of a loop follows its log. -/
theorem follows_pollTurn (hholds : slot.Holds s) (hsteady : slot.Steady) (turn : PollTurn) :
    ∃ slot', Follows slot s (pollTurnLog s turn) (pollTurn s turn).2 slot' ∧
      TurnEnd slot' (pollTurn s turn).1 := by
  rw [pollTurn, pollTurnLog]
  dsimp only
  by_cases hbusy : s.node.transferInflight = true
  · rw [if_pos hbusy, if_pos hbusy]
    obtain ⟨slot', hfollows, hsteady'⟩ := follows_poll hholds hsteady turn
    cases turn.eventError <;> exact ⟨slot', hfollows, .of_steady hsteady' _⟩
  rw [if_neg hbusy, if_neg hbusy]
  obtain ⟨slot₁, htaken, hanswers, hclear⟩ :=
    follows_consume hholds hsteady (by simpa using hbusy) "node.completion"
  generalize s.consume "node.completion" = consumed at htaken hanswers hclear ⊢
  obtain ⟨completion, s₁⟩ := consumed
  dsimp only at htaken hanswers hclear ⊢
  by_cases hfailed : completion.result ≠ .ok
  · rw [if_pos hfailed, if_pos hfailed]
    exact ⟨slot₁, htaken, fun _ h => by cases h; exact hanswers, nofun⟩
  rw [if_neg hfailed, if_neg hfailed]
  cases hclear (not_not.mp hfailed)
  by_cases hdirty : (!s₁.node.dirty) = true
  · rw [if_pos hdirty, if_pos hdirty]
    have hclear : CompletionSlot.clear.Steady := nofun
    exact ⟨.clear, htaken, .of_steady hclear _⟩
  rw [if_neg hdirty, if_neg hdirty]
  obtain ⟨slot₂, hsubmit, hanswers₂, hsteady₂⟩ :=
    follows_nodeSubmit htaken.holds nofun turn.submit
  have hsteady₂ := hsteady₂ rfl
  generalize s₁.submit turn.submit = submitted at hsubmit hanswers₂ ⊢
  obtain ⟨reply, s₂⟩ := submitted
  dsimp only at hsubmit ⊢
  by_cases hends : reply.result ≠ .ok ∧ reply.result ≠ .errBusy
  · rw [if_pos hends, if_pos hends]
    exact ⟨slot₂, htaken.trans hsubmit, .of_steady hsteady₂ _⟩
  rw [if_neg hends, if_neg hends]
  obtain ⟨slot₃, hpoll, hsteady₃⟩ := follows_poll hsubmit.holds hsteady₂ turn
  have hall := (htaken.trans hsubmit).trans hpoll
  cases turn.eventError <;> exact ⟨slot₃, hall, .of_steady hsteady₃ _⟩

/-- A loop ends with OK only where the Node has nothing in flight and nothing to send. -/
theorem pollTurn_ok {turn : PollTurn} {reply : Reply}
    (h : (pollTurn s turn).1 = some reply) (hok : reply.result = .ok) :
    (pollTurn s turn).2.node.transferInflight = false ∧
      (pollTurn s turn).2.node.completionResult = .ok ∧
      (pollTurn s turn).2.node.dirty = false := by
  have hconsume := consumeCompletion_slot s.node "node.completion"
  have hevent : turn.eventError.map (·.reply) ≠ some reply := by
    intro heq
    obtain ⟨refusal, -, rfl⟩ := Option.map_eq_some_iff.mp heq
    exact refusal.failed hok
  rw [pollTurn] at h ⊢
  simp only [pollTurn_waits] at h ⊢
  by_cases hbusy : s.node.transferInflight = true
  · rw [if_pos hbusy] at h
    exact absurd h hevent
  rw [if_neg hbusy] at h ⊢
  by_cases hfailed : (s.consume "node.completion").1.result ≠ .ok
  · rw [if_pos hfailed] at h
    cases h
    exact absurd hok hfailed
  rw [if_neg hfailed] at h ⊢
  by_cases hdirty : (!(s.consume "node.completion").2.node.dirty) = true
  · rw [if_pos hdirty]
    exact ⟨hconsume.2.1.trans (by simpa using hbusy), hconsume.1, by simpa using hdirty⟩
  rw [if_neg hdirty] at h
  split at h
  · rename_i hends
    cases h
    exact absurd hok hends.1
  · exact absurd h hevent

/-- What a loop leaves. -/
structure LoopEnd (slot : CompletionSlot) (reply : Reply) (s : System) : Prop where
  answers : slot.Answers reply
  ok : reply.result = .ok → s.node.transferInflight = false ∧ s.node.completionResult = .ok ∧
    s.node.dirty = false

theorem follows_pollLoop : {rest : List PollTurn} → {s : System} → {slot : CompletionSlot} →
    {turn : PollTurn} → slot.Holds s → slot.Steady →
    ∃ slot', Follows slot s (pollLoopLog s turn rest) (pollLoop s turn rest).2 slot' ∧
      LoopEnd slot' (pollLoop s turn rest).1 (pollLoop s turn rest).2
  | [], s, slot, turn, hholds, hsteady => by
    obtain ⟨slot', hfollows, hend⟩ := follows_pollTurn hholds hsteady turn
    have hok := @pollTurn_ok s turn
    rw [pollLoop, pollLoopLog]
    generalize pollTurn s turn = ended at hfollows hend hok ⊢
    obtain ⟨reply, s'⟩ := ended
    cases reply with
    | some reply => exact ⟨slot', hfollows, hend.answers reply rfl, hok rfl⟩
    | none => exact ⟨slot', hfollows, fun r h => absurd h (hend.steady rfl r), nofun⟩
  | next :: rest, s, slot, turn, hholds, hsteady => by
    obtain ⟨slot', hfollows, hend⟩ := follows_pollTurn hholds hsteady turn
    have hok := @pollTurn_ok s turn
    rw [pollLoop, pollLoopLog]
    generalize pollTurn s turn = ended at hfollows hend hok ⊢
    obtain ⟨reply, s'⟩ := ended
    cases reply with
    | some reply => exact ⟨slot', hfollows, hend.answers reply rfl, hok rfl⟩
    | none =>
      obtain ⟨slot'', hrest, hend'⟩ := @follows_pollLoop rest s' slot' next hfollows.holds
        (hend.steady rfl)
      exact ⟨slot'', hfollows.trans hrest, hend'⟩

theorem follows_pollUntilIdle (hholds : slot.Holds s) (hsteady : slot.Steady)
    (script : PollScript) :
    ∃ slot', Follows slot s (pollUntilIdleLog s script) (pollUntilIdle s script).2 slot' ∧
      LoopEnd slot' (pollUntilIdle s script).1 (pollUntilIdle s script).2 := by
  rw [pollUntilIdle, pollUntilIdleLog]
  cases script.preflight with
  | some refusal =>
    exact ⟨slot, .refl hholds, fun r h => absurd h (hsteady r), fun hok =>
      absurd hok refusal.failed⟩
  | none => exact follows_pollLoop hholds hsteady

/-- Behind a loop that ends with OK nothing is in the slot. -/
theorem LoopEnd.clear {reply : Reply} (h : LoopEnd slot reply s) (hholds : slot.Holds s)
    (hok : reply.result = .ok) : slot = .clear := by
  cases slot with
  | clear => rfl
  | busy report => exact absurd (h.ok hok).1 (by rw [hholds.2.1]; nofun)
  | failed result => exact absurd (hholds.2.2.1 ▸ (h.ok hok).2.1) hholds.2.2.2
  | returning result => exact absurd (h.answers result rfl ▸ hok) hholds.2.2.2

/-! ### Closes -/

/-- A loop that fails in a close still returns what it has taken. -/
theorem answers_drainFailure {reply : Reply} (h : slot.Answers reply) (hholds : slot.Holds s)
    (reason : String) : slot.Answers (drainFailure reply s reason) := by
  rintro result rfl
  rw [drainFailure, hholds.2.1, if_neg (fun h => Bool.false_ne_true h.2)]
  exact h result rfl

/-- The drain of a close. -/
theorem follows_drain (hholds : slot.Holds s) (hsteady : slot.Steady) (script : PollScript)
    {draining : Prop} [Decidable draining] (hidle : ¬draining → s.node.transferInflight = false) :
    ∃ slot', Follows slot s (if draining then pollUntilIdleLog s script else [])
        (if draining then pollUntilIdle s script else (.ok, s)).2 slot' ∧
      slot'.Answers (if draining then pollUntilIdle s script else (.ok, s)).1 ∧
      ((if draining then pollUntilIdle s script else (.ok, s)).1.result = .ok → slot'.Steady ∧
        (if draining then pollUntilIdle s script
          else (.ok, s)).2.node.transferInflight = false) := by
  by_cases hdraining : draining
  · simp only [if_pos hdraining]
    obtain ⟨slot', hfollows, hend⟩ := follows_pollUntilIdle hholds hsteady script
    refine ⟨slot', hfollows, hend.answers, fun hok => ⟨?_, (hend.ok hok).1⟩⟩
    rw [hend.clear hfollows.holds hok]
    nofun
  · simp only [if_neg hdraining]
    exact ⟨slot, .refl hholds, fun r h => absurd h (hsteady r), fun _ => ⟨hsteady, hidle hdraining⟩⟩

theorem follows_releaseNode (hholds : CompletionSlot.clear.Holds s) (env : CloseEnv) :
    Follows .clear s [] (releaseNode s env).2 .clear := by
  rw [releaseNode]
  split
  · exact .refl hholds
  · exact (Follows.refl hholds).congr rfl rfl rfl rfl

theorem follows_neutralizeAndUnregister (hholds : CompletionSlot.clear.Holds s) (env : CloseEnv) :
    ∃ slot', Follows .clear s (pollUntilIdleLog { s with node := makeNeutral s.node } env.neutral)
        (neutralizeAndUnregister s env).2 slot' ∧
      (∀ reply, (neutralizeAndUnregister s env).1 = some reply → slot'.Answers reply) ∧
      ((neutralizeAndUnregister s env).1 = none → slot' = .clear) := by
  obtain ⟨slot', hfollows, hend⟩ := @follows_pollUntilIdle { s with node := makeNeutral s.node }
    .clear hholds nofun env.neutral
  have hfollows : Follows .clear s
      (pollUntilIdleLog { s with node := makeNeutral s.node } env.neutral) _ slot' :=
    ⟨hfollows.run, hfollows.holds, hfollows.wire⟩
  rw [neutralizeAndUnregister]
  generalize pollUntilIdle { s with node := makeNeutral s.node } env.neutral = polled
    at hfollows hend ⊢
  obtain ⟨neutral, s'⟩ := polled
  dsimp only at hfollows hend ⊢
  by_cases hfailed : neutral.result ≠ .ok
  · rw [if_pos hfailed]
    refine ⟨slot', hfollows, fun reply h => ?_, nofun⟩
    cases h
    exact answers_drainFailure hend.answers hfollows.holds _
  · rw [if_neg hfailed]
    cases hend.clear hfollows.holds (not_not.mp hfailed)
    split
    · split <;> exact ⟨.clear, hfollows, fun _ _ => nofun, fun _ => rfl⟩
    · exact ⟨.clear, hfollows, fun _ _ => nofun, fun _ => rfl⟩

/-- A close follows its log. -/
theorem follows_nodeClose (hholds : slot.Holds s) (hsteady : slot.Steady) (env : CloseEnv) :
    ∃ slot', Follows slot s (nodeCloseLog s env) (nodeClose s env).2 slot' ∧
      slot'.Answers (nodeClose s env).1 := by
  rw [nodeClose, nodeCloseLog]
  by_cases hclosed : s.node.closed = true ∨ env.closing = true
  · rw [if_pos hclosed, if_pos hclosed]
    exact ⟨slot, .refl hholds, fun r h => absurd h (hsteady r)⟩
  rw [if_neg hclosed, if_neg hclosed]
  obtain ⟨slot₁, hdrain, hanswers, hsettled⟩ := @follows_drain s slot hholds hsteady env.drain
    (s.node.transferInflight = true ∨ touchFrameInProgress s.node = true) _
    fun h => by simpa using (not_or.mp h).1
  generalize (if s.node.transferInflight = true ∨ touchFrameInProgress s.node = true then
    pollUntilIdleLog s env.drain else []) = draining at hdrain ⊢
  generalize (if s.node.transferInflight = true ∨ touchFrameInProgress s.node = true then
    pollUntilIdle s env.drain else (Reply.ok, s)) = drained at hdrain hanswers hsettled ⊢
  obtain ⟨reply, s₁⟩ := drained
  dsimp only at hdrain hanswers hsettled ⊢
  by_cases hfailed : reply.result ≠ .ok
  · rw [if_pos hfailed, if_pos hfailed]
    exact ⟨slot₁, hdrain, answers_drainFailure hanswers hdrain.holds _⟩
  rw [if_neg hfailed, if_neg hfailed]
  obtain ⟨hsteady₁, hidle⟩ := hsettled (not_not.mp hfailed)
  obtain ⟨slot₂, htaken, hanswers₂, hclear⟩ :=
    follows_consume hdrain.holds hsteady₁ hidle "node.completion"
  have hdrain := hdrain.trans htaken
  generalize s₁.consume "node.completion" = consumed at htaken hdrain hanswers₂ hclear ⊢
  obtain ⟨terminal, s₂⟩ := consumed
  dsimp only at hdrain hanswers₂ hclear ⊢
  by_cases hterminal : terminal.result ≠ .ok
  · rw [if_pos hterminal, if_pos hterminal]
    exact ⟨slot₂, hdrain, hanswers₂⟩
  rw [if_neg hterminal, if_neg hterminal]
  cases hclear (not_not.mp hterminal)
  by_cases hpresent : env.present = true
  · rw [if_pos hpresent, if_pos hpresent]
    obtain ⟨slot₃, hneutral, hanswers₃, hclear₃⟩ :=
      follows_neutralizeAndUnregister hdrain.holds env
    generalize neutralizeAndUnregister s₂ env = neutralized at hneutral hanswers₃ hclear₃ ⊢
    obtain ⟨reply, s₃⟩ := neutralized
    have hall := hdrain.trans hneutral
    cases reply with
    | some reply => exact ⟨slot₃, hall, hanswers₃ reply rfl⟩
    | none =>
      cases hclear₃ rfl
      have hrelease := hall.trans (follows_releaseNode hall.holds env)
      rw [List.append_nil] at hrelease
      exact ⟨.clear, hrelease, nofun⟩
  · rw [if_neg hpresent, if_neg hpresent]
    have hrelease := hdrain.trans (follows_releaseNode hdrain.holds env)
    rw [List.append_nil] at hrelease
    exact ⟨.clear, hrelease, nofun⟩

/-! ### Runs -/

theorem follows_nodeSubmitBlocking (hholds : slot.Holds s) (hsteady : slot.Steady)
    (script : Option PollScript) :
    ∃ slot', Follows slot s (nodeSubmitBlockingLog s script) (nodeSubmitBlocking s script).2
        slot' ∧ LoopEnd slot' (nodeSubmitBlocking s script).1 (nodeSubmitBlocking s script).2 := by
  rw [nodeSubmitBlocking.eq_def, nodeSubmitBlockingLog.eq_def]
  cases s.node.closed with
  | true => exact ⟨slot, .refl hholds, fun r h => absurd h (hsteady r), nofun⟩
  | false =>
    cases script with
    | none => exact ⟨slot, .refl hholds, fun r h => absurd h (hsteady r), nofun⟩
    | some script =>
      obtain ⟨slot', hfollows, hend⟩ := follows_pollUntilIdle hholds hsteady script
      have hresult := fun reply : Reply => finishResult_result reply.error reply.result
        "node.submit_blocking" "The blocking report sequence failed."
      refine ⟨slot', hfollows, fun r h => (hresult _).trans (hend.answers r h), fun hok => ?_⟩
      exact hend.ok ((hresult _).symm.trans hok)

/-- **Every event follows its log.** -/
theorem follows_apiStep (hholds : slot.Holds s) (hsteady : slot.Steady) (e : ApiEvent) :
    ∃ slot', Follows slot s (e.log s) (s.apiStep e) slot' ∧ slot'.Steady := by
  cases e with
  | rawSubmit report env =>
    obtain ⟨slot', hfollows, hanswers, -⟩ := follows_rawSubmit hholds hsteady report env
    exact hfollows.returned hanswers
  | event e =>
    cases e with
    | call c link =>
      have hsame := sameSlot_perform c link s.node
      exact ⟨slot, (Follows.refl hholds).congr rfl rfl hsame.1 hsame.2, hsteady⟩
    | complete status actualLength => exact follows_complete hholds hsteady status actualLength
    | submit env =>
      obtain ⟨slot', hfollows, hanswers, -⟩ := follows_nodeSubmit hholds hsteady env
      exact hfollows.returned hanswers
    | submitBlocking script =>
      obtain ⟨slot', hfollows, hend⟩ := follows_nodeSubmitBlocking hholds hsteady script
      exact hfollows.returned hend.answers
    | close env =>
      obtain ⟨slot', hfollows, hanswers⟩ := follows_nodeClose hholds hsteady env
      exact hfollows.returned hanswers

/-- **Every run follows its log.** -/
theorem follows_apiRun : (events : List ApiEvent) → {s : System} → {slot : CompletionSlot} →
    slot.Holds s → slot.Steady →
    ∃ slot', Follows slot s (s.apiLog events) (s.apiRun events) slot' ∧ slot'.Steady
  | [], _, slot, hholds, hsteady => ⟨slot, .refl hholds, hsteady⟩
  | e :: events, _, _, hholds, hsteady => by
    obtain ⟨slot₁, hstep, hsteady₁⟩ := follows_apiStep hholds hsteady e
    obtain ⟨slot₂, hrun, hsteady₂⟩ := follows_apiRun events hstep.holds hsteady₁
    exact ⟨slot₂, hstep.trans hrun, hsteady₂⟩

/-- A new Node has nothing in its slot. -/
theorem holds_opened {spec : Spec} {hidId : ℕ} (h : System.opened spec hidId = some s) :
    CompletionSlot.clear.Holds s ∧ s.wire = [] := by
  obtain ⟨node, hnode, rfl⟩ := Option.map_eq_some_iff.mp h
  obtain ⟨state, -, rfl⟩ := Option.map_eq_some_iff.mp hnode
  exact ⟨⟨rfl, rfl, rfl⟩, rfl⟩

/-! ### Calls that find a failure -/

end System

/-- **A log that returns each failed completion once.** What libusb accepts completes before
anything else is handed over. Behind a failed completion other calls may only return, until a call
takes it and returns it; and what a call takes is the last completion. -/
structure ReturnsOnce (log : List Occurrence) : Prop where
  handed : ∀ first report rest, log = first ++ .handed report :: rest →
    (∀ o ∈ rest, o.IsReturn) ∨ ∃ calls result later, (∀ o ∈ calls, o.IsReturn) ∧
      rest = calls ++ .finished report result :: later
  failed : ∀ first report result rest, log = first ++ .finished report result :: rest →
    result ≠ .ok → (∀ o ∈ rest, o.IsReturn) ∨ ∃ calls later, (∀ o ∈ calls, o.IsReturn) ∧
      rest = calls ++ .taken result :: .returned result :: later
  taken : ∀ first result rest, log = first ++ .taken result :: rest → result ≠ .ok →
    ∃ earlier report calls later, (∀ o ∈ calls, o.IsReturn) ∧
      first = earlier ++ .finished report result :: calls ∧ rest = .returned result :: later

/-- Whether a call passes its argument checks, without an error of the Context. -/
def ApiEvent.Passes (s : System) : ApiEvent → Prop
  | .event (.submit env) =>
    s.node.closed = false ∧ s.node.spec.kind ≠ .raw ∧ env.deferred = none
  | .event (.submitBlocking script) =>
    s.node.closed = false ∧ ∃ loop, script = some loop ∧ loop.preflight = none
  | .event (.close env) =>
    s.node.closed = false ∧ env.closing = false ∧ env.drain.preflight = none
  | .rawSubmit report env =>
    report.isSome = true ∧ s.node.closed = false ∧ s.node.spec.kind = .raw ∧ env.deferred = none
  | .event (.call _ _) | .event (.complete _ _) => False

/-- A log that the empty slot accepts returns each failed completion once. -/
theorem CompletionSlot.returnsOnce {slot : CompletionSlot} {log : List Occurrence}
    (h : CompletionSlot.clear.run log = some slot) (hsteady : slot.Steady) : ReturnsOnce log where
  handed := by
    rintro first report rest rfl
    obtain ⟨before, after, -, hnext, hrest⟩ := exists_next_of_run h
    rw [(next_handed hnext).2] at hrest
    rcases run_busy hrest with ⟨hall, -⟩ | ⟨calls, result, later, hcalls, hlater⟩
    · exact .inl hall
    · exact .inr ⟨calls, result, later, hcalls, hlater⟩
  failed := by
    rintro first report result rest rfl hfailed
    obtain ⟨before, after, -, hnext, hrest⟩ := exists_next_of_run h
    rw [next_finished hnext hfailed] at hrest
    rcases run_failed hrest with ⟨hall, -⟩ | ⟨calls, hcalls, ⟨-, hslot⟩ | ⟨later, hlater, -⟩⟩
    · exact .inl hall
    · exact absurd hslot (hsteady result)
    · exact .inr ⟨calls, later, hcalls, hlater⟩
  taken := by
    rintro first result rest rfl hfailed
    obtain ⟨before, after, hfirst, hnext, hrest⟩ := exists_next_of_run h
    obtain ⟨hbefore, hafter⟩ := next_taken hnext hfailed
    rw [hbefore] at hfirst
    rw [hafter] at hrest
    rcases exists_finished hfirst with ⟨hclear, -⟩ | ⟨earlier, report, calls, hearlier, hcalls⟩
    · cases hclear
    · rcases run_returning hrest with ⟨-, hslot⟩ | ⟨later, hlater, -⟩
      · exact absurd hslot (hsteady result)
      · exact ⟨earlier, report, calls, later, hcalls, hearlier, hlater⟩

namespace System

variable {s : System} {result : Result}

/-- A turn that finds a failure takes it and ends the loop. -/
theorem pollTurn_failed (hholds : (CompletionSlot.failed result).Holds s) (turn : PollTurn) :
    pollTurnLog s turn = [.taken result] ∧
      ∃ reply, pollTurn s turn = (some reply, (s.consume "node.completion").2) ∧
        reply.result = result := by
  obtain ⟨-, hidle, heq, hfailed⟩ := hholds
  have hresult := consumeCompletion_result s.node "node.completion"
  rw [heq] at hresult
  have hne : (s.consume "node.completion").1.result ≠ .ok := hresult ▸ hfailed
  rw [pollTurnLog, pollTurn]
  dsimp only
  rw [hidle, if_neg Bool.false_ne_true, if_neg Bool.false_ne_true, if_pos hne, if_pos hne]
  exact ⟨by rw [show (s.consume "node.completion").1.result = result from hresult], _, rfl, hresult⟩

/-- A loop that finds a failure returns it. -/
theorem pollUntilIdle_failed (hholds : (CompletionSlot.failed result).Holds s)
    {script : PollScript} (hpreflight : script.preflight = none) :
    pollUntilIdleLog s script = [.taken result] ∧
      (pollUntilIdle s script).1.result = result ∧
      (pollUntilIdle s script).2.node.transferInflight = false := by
  obtain ⟨hlog, reply, hturn, hreply⟩ := pollTurn_failed hholds script.first
  have hidle : (s.consume "node.completion").2.node.transferInflight = false :=
    (consumeCompletion_slot s.node "node.completion").2.1.trans hholds.2.1
  rw [pollUntilIdleLog, pollUntilIdle, hpreflight]
  dsimp only
  cases script.rest with
  | nil =>
    rw [pollLoopLog, pollLoop, hturn]
    exact ⟨hlog, hreply, hidle⟩
  | cons next rest =>
    rw [pollLoopLog, pollLoop, hturn]
    exact ⟨hlog, hreply, hidle⟩

/-- **A call that finds a failure returns it.** -/
theorem log_of_failed (hholds : (CompletionSlot.failed result).Holds s) {e : ApiEvent}
    (hpasses : e.Passes s) : e.log s = [.taken result, .returned result] := by
  obtain ⟨hinflight, hidle, heq, hfailed⟩ := id hholds
  cases e with
  | rawSubmit report env =>
    obtain ⟨hreport, hopen, hkind, hdeferred⟩ := hpasses
    have hx := respects_rawSubmit s.node report env
    have hrefuses : rawSubmitRefuses s.node report env = false := by
      rw [rawSubmitRefuses, hopen, hkind, hdeferred, hidle, Option.isNone_eq_false_iff.mpr hreport]
      rfl
    rw [hrefuses] at hx
    obtain ⟨haccepted, hreply⟩ := hx.failed rfl (heq ▸ hfailed)
    rw [ApiEvent.log, rawSubmitLog, hrefuses, if_neg Bool.false_ne_true, submitLog, haccepted, heq,
      rawSubmit]
    dsimp only
    rw [hreply, heq]
    rfl
  | event e =>
    cases e with
    | call c link => exact hpasses.elim
    | complete status actualLength => exact hpasses.elim
    | submit env =>
      obtain ⟨hopen, hkind, hdeferred⟩ := hpasses
      have hx := respects_nodeSubmit s.node env
      have hrefuses : nodeSubmitRefuses s.node env = false := by
        rw [nodeSubmitRefuses, hopen, hdeferred, hidle, beq_eq_false_iff_ne.mpr hkind]
        rfl
      rw [hrefuses] at hx
      obtain ⟨haccepted, hreply⟩ := hx.failed rfl (heq ▸ hfailed)
      rw [ApiEvent.log, nodeSubmitLog, hrefuses, if_neg Bool.false_ne_true, submitLog, haccepted,
        heq, submit]
      dsimp only
      rw [hreply, heq]
      rfl
    | submitBlocking script =>
      obtain ⟨hopen, loop, rfl, hpreflight⟩ := hpasses
      obtain ⟨hlog, hreply, -⟩ := pollUntilIdle_failed hholds hpreflight
      rw [ApiEvent.log, nodeSubmitBlockingLog.eq_def, nodeSubmitBlocking.eq_def, hopen,
        if_neg Bool.false_ne_true, if_neg Bool.false_ne_true]
      dsimp only
      rw [hlog, finishResult_result, hreply]
      rfl
    | close env =>
      obtain ⟨hopen, hclosing, hpreflight⟩ := hpasses
      have hclosed : ¬(s.node.closed = true ∨ env.closing = true) := by
        rw [hopen, hclosing]
        nofun
      rw [ApiEvent.log, nodeCloseLog, nodeClose, if_neg hclosed, if_neg hclosed]
      dsimp only
      by_cases hframe : s.node.transferInflight = true ∨ touchFrameInProgress s.node = true
      · obtain ⟨hlog, hreply, hidle'⟩ := pollUntilIdle_failed hholds hpreflight
        simp only [if_pos hframe]
        rw [if_pos (hreply ▸ hfailed), if_pos (hreply ▸ hfailed), hlog, drainFailure, hidle',
          if_neg (fun h => Bool.false_ne_true h.2)]
        dsimp only
        rw [hreply]
        rfl
      · have hresult := consumeCompletion_result s.node "node.completion"
        rw [heq] at hresult
        have hne : (s.consume "node.completion").1.result ≠ .ok := hresult ▸ hfailed
        have hok : ¬Reply.ok.result ≠ .ok := not_not.mpr Reply.ok_result
        simp only [if_neg hframe]
        rw [if_neg hok, if_neg hok, if_pos hne, if_pos hne]
        dsimp only
        rw [show (s.consume "node.completion").1.result = result from hresult]
        rfl

/-! ### Blocking submits -/

/-- The log of what one call does, without its return. -/
def InCall (log : List Occurrence) : Prop := ∀ o ∈ log, ¬o.IsReturn

theorem InCall.append {log log' : List Occurrence} (h : InCall log) (h' : InCall log') :
    InCall (log ++ log') := fun o ho => (List.mem_append.mp ho).elim (h o) (h' o)

theorem inCall_taken (result : Result) : InCall [.taken result] := by
  intro o ho
  rw [List.mem_singleton.mp ho]
  rintro ⟨_, ⟨⟩⟩

theorem inCall_nodeSubmitLog (s : System) (env : SubmitEnv) : InCall (nodeSubmitLog s env) := by
  rw [nodeSubmitLog]
  split
  · nofun
  · refine (inCall_taken _).append fun o ho => ?_
    obtain ⟨report, -, rfl⟩ := List.mem_map.mp ho
    rintro ⟨_, ⟨⟩⟩

theorem inCall_pollLog (s : System) (turn : PollTurn) : InCall (pollLog s turn) := by
  rw [pollLog]
  split
  · nofun
  · intro o ho
    obtain ⟨report, -, rfl⟩ := List.mem_map.mp ho
    rintro ⟨_, ⟨⟩⟩

theorem inCall_pollTurnLog (s : System) (turn : PollTurn) : InCall (pollTurnLog s turn) := by
  unfold pollTurnLog
  have hsubmit := fun s' result =>
    (inCall_taken result).append (inCall_nodeSubmitLog s' turn.submit)
  split
  · exact inCall_pollLog s turn
  · dsimp only
    split
    · exact inCall_taken _
    split
    · exact inCall_taken _
    split
    · exact hsubmit _ _
    · exact (hsubmit _ _).append (inCall_pollLog _ turn)

theorem inCall_pollLoopLog : (rest : List PollTurn) → (s : System) → (turn : PollTurn) →
    InCall (pollLoopLog s turn rest)
  | [], s, turn => inCall_pollTurnLog s turn
  | next :: rest, s, turn => by
    rw [pollLoopLog]
    split
    · exact inCall_pollTurnLog s turn
    · exact (inCall_pollTurnLog s turn).append (inCall_pollLoopLog rest _ next)

theorem inCall_nodeSubmitBlockingLog (s : System) (script : Option PollScript) :
    InCall (nodeSubmitBlockingLog s script) := by
  unfold nodeSubmitBlockingLog
  split
  · nofun
  split
  · nofun
  · unfold pollUntilIdleLog
    split
    · nofun
    · exact inCall_pollLoopLog _ _ _

/-- The returns of other calls do not happen inside of one call. -/
theorem InCall.eq_nil {first calls rest : List Occurrence} (h : InCall (first ++ (calls ++ rest)))
    (hcalls : ∀ o ∈ calls, o.IsReturn) : calls = [] :=
  List.eq_nil_iff_forall_not_mem.mpr fun o ho =>
    h o (List.mem_append_right first (List.mem_append_left rest ho)) (hcalls o ho)

/-- A call that leaves nothing in the slot has seen each of its reports finish with OK. -/
theorem InCall.finished_ok {log : List Occurrence} {slot : CompletionSlot} (h : InCall log)
    (hrun : slot.run log = some .clear) :
    (∀ report result, .finished report result ∈ log → result = .ok) ∧
    ∀ first report rest, log = first ++ .handed report :: rest →
      ∃ later, rest = .finished report .ok :: later := by
  have hok : ∀ report result, .finished report result ∈ log → result = .ok := by
    intro report result hmem
    by_contra hfailed
    obtain ⟨first, rest, rfl⟩ := List.append_of_mem hmem
    obtain ⟨before, after, -, hnext, hrest⟩ := CompletionSlot.exists_next_of_run hrun
    rw [CompletionSlot.next_finished hnext hfailed] at hrest
    rcases CompletionSlot.run_failed hrest with ⟨-, hslot⟩ |
      ⟨calls, -, ⟨-, hslot⟩ | ⟨later, rfl, -⟩⟩
    · cases hslot
    · cases hslot
    · exact h (.returned result) (by simp) ⟨result, rfl⟩
  refine ⟨hok, ?_⟩
  rintro first report rest rfl
  obtain ⟨before, after, -, hnext, hrest⟩ := CompletionSlot.exists_next_of_run hrun
  rw [(CompletionSlot.next_handed hnext).2] at hrest
  rcases CompletionSlot.run_busy hrest with ⟨-, hslot⟩ | ⟨calls, result, later, hcalls, rfl⟩
  · cases hslot
  · have hresult : result = .ok := hok report result (by simp)
    have hnil : calls = [] := by
      refine @InCall.eq_nil (first ++ [.handed report]) calls (.finished report result :: later) ?_
        hcalls
      rwa [List.append_assoc, List.singleton_append]
    rw [hnil, hresult]
    exact ⟨later, rfl⟩

end System

/-- **Failed completions are returned once, and are not outrun.** In every run of a Node, generated
or raw, with every outcome of what its calls meet:

* the completions of the log are the wire, and the log returns each failure once;
* behind a failed completion, a submit or close call that passes its argument checks takes the
  failure and returns it;
* a blocking submit that answers OK leaves the Node idle and clean, and each report that it
  submitted has finished with OK. -/
theorem completions_returned_once {spec : Spec} {hidId : ℕ} {s : System}
    (hopened : System.opened spec hidId = some s) (events : List ApiEvent) :
    (s.apiRun events).wire = (s.apiLog events).filterMap Occurrence.transmission? ∧
    ReturnsOnce (s.apiLog events) ∧
    (∀ first report result calls, s.apiLog events = first ++ .finished report result :: calls →
      result ≠ .ok → (∀ o ∈ calls, o.IsReturn) → ∀ e, ApiEvent.Passes (s.apiRun events) e →
        e.log (s.apiRun events) = [.taken result, .returned result]) ∧
    ∀ script, (nodeSubmitBlocking (s.apiRun events) script).1.result = .ok →
      (nodeSubmitBlocking (s.apiRun events) script).2.inflight = none ∧
      (nodeSubmitBlocking (s.apiRun events) script).2.node.dirty = false ∧
      (∀ report result, .finished report result ∈ nodeSubmitBlockingLog (s.apiRun events) script →
        result = .ok) ∧
      ∀ first report rest, nodeSubmitBlockingLog (s.apiRun events) script =
        first ++ .handed report :: rest → ∃ later, rest = .finished report .ok :: later := by
  obtain ⟨hholds, hwire⟩ := System.holds_opened hopened
  obtain ⟨slot, hfollows, hsteady⟩ := System.follows_apiRun events hholds nofun
  refine ⟨?_, CompletionSlot.returnsOnce hfollows.run hsteady, ?_, ?_⟩
  · rw [hfollows.wire, hwire, List.nil_append]
  · intro first report result calls hlog hfailed hcalls e hpasses
    have hrun := hfollows.run
    rw [hlog] at hrun
    obtain ⟨before, after, -, hnext, hrest⟩ := CompletionSlot.exists_next_of_run hrun
    rw [CompletionSlot.next_finished hnext hfailed] at hrest
    have hslot : slot = .failed result := by
      rcases CompletionSlot.run_failed hrest with ⟨-, hslot⟩ | ⟨others, -, hothers⟩
      · exact hslot
      · have htaken : .taken result ∈ calls := by
          rcases hothers with ⟨rfl, -⟩ | ⟨later, rfl, -⟩ <;> simp
        obtain ⟨_, ⟨⟩⟩ := hcalls _ htaken
    exact System.log_of_failed (hslot ▸ hfollows.holds) hpasses
  · intro script hok
    obtain ⟨slot', hblocking, hend⟩ :=
      System.follows_nodeSubmitBlocking hfollows.holds hsteady script
    have hclear := hend.clear hblocking.holds hok
    rw [hclear] at hblocking
    exact ⟨hblocking.holds.1, (hend.ok hok).2.2,
      (System.inCall_nodeSubmitBlockingLog _ script).finished_ok hblocking.run⟩

/-- A movement whose report times out, and a second submit. -/
def failedMovement : List ApiEvent :=
  [.event (.call (.mouseMove 200 (-5)) .present),
    .event (.submit { acquire := .ok (List.replicate 8 0) }), .event (.complete .timedOut 0),
    .event (.submit { acquire := .ok (List.replicate 8 0) })]

theorem completions_returned_once_failedMovement :
    ReturnsOnce (sampleOpened.apiLog failedMovement) ∧
    sampleOpened.apiLog failedMovement =
      [.taken .ok, .handed [7, 0, 127, 251, 15, 0], .returned .ok,
        .finished [7, 0, 127, 251, 15, 0] .errTimeout, .taken .errTimeout,
        .returned .errTimeout] :=
  ⟨(completions_returned_once opened_sampleOpened failedMovement).2.1, by decide +kernel⟩

end LibaoaHid

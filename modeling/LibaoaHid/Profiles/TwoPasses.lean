import LibaoaHid.Profiles.Spans

/-!
# The counting pass and the emitting pass

`build_generated_spec` of `src/profiles/spec.cpp` runs an emitter twice: without a buffer, to learn
the size and the layout, and into a buffer of that size. Both passes are runs of one program, which
succeed when its bytes fit the capacity, so that the second pass fills the buffer and writes nothing
behind it. The last validation of the result has one thing to object to, a field over more than
four bytes.

## Main results

* `EmitterProgram.run_isSome_iff`: when a run succeeds.
* `EmitterProgram.run_beyond`: a run into a part of a larger memory.
* `EmitterProgram.result_of_validateGenerated`: what the last validation can find.
* `GeneratedOptions.passes_agree`: the two passes, and what the factories return.
-/

namespace LibaoaHid

open Hid DescriptorBuilder

namespace EmitterProgram

variable {p : EmitterProgram}

/-- A run succeeds when the bytes fit, with a buffer and without one. -/
theorem run_isSome_iff (hp : p.Valid) (bytes : Option (List UInt8)) (capacity : ℕ)
    (layout : Option ReportLayout) :
    ((p.run (create bytes capacity layout)).bind finish).isSome ↔ p.bytes.length ≤ capacity := by
  have hzero : (0 : ℕ) + p.bytes.length ≤ capacity ↔ p.bytes.length ≤ capacity := by
    rw [Nat.zero_add]
  rcases Nat.lt_or_ge capacity p.bytes.length with hfull | hfits
  · rw [run_of_full hp (if_neg (hzero.not.mpr (not_le.mpr hfull)))]
    simpa using hfull
  · obtain ⟨b, hb, -⟩ := @run_of_fits _ hp bytes _ _ layout (if_pos (hzero.mpr hfits))
    rw [hb]
    simpa using hfits

/-- A run into the front of a larger memory, of exactly the size of the bytes: they fill the front
and the rest stays as it is. -/
theorem run_beyond (hp : p.Valid) {front : List UInt8} (hfront : front.length = p.bytes.length)
    (beyond : List UInt8) (layout : Option ReportLayout) :
    ∃ b, (p.run (create (some (front ++ beyond)) front.length layout)).bind finish = some b ∧
      b.writer.position = p.bytes.length ∧ b.writer.bytes = some (p.bytes ++ beyond) ∧
      b.requirements = p.tally.requirements := by
  have hzero : (0 : ℕ) + p.bytes.length ≤ front.length := by omega
  obtain ⟨b, hb, hwriter, hfinished⟩ :=
    @run_of_fits _ hp (some (front ++ beyond)) _ _ layout (if_pos hzero)
  have hwritten := ItemWriter.writeAt_eq [] beyond hfront
  rw [List.nil_append, List.nil_append, List.length_nil] at hwritten
  refine ⟨b, hb, ?_, ?_, hfinished.requirements⟩
  · rw [hwriter]
    exact Nat.zero_add _
  · rw [hwriter]
    exact congrArg some hwritten

/-- The last validation of a valid program objects to nothing but a field over too many bytes. -/
theorem result_of_validateGenerated (hp : p.Valid) (hfits : p.bytes.length ≤ 65535)
    {found : ValidationIssue} (h : validateGenerated p.bytes p.layout = some found) :
    found = spanIssue := by
  by_cases hspan : p.SpansFit
  · rw [validateGenerated_of_spansFit hp hfits hspan] at h
    cases h
  · rw [validateGenerated_of_not_spansFit hp hfits hspan] at h
    exact (Option.some.inj h).symm

end EmitterProgram

namespace GeneratedOptions

variable {options : GeneratedOptions} {p : EmitterProgram}

/-- The refusals of the common tail: the overflow of the wire-length field, and the finding of the
last validation. -/
private theorem replies_of_create (hp : p.Valid) {kind : ProfileKind}
    {androidStatus : AndroidStatus} {config : SpecConfig} {reply : Reply}
    (hcreate : options.create = buildGeneratedSpec kind androidStatus config p.run)
    (hreply : options.create = .error reply) :
    65535 < p.bytes.length ∧ reply.result = .errOverflow ∨
      p.bytes.length ≤ 65535 ∧ reply.result = .errParam := by
  rw [hcreate] at hreply
  rcases Nat.lt_or_ge 65535 p.bytes.length with hfull | hfits
  · rw [buildGeneratedSpec_of_overflow hp (fun _ => rfl) hfull] at hreply
    cases hreply
    exact .inl ⟨hfull, rfl⟩
  · rw [buildGeneratedSpec_of_fits hp (fun _ => rfl) hfits] at hreply
    cases hfound : validateGenerated p.bytes p.layout with
    | none =>
      rw [hfound] at hreply
      cases hreply
    | some found =>
      rw [hfound] at hreply
      cases hreply
      rw [EmitterProgram.result_of_validateGenerated hp hfits hfound]
      exact .inr ⟨hfits, rfl⟩

/-- **The counting pass and the emitting pass agree.** Options that pass the checks of their factory
have one full descriptor. The emitter succeeds when it fits the capacity, with and without a buffer.
Behind a counting pass that succeeded, the emitting pass into a buffer of the counted size succeeds
with the same size and requirements, writes the descriptor and nothing of the memory behind the
buffer, and the last validation finds nothing internal. The factory never returns an internal error,
and returns an overflow exactly when the descriptor exceeds the wire-length field. -/
theorem passes_agree (h : Passes options p) : ∃ descriptor : List UInt8,
    (∀ bytes capacity layout, ((options.emit (.create bytes capacity layout)).bind finish).isSome ↔
      descriptor.length ≤ capacity) ∧
    (∀ counted, (options.emit (.create none 65535 (some {}))).bind finish = some counted →
      counted.writer.position = descriptor.length ∧
      (∀ front beyond : List UInt8, front.length = counted.writer.position →
        ∃ emitted, (options.emit (.create (some (front ++ beyond)) front.length none)).bind finish =
            some emitted ∧
          emitted.writer.position = counted.writer.position ∧
          emitted.requirements = counted.requirements ∧
          emitted.writer.bytes = some (descriptor ++ beyond)) ∧
      ∀ found, validateGenerated descriptor (counted.layout.getD {}) = some found →
        found.result ≠ .errInternal) ∧
    (∀ reply, options.create = .error reply → reply.result ≠ .errInternal) ∧
    ((∃ reply, options.create = .error reply ∧ reply.result = .errOverflow) ↔
      65535 < descriptor.length) := by
  have hp := h.valid
  have hemit : options.emit = p.run := funext h.emit_eq
  obtain ⟨kind, androidStatus, config, hcreate⟩ := h.create_eq
  rw [hemit] at hcreate ⊢
  refine ⟨p.bytes, EmitterProgram.run_isSome_iff hp, ?_, ?_, ?_⟩
  · intro counted hcounted
    have hfits : p.bytes.length ≤ 65535 :=
      (EmitterProgram.run_isSome_iff hp none 65535 (some {})).mp (by rw [hcounted]; rfl)
    obtain ⟨b, hb, hwriter, hfinished⟩ :=
      EmitterProgram.run_of_fits hp (some {}) (put_counting hfits)
    rw [hcounted] at hb
    cases hb
    have hposition : counted.writer.position = p.bytes.length := by rw [hwriter]
    refine ⟨hposition, ?_, ?_⟩
    · intro front beyond hfront
      rw [hposition] at hfront ⊢
      obtain ⟨emitted, hemitted, hsize, hbytes, hrequirements⟩ :=
        EmitterProgram.run_beyond hp hfront beyond none
      exact ⟨emitted, hemitted, hsize, hrequirements.trans hfinished.requirements.symm, hbytes⟩
    · intro found hfound
      have hlayout : counted.layout.getD {} = p.layout := by
        rw [hfinished.layout]
        simp
      rw [hlayout] at hfound
      rw [EmitterProgram.result_of_validateGenerated hp hfits hfound]
      decide
  · intro reply hreply
    rcases replies_of_create hp hcreate hreply with ⟨-, hresult⟩ | ⟨-, hresult⟩ <;>
      rw [hresult] <;> decide
  · constructor
    · rintro ⟨reply, hreply, hoverflow⟩
      rcases replies_of_create hp hcreate hreply with ⟨hfull, -⟩ | ⟨-, hresult⟩
      · exact hfull
      · rw [hresult] at hoverflow
        cases hoverflow
    · intro hfull
      rw [hcreate, buildGeneratedSpec_of_overflow hp (fun _ => rfl) hfull]
      exact ⟨_, rfl, rfl⟩

/-- The descriptor of a mouse whose X and Y have sixteen bits each. -/
def evenMouseDescriptor : List UInt8 :=
  [0x05, 0x01, 0x09, 0x02, 0xA1, 0x01, 0x05, 0x01, 0x09, 0x01, 0xA1, 0x00, 0x05, 0x09, 0x19, 0x01,
    0x29, 0x08, 0x15, 0x00, 0x25, 0x01, 0x75, 0x01, 0x95, 0x08, 0x81, 0x02, 0x05, 0x01, 0x09,
    0x30, 0x16, 0x18, 0xFC, 0x26, 0xE8, 0x03, 0x75, 0x10, 0x95, 0x01, 0x81, 0x06, 0x05, 0x01,
    0x09, 0x31, 0x16, 0x18, 0xFC, 0x26, 0xE8, 0x03, 0x75, 0x10, 0x95, 0x01, 0x81, 0x06, 0xC0,
    0xC0]

/-- Both passes over the mouse: the count is enough, one byte less is not, and the byte behind the
buffer stays. -/
theorem passes_agree_evenMouse :
    (((GeneratedOptions.mouse evenMouseOptions).emit (.create none 65535 (some {}))).bind
        finish).map (·.writer.position) = some evenMouseDescriptor.length ∧
      (∃ emitted, ((GeneratedOptions.mouse evenMouseOptions).emit
          (.create (some (List.replicate 62 0 ++ [7])) 62 none)).bind finish = some emitted ∧
        emitted.writer.bytes = some (evenMouseDescriptor ++ [7])) ∧
      ((((GeneratedOptions.mouse evenMouseOptions).emit
        (.create (some (List.replicate 61 0)) 61 none)).bind finish).isSome = false) ∧
      ∀ reply, createMouse (some evenMouseOptions) = .error reply →
        reply.result ≠ .errOverflow := by
  have hpasses : Passes (.mouse evenMouseOptions) (mouseProgram evenMouseOptions) :=
    .mouse (by decide +kernel)
  obtain ⟨descriptor, hsuccess, hcounted, -, hoverflow⟩ := passes_agree hpasses
  cases hcount : ((GeneratedOptions.mouse evenMouseOptions).emit
      (.create none 65535 (some {}))).bind finish with
  | none =>
    have hsome : (((GeneratedOptions.mouse evenMouseOptions).emit
        (.create none 65535 (some {}))).bind finish).isSome = true := by decide +kernel
    rw [hcount] at hsome
    cases hsome
  | some counted =>
    obtain ⟨hposition, hwritten, -⟩ := hcounted counted hcount
    have hlength : descriptor.length = 62 := by
      have hsize : (((GeneratedOptions.mouse evenMouseOptions).emit
          (.create none 65535 (some {}))).bind finish).map (·.writer.position) = some 62 := by
        decide +kernel
      rw [hcount, Option.map_some, hposition] at hsize
      exact Option.some.inj hsize
    obtain ⟨emitted, hemitted, -, -, hbytes⟩ := hwritten (List.replicate 62 0) [7]
      (by rw [hposition, hlength, List.length_replicate])
    rw [List.length_replicate] at hemitted
    have hdescriptor : descriptor = evenMouseDescriptor := by
      have hall : (((GeneratedOptions.mouse evenMouseOptions).emit
          (.create (some (List.replicate 62 0 ++ [7])) 62 none)).bind finish).bind
            (·.writer.bytes) = some (evenMouseDescriptor ++ [7]) := by decide +kernel
      rw [hemitted, Option.bind_some, hbytes] at hall
      exact List.append_cancel_right (Option.some.inj hall)
    subst hdescriptor
    refine ⟨congrArg some hposition, ⟨emitted, hemitted, hbytes⟩, ?_, fun reply hreply hfull => ?_⟩
    · rw [Bool.eq_false_iff, ne_eq, hsuccess]
      decide
    · exact absurd (hoverflow.mp ⟨reply, hreply, hfull⟩) (by decide)

end GeneratedOptions

end LibaoaHid

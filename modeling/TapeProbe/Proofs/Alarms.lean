import TapeProbe.Proofs.Range
import TapeProbe.Proofs.RunFailures

/-!
# Warnings and errors

What a run says in its log and what it returns come from different places. They agree: the errors in
the log are the failure of the run, and the warnings are about a pointer outside the tape.

All other messages of a run are of a lower level, so looking for errors or warnings (`records`) a run
is silent but for two of its phases: `Bench.records_run_returned`.
-/

namespace TapeProbe

/-! ### Records of a level -/

/-- The messages of a level that a trace records, in order. -/
def records (level : Log.Level) (es : List Event) : List Log.Message :=
  (es.filterMap Event.message?).filter fun m => m.level = level

variable {level : Log.Level} {sink : Log.Sink}

@[simp] theorem records_append (level : Log.Level) (es fs : List Event) :
    records level (es ++ fs) = records level es ++ records level fs := by
  simp only [records, List.filterMap_append, List.filter_append]

theorem records_of_isEffect {es : List Event} (h : ∀ e ∈ es, e.isEffect = true) :
    records level es = [] := by
  have hnone : es.filterMap Event.message? = [] := by
    refine List.filterMap_eq_nil_iff.mpr fun e he => ?_
    have heffect := h e he
    cases e with
    | log m => cases heffect
    | _ => rfl
  rw [records, hnone, List.filter_nil]

theorem records_emit_of_ne {m : Log.Message} (h : m.level ≠ level) (sink : Log.Sink) :
    records level (sink.emit m) = [] := by
  unfold Log.Sink.emit
  cases sink m with
  | true => simp [records, Event.message?, h]
  | false => rfl

theorem records_emit_self {m : Log.Message} (h : sink m = true) :
    records m.level (sink.emit m) = [m] := by
  unfold Log.Sink.emit
  rw [if_pos h]
  simp [records, Event.message?]

/-- A level that calls for attention. -/
def Log.Level.IsAlarm (l : Log.Level) : Prop := l = .error ∨ l = .warn

/-- Messages of the levels below do not count. -/
theorem records_emit_of_isAlarm (hlevel : level.IsAlarm) {m : Log.Message}
    (hm : ¬ m.level.IsAlarm) (sink : Log.Sink) : records level (sink.emit m) = [] :=
  records_emit_of_ne (fun heq => hm (heq ▸ hlevel)) sink

theorem records_refusal (level : Log.Level) (size : UInt64) :
    records level (Allocator.refusal size) = [] := by
  unfold Allocator.refusal
  split <;> rfl

/-! ### The phases of a run -/

namespace Course

theorem records_opening (hlevel : level.IsAlarm) (sink : Log.Sink) (c : Config) (a : Allocator)
    (p : Program) (h : a.Grants c.tapeSize) : records level (opening sink c a p h) = [] := by
  have hown : records level (p.exec (a.tape c.tapeSize h.possible) a.base).events = [] :=
    records_of_isEffect fun e he => isEffect_of_isOwn (p.exec_events _ _ e he)
  have halloc : records level [.alloc c.tapeSize] = [] := rfl
  have hcall : records level [.call a.base] = [] := rfl
  simp only [opening, records_append, hown, halloc, hcall]
  simp [records_emit_of_isAlarm hlevel, Log.Message.level, Log.Level.IsAlarm]

theorem records_checking (hlevel : level.IsAlarm) (sink : Log.Sink) (base size pointer : UInt64) :
    records level (checking sink base size pointer) =
      match Verdict.check base size pointer with
      | .inBounds _ => []
      | .outOfBounds => records level (sink.emit (.leftTape pointer base (base + size))) := by
  unfold checking
  cases Verdict.check base size pointer with
  | inBounds offset =>
      simp [records_emit_of_isAlarm hlevel, Log.Message.level, Log.Level.IsAlarm]
  | outOfBounds =>
      simp [records_emit_of_isAlarm hlevel, Log.Message.level, Log.Level.IsAlarm]

theorem records_reporting (hlevel : level.IsAlarm) (sink : Log.Sink) (r : Report) (w : Writer) :
    records level (reporting sink (r.send w)) = records level ((r.send w).complaint sink) := by
  have hsent : records level (r.send w).events = [] :=
    records_of_isEffect fun e he => isEffect_of_isDelivery (r.mem_send_events w e he)
  simp [reporting, hsent, records_emit_of_isAlarm hlevel, Log.Message.level, Log.Level.IsAlarm]

theorem records_trapping (hlevel : level.IsAlarm) (sink : Log.Sink) (t : Trap) :
    records level (trapping sink t) = [] := by
  have hrequest : records level (t.request sink).2 = [] := by
    unfold Trap.request
    cases t.kind with
    | counting => rfl
    | breakpoint =>
        exact records_emit_of_isAlarm hlevel (by simp [Log.Message.level, Log.Level.IsAlarm]) sink
  simp [trapping, hrequest, records_emit_of_isAlarm hlevel, Log.Message.level, Log.Level.IsAlarm]

theorem records_releasing (hlevel : level.IsAlarm) (sink : Log.Sink) (size : UInt64) :
    records level (releasing sink size) = [] := by
  have hrelease : records level [.release size] = [] := rfl
  simp only [releasing, records_append, hrelease]
  simp [records_emit_of_isAlarm hlevel, Log.Message.level, Log.Level.IsAlarm]

end Course

namespace Bench

variable {b : Bench} {c : Config} {a : Allocator} {p : Program}

open Course

theorem records_run_refused (h : ¬ a.Grants c.tapeSize) (level : Log.Level) (sink : Log.Sink) :
    records level (b.run sink c a p).events = records level (sink.emit (.refused c.tapeSize)) := by
  rw [run_refused h, records_append, records_refusal, List.nil_append]

/-- Where an entry point returns there are two occasions for an alarm: the verdict and the report. -/
theorem records_run_returned (hlevel : level.IsAlarm) (h : a.Grants c.tapeSize) {pointer : UInt64}
    (hcall : (p.exec (a.tape c.tapeSize h.possible) a.base).outcome = .returned pointer) :
    records level (b.run sink c a p).events =
      (match Verdict.check a.base c.tapeSize pointer with
        | .inBounds _ => []
        | .outOfBounds =>
          records level (sink.emit (.leftTape pointer a.base (a.base + c.tapeSize))))
      ++ records level ((b.delivery c a pointer).complaint sink) := by
  rw [run_returned h hcall]
  simp only [delivery, records_append, records_opening hlevel, records_checking hlevel,
    records_reporting hlevel, records_trapping hlevel, records_releasing hlevel, List.nil_append,
    List.append_nil]

/-! ### Errors -/

theorem errors_run_returned (hsink : ∀ e, sink (.outputFailed e) = true) (h : a.Grants c.tapeSize)
    {pointer : UInt64}
    (hcall : (p.exec (a.tape c.tapeSize h.possible) a.base).outcome = .returned pointer) :
    records .error (b.run sink c a p).events =
      ((b.delivery c a pointer).error.map Log.Message.outputFailed).toList := by
  have hwarning : ∀ base stop, records .error (sink.emit (.leftTape pointer base stop)) = [] :=
    fun base stop => records_emit_of_ne (by simp [Log.Message.level]) sink
  rw [records_run_returned (Or.inl rfl) h hcall, hwarning]
  have hcomplaint : records .error ((b.delivery c a pointer).complaint sink)
      = ((b.delivery c a pointer).error.map Log.Message.outputFailed).toList := by
    unfold Writer.Written.complaint
    cases (b.delivery c a pointer).error with
    | none => rfl
    | some e => exact records_emit_self (hsink e)
  rw [hcomplaint]
  split <;> rfl

/-- A run that fails says why, once. -/
theorem errors_run_failed (hrefused : ∀ n, sink (.refused n) = true)
    (houtput : ∀ e, sink (.outputFailed e) = true) {f : Failure}
    (hf : (b.run sink c a p).outcome = .failed f) :
    (f = .resourceExhaustion c.tapeSize
      ∧ records .error (b.run sink c a p).events = [.refused c.tapeSize])
    ∨ ∃ e, f = .io e ∧ records .error (b.run sink c a p).events = [.outputFailed e] := by
  obtain ⟨h, rfl⟩ | ⟨h, pointer, e, hcall, he, rfl⟩ := run_failed_inv hf
  · refine Or.inl ⟨rfl, ?_⟩
    rw [records_run_refused h]
    exact records_emit_self (hrefused _)
  · refine Or.inr ⟨e, rfl, ?_⟩
    rw [errors_run_returned houtput h hcall, he]
    rfl

theorem errors_run_finished (houtput : ∀ e, sink (.outputFailed e) = true) {r : RunReport}
    (hr : (b.run sink c a p).outcome = .finished r) :
    records .error (b.run sink c a p).events = [] := by
  obtain ⟨h, pointer, hcall, hsent, -⟩ := run_finished_inv hr
  rw [errors_run_returned houtput h hcall, hsent]
  rfl

/-! ### Warnings -/

theorem warnings_run_refused (h : ¬ a.Grants c.tapeSize) :
    records .warn (b.run sink c a p).events = [] := by
  rw [records_run_refused h]
  exact records_emit_of_ne (by simp [Log.Message.level]) sink

theorem warnings_run_returned (hsink : ∀ x y z, sink (.leftTape x y z) = true)
    (h : a.Grants c.tapeSize) {pointer : UInt64}
    (hcall : (p.exec (a.tape c.tapeSize h.possible) a.base).outcome = .returned pointer) :
    records .warn (b.run sink c a p).events =
      if Verdict.check a.base c.tapeSize pointer = .outOfBounds then
        [.leftTape pointer a.base (a.base + c.tapeSize)]
      else [] := by
  have hcomplaint : records .warn ((b.delivery c a pointer).complaint sink) = [] := by
    unfold Writer.Written.complaint
    cases (b.delivery c a pointer).error with
    | none => rfl
    | some e => exact records_emit_of_ne (by simp [Log.Message.level]) sink
  rw [records_run_returned (Or.inr rfl) h hcall, hcomplaint, List.append_nil]
  cases Verdict.check a.base c.tapeSize pointer with
  | inBounds offset => rw [if_neg (by simp)]
  | outOfBounds =>
      rw [if_pos rfl]
      exact records_emit_self (hsink _ _ _)

end Bench

/-- From `warn` on, all messages about alarms are recorded. -/
theorem Log.Verbosity.sink_of_isAlarm {v : Log.Verbosity} (hv : Log.Verbosity.warn.rank ≤ v.rank)
    {m : Log.Message} (hm : m.level.IsAlarm) : v.sink m = true := by
  have hrank : m.level.rank ≤ Log.Verbosity.warn.rank := by
    obtain h | h := hm <;> rw [h] <;> decide
  exact decide_eq_true (Nat.le_trans hrank hv)

/-- A warning names both ends of the tape, if its end is an address. -/
theorem Log.Message.text_leftTape (pointer : UInt64) {base size : UInt64}
    (hfit : base.toNat + size.toNat < UInt64.size) :
    (Log.Message.leftTape pointer base (base + size)).text =
      "data pointer " ++ Numeral.markedHex pointer.toNat ++ " left tape ["
        ++ Numeral.markedHex base.toNat ++ ", " ++ Numeral.markedHex (base.toNat + size.toNat)
        ++ "]" := by
  have hend : (base + size).toNat = base.toNat + size.toNat := by
    rw [UInt64.toNat_add]
    exact Nat.mod_eq_of_lt hfit
  rw [← hend]
  rfl

/-! ### What the log tells -/

namespace Bench

/-- **The alarms in the log tell how a run ends.** Of a run whose entry point returns, with warnings
recorded and the end of the tape being an address:

* a run that finishes records no error, and a run that fails records one. If the writer has failed,
  the words of the record are those of the failure; without a tape, both name the same number of
  bytes. There is no other way for the run to end;
* there is one warning if the entry point has been called and the pointer it returned lies before the
  base or behind the end of the tape, and none otherwise, whatever becomes of the report. The warning
  names the pointer and the two ends. -/
theorem run_alarms_tell_outcome (b : Bench) (v : Log.Verbosity)
    (hv : Log.Verbosity.warn.rank ≤ v.rank) (c : Config) (a : Allocator) (p : Program)
    (hp : p.Returns) (hfit : a.base.toNat + c.tapeSize.toNat < UInt64.size) :
    (∀ r, (b.run v.sink c a p).outcome = .finished r →
      records .error (b.run v.sink c a p).events = [])
    ∧ (∀ f, (b.run v.sink c a p).outcome = .failed f →
        ∃ m, records .error (b.run v.sink c a p).events = [m]
          ∧ ((∃ e, f = .io e ∧ m.text = f.message)
            ∨ ∃ size, f = .resourceExhaustion size
                ∧ f.message
                  = "unable to provision a tape of " ++ Numeral.decimal size.toNat ++ " bytes"
                ∧ m.text
                  = "allocator refused a tape of " ++ Numeral.decimal size.toNat ++ " bytes"))
    ∧ ((∃ r, (b.run v.sink c a p).outcome = .finished r)
        ∨ ∃ f, (b.run v.sink c a p).outcome = .failed f)
    ∧ ((∃ m, records .warn (b.run v.sink c a p).events = [m]) ↔
        .call a.base ∈ (b.run v.sink c a p).events
        ∧ ∃ (h : a.Grants c.tapeSize) (pointer : UInt64),
          (p.exec (a.tape c.tapeSize h.possible) a.base).outcome = .returned pointer
          ∧ ¬ (a.base.toNat ≤ pointer.toNat
            ∧ pointer.toNat ≤ a.base.toNat + c.tapeSize.toNat))
    ∧ (records .warn (b.run v.sink c a p).events).length ≤ 1
    ∧ ∀ (h : a.Grants c.tapeSize) (pointer : UInt64),
        (p.exec (a.tape c.tapeSize h.possible) a.base).outcome = .returned pointer →
          ∀ m ∈ records .warn (b.run v.sink c a p).events,
            m.text = "data pointer " ++ Numeral.markedHex pointer.toNat ++ " left tape ["
              ++ Numeral.markedHex a.base.toNat ++ ", "
              ++ Numeral.markedHex (a.base.toNat + c.tapeSize.toNat) ++ "]" := by
  have hrefused : ∀ n, v.sink (.refused n) = true :=
    fun n => Log.Verbosity.sink_of_isAlarm hv (Or.inl rfl)
  have houtput : ∀ e, v.sink (.outputFailed e) = true :=
    fun e => Log.Verbosity.sink_of_isAlarm hv (Or.inl rfl)
  have hleft : ∀ x y z, v.sink (.leftTape x y z) = true :=
    fun x y z => Log.Verbosity.sink_of_isAlarm hv (Or.inr rfl)
  refine ⟨fun r hr => errors_run_finished houtput hr, ?_, ?_, ?_, ?_, ?_⟩
  · intro f hf
    obtain ⟨rfl, herrors⟩ | ⟨e, rfl, herrors⟩ := errors_run_failed hrefused houtput hf
    · exact ⟨_, herrors, Or.inr ⟨c.tapeSize, rfl, rfl, rfl⟩⟩
    · exact ⟨_, herrors, Or.inl ⟨e, rfl, rfl⟩⟩
  · obtain hf | ⟨e, hf⟩ | hr : (b.run v.sink c a p).outcome = _ ∨ _ := run_outcome_cases hp
    · exact Or.inr ⟨_, hf⟩
    · exact Or.inr ⟨_, hf⟩
    · exact Or.inl hr
  · constructor
    · rintro ⟨m, hm⟩
      by_cases h : a.Grants c.tapeSize
      · obtain ⟨pointer, hcall⟩ := hp.exec (a.tape c.tapeSize h.possible) a.base
        refine ⟨(mem_run_returned h hcall rfl).mpr (by simp), h, pointer, hcall, ?_⟩
        rw [warnings_run_returned hleft h hcall] at hm
        split at hm
        · next hout => rwa [← Verdict.exists_offset_iff, ← Verdict.check_eq_outOfBounds_iff]
        · cases hm
      · rw [warnings_run_refused h] at hm
        cases hm
    · rintro ⟨-, h, pointer, hcall, hout⟩
      rw [← Verdict.exists_offset_iff, ← Verdict.check_eq_outOfBounds_iff] at hout
      exact ⟨_, by rw [warnings_run_returned hleft h hcall, if_pos hout]⟩
  · by_cases h : a.Grants c.tapeSize
    · obtain ⟨pointer, hcall⟩ := hp.exec (a.tape c.tapeSize h.possible) a.base
      rw [warnings_run_returned hleft h hcall]
      split
      · exact Nat.le_refl 1
      · exact Nat.zero_le 1
    · rw [warnings_run_refused h]
      exact Nat.zero_le 1
  · intro h pointer hcall m hm
    rw [warnings_run_returned hleft h hcall] at hm
    split at hm
    · rw [List.mem_singleton.mp hm]
      exact Log.Message.text_leftTape pointer hfit
    · cases hm

/-- The entry point steps off the tape and the writer has no room for the report: one warning about
the pointer, and one error with the words of the failure. -/
theorem run_alarms_tell_outcome_narrow :
    (∃ m, records .error (run ⟨.narrow, {}⟩ Log.Verbosity.warn.sink {} {} [.move (-1)]).events = [m]
      ∧ m.text = "report output failed: broken pipe")
    ∧ ∃ m, records .warn (run ⟨.narrow, {}⟩ Log.Verbosity.warn.sink {} {} [.move (-1)]).events = [m]
      ∧ m.text = "data pointer 0x1ffffffff left tape [0x200000000, 0x200007530]" := by
  have hgrants : Allocator.Grants {} (Config.tapeSize {}) := by decide
  have hio : (run ⟨.narrow, {}⟩ Log.Verbosity.warn.sink {} {} [.move (-1)]).outcome
      = .failed (.io .brokenPipe) :=
    (run_io_iff _).mpr ⟨hgrants, 0x1ffffffff, rfl, Report.send_narrow_error _⟩
  obtain ⟨-, herrors, -, hwarned, -, htext⟩ :=
    run_alarms_tell_outcome ⟨.narrow, {}⟩ .warn (by decide) {} {} [.move (-1)]
      (by simp [Program.Returns]) (by decide)
  obtain ⟨m, hm, ⟨e, -, hwords⟩ | ⟨size, hsize, -⟩⟩ := herrors _ hio
  · obtain ⟨w, hw⟩ := hwarned.mpr
      ⟨(mem_run_returned hgrants rfl rfl).mpr (by simp), hgrants, 0x1ffffffff, rfl, by decide⟩
    refine ⟨⟨m, hm, hwords⟩, w, hw, ?_⟩
    rw [htext hgrants 0x1ffffffff rfl w (by simp [hw])]
    decide +kernel
  · cases hsize

end Bench

end TapeProbe

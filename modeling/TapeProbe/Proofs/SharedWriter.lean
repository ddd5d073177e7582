import Mathlib.Data.List.Induction
import TapeProbe.Proofs.Timeline

/-!
# Reports to a shared writer

All reports of a session go to one writer, those of its runs and those asked for by name. What the
writer holds depends on the session only through the reports made so far, one after another
(`Session.said`): it is their text as far as the limit goes. Each report ends as if all of them were
one text, so it arrives exactly when everything up to it is within the limit.

The invariant is `Writer.Took`. It is kept by a report (`Report.took_send`), hence by a step
(`Session.took_step`) and by all steps (`Session.took_final`).
-/

namespace TapeProbe

/-! ### Texts taken one after another -/

namespace Writer

variable {w w' : Writer} {cs : List Char}

/-- From being `w`, the writer `w'` has come by taking the text `cs`, as far as there was room.
Nothing is said of interruptions that are still ahead. -/
def Took (w : Writer) (cs : List Char) (w' : Writer) : Prop :=
  w' = { w.absorb cs with interrupts := w'.interrupts }

theorem Took.refl (w : Writer) : w.Took [] w := by
  have hnil : w.fitting [] = [] := by
    unfold fitting
    cases w.limit with
    | none => rfl
    | some limit => exact List.take_nil
  unfold Took absorb
  rw [hnil, List.append_nil]

theorem Took.regular (h : w.Took cs w') (hw : w.Regular) : w'.Regular := by
  rw [h]
  exact ⟨hw.chunk_pos, hw.limitError_lasts⟩

theorem Took.kept (h : w.Took cs w') : w'.kept = w.kept ++ w.fitting cs := by
  rw [h]
  rfl

theorem Took.hasRoom (h : w.Took cs w') {n : Nat} (hn : 0 < n) :
    w'.hasRoom n = w.hasRoom (cs.length + n) := by
  rw [h, ← hasRoom_absorb (Or.inr hn)]
  rfl

theorem Took.flushError (h : w.Took cs w') : w'.flushError = w.flushError := by
  rw [h]
  rfl

theorem Took.limitFailure (h : w.Took cs w') : w'.limitFailure = w.limitFailure := by
  rw [h]
  rfl

/-- An empty writer has room for what is within its limit. -/
theorem hasRoom_iff_of_empty (hempty : w.kept = []) (n : Nat) :
    w.hasRoom n = true ↔ ∀ limit ∈ w.limit, n ≤ limit := by
  unfold Writer.hasRoom
  cases w.limit with
  | none => simp
  | some limit => simp [hempty]

end Writer

namespace Report

variable {w w' : Writer} {cs : List Char}

/-- A report adds its text to what has been taken. -/
theorem took_send (r : Report) (h : w.Took cs w') (hw : w.Regular) :
    w.Took (cs ++ r.text) (r.send w').writer := by
  have hsend : (r.send w').writer = w'.absorb r.text := by
    rw [r.send_eq (h.regular hw)]
    split <;> rfl
  have habsorb : w'.absorb r.text = w.absorb (cs ++ r.text) := by
    rw [h, ← w.absorb_absorb]
    rfl
  rw [hsend, habsorb]
  rfl

/-- A report after others ends as the text of all of them would. -/
theorem send_error_of_took (r : Report) (h : w.Took cs w') (hw : w.Regular) :
    (r.send w').error =
      if w.hasRoom (cs ++ r.text).length then w.flushError else some w.limitFailure := by
  rw [r.send_eq (h.regular hw), h.hasRoom r.text_length_pos, h.flushError, h.limitFailure,
    List.length_append]
  split <;> rfl

end Report

/-! ### Bytes and characters -/

theorem Numeral.utf8Size_of_isDigit {b : Nat} {c : Char} (h : isDigit b c = true) :
    c.utf8Size = 1 := by
  have hsmall : ∀ d : Char, d.val ≤ 127 → c ≤ d → c.utf8Size = 1 := by
    intro d hd hcd
    exact Char.utf8Size_eq_one_iff.mpr (UInt32.le_trans hcd hd)
  unfold isDigit digitValue? at h
  split_ifs at h with h1 h2 h3
  · exact hsmall '9' (by decide) h1.2
  · exact hsmall 'f' (by decide) h2.2
  · exact hsmall 'F' (by decide) h3.2

namespace Report

theorem utf8Size_of_mem_address (a : UInt64) : ∀ c ∈ address a, c.utf8Size = 1 := by
  intro c hc
  rw [address, List.mem_cons, List.mem_cons] at hc
  rcases hc with rfl | rfl | hdigit
  · rfl
  · rfl
  · exact Numeral.utf8Size_of_isDigit
      (Numeral.isDigit_of_mem_toDigits (by decide) (by decide) _ c hdigit)

/-- A report is ASCII: its characters are its bytes. -/
theorem utf8Size_of_mem_text (r : Report) : ∀ c ∈ r.text, c.utf8Size = 1 := by
  have hlabel : ∀ label : List Char, label.all (·.utf8Size == 1) = true →
      ∀ c ∈ label, c.utf8Size = 1 := by
    intro label hall c hc
    exact eq_of_beq (List.all_eq_true.mp hall c hc)
  have hline : ∀ (label : List Char) (a : UInt64), label.all (·.utf8Size == 1) = true →
      ∀ c ∈ label ++ address a ++ ['\n'], c.utf8Size = 1 := by
    intro label a hall c hc
    simp only [List.mem_append, List.mem_singleton] at hc
    rcases hc with (hc | hc) | rfl
    · exact hlabel label hall c hc
    · exact utf8Size_of_mem_address a c hc
    · rfl
  intro c hc
  obtain ⟨line, hmem, hc⟩ := List.mem_flatten.mp hc
  rw [lines, List.mem_cons, List.mem_cons, List.mem_singleton] at hmem
  rcases hmem with rfl | rfl | rfl
  · exact hline _ _ (by decide +kernel) c hc
  · exact hline _ _ (by decide +kernel) c hc
  · cases hv : r.verdict with
    | inBounds offset =>
        rw [hv, verdictLine_inBounds] at hc
        exact hline _ _ (by decide +kernel) c hc
    | outOfBounds =>
        rw [hv] at hc
        exact hlabel _ (by decide +kernel) c hc

end Report

/-! ### The reports of a session -/

/-- The report that a job makes: none without a configuration, without a tape, or if the entry point
breaks off. -/
def Job.report? (j : Job) : Option Report :=
  match j.config with
  | .error _ => none
  | .ok c =>
    if h : j.allocator.Grants c.tapeSize then
      match (j.program.exec (j.allocator.tape c.tapeSize h.possible) j.allocator.base).outcome with
      | .returned pointer =>
        some ⟨j.allocator.base, pointer, Verdict.check j.allocator.base c.tapeSize pointer⟩
      | .panicked _ => none
    else none

/-- A job makes no report and leaves the writer alone, or its entry point returns a pointer and the
report is on that. -/
theorem Job.report?_cases (j : Job) :
    (j.report? = none ∧ ∀ b sink, (j.perform b sink).bench = b)
    ∨ ∃ (c : Config) (h : j.allocator.Grants c.tapeSize) (pointer : UInt64),
        j.config = .ok c
        ∧ (j.program.exec (j.allocator.tape c.tapeSize h.possible) j.allocator.base).outcome
            = .returned pointer
        ∧ j.report? = some
            ⟨j.allocator.base, pointer, Verdict.check j.allocator.base c.tapeSize pointer⟩ := by
  cases hc : j.config with
  | error e =>
      refine Or.inl ⟨by simp only [report?, hc], fun b sink => ?_⟩
      unfold perform
      rw [hc]
  | ok c =>
      rcases Bench.run_cases c j.allocator j.program with h | ⟨h, text, hcall⟩ | ⟨h, pointer, hcall⟩
      · refine Or.inl ⟨by simp only [report?, hc, h, dif_neg, not_false_eq_true], fun b sink => ?_⟩
        rw [perform_ok hc, Bench.run_refused h]
      · refine Or.inl ⟨by simp only [report?, hc, h, dif_pos, hcall], fun b sink => ?_⟩
        rw [perform_ok hc, Bench.run_panicked h hcall]
      · exact Or.inr ⟨c, h, pointer, rfl, hcall, by simp only [report?, hc, h, dif_pos, hcall]⟩

namespace Session

/-- The verdict that an answer gives. -/
def Answer.verdict? : Answer → Option Verdict
  | .verdict v => some v
  | .ran (.finished r) _ => some r.verdict
  | _ => none

/-- The failure that an answer gives. -/
def Answer.failure? : Answer → Option Failure
  | .failed f | .ran (.failed f) _ => some f
  | _ => none

/-- The report that a step makes: one that is asked for, or that of a run. -/
def report? (s : Session) : Op → Option Report
  | .report name =>
    (s.tapes.tape? name).map fun t =>
      ⟨t.base, s.pointer, Verdict.check t.base t.size s.pointer⟩
  | .run job => job.report?
  | _ => none

/-- The reports of all steps, in order. -/
def reports (s : Session) : List Op → List Report
  | [] => []
  | op :: ops => (s.report? op).toList ++ (s.step op).session.reports ops

/-- The texts of all reports, one after another. -/
def said (s : Session) (ops : List Op) : List Char := (s.reports ops).flatMap Report.text

variable {s : Session} {op : Op} {r : Report}

theorem reports_append (s : Session) (before after : List Op) :
    s.reports (before ++ after) = s.reports before ++ (s.final before).reports after := by
  induction before generalizing s with
  | nil => rfl
  | cons op ops ih =>
      rw [List.cons_append, reports, ih, reports, final_cons, List.append_assoc]

theorem said_concat (s : Session) (ops : List Op) (op : Op) :
    s.said (ops ++ [op])
      = s.said ops ++ (((s.final ops).report? op).map Report.text).getD [] := by
  unfold said
  rw [reports_append, List.flatMap_append]
  cases h : (s.final ops).report? op <;> simp [reports, h]

/-- A step that sends a report to the writer and says what became of it. -/
structure Delivers (s : Session) (op : Op) (r : Report) : Prop where
  /-- The writer is left as by the report. -/
  writer : (s.step op).session.bench.writer = (r.send s.bench.writer).writer
  /-- The verdict is given exactly for a report that arrives. -/
  verdict : (s.step op).answer.verdict? = some r.verdict ↔ (r.send s.bench.writer).error = none
  /-- Any other report is answered with its error. -/
  failure : (s.step op).answer.failure? = (r.send s.bench.writer).error.map .io

theorem delivers_of (hwriter : (s.step op).session.bench.writer = (r.send s.bench.writer).writer)
    (hsent : (r.send s.bench.writer).error = none →
      (s.step op).answer.verdict? = some r.verdict ∧ (s.step op).answer.failure? = none)
    (hfailed : ∀ e, (r.send s.bench.writer).error = some e →
      (s.step op).answer.verdict? = none ∧ (s.step op).answer.failure? = some (.io e)) :
    s.Delivers op r := by
  cases he : (r.send s.bench.writer).error with
  | none =>
      obtain ⟨hverdict, hfailure⟩ := hsent he
      exact ⟨hwriter, iff_of_true hverdict he, by rw [hfailure, he]; rfl⟩
  | some e =>
      obtain ⟨hverdict, hfailure⟩ := hfailed e he
      exact ⟨hwriter, iff_of_false (by simp [hverdict]) (by simp [he]), by rw [hfailure, he]; rfl⟩

theorem delivers_report {name : String} {t : Tape} (ht : s.tapes.tape? name = some t) :
    s.Delivers (.report name) ⟨t.base, s.pointer, Verdict.check t.base t.size s.pointer⟩ := by
  have hstep : s.step (.report name) = s.report t := withTape_some ht s.report
  apply delivers_of
  · rw [hstep, report]
    dsimp only
    split <;> rfl
  · intro he
    simp only [hstep, report, he]
    exact ⟨rfl, rfl⟩
  · intro e he
    simp only [hstep, report, he]
    exact ⟨rfl, rfl⟩

theorem delivers_run {job : Job} {c : Config} (hc : job.config = .ok c)
    (h : job.allocator.Grants c.tapeSize) {pointer : UInt64}
    (hcall : (job.program.exec (job.allocator.tape c.tapeSize h.possible)
      job.allocator.base).outcome = .returned pointer) :
    s.Delivers (.run job)
      ⟨job.allocator.base, pointer, Verdict.check job.allocator.base c.tapeSize pointer⟩ := by
  apply delivers_of
  · rw [step_run_ok hc, Bench.run_returned h hcall]
    rfl
  · intro he
    simp only [step_run_ok hc, Bench.run_returned h hcall, Bench.delivery, he]
    exact ⟨rfl, rfl⟩
  · intro e he
    simp only [step_run_ok hc, Bench.run_returned h hcall, Bench.delivery, he]
    exact ⟨rfl, rfl⟩

theorem delivers_of_report? (h : s.report? op = some r) : s.Delivers op r := by
  cases op with
  | report name =>
      obtain ⟨t, ht, rfl⟩ := Option.map_eq_some_iff.mp h
      exact delivers_report ht
  | run job =>
      rcases job.report?_cases with ⟨hnone, -⟩ | ⟨c, hg, pointer, hc, hcall, hsome⟩
      · cases hnone.symm.trans h
      · cases hsome.symm.trans h
        exact delivers_run hc hg hcall
  | _ => cases h

theorem provision_bench (s : Session) (name : String) (requested : UInt64) (a : Allocator) :
    (s.provision name requested a).session.bench = s.bench := by
  unfold provision
  split
  · rfl
  · split <;> rfl

theorem invoke_bench (s : Session) (name : String) (p : Program) (t : Tape) :
    (s.invoke name p t).session.bench = s.bench := by
  unfold invoke
  dsimp only
  split <;> rfl

theorem drop_bench (s : Session) (name : String) : (s.drop name).session.bench = s.bench := by
  unfold drop
  split <;> rfl

/-- Without a report the writer is left alone. -/
theorem writer_of_report?_none (h : s.report? op = none) :
    (s.step op).session.bench.writer = s.bench.writer := by
  have hwith : ∀ (name : String) (act : Tape → Stepped),
      (∀ t, s.tapes.tape? name = some t → (act t).session.bench = s.bench) →
        (s.withTape name act).session.bench.writer = s.bench.writer := by
    intro name act hact
    refine withTape_cases (P := fun done => done.session.bench.writer = s.bench.writer) rfl ?_
    intro t ht
    rw [hact t ht]
  cases op with
  | provision name requested a => exact congrArg Bench.writer (s.provision_bench name requested a)
  | invoke name p => exact hwith name _ fun t _ => s.invoke_bench name p t
  | validate name pointer => exact hwith name _ fun t _ => rfl
  | report name =>
      have hname : s.tapes.tape? name = none := Option.map_eq_none_iff.mp h
      refine hwith name _ fun t ht => ?_
      cases hname.symm.trans ht
  | read name start count => exact hwith name _ fun t _ => rfl
  | geometry name => exact hwith name _ fun t _ => rfl
  | drop name => exact congrArg Bench.writer (s.drop_bench name)
  | trap => rfl
  | run job =>
      rcases job.report?_cases with ⟨-, hbench⟩ | ⟨c, hg, pointer, -, -, hsome⟩
      · exact congrArg Bench.writer (hbench s.bench s.sink)
      · cases hsome.symm.trans h
  | setVerbosity v => rfl

/-! ### The invariant -/

/-- What a step says is added to what the writer has taken. -/
theorem took_step {w : Writer} (hw : w.Regular) {cs : List Char} (h : w.Took cs s.bench.writer)
    (op : Op) :
    w.Took (cs ++ ((s.report? op).map Report.text).getD []) (s.step op).session.bench.writer := by
  cases hr : s.report? op with
  | none =>
      rw [writer_of_report?_none hr]
      simpa using h
  | some r =>
      rw [(delivers_of_report? hr).writer]
      exact r.took_send h hw

theorem took_final (hw : s.bench.writer.Regular) (ops : List Op) :
    s.bench.writer.Took (s.said ops) (s.final ops).bench.writer := by
  induction ops using List.reverseRecOn with
  | nil => exact Writer.Took.refl _
  | append_singleton ops op ih =>
      rw [said_concat, final_concat]
      exact took_step hw ih op

theorem utf8Size_of_mem_said (s : Session) (ops : List Op) : ∀ c ∈ s.said ops, c.utf8Size = 1 := by
  intro c hc
  obtain ⟨r, -, hc⟩ := List.mem_flatMap.mp hc
  exact r.utf8Size_of_mem_text c hc

/-- **The output of a shared writer.** In every session that begins with an empty writer which makes
progress, whatever its limit, its chunks, its interruptions and its flushing:

* after any steps the writer holds the texts of the reports so far, one after another, up to its
  limit; all of it is ASCII, so that characters are bytes;
* a report, asked for or made by a run, arrives exactly if the texts up to and with its own are
  within the limit and flushing does not fail;
* if they are not within the limit, its error is that of the limit, or that the buffer was not
  written as a whole where the writer then takes nothing; if they are, its error is that of
  flushing. -/
theorem shared_writer_output (s : Session) (hw : s.bench.writer.Regular)
    (hempty : s.bench.writer.kept = []) (ops : List Op) :
    (∀ limit, s.bench.writer.limit = some limit →
      (s.final ops).bench.writer.kept = (s.said ops).take (min limit (s.said ops).length))
    ∧ (s.bench.writer.limit = none → (s.final ops).bench.writer.kept = s.said ops)
    ∧ (∀ c ∈ s.said ops, c.utf8Size = 1)
    ∧ ∀ op r, (s.final ops).report? op = some r →
        s.said (ops ++ [op]) = s.said ops ++ r.text
        ∧ (((s.final ops).step op).answer.verdict? = some r.verdict ↔
            (∀ limit ∈ s.bench.writer.limit, (s.said (ops ++ [op])).length ≤ limit)
              ∧ s.bench.writer.flushError = none)
        ∧ (∀ limit ∈ s.bench.writer.limit, limit < (s.said (ops ++ [op])).length →
            (∀ e, s.bench.writer.limitError = some e →
              ((s.final ops).step op).answer.failure? = some (.io e))
            ∧ (s.bench.writer.limitError = none →
              ∃ e, e.text = "failed to write whole buffer"
                ∧ ((s.final ops).step op).answer.failure? = some (.io e)))
        ∧ ((∀ limit ∈ s.bench.writer.limit, (s.said (ops ++ [op])).length ≤ limit) →
            ((s.final ops).step op).answer.failure? = s.bench.writer.flushError.map .io) := by
  have htook := took_final hw ops
  refine ⟨?_, ?_, s.utf8Size_of_mem_said ops, ?_⟩
  · intro limit hlimit
    rw [htook.kept, Writer.fitting, hlimit, hempty]
    simp [List.take_eq_take_iff]
  · intro hlimit
    rw [htook.kept, Writer.fitting, hlimit, hempty]
    rfl
  · intro op r hr
    have hsaid : s.said (ops ++ [op]) = s.said ops ++ r.text := by
      rw [said_concat, hr]
      rfl
    have hdelivers := delivers_of_report? hr
    have herror := r.send_error_of_took htook hw
    have hroom := Writer.hasRoom_iff_of_empty hempty (s.said (ops ++ [op])).length
    rw [← hsaid] at herror
    refine ⟨hsaid, ?_, ?_, ?_⟩
    · rw [hdelivers.verdict, herror, ← hroom]
      by_cases hfits : s.bench.writer.hasRoom (s.said (ops ++ [op])).length = true
      · rw [if_pos hfits, and_iff_right hfits]
      · rw [if_neg hfits]
        exact iff_of_false (Option.some_ne_none _) fun h => hfits h.1
    · intro limit hlimit hover
      have hfull : ¬ s.bench.writer.hasRoom (s.said (ops ++ [op])).length = true := by
        rw [hroom]
        intro hfits
        exact Nat.not_le.mpr hover (hfits limit hlimit)
      rw [hdelivers.failure, herror, if_neg hfull, Writer.limitFailure]
      refine ⟨fun e he => by rw [he]; rfl, fun he => ⟨.wholeBuffer, rfl, by rw [he]; rfl⟩⟩
    · intro hfits
      rw [hdelivers.failure, herror, if_pos (hroom.mpr hfits)]

/-- A session whose writer is interrupted twice, takes seven bytes in a call, and has no room for
two reports. -/
def tight : Session := start ⟨{ limit := some 150, chunk := some 7, interrupts := 2 }, {}⟩ .debug

/-- Two runs leave their tape to the left, and the limit falls into the report of the second: the
first arrives, the second fails, and the writer is full. -/
theorem shared_writer_output_second_cut :
    (tight.step (.run { program := [.move (-1)] })).answer.verdict? = some .outOfBounds
    ∧ (∃ e : IoError, e.text = "failed to write whole buffer"
        ∧ ((tight.final [.run { program := [.move (-1)] }]).step
            (.run { program := [.move (-1)] })).answer.failure? = some (.io e))
    ∧ (tight.final [.run { program := [.move (-1)] },
        .run { program := [.move (-1)] }]).bench.writer.kept.length = 150 := by
  have hreport : ∀ s : Session, s.report? (.run { program := [.move (-1)] })
      = some ⟨0x200000000, 0x1ffffffff, .outOfBounds⟩ := fun _ => rfl
  have hlength : (Report.text ⟨0x200000000, 0x1ffffffff, .outOfBounds⟩).length = 137 := by
    decide +kernel
  have hregular : tight.bench.writer.Regular := ⟨by decide, by decide⟩
  have houtput := shared_writer_output tight hregular rfl
  obtain ⟨-, -, -, hfirst⟩ := houtput []
  obtain ⟨-, -, -, hsecond⟩ := houtput [.run { program := [.move (-1)] }]
  obtain ⟨hkept, -, -, -⟩ :=
    houtput [.run { program := [.move (-1)] }, .run { program := [.move (-1)] }]
  obtain ⟨hsaid, hverdict, -, -⟩ := hfirst _ _ (hreport _)
  obtain ⟨hsaid', -, hcut, -⟩ := hsecond _ _ (hreport _)
  have hone : (tight.said [.run { program := [.move (-1)] }]).length = 137 :=
    (congrArg List.length hsaid).trans hlength
  have htwo : (tight.said [.run { program := [.move (-1)] },
      .run { program := [.move (-1)] }]).length = 274 := by
    rw [List.cons_append, List.nil_append] at hsaid'
    rw [hsaid', List.length_append, hone, hlength]
  refine ⟨hverdict.mpr ⟨?_, rfl⟩, (hcut 150 rfl ?_).2 rfl, ?_⟩
  · rintro limit ⟨⟩
    rw [List.nil_append, hone]
    decide
  · rw [List.cons_append, List.nil_append, htwo]
    decide
  · rw [hkept 150 rfl, List.length_take, htwo]
    decide

end Session

end TapeProbe

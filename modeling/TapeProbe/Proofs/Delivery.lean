import TapeProbe.Report

/-!
# Delivery of a report

A text reaches its writer in many calls: some are interrupted, each takes at most a chunk, and the
limit may fall anywhere. None of that shows in the end. For a writer that makes progress
(`Writer.Regular`) the loop of calls is **one write** (`Writer.writeOnce`): the text is kept as far
as there is room, and the write fails exactly when there is not room for all of it.

The argument has three layers:

* `writeOnce_append`: one write of `cs ++ ds` is a write of `cs` followed by one of `ds`;
* `writeAll_eq_writeOnce`: induction over the calls of the loop;
* `writeEach_eq_writeOnce`, `Report.send_eq`: the same for the lines of a report, then the flush.

The last section is about every writer, regular or not: what is delivered without an error is
delivered whole, and delivering causes no events but its own.
-/

namespace TapeProbe

/-- An error after which a call is made again: an interruption, also where the system reports it by
its number. -/
def IoError.isInterruption : IoError → Bool
  | .interrupted => true
  | .os code => code == 4
  | _ => false

namespace Writer

/-! ### Writers that make progress -/

/-- A writer that makes progress: each call takes at least one byte, and a full writer does not
ask for the call to be repeated for ever. -/
structure Regular (w : Writer) : Prop where
  /-- No call is limited to nothing. -/
  chunk_pos : ∀ n ∈ w.chunk, 0 < n
  /-- The limit is not reported as an interruption. -/
  limitError_lasts : ∀ e ∈ w.limitError, e.isInterruption = false

/-- A writer that is interrupted twice, takes seven bytes in a call, and is full after twenty. -/
def narrow : Writer where
  limit := some 20
  limitError := some .brokenPipe
  chunk := some 7
  interrupts := 2

theorem narrow_regular : narrow.Regular := ⟨by decide, by decide⟩

/-- Whether a writer makes progress does not depend on its limit. -/
theorem Regular.withLimit {w : Writer} (hw : w.Regular) (limit : Option Nat) :
    ({ w with limit := limit } : Writer).Regular := ⟨hw.chunk_pos, hw.limitError_lasts⟩

/-- Is there room for `n` more bytes? -/
def hasRoom (w : Writer) (n : Nat) : Bool :=
  match w.limit with
  | some limit => w.kept.length + n ≤ limit
  | none => true

/-- The part of a text that there is room for. -/
def fitting (w : Writer) (cs : List Char) : List Char :=
  match w.limit with
  | some limit => cs.take (limit - w.kept.length)
  | none => cs

/-- The writer with the part of the text that there is room for, all interruptions behind it. -/
def absorb (w : Writer) (cs : List Char) : Writer :=
  { w with interrupts := 0, kept := w.kept ++ w.fitting cs }

/-- What a write beyond the limit fails with. -/
def limitFailure (w : Writer) : IoError := w.limitError.getD .wholeBuffer

/-- Write a whole text at one go. -/
def writeOnce (w : Writer) (cs : List Char) : Written :=
  if w.hasRoom cs.length then ⟨w.absorb cs, none, []⟩
  else ⟨w.absorb cs, some w.limitFailure, [.writeFailed]⟩

theorem Regular.absorb {w : Writer} (hw : w.Regular) (cs : List Char) : (w.absorb cs).Regular :=
  ⟨hw.chunk_pos, hw.limitError_lasts⟩

theorem hasRoom_mono {w : Writer} {m n : Nat} (hmn : m ≤ n) (h : w.hasRoom n = true) :
    w.hasRoom m = true := by
  unfold hasRoom at h ⊢
  cases hl : w.limit with
  | none => rfl
  | some limit =>
      simp only [hl, decide_eq_true_eq] at h ⊢
      omega

/-- A text that there is room for is kept whole. -/
theorem fitting_of_hasRoom {w : Writer} {cs : List Char} (h : w.hasRoom cs.length = true) :
    w.fitting cs = cs := by
  unfold hasRoom at h
  unfold fitting
  cases hl : w.limit with
  | none => rfl
  | some limit =>
      simp only [hl, decide_eq_true_eq] at h ⊢
      exact List.take_of_length_le (by omega)

/-- Where the room ends inside `cs`, nothing of what follows `cs` is kept. -/
theorem fitting_append_of_not_hasRoom {w : Writer} {cs : List Char} (ds : List Char)
    (h : w.hasRoom cs.length = false) : w.fitting (cs ++ ds) = w.fitting cs := by
  unfold hasRoom at h
  unfold fitting
  cases hl : w.limit with
  | none => rw [hl] at h; cases h
  | some limit =>
      simp only [hl, decide_eq_false_iff_not] at h ⊢
      exact List.take_append_of_le_length (by omega)

theorem absorb_kept_of_hasRoom {w : Writer} {cs : List Char} (h : w.hasRoom cs.length = true) :
    (w.absorb cs).kept = w.kept ++ cs := by
  rw [absorb, fitting_of_hasRoom h]

/-- Room behind a text that is kept is room for both. What is not kept whole leaves no room for
anything, so only for nothing at all the text has to fit. -/
theorem hasRoom_absorb {w : Writer} {cs : List Char} {n : Nat}
    (h : w.hasRoom cs.length = true ∨ 0 < n) :
    (w.absorb cs).hasRoom n = w.hasRoom (cs.length + n) := by
  unfold hasRoom at h ⊢
  change (match w.limit with
    | some limit => decide ((w.kept ++ w.fitting cs).length + n ≤ limit)
    | none => true) = _
  cases hl : w.limit with
  | none => rfl
  | some limit =>
      simp only [fitting, hl, List.length_append, List.length_take, decide_eq_true_eq] at h ⊢
      apply decide_eq_decide.mpr
      omega

/-- What there is room for after `cs` is what there is room for of `cs ++ ds` behind `cs`. -/
theorem fitting_append (w : Writer) (cs ds : List Char) :
    w.fitting (cs ++ ds) = w.fitting cs ++ (w.absorb cs).fitting ds := by
  unfold fitting
  change _ = _ ++ (match w.limit with
    | some limit => ds.take (limit - (w.kept ++ w.fitting cs).length)
    | none => ds)
  cases hl : w.limit with
  | none => rfl
  | some limit =>
      simp only [fitting, hl, List.length_append, List.length_take, List.take_append]
      -- either `cs` has used up the room, or it is kept whole
      have hleft : limit - w.kept.length - cs.length
          = limit - (w.kept.length + min (limit - w.kept.length) cs.length) := by omega
      rw [hleft]

theorem absorb_absorb (w : Writer) (cs ds : List Char) :
    (w.absorb cs).absorb ds = w.absorb (cs ++ ds) :=
  calc (w.absorb cs).absorb ds
      = { w with interrupts := 0, kept := (w.kept ++ w.fitting cs) ++ (w.absorb cs).fitting ds } :=
        rfl
    _ = { w with interrupts := 0, kept := w.kept ++ w.fitting (cs ++ ds) } := by
        rw [fitting_append, List.append_assoc]

/-- One write of two texts is a write of the first and then one of the second. -/
theorem writeOnce_append {w : Writer} {cs : List Char} (h : w.hasRoom cs.length = true)
    (ds : List Char) : w.writeOnce (cs ++ ds) = (w.absorb cs).writeOnce ds := by
  unfold writeOnce
  rw [hasRoom_absorb (Or.inl h), List.length_append, absorb_absorb]
  rfl

/-- A text that does not fit hides what follows it. -/
theorem writeOnce_append_of_not_hasRoom {w : Writer} {cs : List Char} (ds : List Char)
    (h : w.hasRoom cs.length = false) : w.writeOnce (cs ++ ds) = w.writeOnce cs := by
  have hboth : w.hasRoom (cs ++ ds).length = false := by
    rw [← Bool.not_eq_true] at h ⊢
    intro hr
    exact h (hasRoom_mono (by simp) hr)
  unfold writeOnce absorb
  rw [hboth, h, fitting_append_of_not_hasRoom ds h]

/-- Nothing is lost on a writer that has absorbed a text. -/
theorem writeOnce_nil_of_hasRoom {w : Writer} {cs : List Char} (h : w.hasRoom cs.length = true) :
    (w.absorb cs).writeOnce [] = ⟨w.absorb cs, none, []⟩ := by
  rw [← writeOnce_append h, List.append_nil, writeOnce, h, if_pos rfl]

/-- A full writer keeps nothing. -/
theorem writeOnce_of_full {w : Writer} {cs : List Char} (hcs : cs ≠ []) (hi : w.interrupts = 0)
    (hfull : w.isFull = true) : w.writeOnce cs = ⟨w, some w.limitFailure, [.writeFailed]⟩ := by
  have hlen := List.length_pos_iff.mpr hcs
  unfold isFull at hfull
  cases hl : w.limit with
  | none => rw [hl] at hfull; cases hfull
  | some limit =>
      simp only [hl, decide_eq_true_eq] at hfull
      have hroom : w.hasRoom cs.length = false := by
        simp only [hasRoom, hl, decide_eq_false_iff_not]
        omega
      have hfit : w.fitting cs = [] := by
        simp only [fitting, hl, Nat.sub_eq_zero_of_le hfull, List.take_zero]
      have habs : w.absorb cs = w := by
        unfold absorb
        rw [hfit, List.append_nil, ← hi]
      rw [writeOnce, hroom, habs]
      rfl

/-! ### The loop of calls -/

theorem writeAll_nil (w : Writer) : w.writeAll [] = ⟨w, none, []⟩ := by
  rw [writeAll]
  rfl

/-- A call takes something, and there is room for what it takes. -/
theorem takes_spec {w : Writer} (hw : w.Regular) (hfull : w.isFull = false) {n : Nat}
    (hn : 0 < n) : 0 < w.takes n ∧ w.takes n ≤ n ∧ w.hasRoom (w.takes n) = true := by
  unfold isFull at hfull
  unfold takes hasRoom
  cases hc : w.chunk with
  | none =>
      cases hl : w.limit with
      | none => exact ⟨hn, Nat.le_refl n, rfl⟩
      | some limit =>
          simp only [hl, decide_eq_false_iff_not, decide_eq_true_eq] at hfull ⊢
          omega
  | some chunk =>
      have hpos := hw.chunk_pos chunk hc
      cases hl : w.limit with
      | none =>
          dsimp only
          exact ⟨by omega, by omega, rfl⟩
      | some limit =>
          simp only [hl, decide_eq_false_iff_not, decide_eq_true_eq] at hfull ⊢
          omega

/-- Without interruptions, keeping what there is room for is absorbing it. -/
theorem keep_eq_absorb {w : Writer} {cs : List Char} (hi : w.interrupts = 0)
    (h : w.hasRoom cs.length = true) : w.keep cs = w.absorb cs := by
  unfold keep absorb
  rw [fitting_of_hasRoom h, ← hi]

/-- The loop of calls is one write. -/
theorem writeAll_eq_writeOnce {w : Writer} (hw : w.Regular) {cs : List Char} (hcs : cs ≠ []) :
    w.writeAll cs = w.writeOnce cs := by
  fun_induction writeAll w cs with
  | case1 w cs hempty => exact absurd (List.isEmpty_iff.mp hempty) hcs
  | case2 w cs _ _ ih => exact ih ⟨hw.chunk_pos, hw.limitError_lasts⟩ hcs
  | case3 w cs _ hint hfull => exact (writeOnce_of_full hcs (by omega) hfull).symm
  | case4 w cs _ _ hfull n hzero =>
      have hpos := (takes_spec hw (by simpa using hfull) (List.length_pos_iff.mpr hcs)).1
      omega
  | case5 w cs _ hint hfull n _ ih =>
      -- a call that takes `n` bytes: there is room for them, and the rest is written on a writer
      -- that has absorbed them
      have hi : w.interrupts = 0 := by omega
      obtain ⟨hpos, hle, hroom⟩ :=
        takes_spec hw (by simpa using hfull) (List.length_pos_iff.mpr hcs)
      have htaken : w.hasRoom (cs.take n).length = true := by
        rw [List.length_take, Nat.min_eq_left hle]
        exact hroom
      have hkeep := keep_eq_absorb hi htaken
      have hsplit : w.writeOnce cs = (w.absorb (cs.take n)).writeOnce (cs.drop n) := by
        rw [← writeOnce_append htaken, List.take_append_drop]
      rw [hsplit]
      by_cases hrest : cs.drop n = []
      · rw [hkeep, hrest, writeAll_nil, writeOnce_nil_of_hasRoom htaken]
      · rw [← hkeep]
        exact ih ⟨hw.chunk_pos, hw.limitError_lasts⟩ hrest

/-- Texts written one after another are one write of all of them. -/
theorem writeEach_eq_writeOnce {w : Writer} (hw : w.Regular) {texts : List (List Char)}
    (hne : texts ≠ []) (htexts : ∀ cs ∈ texts, cs ≠ []) :
    w.writeEach texts = w.writeOnce texts.flatten := by
  induction texts generalizing w with
  | nil => exact absurd rfl hne
  | cons cs more ih =>
      have hfirst := writeAll_eq_writeOnce hw (htexts cs (by simp))
      rw [writeEach, hfirst, List.flatten_cons]
      -- the first text that does not fit ends both writes
      cases hroom : w.hasRoom cs.length with
      | false =>
          rw [writeOnce_append_of_not_hasRoom _ hroom]
          simp [writeOnce, hroom]
      | true =>
          rw [writeOnce_append hroom]
          have hone : w.writeOnce cs = ⟨w.absorb cs, none, []⟩ := by
            rw [writeOnce, hroom, if_pos rfl]
          rw [hone]
          by_cases hmore : more = []
          · rw [hmore, List.flatten_nil, writeOnce_nil_of_hasRoom hroom]
            rfl
          · rw [ih (hw.absorb cs) hmore fun ds hds => htexts ds (by simp [hds])]
            rfl

/-! ### Every writer -/

/-- What is written without an error is written whole. -/
theorem writeAll_kept {w : Writer} {cs : List Char} (h : (w.writeAll cs).error = none) :
    (w.writeAll cs).writer.kept = w.kept ++ cs := by
  fun_induction writeAll w cs with
  | case1 w cs hempty => rw [List.isEmpty_iff.mp hempty, List.append_nil]
  | case2 w cs _ _ ih => exact ih h
  | case3 => cases h
  | case4 => cases h
  | case5 w cs _ _ _ n _ ih =>
      rw [ih h, keep, List.append_assoc, List.take_append_drop]

theorem writeEach_kept {w : Writer} {texts : List (List Char)}
    (h : (w.writeEach texts).error = none) :
    (w.writeEach texts).writer.kept = w.kept ++ texts.flatten := by
  induction texts generalizing w with
  | nil => exact (List.append_nil w.kept).symm
  | cons cs more ih =>
      rw [writeEach] at h ⊢
      cases he : (w.writeAll cs).error with
      | some e =>
          simp only [he] at h
          cases h
      | none =>
          simp only [he] at h ⊢
          rw [ih h, writeAll_kept he, List.append_assoc, List.flatten_cons]

/-- An event that delivering a text may cause. -/
def IsDelivery (e : Event) : Prop := e = .writeFailed ∨ ∃ n, e = .flush n

theorem writeAll_events (w : Writer) (cs : List Char) :
    ∀ e ∈ (w.writeAll cs).events, IsDelivery e := by
  fun_induction writeAll w cs with
  | case1 => intro e he; cases he
  | case2 _ _ _ _ ih => exact ih
  | case3 => intro e he; exact Or.inl (List.mem_singleton.mp he)
  | case4 => intro e he; cases he
  | case5 _ _ _ _ _ _ _ ih => exact ih

theorem writeEach_events (w : Writer) (texts : List (List Char)) :
    ∀ e ∈ (w.writeEach texts).events, IsDelivery e := by
  induction texts generalizing w with
  | nil => intro e he; cases he
  | cons cs more ih =>
      intro e hmem
      rw [writeEach] at hmem
      cases he : (w.writeAll cs).error with
      | some _ =>
          simp only [he] at hmem
          exact writeAll_events w cs e hmem
      | none =>
          simp only [he, List.mem_append] at hmem
          rcases hmem with hmem | hmem
          · exact writeAll_events w cs e hmem
          · exact ih _ e hmem

end Writer

namespace Report

open Writer (IsDelivery)

/-! ### Reports -/

theorem verdictLine_inBounds (offset : UInt64) :
    verdictLine (.inBounds offset)
      = " | data pointer offset = ".toList ++ address offset ++ ['\n'] := rfl

theorem verdictLine_outOfBounds :
    verdictLine .outOfBounds
      = " | Brainfuck code has errors! Data pointer went out of bounds!\n".toList := rfl

theorem verdictLine_ne_nil (v : Verdict) : verdictLine v ≠ [] := by
  cases v with
  | inBounds offset =>
      rw [verdictLine_inBounds]
      exact List.append_ne_nil_of_right_ne_nil _ (List.cons_ne_nil _ _)
  | outOfBounds => decide

theorem ne_nil_of_mem_lines (r : Report) : ∀ cs ∈ r.lines, cs ≠ [] := by
  intro cs hcs
  rw [lines, List.mem_cons, List.mem_cons, List.mem_singleton] at hcs
  rcases hcs with h | h | h
  · rw [h]; exact List.append_ne_nil_of_right_ne_nil _ (List.cons_ne_nil _ _)
  · rw [h]; exact List.append_ne_nil_of_right_ne_nil _ (List.cons_ne_nil _ _)
  · rw [h]; exact verdictLine_ne_nil r.verdict

theorem text_length_pos (r : Report) : 0 < r.text.length := by
  have hfirst := r.ne_nil_of_mem_lines _ List.mem_cons_self
  rw [text, lines, List.flatten_cons, List.length_append]
  exact Nat.add_pos_left (List.length_pos_iff.mpr hfirst) _

/-- A report is one write of its text, and a flush if the text fits. -/
theorem send_eq (r : Report) {w : Writer} (hw : w.Regular) :
    r.send w =
      if w.hasRoom r.text.length then
        ⟨w.absorb r.text, w.flushError, [.flush (w.absorb r.text).kept.length]⟩
      else ⟨w.absorb r.text, some w.limitFailure, [.writeFailed]⟩ := by
  have heach : w.writeEach r.lines = w.writeOnce r.text :=
    Writer.writeEach_eq_writeOnce hw (List.cons_ne_nil _ _) r.ne_nil_of_mem_lines
  unfold send
  rw [heach, Writer.writeOnce]
  cases w.hasRoom r.text.length <;> rfl

/-- No report fits into twenty bytes. -/
theorem send_narrow_error (r : Report) : (r.send Writer.narrow).error = some .brokenPipe := by
  -- the first label alone is longer
  have hlabel : 20 < (" |        memory base  = ".toList).length := by decide
  have hroom : ¬ Writer.narrow.hasRoom r.text.length = true := by
    simp only [Writer.hasRoom, Writer.narrow, text, lines, List.flatten_cons, List.length_append,
      List.length_nil, decide_eq_true_eq]
    omega
  rw [r.send_eq Writer.narrow_regular, if_neg hroom]
  rfl

/-- A regular writer that has no limit and flushes takes every report. -/
theorem send_error_of_unlimited (r : Report) {w : Writer} (hw : w.Regular) (hlimit : w.limit = none)
    (hflush : w.flushError = none) : (r.send w).error = none := by
  have hroom : w.hasRoom r.text.length = true := by rw [Writer.hasRoom, hlimit]
  rw [r.send_eq hw, if_pos hroom]
  exact hflush

/-- A regular writer is either flushed or found full, once. -/
theorem send_events (r : Report) {w : Writer} (hw : w.Regular) :
    (r.send w).events = [.writeFailed]
      ∨ (r.send w).events = [.flush (r.send w).writer.kept.length] := by
  rw [r.send_eq hw]
  cases w.hasRoom r.text.length with
  | true => exact Or.inr rfl
  | false => exact Or.inl rfl

/-- A report that is sent without an error has arrived whole, whatever the writer. -/
theorem send_kept {r : Report} {w : Writer} (h : (r.send w).error = none) :
    (r.send w).writer.kept = w.kept ++ r.text := by
  unfold send at h ⊢
  cases he : (w.writeEach r.lines).error with
  | some e =>
      simp only [he] at h
      cases h
  | none =>
      simp only [he]
      exact Writer.writeEach_kept he

/-- Sending a report causes no events but those of its delivery, whatever the writer. -/
theorem mem_send_events (r : Report) (w : Writer) : ∀ e ∈ (r.send w).events, IsDelivery e := by
  intro e hmem
  unfold send at hmem
  cases he : (w.writeEach r.lines).error with
  | some _ =>
      simp only [he] at hmem
      exact Writer.writeEach_events w r.lines e hmem
  | none =>
      simp only [he, List.mem_append] at hmem
      rcases hmem with hmem | hmem
      · exact Writer.writeEach_events w r.lines e hmem
      · exact Or.inr ⟨_, List.mem_singleton.mp hmem⟩

end Report

end TapeProbe

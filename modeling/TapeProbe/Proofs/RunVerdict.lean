import TapeProbe.Proofs.Course
import TapeProbe.Proofs.Range

/-!
# The verdict of a run

What a run that finishes says is true: where its tape was and how long, what the entry point
returned, and whether that lies on the tape. The report says the same in words, and it has arrived
whole.
-/

namespace TapeProbe

/-! ### The report in words -/

/-- The line about a verdict. -/
def Verdict.line : Verdict → String
  | .inBounds offset => " | data pointer offset = " ++ Numeral.markedHex offset.toNat ++ "\n"
  | .outOfBounds => " | Brainfuck code has errors! Data pointer went out of bounds!\n"

theorem Verdict.line_inBounds (offset : UInt64) :
    Verdict.line (.inBounds offset)
      = " | data pointer offset = " ++ Numeral.markedHex offset.toNat ++ "\n" := rfl

theorem Verdict.line_outOfBounds :
    Verdict.line .outOfBounds
      = " | Brainfuck code has errors! Data pointer went out of bounds!\n" := rfl

/-- The lines of a report about the tape and about the pointer. -/
def Report.heading (base pointer : UInt64) : String :=
  (" |        memory base  = " ++ Numeral.markedHex base.toNat ++ "\n")
    ++ (" |        data pointer = " ++ Numeral.markedHex pointer.toNat ++ "\n")

/-- A report in words: its first two lines, and the one about the verdict. -/
def Report.words (r : Report) : String := Report.heading r.base r.pointer ++ r.verdict.line

theorem Report.toList_markedHex (a : UInt64) :
    (Numeral.markedHex a.toNat).toList = Report.address a := by
  have hmark : "0x".toList = ['0', 'x'] := by decide
  rw [Numeral.markedHex, Numeral.hex, String.toList_append, hmark, String.toList_ofList]
  rfl

/-- A line that ends in an address. -/
theorem Report.toList_line (label : String) (a : UInt64) :
    (label ++ Numeral.markedHex a.toNat ++ "\n").toList
      = label.toList ++ Report.address a ++ ['\n'] := by
  have hend : "\n".toList = ['\n'] := by decide
  rw [String.toList_append, String.toList_append, Report.toList_markedHex, hend]

theorem Verdict.toList_line (v : Verdict) : v.line.toList = Report.verdictLine v := by
  cases v with
  | outOfBounds => rw [Verdict.line_outOfBounds, Report.verdictLine_outOfBounds]
  | inBounds offset =>
      rw [Verdict.line_inBounds, Report.verdictLine_inBounds, Report.toList_line]

/-- The text of a report is the report in words. -/
theorem Report.ofList_text (r : Report) : String.ofList r.text = r.words := by
  -- in variables: matching a pattern against the literals of the report would unfold them
  have hjoin : ∀ {x y z : String} {xs ys zs : List Char},
      x.toList = xs → y.toList = ys → z.toList = zs →
        (x ++ y ++ z).toList = [xs, ys, zs].flatten := by
    rintro x y z _ _ _ rfl rfl rfl
    simp
  have htext : r.words.toList = r.text :=
    hjoin (Report.toList_line _ r.base) (Report.toList_line _ r.pointer) r.verdict.toList_line
  rw [← htext, String.ofList_toList]

/-- The line about a verdict gives an offset exactly for a pointer on the tape. -/
theorem Verdict.line_offset_iff (v : Verdict) :
    (∃ rest, v.line = " | data pointer offset = " ++ rest) ↔ v ≠ .outOfBounds := by
  cases v with
  | inBounds offset =>
      refine ⟨fun _ h => (by cases h), fun _ => ⟨Numeral.markedHex offset.toNat ++ "\n", ?_⟩⟩
      rw [Verdict.line_inBounds, String.append_assoc]
  | outOfBounds =>
      refine ⟨?_, fun h => absurd rfl h⟩
      rintro ⟨rest, h⟩
      -- the two lines differ in their fourth character
      have hleft : (Report.verdictLine .outOfBounds)[3]? = some 'B' := by decide
      have hright : (" | data pointer offset = ".toList ++ rest.toList)[3]? = some 'd' := by
        rw [List.getElem?_append_left (by decide)]
        decide
      rw [← Verdict.toList_line, h, String.toList_append, hright] at hleft
      exact absurd hleft (by decide)

namespace Bench

/-- A report that arrives is appended to what the writer has kept. -/
theorem run_output_of_sent {b : Bench} {sink : Log.Sink} {c : Config} {a : Allocator} {p : Program}
    (h : a.Grants c.tapeSize) {pointer : UInt64}
    (hcall : (p.exec (a.tape c.tapeSize h.possible) a.base).outcome = .returned pointer)
    (hsent : (b.delivery c a pointer).error = none) :
    (b.run sink c a p).bench.writer.output
      = b.writer.output
        ++ Report.words ⟨a.base, pointer, Verdict.check a.base c.tapeSize pointer⟩ := by
  have hkept : (b.delivery c a pointer).writer.kept = _ := Report.send_kept hsent
  rw [run_returned h hcall, Writer.output, hkept, String.ofList_append, Report.ofList_text]
  rfl

/-! ### The verdict -/

/-- **The verdict of a run is sound.** Whatever the configuration, the tape, the entry point and the
writer: a run that finishes tells the base it has called the entry point with, the number of cells,
and the pointer that the entry point returned from there. Its verdict is in bounds with offset `n`
exactly when, in numbers without bound, the pointer is the base plus `n` and `n` is at most the
number of cells. What it has written is the report of just these, all of it, so that the last line
gives an offset exactly for a pointer from the base to one past the last cell. -/
theorem run_verdict_sound (b : Bench) (sink : Log.Sink) (c : Config) (a : Allocator) (p : Program)
    (r : RunReport) (hr : (b.run sink c a p).outcome = .finished r) :
    (r.base = a.base ∧ ∀ x, .call x ∈ (b.run sink c a p).events ↔ x = r.base)
    ∧ r.tapeSize.toNat = max c.requestedSize.toNat 30000
    ∧ (∃ h : r.tapeSize ≤ Tape.maxBlock,
        (p.exec (a.tape r.tapeSize h) r.base).outcome = .returned r.dataPointer)
    ∧ (∀ n : Nat, (∃ offset, r.verdict = .inBounds offset ∧ offset.toNat = n) ↔
        r.base.toNat + n = r.dataPointer.toNat ∧ n ≤ r.tapeSize.toNat)
    ∧ (r.verdict = .outOfBounds ↔
        ¬ ∃ n : Nat, r.base.toNat + n = r.dataPointer.toNat ∧ n ≤ r.tapeSize.toNat)
    ∧ (b.run sink c a p).bench.writer.output
        = b.writer.output ++ Report.words ⟨r.base, r.dataPointer, r.verdict⟩
    ∧ ((∃ rest, r.verdict.line = " | data pointer offset = " ++ rest) ↔
        r.base.toNat ≤ r.dataPointer.toNat
          ∧ r.dataPointer.toNat ≤ r.base.toNat + r.tapeSize.toNat) := by
  obtain ⟨h, pointer, hcall, hsent, rfl⟩ := run_finished_inv hr
  refine ⟨⟨rfl, fun x => ?_⟩, c.tapeSize_toNat, ⟨h.possible, hcall⟩,
    fun n => Verdict.check_offset_iff, Verdict.check_eq_outOfBounds_iff,
    run_output_of_sent h hcall hsent, ?_⟩
  · rw [mem_run_returned h hcall rfl]
    simp
  · rw [Verdict.line_offset_iff, Ne, Verdict.check_eq_outOfBounds_iff, Verdict.exists_offset_iff,
      Decidable.not_not]

/-- The entry point goes off the tape and ends one past the last cell; the writer is interrupted
twice and takes seven bytes in a call. -/
theorem run_verdict_sound_one_past_end :
    (run ⟨{ Writer.narrow with limit := none }, {}⟩ Log.Verbosity.debug.sink {} {}
        [.move (-1), .move 30001]).outcome
      = .finished ⟨0x200000000, 30000, 0x200007530, .inBounds 30000, Stage.all⟩
    ∧ (run ⟨{ Writer.narrow with limit := none }, {}⟩ Log.Verbosity.debug.sink {} {}
        [.move (-1), .move 30001]).bench.writer.output
      = "" ++ Report.words ⟨0x200000000, 0x200007530, .inBounds 30000⟩ := by
  have hgrants : Allocator.Grants {} (Config.tapeSize {}) := by decide
  have hregular : Writer.Regular { Writer.narrow with limit := none } :=
    Writer.narrow_regular.withLimit none
  have hsent :
      (delivery ⟨{ Writer.narrow with limit := none }, {}⟩ {} {} 0x200007530).error = none :=
    Report.send_error_of_unlimited _ hregular rfl rfl
  have hfinished : (run ⟨{ Writer.narrow with limit := none }, {}⟩ Log.Verbosity.debug.sink {} {}
      [.move (-1), .move 30001]).outcome = _ := run_outcome_of_sent hgrants rfl hsent
  obtain ⟨-, -, -, -, -, houtput, -⟩ := run_verdict_sound _ _ _ _ _ _ hfinished
  exact ⟨hfinished, houtput⟩

end Bench

end TapeProbe

import TapeProbe.Proofs.RunVerdict

/-!
# Relocation

Where a tape lies does not matter to an entry point that never names an address. Moving the tape
(`Tape.shift`) moves the cursor along with it, around the end of the address space if need be, and
changes nothing else: `Step.act_shift` for one step, `Program.exec_shift` for a call.

It rests on one fact about words: as long as the end of a tape is an address, whether a pointer is
on the tape is a matter of its distance from the base alone, the distance taken around the end of
the address space (`Tape.index?_of_fits`, `Verdict.check_of_fits`). A cell needs the tape to end at
or before the last address; the pointer one past the last cell needs that pointer to be an address,
too.
-/

namespace TapeProbe

/-! ### Distances from the base -/

/-- A pointer so close to the base that the sum is an address lies behind the base. -/
theorem le_of_distance {base pointer : UInt64}
    (h : base.toNat + (pointer - base).toNat < UInt64.size) : base ≤ pointer := by
  rw [UInt64.le_iff_toNat_le]
  rw [UInt64.toNat_sub, UInt64.size] at h
  have hbase := base.toNat_lt
  have hpointer := pointer.toNat_lt
  omega

theorem Verdict.check_of_fits {base size : UInt64} (h : base.toNat + size.toNat < UInt64.size)
    (pointer : UInt64) :
    check base size pointer =
      if pointer - base ≤ size then .inBounds (pointer - base) else .outOfBounds := by
  unfold check
  by_cases hsize : pointer - base ≤ size
  · have hdistance := UInt64.le_iff_toNat_le.mp hsize
    have hle : base ≤ pointer := le_of_distance (by omega)
    rw [if_pos ⟨hle, hsize⟩, if_pos hsize]
  · rw [if_neg fun hin => hsize hin.2, if_neg hsize]

theorem Verdict.check_shift {base size δ : UInt64} (h : base.toNat + size.toNat < UInt64.size)
    (hshift : (base + δ).toNat + size.toNat < UInt64.size) (pointer : UInt64) :
    check (base + δ) size (pointer + δ) = check base size pointer := by
  have hdistance : pointer + δ - (base + δ) = pointer - base := by grind
  rw [check_of_fits h, check_of_fits hshift, hdistance]

-- a tape that ends with the last address has no pointer one past it
example : Verdict.check 0x200000000 30000 (0x200000000 + 30000) = .inBounds 30000
    ∧ Verdict.check 0xffffffffffff8ad0 30000 (0xffffffffffff8ad0 + 30000) = .outOfBounds := by
  decide

/-! ### Tapes at another address -/

namespace Tape

/-- The tape ends at or before the last address. -/
def Fits (t : Tape) : Prop := t.base.toNat + t.size.toNat ≤ UInt64.size

/-- The same cells `δ` further on. -/
def shift (t : Tape) (δ : UInt64) : Tape := { t with base := t.base + δ }

@[simp] theorem shift_base (t : Tape) (δ : UInt64) : (t.shift δ).base = t.base + δ := rfl

@[simp] theorem shift_size (t : Tape) (δ : UInt64) : (t.shift δ).size = t.size := rfl

theorem zeroed_shift (base size : UInt64) (h : size ≤ maxBlock) (δ : UInt64) :
    (zeroed base size h).shift δ = zeroed (base + δ) size h := rfl

theorem index?_of_fits {t : Tape} (h : t.Fits) (address : UInt64) :
    t.index? address =
      if address - t.base < t.size then some (address - t.base).toNat else none := by
  unfold index?
  unfold Fits at h
  by_cases hsize : address - t.base < t.size
  · have hdistance := UInt64.lt_iff_toNat_lt.mp hsize
    have hle : t.base ≤ address := le_of_distance (by omega)
    rw [if_pos ⟨hle, hsize⟩, if_pos hsize]
  · rw [if_neg fun hin => hsize hin.2, if_neg hsize]

theorem index?_shift {t : Tape} {δ : UInt64} (h : t.Fits) (hshift : (t.shift δ).Fits)
    (cursor : UInt64) : (t.shift δ).index? (cursor + δ) = t.index? cursor := by
  have hdistance : cursor + δ - (t.base + δ) = cursor - t.base := by grind
  rw [index?_of_fits h, index?_of_fits hshift, shift_base, shift_size, hdistance]

theorem access_shift {t : Tape} {δ : UInt64} (h : t.Fits) (hshift : (t.shift δ).Fits)
    (cursor : UInt64) (what : Access) (change : UInt8 → UInt8 × List Event) :
    (t.shift δ).access (cursor + δ) what change =
      ((t.access cursor what change).1.shift δ, (t.access cursor what change).2) := by
  unfold access
  rw [index?_shift h hshift]
  cases t.index? cursor with
  | none => rfl
  | some i => rfl

end Tape

/-! ### Calls at another address -/

/-- Where the step leads on a tape `δ` further on. -/
def Step.Reached.shift (r : Step.Reached) (δ : UInt64) : Step.Reached :=
  ⟨r.tape.shift δ, r.cursor + δ, r.events⟩

/-- How the call ends on a tape `δ` further on. -/
def CallEnd.shift (δ : UInt64) : CallEnd → CallEnd
  | .returned pointer => .returned (pointer + δ)
  | .panicked text => .panicked text

/-- The call on a tape `δ` further on. -/
def Call.shift (c : Call) (δ : UInt64) : Call := ⟨c.tape.shift δ, c.outcome.shift δ, c.events⟩

/-- A program that never names an address. -/
def Program.Relative (p : Program) : Prop := ∀ address, Step.abs address ∉ p

theorem Step.act_shift {s : Step} (hs : ∀ address, s ≠ .abs address) {t : Tape} {δ : UInt64}
    (h : t.Fits) (hshift : (t.shift δ).Fits) (cursor : UInt64) :
    s.act (t.shift δ) (cursor + δ) = (s.act t cursor).shift δ := by
  cases s with
  | move n =>
      have hmove : cursor + δ + UInt64.ofInt n = cursor + UInt64.ofInt n + δ := by grind
      simp only [act, Reached.shift, hmove]
  | abs address => exact absurd rfl (hs address)
  | set v => simp only [act, Reached.shift, Tape.access_shift h hshift]
  | add v => simp only [act, Reached.shift, Tape.access_shift h hshift]
  | get => simp only [act, Reached.shift, Tape.access_shift h hshift]
  | zeros => rfl
  | panic text => rfl

theorem Program.exec_shift {p : Program} (hp : p.Relative) {t : Tape} {δ : UInt64} (h : t.Fits)
    (hshift : (t.shift δ).Fits) (cursor : UInt64) :
    p.exec (t.shift δ) (cursor + δ) = (p.exec t cursor).shift δ := by
  induction p, t, cursor using exec_induction with
  | nil t cursor => rfl
  | panic text p t cursor => rfl
  | step s p t cursor hs ih =>
      have hstep : ∀ address, s ≠ .abs address := fun address heq => hp address (by simp [heq])
      have hrest : Relative p := fun address hmem => hp address (List.mem_cons_of_mem s hmem)
      -- a step leaves base and size, so the tapes still fit
      have hfits : (s.act t cursor).tape.Fits := by
        unfold Tape.Fits
        rwa [s.act_base, s.act_size]
      have hfits' : ((s.act t cursor).tape.shift δ).Fits := by
        unfold Tape.Fits
        rwa [Tape.shift_base, Tape.shift_size, s.act_base, s.act_size]
      rw [exec_cons hs, exec_cons hs, Step.act_shift hstep h hshift]
      simp only [Step.Reached.shift, ih hrest hfits hfits']
      rfl

/-! ### What an entry point does itself -/

instance : DecidablePred Event.IsOwn
  | .nonzero _ | .cell _ | .skip _ => isTrue trivial
  | .alloc _ | .refuse _ | .release _ | .call _ | .writeFailed | .flush _ | .trap | .log _ =>
    isFalse id

/-- The events that the entry point causes itself. -/
def ownEvents (es : List Event) : List Event := es.filter fun e => decide e.IsOwn

@[simp] theorem ownEvents_append (es fs : List Event) :
    ownEvents (es ++ fs) = ownEvents es ++ ownEvents fs := List.filter_append ..

@[simp] theorem ownEvents_exec (p : Program) (t : Tape) (cursor : UInt64) :
    ownEvents (p.exec t cursor).events = (p.exec t cursor).events :=
  List.filter_eq_self.mpr fun e he => decide_eq_true (p.exec_events t cursor e he)

theorem ownEvents_eq_nil {es : List Event} (h : ∀ e ∈ es, ¬ e.IsOwn) : ownEvents es = [] :=
  List.filter_eq_nil_iff.mpr fun e he hown => h e he (of_decide_eq_true hown)

theorem ownEvents_send (r : Report) (w : Writer) : ownEvents (r.send w).events = [] := by
  refine ownEvents_eq_nil fun e he hown => ?_
  obtain rfl | ⟨n, rfl⟩ := r.mem_send_events w e he
  · exact hown
  · exact hown

/-- What an entry point does itself are effects. -/
theorem ownEvents_effects (es : List Event) : ownEvents (effects es) = ownEvents es := by
  unfold ownEvents effects
  rw [List.filter_filter]
  refine List.filter_congr fun e _ => ?_
  cases e with
  | log m => rfl
  | _ => simp [Event.isEffect]

namespace Bench

variable {b : Bench} {sink : Log.Sink} {c : Config} {a : Allocator} {p : Program}

theorem ownEvents_run_refused (h : ¬ a.Grants c.tapeSize) :
    ownEvents (b.run sink c a p).events = [] := by
  rw [← ownEvents_effects, effects_run_refused h, Allocator.refusal]
  split <;> rfl

theorem ownEvents_run_panicked (h : a.Grants c.tapeSize) {text : String}
    (hcall : (p.exec (a.tape c.tapeSize h.possible) a.base).outcome = .panicked text) :
    ownEvents (b.run sink c a p).events
      = (p.exec (a.tape c.tapeSize h.possible) a.base).events := by
  have hmade : ownEvents [.alloc c.tapeSize, .call a.base] = [] := rfl
  have hgone : ownEvents [.release c.tapeSize] = [] := rfl
  rw [← ownEvents_effects, effects_run_panicked h hcall]
  simp only [ownEvents_append, ownEvents_exec, hmade, hgone, List.nil_append, List.append_nil]

theorem ownEvents_run_returned (h : a.Grants c.tapeSize) {pointer : UInt64}
    (hcall : (p.exec (a.tape c.tapeSize h.possible) a.base).outcome = .returned pointer) :
    ownEvents (b.run sink c a p).events
      = (p.exec (a.tape c.tapeSize h.possible) a.base).events := by
  have hmade : ownEvents [.alloc c.tapeSize, .call a.base] = [] := rfl
  have hsent : ownEvents (b.delivery c a pointer).events = [] := ownEvents_send _ _
  have hgone : ownEvents [.trap, .release c.tapeSize] = [] := rfl
  rw [← ownEvents_effects, effects_run_returned h hcall]
  simp only [ownEvents_append, ownEvents_exec, hmade, hsent, hgone, List.nil_append,
    List.append_nil]

/-! ### Runs at two addresses -/

/-- The calls of one program with two tapes of a size, made by two allocators. -/
theorem exec_relocated {a₁ a₂ : Allocator} (hp : p.Relative) {size : UInt64}
    (h : size ≤ Tape.maxBlock) (hfit₁ : a₁.base.toNat + size.toNat ≤ UInt64.size)
    (hfit₂ : a₂.base.toNat + size.toNat ≤ UInt64.size) :
    p.exec (a₂.tape size h) a₂.base
      = (p.exec (a₁.tape size h) a₁.base).shift (a₂.base - a₁.base) := by
  have hbase : a₁.base + (a₂.base - a₁.base) = a₂.base := by grind
  have htape : a₂.tape size h = (a₁.tape size h).shift (a₂.base - a₁.base) := by
    rw [a₁.tape_eq_zeroed, a₂.tape_eq_zeroed, Tape.zeroed_shift, hbase]
  have hfits : (a₁.tape size h).Fits := by rwa [Tape.Fits, Allocator.tape_base, Allocator.tape_size]
  have hfits' : ((a₁.tape size h).shift (a₂.base - a₁.base)).Fits := by
    rwa [← htape, Tape.Fits, Allocator.tape_base, Allocator.tape_size]
  have hshift := Program.exec_shift hp hfits hfits' a₁.base
  rwa [hbase, ← htape] at hshift

/-- **Where the tape lies does not matter.** Two runs of an entry point that never names an address,
with allocators that go equally far but put the tape at two addresses, the pointer one past the tape
being an address for both, and with a writer that takes everything:

* both finish, or both fail with the same failure, or both break off with the same text;
* when they finish, they tell the same size, the same verdict and the same stages, their pointers
  are as far apart as their bases, and of the lines they have written the last is the same;
* attention has been requested equally often, and the entry point has done the same. -/
theorem run_relocation (b : Bench) (sink : Log.Sink) (c : Config) (a₁ a₂ : Allocator) (p : Program)
    (hp : p.Relative) (hlimit : a₁.limit = a₂.limit)
    (hfit₁ : a₁.base.toNat + c.tapeSize.toNat < UInt64.size)
    (hfit₂ : a₂.base.toNat + c.tapeSize.toNat < UInt64.size)
    (hw : b.writer.Regular) (hopen : b.writer.limit = none) (hflush : b.writer.flushError = none) :
    ((∃ r₁ r₂, (b.run sink c a₁ p).outcome = .finished r₁
        ∧ (b.run sink c a₂ p).outcome = .finished r₂
        ∧ r₁.tapeSize = r₂.tapeSize ∧ r₁.verdict = r₂.verdict ∧ r₁.stages = r₂.stages
        ∧ r₂.dataPointer - r₁.dataPointer = a₂.base - a₁.base
        ∧ ∃ line,
          (b.run sink c a₁ p).bench.writer.output
            = b.writer.output ++ (Report.heading a₁.base r₁.dataPointer ++ line)
          ∧ (b.run sink c a₂ p).bench.writer.output
            = b.writer.output ++ (Report.heading a₂.base r₂.dataPointer ++ line))
      ∨ (∃ f, (b.run sink c a₁ p).outcome = .failed f ∧ (b.run sink c a₂ p).outcome = .failed f)
      ∨ ∃ text, (b.run sink c a₁ p).outcome = .panicked text
          ∧ (b.run sink c a₂ p).outcome = .panicked text)
    ∧ (b.run sink c a₁ p).bench.trap = (b.run sink c a₂ p).bench.trap
    ∧ ownEvents (b.run sink c a₁ p).events = ownEvents (b.run sink c a₂ p).events := by
  by_cases h₁ : a₁.Grants c.tapeSize
  · have h₂ : a₂.Grants c.tapeSize := ⟨h₁.possible, hlimit ▸ h₁.within⟩
    have hexec := exec_relocated hp h₁.possible hfit₁.le hfit₂.le
    have hown := congrArg Call.events hexec
    have hend := congrArg Call.outcome hexec
    cases hcall₁ : (p.exec (a₁.tape c.tapeSize h₁.possible) a₁.base).outcome with
    | panicked text =>
        have hcall₂ : (p.exec (a₂.tape c.tapeSize h₂.possible) a₂.base).outcome
            = .panicked text := by
          rw [hend, Call.shift, hcall₁]
          rfl
        refine ⟨Or.inr (Or.inr ⟨text, ?_, ?_⟩), ?_, ?_⟩
        · rw [run_panicked h₁ hcall₁]
        · rw [run_panicked h₂ hcall₂]
        · rw [run_panicked h₁ hcall₁, run_panicked h₂ hcall₂]
        · rw [ownEvents_run_panicked h₁ hcall₁, ownEvents_run_panicked h₂ hcall₂]
          exact hown.symm
    | returned pointer =>
        have hcall₂ : (p.exec (a₂.tape c.tapeSize h₂.possible) a₂.base).outcome
            = .returned (pointer + (a₂.base - a₁.base)) := by
          rw [hend, Call.shift, hcall₁]
          rfl
        have hsent₁ : (b.delivery c a₁ pointer).error = none :=
          Report.send_error_of_unlimited _ hw hopen hflush
        have hsent₂ : (b.delivery c a₂ (pointer + (a₂.base - a₁.base))).error = none :=
          Report.send_error_of_unlimited _ hw hopen hflush
        have hverdict : Verdict.check a₂.base c.tapeSize (pointer + (a₂.base - a₁.base))
            = Verdict.check a₁.base c.tapeSize pointer := by
          have hbase : a₂.base = a₁.base + (a₂.base - a₁.base) := by grind
          rw [hbase] at hfit₂
          rw [← Verdict.check_shift hfit₁ hfit₂, ← hbase]
        refine ⟨Or.inl ⟨_, _, run_outcome_of_sent h₁ hcall₁ hsent₁,
          run_outcome_of_sent h₂ hcall₂ hsent₂, rfl, hverdict.symm, rfl, ?_,
          (Verdict.check a₁.base c.tapeSize pointer).line, ?_, ?_⟩, ?_, ?_⟩
        · grind
        · rw [run_output_of_sent h₁ hcall₁ hsent₁]
          rfl
        · rw [run_output_of_sent h₂ hcall₂ hsent₂, hverdict]
          rfl
        · rw [run_returned h₁ hcall₁, run_returned h₂ hcall₂]
        · rw [ownEvents_run_returned h₁ hcall₁, ownEvents_run_returned h₂ hcall₂]
          exact hown.symm
  · have h₂ : ¬ a₂.Grants c.tapeSize := fun h => h₁ ⟨h.possible, hlimit ▸ h.within⟩
    refine ⟨Or.inr (Or.inl ⟨.resourceExhaustion c.tapeSize, ?_, ?_⟩), ?_, ?_⟩
    · rw [run_refused h₁]
    · rw [run_refused h₂]
    · rw [run_refused h₁, run_refused h₂]
    · rw [ownEvents_run_refused h₁, ownEvents_run_refused h₂]

/-- The cursor goes below the base, which at the lowest address takes it around the end of the
address space, and comes back to one past the tape. -/
theorem run_relocation_around_zero :
    ∃ r, (run ⟨{ Writer.narrow with limit := none }, {}⟩ Log.Verbosity.debug.sink {} { base := 0 }
          [.move (-1), .set 7, .move 30001]).outcome = .finished r
      ∧ r.verdict = .inBounds 30000 ∧ r.dataPointer = 30000 := by
  have hrelative : Program.Relative [.move (-1), .set 7, .move 30001] := by
    simp [Program.Relative]
  have hregular : Writer.Regular { Writer.narrow with limit := none } :=
    Writer.narrow_regular.withLimit none
  have hgrants : Allocator.Grants {} (Config.tapeSize {}) := by decide
  have hsent :
      (delivery ⟨{ Writer.narrow with limit := none }, {}⟩ {} {} 0x200007530).error = none :=
    Report.send_error_of_unlimited _ hregular rfl rfl
  have hmiddle : (run ⟨{ Writer.narrow with limit := none }, {}⟩ Log.Verbosity.debug.sink {} {}
      [.move (-1), .set 7, .move 30001]).outcome
        = .finished ⟨0x200000000, 30000, 0x200007530, .inBounds 30000, Stage.all⟩ :=
    run_outcome_of_sent hgrants rfl hsent
  obtain ⟨⟨r₁, r₂, hr₁, hr₂, -, hverdict, -, hpointer, -⟩ | ⟨f, hf, -⟩ | ⟨text, htext, -⟩, -, -⟩ :=
    run_relocation ⟨{ Writer.narrow with limit := none }, {}⟩ Log.Verbosity.debug.sink {} {}
      { base := 0 } _ hrelative rfl (by decide) (by decide) hregular rfl rfl
  · rw [hmiddle] at hr₁
    cases hr₁
    exact ⟨r₂, hr₂, hverdict.symm, by grind⟩
  · rw [hmiddle] at hf
    cases hf
  · rw [hmiddle] at htext
    cases htext

end Bench

end TapeProbe

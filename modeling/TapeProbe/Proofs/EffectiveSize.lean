import TapeProbe.Proofs.Course
import TapeProbe.Proofs.Decoding

/-!
# What a run takes from its configuration

The size to ask for may be given many times: by the document, and by calls that follow it. The last
time counts (`Config.requestedSize_eq_finalSize`). What a run makes of it is the size of the tape,
which is never below the least one. So runs whose sizes come to the same are the same, in result,
output, requests for attention and trace (`Bench.same_run_of_same_size`). One record tells them
apart, if it is kept: the record of the new tape says how much was asked for.

The reason is a cut through the run. From the moment when the tape is there nothing reads the
configuration any more (`Bench.courseOn`), and before it there is the allocator with its answer.
-/

namespace TapeProbe

/-! ### The size that is asked for -/

/-- The size that an entry gives. -/
def Toml.Entry.size? (e : Toml.Entry) : Option Nat :=
  if e.key.name = "requested_size" then
    match e.value with
    | .integer i => some i.toNat
    | _ => none
  else none

namespace Config

/-- The configuration after some calls that give another size to ask for. -/
def withRequestedSizes (c : Config) (sizes : List UInt64) : Config :=
  sizes.foldl withRequestedSize c

/-- The sizes that a text gives, and after it some calls. -/
def sizesGiven (text : String) (sizes : List UInt64) : List Nat :=
  ((Toml.document text.toList).getD []).filterMap Toml.Entry.size? ++ sizes.map UInt64.toNat

/-- The last size that is given, or else 30000. -/
def finalSize (text : String) (sizes : List UInt64) : Nat := (sizesGiven text sizes).getLastD 30000

theorem set_requestedSize {c c' : Config} {e : Toml.Entry} (he : e.value.Bounded)
    (h : c.set e = .ok c') : c'.requestedSize.toNat = e.size?.getD c.requestedSize.toNat := by
  unfold set at h
  split at h
  · cases h
  · next hfield =>
    split at h
    · next i hvalue =>
      have hname : e.key.name = "requested_size" := Field.ofName?_eq_some_iff.mp hfield
      have hsize : e.size? = some i.toNat := by
        rw [Toml.Entry.size?, if_pos hname, hvalue]
      rw [hvalue] at he
      have hi : i < 0x8000000000000000 := he
      split at h
      · cases h
      · cases h
        rw [hsize, UInt64.toNat_ofNat', Option.getD_some]
        omega
    · cases h
  · next hfield =>
    have hother : e.key.name ≠ "requested_size" := by
      rw [Field.ofName?_eq_some_iff.mp hfield]
      decide
    rw [Toml.Entry.size?, if_neg hother]
    split at h
    · cases h
      rfl
    · cases h

theorem setAll_requestedSize {c c' : Config} {es : List Toml.Entry}
    (hes : ∀ e ∈ es, e.value.Bounded) (h : c.setAll es = .ok c') :
    c'.requestedSize.toNat
      = (es.filterMap Toml.Entry.size?).getLastD c.requestedSize.toNat := by
  induction es generalizing c with
  | nil =>
      cases h
      rfl
  | cons e es ih =>
      unfold setAll at h
      split at h
      · next c₁ hset =>
        have hfirst := set_requestedSize (hes e List.mem_cons_self) hset
        rw [ih (fun f hf => hes f (List.mem_cons_of_mem e hf)) h, hfirst]
        cases hsize : e.size? with
        | none => rw [List.filterMap_cons_none hsize, Option.getD_none]
        | some n => rw [List.filterMap_cons_some hsize, Option.getD_some, List.getLastD_cons]
      · cases h

theorem withRequestedSizes_requestedSize (c : Config) (sizes : List UInt64) :
    (c.withRequestedSizes sizes).requestedSize.toNat
      = (sizes.map UInt64.toNat).getLastD c.requestedSize.toNat := by
  induction sizes generalizing c with
  | nil => rfl
  | cons n sizes ih =>
      rw [List.map_cons, List.getLastD_cons]
      exact ih (c.withRequestedSize n)

/-- A configuration asks for the last size that it was given. -/
theorem requestedSize_eq_finalSize {text : String} {c : Config} (h : ofText text = .ok c)
    (sizes : List UInt64) :
    (c.withRequestedSizes sizes).requestedSize.toNat = finalSize text sizes := by
  unfold ofText ofDocument at h
  split at h
  · cases h
  · next es hes =>
    split at h
    · next c' hset =>
      cases h
      rw [withRequestedSizes_requestedSize,
        setAll_requestedSize (Toml.document_bounded hes) hset, finalSize, sizesGiven, hes]
      simp only [List.getLastD_eq_getLast?, List.getLast?_append, Option.getD_some,
        Option.getD_or]
      rfl
    · cases h

end Config

/-! ### Records of new tapes -/

/-- The record of a new tape. -/
def Event.isProvisioning : Event → Bool
  | .log (.provisioned ..) => true
  | _ => false

/-- The records of new tapes in a trace. -/
def provisionings (es : List Event) : List Event := es.filter Event.isProvisioning

@[simp] theorem provisionings_append (es fs : List Event) :
    provisionings (es ++ fs) = provisionings es ++ provisionings fs := List.filter_append ..

@[simp] theorem provisionings_cons (e : Event) (es : List Event) :
    provisionings (e :: es)
      = if e.isProvisioning then e :: provisionings es else provisionings es :=
  List.filter_cons

theorem provisionings_of_isEffect {es : List Event} (h : ∀ e ∈ es, e.isEffect = true) :
    provisionings es = [] := by
  refine List.filter_eq_nil_iff.mpr fun e he => ?_
  have heffect := h e he
  cases e with
  | log m => cases heffect
  | _ => exact Bool.false_ne_true

@[simp] theorem provisionings_emit (sink : Log.Sink) (m : Log.Message) :
    provisionings (sink.emit m) = if (Event.log m).isProvisioning then sink.emit m else [] := by
  unfold Log.Sink.emit provisionings
  cases sink m with
  | true => exact List.filter_cons
  | false => simp

@[simp] theorem provisionings_exec (p : Program) (t : Tape) (cursor : UInt64) :
    provisionings (p.exec t cursor).events = [] :=
  provisionings_of_isEffect fun e he => isEffect_of_isOwn (p.exec_events t cursor e he)

@[simp] theorem provisionings_send (r : Report) (w : Writer) :
    provisionings (r.send w).events = [] :=
  provisionings_of_isEffect fun e he => isEffect_of_isDelivery (r.mem_send_events w e he)

@[simp] theorem provisionings_warning (v : Verdict) (sink : Log.Sink) (t : Tape)
    (pointer : UInt64) : provisionings (v.warning sink t pointer) = [] := by
  cases v with
  | inBounds offset => rfl
  | outOfBounds => exact provisionings_emit sink _

@[simp] theorem provisionings_complaint (written : Writer.Written) (sink : Log.Sink) :
    provisionings (written.complaint sink) = [] := by
  unfold Writer.Written.complaint
  cases written.error with
  | none => rfl
  | some e => exact provisionings_emit sink _

@[simp] theorem provisionings_request (t : Trap) (sink : Log.Sink) :
    provisionings (t.request sink).2 = [] := by
  unfold Trap.request
  cases t.kind with
  | counting => rfl
  | breakpoint => simp [Event.isProvisioning]

@[simp] theorem provisionings_refusal (size : UInt64) :
    provisionings (Allocator.refusal size) = [] := by
  unfold Allocator.refusal
  split <;> rfl

@[simp] theorem provisionings_invoke (t : Tape) (sink : Log.Sink) (p : Program) :
    provisionings (t.invoke sink p).events = [] := by
  cases hcall : (p.exec t t.base).outcome with
  | returned pointer =>
      rw [Tape.invoke_returned sink hcall]
      simp [Event.isProvisioning]
  | panicked text =>
      rw [Tape.invoke_panicked sink hcall]
      simp [Event.isProvisioning]

namespace Bench

/-! ### From the tape on -/

variable {b : Bench} {sink : Log.Sink} {c : Config} {a : Allocator} {p : Program}

/-- A run asks for its tape, records it, and goes on with it alone. -/
theorem run_eq_courseOn {size : UInt64} (hsize : c.tapeSize = size) (h : a.Grants size) :
    b.run sink c a p =
      { (b.courseOn sink (a.tape size h.possible) p).run with
        events := [.alloc size] ++ sink.emit (.provisioned a.base size c.requestedSize)
          ++ (b.courseOn sink (a.tape size h.possible) p).run.events } := by
  subst hsize
  unfold run course
  rw [provision_tapeSize h]
  exact Course.run_after ..

theorem provisionings_conclude (b : Bench) (sink : Log.Sink) (walk : Walk) (tape : Tape)
    (pointer : UInt64) : provisionings (b.conclude sink walk tape pointer).run.events = [] := by
  simp [conclude, Course.run, Course.phases, Walk.advance, Event.isProvisioning]

/-- The tape is recorded before it is used, and not again. -/
theorem provisionings_courseOn (b : Bench) (sink : Log.Sink) (tape : Tape) (p : Program) :
    provisionings (b.courseOn sink tape p).run.events = [] := by
  have hcalled : provisionings (({} : Walk).advance sink .provisioned).2 = [] := by
    simp [Walk.advance, Event.isProvisioning]
  unfold courseOn
  rw [Course.run_after, provisionings_append, provisionings_append, hcalled, provisionings_invoke]
  cases (tape.invoke sink p).outcome with
  | panicked text => rfl
  | returned pointer => exact b.provisionings_conclude sink _ _ pointer

/-! ### Runs with the same tape -/

/-- Two runs that differ at most in the record of the tape: the one says that `m` bytes were asked
for, the other says `n`. -/
structure SameButRequest (x y : Run) (base size m n : UInt64) : Prop where
  /-- The runs end the same way. -/
  outcome : x.outcome = y.outcome
  /-- They leave the same output and the same number of requests for attention. -/
  bench : x.bench = y.bench
  /-- There is no such record, or one. -/
  trace : (x.events = y.events ∧ provisionings x.events = [])
    ∨ ∃ before after : List Event,
        x.events = before ++ .log (.provisioned base size m) :: after
        ∧ y.events = before ++ .log (.provisioned base size n) :: after
        ∧ provisionings before = [] ∧ provisionings after = []

/-- Configurations that lead to the same size of the tape are not told apart, where the log does not
look at the size that was asked for. -/
theorem sameButRequest_of_tapeSize {c₁ c₂ : Config} (hsize : c₁.tapeSize = c₂.tapeSize)
    (hsink : sink (.provisioned a.base c₁.tapeSize c₁.requestedSize)
      = sink (.provisioned a.base c₁.tapeSize c₂.requestedSize)) :
    SameButRequest (b.run sink c₁ a p) (b.run sink c₂ a p) a.base c₁.tapeSize c₁.requestedSize
      c₂.requestedSize := by
  by_cases h : a.Grants c₁.tapeSize
  · rw [run_eq_courseOn rfl h, run_eq_courseOn hsize.symm h]
    have hrest := b.provisionings_courseOn sink (a.tape c₁.tapeSize h.possible) p
    refine ⟨rfl, rfl, ?_⟩
    unfold Log.Sink.emit
    rw [← hsink]
    cases sink (.provisioned a.base c₁.tapeSize c₁.requestedSize) with
    | true => exact Or.inr ⟨[.alloc c₁.tapeSize], _, rfl, rfl, rfl, hrest⟩
    | false => exact Or.inl ⟨rfl, hrest⟩
  · have h' : ¬ a.Grants c₂.tapeSize := hsize ▸ h
    rw [run_refused h, run_refused h', hsize]
    exact ⟨rfl, rfl, Or.inl ⟨rfl, by simp [Event.isProvisioning]⟩⟩

/-- The record of a tape in words. -/
theorem text_provisioned (base size requested : UInt64) :
    (Event.log (.provisioned base size requested)).text
      = "log DEBUG tape_harness::tape: "
        ++ ("provisioned tape base=" ++ Numeral.markedHex base.toNat ++ " size="
          ++ Numeral.markedHex size.toNat ++ " (requested " ++ Numeral.markedHex requested.toNat
          ++ ")") := by
  have hhead : "log " ++ Log.Level.debug.name ++ " " ++ Log.Component.tape.target ++ ": "
      = "log DEBUG tape_harness::tape: " := by decide +kernel
  exact congrArg (· ++ _) hhead

/-- **A run takes nothing from its configuration but the size of its tape.** Take two documents that
give configurations, each followed by calls that give other sizes to ask for, such that the last
sizes given come to the same once the least size of a tape is set against them. The log filters may
be any. Then on the same bench, with the same allocator, entry point and level of the log, the runs
end the same way, leave the same output and the same number of requests, and have the same trace up
to one record of the new tape, in which only the words on the size that was asked for differ. -/
theorem same_run_of_same_size {text₁ text₂ : String} {c₁ c₂ : Config}
    (h₁ : Config.ofText text₁ = .ok c₁) (h₂ : Config.ofText text₂ = .ok c₂)
    (sizes₁ sizes₂ : List UInt64)
    (hsize : max (Config.finalSize text₁ sizes₁) 30000
      = max (Config.finalSize text₂ sizes₂) 30000)
    (b : Bench) (v : Log.Verbosity) (a : Allocator) (p : Program) :
    ∃ size m n : UInt64,
      size.toNat = max (Config.finalSize text₁ sizes₁) 30000
      ∧ m.toNat = Config.finalSize text₁ sizes₁ ∧ n.toNat = Config.finalSize text₂ sizes₂
      ∧ SameButRequest (b.run v.sink (c₁.withRequestedSizes sizes₁) a p)
          (b.run v.sink (c₂.withRequestedSizes sizes₂) a p) a.base size m n
      ∧ ∀ requested : UInt64, (Event.log (.provisioned a.base size requested)).text
          = "log DEBUG tape_harness::tape: "
            ++ ("provisioned tape base=" ++ Numeral.markedHex a.base.toNat ++ " size="
              ++ Numeral.markedHex size.toNat ++ " (requested "
              ++ Numeral.markedHex requested.toNat ++ ")") := by
  have hm := Config.requestedSize_eq_finalSize h₁ sizes₁
  have hn := Config.requestedSize_eq_finalSize h₂ sizes₂
  have htape : (c₁.withRequestedSizes sizes₁).tapeSize
      = (c₂.withRequestedSizes sizes₂).tapeSize := by
    apply UInt64.toNat_inj.mp
    rw [Config.tapeSize_toNat, Config.tapeSize_toNat, hm, hn, hsize]
  refine ⟨_, _, _, ?_, hm, hn, sameButRequest_of_tapeSize htape rfl, text_provisioned a.base _⟩
  rw [Config.tapeSize_toNat, hm]

/-- Seven bytes in a document that turns the log off, and no bytes after a first call that asked for
fifty thousand: both come to the least tape, from which the entry point runs off. -/
theorem same_run_of_same_size_least :
    ∃ text : String,
      Config.ofText text = .ok ⟨7, "off"⟩ ∧ Config.ofText "" = .ok {}
      ∧ Config.finalSize text [] = 7 ∧ Config.finalSize "" [50000, 0] = 0
      ∧ SameButRequest
          (run {} Log.Verbosity.debug.sink ⟨7, "off"⟩ {} [.move 30001])
          (run {} Log.Verbosity.debug.sink ⟨0, "warn"⟩ {} [.move 30001]) 0x200000000 30000 7 0 := by
  have hspelled : Toml.Spelled "off".toList (Toml.escaped "off".toList) := Toml.spelled_escaped _
  have hfeed : "\n" ∈ Config.lineEnds := by decide
  have h₁ := (Config.ofText_lines (n := 7) (by decide) hspelled hfeed (Or.inl rfl)).1
  have h₂ : Config.ofText "" = .ok {} := rfl
  have hseven := (Config.requestedSize_eq_finalSize h₁ []).symm
  have hnone := (Config.requestedSize_eq_finalSize h₂ [50000, 0]).symm
  refine ⟨_, h₁, h₂, hseven, hnone, ?_⟩
  obtain ⟨size, m, n, hsize, hm, hn, hsame, -⟩ :=
    same_run_of_same_size h₁ h₂ [] [50000, 0] (by rw [hseven, hnone]; rfl) {} .debug {}
      [.move 30001]
  obtain rfl : size = 30000 := UInt64.toNat_inj.mp (hsize.trans (by rw [hseven]; rfl))
  obtain rfl : m = 7 := UInt64.toNat_inj.mp (hm.trans hseven)
  obtain rfl : n = 0 := UInt64.toNat_inj.mp (hn.trans hnone)
  exact hsame

end Bench

end TapeProbe

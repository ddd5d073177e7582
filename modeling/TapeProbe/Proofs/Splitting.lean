import TapeProbe.Proofs.Delivery

/-!
# How a report is split

Between a report and its writer there is a loop of calls. Each call is given what is left of a piece
of the text; it may be interrupted, take some bytes or none, or fail. The loop is told here call by
call (`Writer.Sends`), for a text that comes in any pieces. It has an end for every writer that makes
progress, after at most one call for each interruption, one for each byte, and one more
(`Writer.exists_sends`). What it ends with depends on the text and not on its pieces, on the limit and
not on the chunks or the interruptions (`Writer.Sends.eq_settled`).
-/

namespace TapeProbe

namespace Writer

/-! ### One call after another -/

/-- What a call comes to. -/
inductive Reply where
  /-- So many bytes were taken. -/
  | took (n : Nat)
  /-- The call is to be made again. -/
  | interrupted
  /-- The call has failed. -/
  | failed (error : IoError)
  deriving DecidableEq, Repr

/-- Why no call follows, if none does: this one has failed, or nothing was taken. -/
def Reply.error? : Reply → Option IoError
  | .took 0 => some .wholeBuffer
  | .took (_ + 1) => none
  | .interrupted => none
  | .failed e => some e

theorem Reply.error?_took {k : Nat} (hk : 0 < k) : (Reply.took k).error? = none := by
  cases k with
  | zero => exact absurd hk (Nat.lt_irrefl 0)
  | succ k => rfl

/-- A call that was made. -/
structure Called where
  /-- What it came to. -/
  reply : Reply
  /-- The writer afterwards. -/
  writer : Writer
  /-- What happened. -/
  events : List Event

/-- What a full writer replies. -/
def fullReply (w : Writer) : Reply :=
  match w.limitError with
  | none => .took 0
  | some e => if e.isInterruption then .interrupted else .failed e

/-- One call with these bytes. -/
def call (w : Writer) (cs : List Char) : Called :=
  if 0 < w.interrupts then ⟨.interrupted, { w with interrupts := w.interrupts - 1 }, []⟩
  else if w.isFull then ⟨w.fullReply, w, [.writeFailed]⟩
  else ⟨.took (w.takes cs.length), w.keep (cs.take (w.takes cs.length)), []⟩

/-- What became of a text, with something that happened before. -/
def Written.after (es : List Event) (out : Written) : Written :=
  { out with events := es ++ out.events }

/-- The pieces of a text are sent one after another, and then the writer is flushed: `out` is what
becomes of it, in so many calls. An interrupted call is made again; one that takes some of the bytes
is followed by a call with the others. One that takes nothing, or fails, is the last. -/
inductive Sends : Writer → List (List Char) → Written → Nat → Prop where
  | flush (w : Writer) : Sends w [] w.flush 0
  | skip {w : Writer} {more : List (List Char)} {out : Written} {n : Nat}
    (rest : Sends w more out n) : Sends w ([] :: more) out n
  | again {w : Writer} {cs : List Char} {more : List (List Char)} {out : Written} {n : Nat}
    (hcs : cs ≠ []) (hreply : (w.call cs).reply = .interrupted)
    (rest : Sends (w.call cs).writer (cs :: more) out n) :
    Sends w (cs :: more) (out.after (w.call cs).events) (n + 1)
  | took {w : Writer} {cs : List Char} {more : List (List Char)} {out : Written} {k n : Nat}
    (hcs : cs ≠ []) (hreply : (w.call cs).reply = .took k) (hk : 0 < k)
    (rest : Sends (w.call cs).writer (cs.drop k :: more) out n) :
    Sends w (cs :: more) (out.after (w.call cs).events) (n + 1)
  | last {w : Writer} {cs : List Char} {more : List (List Char)} {e : IoError} (hcs : cs ≠ [])
    (hreply : (w.call cs).reply.error? = some e) :
    Sends w (cs :: more) ⟨(w.call cs).writer, some e, (w.call cs).events⟩ 1

variable {w : Writer} {cs : List Char}

/-- A full writer that makes progress does not ask for another call. -/
theorem error?_fullReply (hw : w.Regular) : w.fullReply.error? = some w.limitFailure := by
  unfold fullReply limitFailure
  cases h : w.limitError with
  | none => rfl
  | some e =>
      have hlasts : e.isInterruption = false := hw.limitError_lasts e h
      simp only [hlasts]
      rfl

theorem error?_ne_none_of_fullReply (hw : w.Regular) {reply : Reply} (h : w.fullReply = reply) :
    reply.error? ≠ none := by
  rw [← h, error?_fullReply hw]
  exact Option.some_ne_none _

/-- What a call does to a writer that makes progress: it is interrupted and there is one interruption
less, it takes bytes that there is room for, or the writer is full and stays as it is. -/
theorem call_cases (hw : w.Regular) (hcs : cs ≠ []) :
    (0 < w.interrupts
      ∧ w.call cs = ⟨.interrupted, { w with interrupts := w.interrupts - 1 }, []⟩)
    ∨ (∃ k, 0 < k ∧ k ≤ cs.length ∧ w.hasRoom k = true
      ∧ w.call cs = ⟨.took k, w.absorb (cs.take k), []⟩)
    ∨ (w.interrupts = 0 ∧ w.isFull = true ∧ w.call cs = ⟨w.fullReply, w, [.writeFailed]⟩) := by
  by_cases hi : 0 < w.interrupts
  · exact Or.inl ⟨hi, if_pos hi⟩
  have hzero : w.interrupts = 0 := by omega
  cases hfull : w.isFull with
  | true => exact Or.inr (Or.inr ⟨hzero, rfl, by rw [call, if_neg hi, if_pos hfull]⟩)
  | false =>
      obtain ⟨hpos, hle, hroom⟩ := takes_spec hw hfull (List.length_pos_iff.mpr hcs)
      have htaken : w.hasRoom (cs.take (w.takes cs.length)).length = true := by
        rw [List.length_take, Nat.min_eq_left hle]
        exact hroom
      refine Or.inr (Or.inl ⟨w.takes cs.length, hpos, hle, hroom, ?_⟩)
      rw [call, if_neg hi, hfull, keep_eq_absorb hzero htaken]
      rfl

/-- The loop has an end: a call either uses up an interruption, or takes a byte, or is the last. -/
theorem exists_sends {w : Writer} (hw : w.Regular) (pieces : List (List Char)) :
    ∃ out n, w.Sends pieces out n ∧ n ≤ w.interrupts + pieces.flatten.length + 1 := by
  match pieces with
  | [] => exact ⟨_, 0, .flush w, Nat.zero_le _⟩
  | [] :: more =>
      obtain ⟨out, n, hsends, hn⟩ := exists_sends hw more
      exact ⟨out, n, .skip hsends, hn⟩
  | (c :: cs) :: more =>
      have hcs : c :: cs ≠ [] := List.cons_ne_nil c cs
      obtain ⟨hi, hcall⟩ | ⟨k, hpos, hle, -, hcall⟩ | ⟨-, -, hcall⟩ := call_cases hw hcs
      · have hw' : ({ w with interrupts := w.interrupts - 1 } : Writer).Regular :=
          ⟨hw.chunk_pos, hw.limitError_lasts⟩
        obtain ⟨out, n, hsends, hn⟩ := exists_sends hw' ((c :: cs) :: more)
        refine ⟨_, n + 1, .again hcs (by rw [hcall]) (by rw [hcall]; exact hsends), ?_⟩
        dsimp only at hn
        omega
      · obtain ⟨out, n, hsends, hn⟩ :=
          exists_sends (hw.absorb ((c :: cs).take k)) ((c :: cs).drop k :: more)
        refine ⟨_, n + 1, .took hcs (by rw [hcall]) hpos (by rw [hcall]; exact hsends), ?_⟩
        simp only [List.flatten_cons, List.length_append, List.length_drop, absorb] at hn ⊢
        omega
      · exact ⟨_, 1, .last hcs (by rw [hcall]; exact error?_fullReply hw), by omega⟩
termination_by w.interrupts + pieces.flatten.length + pieces.length
decreasing_by
  · simp only [List.flatten_cons, List.nil_append, List.length_cons]
    omega
  · omega
  · simp only [List.flatten_cons, List.length_append, List.length_drop, List.length_cons, absorb] at *
    omega

/-! ### What the loop ends with -/

/-- What becomes of a text that is sent as a whole and then flushed. -/
def settled (w : Writer) (cs : List Char) : Written :=
  if w.hasRoom cs.length then ⟨w.absorb cs, w.flushError, [.flush (w.absorb cs).kept.length]⟩
  else ⟨w.absorb cs, some w.limitFailure, [.writeFailed]⟩

theorem settled_nil (hi : w.interrupts = 0) (hroom : w.hasRoom 0 = true) :
    w.settled [] = w.flush := by
  have hkeep : w.keep [] = w.absorb [] := keep_eq_absorb hi hroom
  rw [keep, List.append_nil] at hkeep
  rw [settled, List.length_nil, if_pos hroom, ← hkeep]
  rfl

theorem settled_append (hroom : w.hasRoom cs.length = true) (ds : List Char) :
    w.settled (cs ++ ds) = (w.absorb cs).settled ds := by
  unfold settled
  rw [hasRoom_absorb (Or.inl hroom), List.length_append, absorb_absorb]
  rfl

/-- On a full writer nothing is settled but the failure. -/
theorem settled_of_full (hcs : cs ≠ []) (hi : w.interrupts = 0) (hfull : w.isFull = true)
    (ds : List Char) : w.settled (cs ++ ds) = ⟨w, some w.limitFailure, [.writeFailed]⟩ := by
  have honce := writeOnce_of_full (List.append_ne_nil_of_left_ne_nil hcs ds) hi hfull
  unfold settled
  unfold writeOnce at honce
  cases hroom : w.hasRoom (cs ++ ds).length with
  | true =>
      rw [hroom] at honce
      cases congrArg Written.error honce
  | false =>
      rw [hroom] at honce
      exact honce

/-- What the loop ends with. As long as nothing has been taken the writer may be interrupted; after a
call that has taken something it is not, and there was room for what it keeps. -/
theorem Sends.eq_settled {pieces : List (List Char)} {out : Written} {n : Nat}
    (h : w.Sends pieces out n) (hw : w.Regular)
    (hstart : pieces.flatten ≠ [] ∨ (w.interrupts = 0 ∧ w.hasRoom 0 = true)) :
    out = w.settled pieces.flatten := by
  induction h with
  | flush w =>
      obtain hne | ⟨hi, hroom⟩ := hstart
      · exact absurd rfl hne
      · exact (settled_nil hi hroom).symm
  | skip rest ih => exact ih hw hstart
  | @again w cs more out n hcs hreply rest ih =>
      obtain ⟨-, hcall⟩ | ⟨k, -, -, -, hcall⟩ | ⟨-, -, hcall⟩ := call_cases hw hcs
      · rw [hcall] at ih ⊢
        exact ih ⟨hw.chunk_pos, hw.limitError_lasts⟩
          (Or.inl (List.append_ne_nil_of_left_ne_nil hcs more.flatten))
      · rw [hcall] at hreply
        cases hreply
      · rw [hcall] at hreply
        exact absurd rfl (error?_ne_none_of_fullReply hw hreply)
  | @took w cs more out k n hcs hreply hk rest ih =>
      obtain ⟨-, hcall⟩ | ⟨j, -, hle, hroom, hcall⟩ | ⟨-, -, hcall⟩ := call_cases hw hcs
      · rw [hcall] at hreply
        cases hreply
      · obtain rfl : j = k := by
          rw [hcall] at hreply
          exact Reply.took.inj hreply
        have htaken : w.hasRoom (cs.take j).length = true := by
          rw [List.length_take, Nat.min_eq_left hle]
          exact hroom
        have hsplit : (cs :: more).flatten = cs.take j ++ (cs.drop j :: more).flatten := by
          rw [List.flatten_cons, List.flatten_cons, ← List.append_assoc, List.take_append_drop]
        rw [hsplit, settled_append htaken]
        rw [hcall] at ih ⊢
        exact ih (hw.absorb _) (Or.inr ⟨rfl, by rw [hasRoom_absorb (Or.inl htaken)]; exact htaken⟩)
      · rw [hcall] at hreply
        exact absurd (Reply.error?_took hk) (error?_ne_none_of_fullReply hw hreply)
  | @last w cs more e hcs hreply =>
      obtain ⟨-, hcall⟩ | ⟨k, hpos, -, -, hcall⟩ | ⟨hi, hfull, hcall⟩ := call_cases hw hcs
      · rw [hcall] at hreply
        cases hreply
      · rw [hcall, Reply.error?_took hpos] at hreply
        cases hreply
      · rw [hcall] at hreply ⊢
        have he : e = w.limitFailure := Option.some.inj (hreply.symm.trans (error?_fullReply hw))
        rw [List.flatten_cons, settled_of_full hcs hi hfull, he]

/-! ### Writers that split differently -/

/-- The writer that takes at most a chunk in one call, and has so many calls interrupted first. -/
def splitting (w : Writer) (chunk : Option Nat) (interrupts : Nat) : Writer :=
  { w with chunk := chunk, interrupts := interrupts }

theorem splitting_regular (hlimit : ∀ e ∈ w.limitError, e.isInterruption = false)
    {chunk : Option Nat} (hchunk : ∀ n ∈ chunk, 1 ≤ n) (interrupts : Nat) :
    (w.splitting chunk interrupts).Regular :=
  ⟨hchunk, hlimit⟩

theorem hasRoom_iff (w : Writer) (n : Nat) :
    w.hasRoom n = true ↔ ∀ limit ∈ w.limit, w.kept.length + n ≤ limit := by
  unfold hasRoom
  cases w.limit with
  | none => simp
  | some limit => simp

theorem settled_of_fits (h : ∀ limit ∈ w.limit, w.kept.length + cs.length ≤ limit) :
    w.settled cs
      = ⟨{ w with interrupts := 0, kept := w.kept ++ cs }, w.flushError,
          [.flush (w.kept ++ cs).length]⟩ := by
  have hroom := (w.hasRoom_iff cs.length).mpr h
  rw [settled, if_pos hroom, absorb, fitting_of_hasRoom hroom]

theorem settled_of_exceeds {limit : Nat} (hlimit : w.limit = some limit)
    (h : limit < w.kept.length + cs.length) :
    w.settled cs
      = ⟨{ w with interrupts := 0, kept := w.kept ++ cs.take (limit - w.kept.length) },
          some w.limitFailure, [.writeFailed]⟩ := by
  have hroom : ¬ w.hasRoom cs.length = true := by
    rw [w.hasRoom_iff]
    intro hfits
    exact Nat.not_le.mpr h (hfits limit hlimit)
  have hfitting : w.fitting cs = cs.take (limit - w.kept.length) := by
    rw [fitting, hlimit]
  rw [settled, if_neg hroom, absorb, hfitting]

end Writer

namespace Report

variable {w : Writer} {pieces : List (List Char)}

/-- Sending the report is the loop of calls, in whatever pieces its text comes. -/
theorem eq_send_of_sends {r : Report} (hw : w.Regular) (hpieces : pieces.flatten = r.text)
    {out : Writer.Written} {n : Nat} (h : w.Sends pieces out n) : out = r.send w := by
  have hne : r.text ≠ [] := List.length_pos_iff.mp r.text_length_pos
  have hsettled := h.eq_settled hw (Or.inl (by rw [hpieces]; exact hne))
  rw [hpieces] at hsettled
  exact hsettled.trans (r.send_eq hw).symm

theorem exists_sends_send {r : Report} (hw : w.Regular) (hpieces : pieces.flatten = r.text) :
    ∃ n, w.Sends pieces (r.send w) n ∧ n ≤ w.interrupts + r.text.length + 1 := by
  obtain ⟨out, n, hsends, hn⟩ := Writer.exists_sends hw pieces
  rw [hpieces] at hn
  rw [eq_send_of_sends hw hpieces hsends] at hsends
  exact ⟨n, hsends, hn⟩

/-- Writers that split their input differently differ in nothing else in the end. -/
theorem send_splitting (r : Report) (hlimit : ∀ e ∈ w.limitError, e.isInterruption = false)
    {chunk : Option Nat} (hchunk : ∀ n ∈ chunk, 1 ≤ n) (k : Nat) :
    r.send (w.splitting chunk k)
      = { w.settled r.text with writer := (w.settled r.text).writer.splitting chunk 0 } := by
  have hroom : (w.splitting chunk k).hasRoom r.text.length = w.hasRoom r.text.length := rfl
  rw [r.send_eq (Writer.splitting_regular hlimit hchunk k), Writer.settled, hroom]
  split <;> rfl

/-- **How the writer splits its input does not show.** Take a writer with any limit, any error for it
that is no interruption, any way to flush and anything kept already. Let it take at most `chunk₁`
bytes in one call, or any number, and have `k₁` calls interrupted first; or `chunk₂` and `k₂`.

* A report has the same result or error on both, the same bytes are kept, and the same happens.
* A report that fits is kept whole, and all that happens is one flush of what is kept then; its
  error, if any, is that of flushing. Of one that does not fit the part is kept that does, and all
  that happens is one failed write.
* The report returns: in whatever pieces its text is handed over, the loop of calls ends after at
  most a call for each interruption, one for each byte and one more, and it always ends like this. -/
theorem splitting_does_not_show (r : Report) (w : Writer)
    (hlimit : ∀ e ∈ w.limitError, e.isInterruption = false) (chunk₁ chunk₂ : Option Nat)
    (h₁ : ∀ n ∈ chunk₁, 1 ≤ n) (h₂ : ∀ n ∈ chunk₂, 1 ≤ n) (k₁ k₂ : Nat) :
    (r.send (w.splitting chunk₁ k₁)).error = (r.send (w.splitting chunk₂ k₂)).error
    ∧ (r.send (w.splitting chunk₁ k₁)).writer.kept = (r.send (w.splitting chunk₂ k₂)).writer.kept
    ∧ (r.send (w.splitting chunk₁ k₁)).events = (r.send (w.splitting chunk₂ k₂)).events
    ∧ ((∀ limit ∈ w.limit, w.kept.length + r.text.length ≤ limit) →
        (r.send (w.splitting chunk₁ k₁)).error = w.flushError
        ∧ (r.send (w.splitting chunk₁ k₁)).writer.kept = w.kept ++ r.text
        ∧ (r.send (w.splitting chunk₁ k₁)).events = [.flush (w.kept ++ r.text).length])
    ∧ (∀ limit ∈ w.limit, limit < w.kept.length + r.text.length →
        (r.send (w.splitting chunk₁ k₁)).error = some (w.limitError.getD .wholeBuffer)
        ∧ (r.send (w.splitting chunk₁ k₁)).writer.kept
            = w.kept ++ r.text.take (limit - w.kept.length)
        ∧ (r.send (w.splitting chunk₁ k₁)).events = [.writeFailed])
    ∧ ∀ pieces : List (List Char), pieces.flatten = r.text →
        (∃ n, (w.splitting chunk₁ k₁).Sends pieces (r.send (w.splitting chunk₁ k₁)) n
          ∧ n ≤ k₁ + r.text.length + 1)
        ∧ ∀ out n, (w.splitting chunk₁ k₁).Sends pieces out n →
            out = r.send (w.splitting chunk₁ k₁) := by
  have hw := Writer.splitting_regular hlimit h₁ k₁
  have hreturns : ∀ pieces : List (List Char), pieces.flatten = r.text →
      (∃ n, (w.splitting chunk₁ k₁).Sends pieces (r.send (w.splitting chunk₁ k₁)) n
        ∧ n ≤ k₁ + r.text.length + 1)
      ∧ ∀ out n, (w.splitting chunk₁ k₁).Sends pieces out n →
          out = r.send (w.splitting chunk₁ k₁) :=
    fun pieces hpieces => ⟨exists_sends_send hw hpieces, fun _ _ => eq_send_of_sends hw hpieces⟩
  have hsend₁ := r.send_splitting hlimit h₁ k₁
  have hsend₂ := r.send_splitting hlimit h₂ k₂
  refine ⟨by rw [hsend₁, hsend₂], by rw [hsend₁, hsend₂]; rfl, by rw [hsend₁, hsend₂], ?_, ?_,
    hreturns⟩
  · intro hfits
    rw [hsend₁, Writer.settled_of_fits hfits]
    exact ⟨rfl, rfl, rfl⟩
  · intro limit hmem hover
    rw [hsend₁, Writer.settled_of_exceeds hmem hover]
    exact ⟨rfl, rfl, rfl⟩

/-- A writer that is full after twenty bytes is interrupted twice and takes seven bytes in a call, or
is never interrupted and takes any number. Both keep the same twenty bytes and fail alike, whether
the text comes in lines or in single characters. -/
theorem splitting_does_not_show_narrow :
    (send ⟨0x5000, 0x4fff, .outOfBounds⟩ (Writer.narrow.splitting (some 7) 2)).error
      = some .brokenPipe
    ∧ (send ⟨0x5000, 0x4fff, .outOfBounds⟩ (Writer.narrow.splitting (some 7) 2)).events
        = [.writeFailed]
    ∧ (send ⟨0x5000, 0x4fff, .outOfBounds⟩ (Writer.narrow.splitting (some 7) 2)).writer.kept
        = (send ⟨0x5000, 0x4fff, .outOfBounds⟩ (Writer.narrow.splitting none 0)).writer.kept
    ∧ (∃ n, (Writer.narrow.splitting (some 7) 2).Sends (lines ⟨0x5000, 0x4fff, .outOfBounds⟩)
        (send ⟨0x5000, 0x4fff, .outOfBounds⟩ (Writer.narrow.splitting (some 7) 2)) n)
    ∧ ∃ n, (Writer.narrow.splitting (some 7) 2).Sends
        ((text ⟨0x5000, 0x4fff, .outOfBounds⟩).map ([·]))
        (send ⟨0x5000, 0x4fff, .outOfBounds⟩ (Writer.narrow.splitting (some 7) 2)) n := by
  have hseven : ∀ n ∈ some 7, 1 ≤ n := by
    rintro n ⟨⟩
    decide
  obtain ⟨-, hkept, -, -, hcut, hreturns⟩ :=
    splitting_does_not_show ⟨0x5000, 0x4fff, .outOfBounds⟩ .narrow (by decide) (some 7) none hseven
      (fun _ h => (by cases h)) 2 0
  obtain ⟨herror, -, hevents⟩ := hcut 20 rfl (by decide +kernel)
  obtain ⟨⟨n, hlines, -⟩, -⟩ := hreturns (lines ⟨0x5000, 0x4fff, .outOfBounds⟩) rfl
  obtain ⟨⟨m, hsingle, -⟩, -⟩ := hreturns ((text ⟨0x5000, 0x4fff, .outOfBounds⟩).map ([·]))
    (by rw [← List.flatMap_def, List.flatMap_singleton'])
  exact ⟨herror, hevents, hkept, ⟨n, hlines⟩, ⟨m, hsingle⟩⟩

end Report

end TapeProbe

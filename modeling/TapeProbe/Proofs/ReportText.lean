import Mathlib.Data.List.Infix
import TapeProbe.Proofs.Delivery

/-!
# Reading a report

A report can be read back from its text (`Report.ofText?`): line by line, a label and an address
behind it, which is taken only if it is written as reports write it. Each reader is **exact**
(`Report.Exact`): it reads a value off the front of a text just when the text starts with what is
printed for that value. So the whole reader accepts the texts of reports and no others
(`Report.ofText?_eq_some_iff`), and different reports have different texts.

The word `offset` is looked for line by line too. An address does not help to make it up, because the
`x` before its digits and the end of the line behind them do not occur in the word
(`infix_append_cons_iff`).
-/

namespace TapeProbe

namespace Report

/-! ### Readers of lines -/

/-- A reader of the values that `print` writes: it reads `a` exactly where the text starts with what
is printed for `a`, and leaves the rest. -/
def Exact {α : Type} (read : List Char → Option (α × List Char)) (print : α → List Char) : Prop :=
  ∀ cs a rest, read cs = some (a, rest) ↔ cs = print a ++ rest

/-- The address with these digits, if there is one and it has no other digits. -/
def ofDigits? (ds : List Char) : Option UInt64 :=
  if Numeral.value 16 ds < UInt64.size ∧ Nat.toDigits 16 (Numeral.value 16 ds) = ds then
    some (UInt64.ofNat (Numeral.value 16 ds))
  else none

/-- Read a label, an address, and the end of the line. -/
def addressLine? (label cs : List Char) : Option (UInt64 × List Char) := do
  let behind ← cs.dropPrefix? (label ++ ['0', 'x'])
  let a ← ofDigits? (behind.takeWhile (Numeral.isDigit 16))
  let rest ← (behind.dropWhile (Numeral.isDigit 16)).dropPrefix? ['\n']
  return (a, rest)

/-- Read the line about the verdict. -/
def verdictLine? (cs : List Char) : Option (Verdict × List Char) :=
  match addressLine? " | data pointer offset = ".toList cs with
  | some (offset, rest) => some (.inBounds offset, rest)
  | none =>
    (cs.dropPrefix? " | Brainfuck code has errors! Data pointer went out of bounds!\n".toList).map
      (.outOfBounds, ·)

/-- The report that a text is, if it is one. -/
def ofText? (text : String) : Option Report := do
  let (base, cs) ← addressLine? " |        memory base  = ".toList text.toList
  let (pointer, cs) ← addressLine? " |        data pointer = ".toList cs
  let (verdict, cs) ← verdictLine? cs
  if cs.isEmpty then some ⟨base, pointer, verdict⟩ else none

theorem dropPrefix?_eq_some {cs label rest : List Char} :
    cs.dropPrefix? label = some rest ↔ cs = label ++ rest := by
  rw [List.dropPrefix?_eq_some_iff]
  simp

theorem ofDigits?_eq_some {ds : List Char} {a : UInt64} :
    ofDigits? ds = some a ↔ ds = Nat.toDigits 16 a.toNat := by
  unfold ofDigits?
  constructor
  · intro h
    split at h
    · next hds =>
      cases h
      rw [UInt64.toNat_ofNat_of_lt' hds.1, hds.2]
    · cases h
  · rintro rfl
    have hvalue := Numeral.value_toDigits (b := 16) (by decide) (by decide) a.toNat
    rw [hvalue, if_pos ⟨a.toNat_lt, rfl⟩, UInt64.ofNat_toNat]

theorem exact_addressLine? (label : List Char) :
    Exact (addressLine? label) fun a => label ++ address a ++ ['\n'] := by
  intro cs a rest
  have hline : label ++ address a ++ ['\n'] ++ rest
      = label ++ ['0', 'x'] ++ (Nat.toDigits 16 a.toNat ++ '\n' :: rest) := by
    simp [address]
  rw [hline]
  constructor
  · intro h
    unfold addressLine? at h
    obtain ⟨behind, hlabel, h⟩ := Option.bind_eq_some_iff.mp h
    obtain ⟨b, hdigits, h⟩ := Option.bind_eq_some_iff.mp h
    obtain ⟨left, hend, h⟩ := Option.bind_eq_some_iff.mp h
    cases h
    have hbehind : behind = Nat.toDigits 16 a.toNat ++ '\n' :: rest :=
      calc behind
          = behind.takeWhile (Numeral.isDigit 16) ++ behind.dropWhile (Numeral.isDigit 16) :=
            List.takeWhile_append_dropWhile.symm
        _ = Nat.toDigits 16 a.toNat ++ '\n' :: rest := by
            rw [ofDigits?_eq_some.mp hdigits, dropPrefix?_eq_some.mp hend]
            rfl
    rw [dropPrefix?_eq_some.mp hlabel, hbehind]
  · rintro rfl
    have hlabel := dropPrefix?_eq_some.mpr (rfl : label ++ ['0', 'x']
      ++ (Nat.toDigits 16 a.toNat ++ '\n' :: rest) = _)
    have hdigits : ofDigits? (Nat.toDigits 16 a.toNat) = some a := ofDigits?_eq_some.mpr rfl
    have hend : ('\n' :: rest).dropPrefix? ['\n'] = some rest := dropPrefix?_eq_some.mpr rfl
    -- the digits of the number end where the line does
    have hbreak : ∀ c ∈ ('\n' :: rest).head?, Numeral.isDigit 16 c = false := by
      rintro c ⟨⟩
      decide
    obtain ⟨htake, hdrop⟩ := Numeral.isDigit_run
      (Numeral.isDigit_of_mem_toDigits (by decide) (by decide) a.toNat) hbreak
    simp only [addressLine?, hlabel, htake, hdrop, hdigits, hend, Option.bind_eq_bind,
      Option.bind_some, Option.pure_def]

/-- A line that says that the pointer is not on the tape gives no offset. -/
theorem addressLine?_outOfBounds (rest : List Char) :
    addressLine? " | data pointer offset = ".toList (verdictLine .outOfBounds ++ rest) = none := by
  rw [Option.eq_none_iff_forall_ne_some]
  rintro ⟨a, left⟩ h
  have hline := (exact_addressLine? _ _ _ _).mp h
  -- the two lines differ in their fourth character
  have hthis : (verdictLine .outOfBounds ++ rest)[3]? = some 'B' := rfl
  have hother : (" | data pointer offset = ".toList ++ address a ++ ['\n'] ++ left)[3]? = some 'd' :=
    rfl
  rw [hline, hother] at hthis
  exact absurd hthis (by decide)

theorem exact_verdictLine? : Exact verdictLine? verdictLine := by
  intro cs v rest
  unfold verdictLine?
  constructor
  · intro h
    split at h
    · next offset left hoffset =>
      cases h
      exact (exact_addressLine? _ _ _ _).mp hoffset
    · obtain ⟨left, hleft, h⟩ := Option.map_eq_some_iff.mp h
      cases h
      exact dropPrefix?_eq_some.mp hleft
  · rintro rfl
    cases v with
    | inBounds offset =>
        have hread := (exact_addressLine? _ _ offset rest).mpr
          (congrArg (· ++ rest) (verdictLine_inBounds offset))
        simp only [hread]
    | outOfBounds =>
        have hprefix := dropPrefix?_eq_some.mpr
          (congrArg (· ++ rest) verdictLine_outOfBounds)
        simp only [addressLine?_outOfBounds, hprefix, Option.map_some]

/-- A report line by line, as it is read. -/
theorem text_eq (r : Report) :
    r.text = " |        memory base  = ".toList ++ address r.base ++ ['\n']
      ++ (" |        data pointer = ".toList ++ address r.pointer ++ ['\n']
        ++ (verdictLine r.verdict ++ [])) := rfl

/-- The reader accepts the texts of reports, and no others. -/
theorem ofText?_eq_some_iff {text : String} {r : Report} :
    ofText? text = some r ↔ text = String.ofList r.text := by
  constructor
  · intro h
    unfold ofText? at h
    obtain ⟨⟨base, cs₁⟩, h₁, h⟩ := Option.bind_eq_some_iff.mp h
    obtain ⟨⟨pointer, cs₂⟩, h₂, h⟩ := Option.bind_eq_some_iff.mp h
    obtain ⟨⟨verdict, cs₃⟩, h₃, h⟩ := Option.bind_eq_some_iff.mp h
    dsimp only at h
    split at h
    · next hempty =>
      cases h
      have hbase := (exact_addressLine? _ _ _ _).mp h₁
      have hpointer := (exact_addressLine? _ _ _ _).mp h₂
      have hverdict := (exact_verdictLine? _ _ _).mp h₃
      rw [hpointer, hverdict, List.isEmpty_iff.mp hempty] at hbase
      rw [text_eq, ← hbase, String.ofList_toList]
    · cases h
  · rintro rfl
    obtain ⟨base, pointer, verdict⟩ := r
    have h₁ := (exact_addressLine? " |        memory base  = ".toList _ base _).mpr
      (text_eq ⟨base, pointer, verdict⟩)
    have h₂ := (exact_addressLine? " |        data pointer = ".toList _ pointer _).mpr
      (rfl : _ = _ ++ (verdictLine verdict ++ []))
    have h₃ := (exact_verdictLine? _ verdict []).mpr rfl
    simp only [ofText?, String.toList_ofList, h₁, h₂, h₃, Option.bind_eq_bind, Option.bind_some,
      List.isEmpty_nil, if_true]

end Report

/-! ### A word in a report -/

/-- A word does not reach across a character that it does not have. -/
theorem infix_append_cons_iff {α : Type} {w xs ys : List α} {c : α} (hc : c ∉ w) :
    w <:+: xs ++ c :: ys ↔ w <:+: xs ∨ w <:+: ys := by
  have hnil : ∀ {l : List α}, c ∉ l → l <+: c :: ys → l = [] := by
    intro l hl h
    rcases List.prefix_cons_iff.mp h with rfl | ⟨t, rfl, -⟩
    · rfl
    · exact absurd List.mem_cons_self hl
  constructor
  · rw [List.infix_append_iff, List.infix_cons_iff]
    rintro (h | (h | h) | ⟨front, back, rfl, hfront, hback⟩)
    · exact Or.inl h
    · rw [hnil hc h]
      exact Or.inl List.nil_infix
    · exact Or.inr h
    · rw [hnil (fun hmem => hc (List.mem_append_right front hmem)) hback, List.append_nil]
      exact Or.inl hfront.isInfix
  · rintro (h | h)
    · exact h.trans (List.prefix_append _ _).isInfix
    · exact h.trans ((List.suffix_cons c ys).trans (List.suffix_append xs _)).isInfix

namespace Report

theorem newline_not_mem_address (a : UInt64) : '\n' ∉ address a := by
  rw [address, List.mem_cons, List.mem_cons]
  rintro (h | h | h)
  · exact absurd h (by decide)
  · exact absurd h (by decide)
  · exact absurd (Numeral.isDigit_of_mem_toDigits (by decide) (by decide) _ _ h) (by decide)

/-- A word that is not all digits, and has neither the mark of an address nor a line end, is not found
at an address: only in the label before it, or behind the line. -/
theorem infix_addressLine_iff {w : List Char} (hmark : 'x' ∉ w) (hend : '\n' ∉ w) {c : Char}
    (hc : c ∈ w) (hdigit : Numeral.isDigit 16 c = false) (label : List Char) (a : UInt64)
    (rest : List Char) :
    w <:+: label ++ address a ++ ['\n'] ++ rest ↔ w <:+: label ++ ['0'] ∨ w <:+: rest := by
  have hline : label ++ address a ++ ['\n'] ++ rest
      = (label ++ ['0']) ++ 'x' :: (Nat.toDigits 16 a.toNat ++ '\n' :: rest) := by
    simp [address]
  have hdigits : ¬ w <:+: Nat.toDigits 16 a.toNat := by
    intro h
    have hall := Numeral.isDigit_of_mem_toDigits (b := 16) (by decide) (by decide) a.toNat c
      (h.subset hc)
    rw [hdigit] at hall
    cases hall
  rw [hline, infix_append_cons_iff hmark, infix_append_cons_iff hend, or_iff_right hdigits]

/-- The word stands in the line about the verdict, or nowhere. -/
theorem offset_infix_text_iff (r : Report) :
    "offset".toList <:+: r.text ↔ ∃ offset, r.verdict = .inBounds offset := by
  have hskip : ∀ (label : List Char) (a : UInt64) (rest : List Char),
      "offset".toList <:+: label ++ address a ++ ['\n'] ++ rest ↔
        "offset".toList <:+: label ++ ['0'] ∨ "offset".toList <:+: rest :=
    infix_addressLine_iff (c := 'o') (by decide) (by decide) (by decide) (by decide)
  have hbase : ¬ "offset".toList <:+: " |        memory base  = ".toList ++ ['0'] := by
    decide +kernel
  have hpointer : ¬ "offset".toList <:+: " |        data pointer = ".toList ++ ['0'] := by
    decide +kernel
  rw [text_eq, hskip, or_iff_right hbase, hskip, or_iff_right hpointer]
  cases r.verdict with
  | inBounds offset =>
      have hlabel : "offset".toList <:+: " | data pointer offset = ".toList ++ ['0'] := by
        decide +kernel
      rw [verdictLine_inBounds, hskip]
      exact iff_of_true (Or.inl hlabel) ⟨offset, rfl⟩
  | outOfBounds =>
      rw [List.append_nil]
      refine iff_of_false ?_ fun ⟨_, h⟩ => (by cases h)
      rw [verdictLine_outOfBounds]
      decide +kernel

/-! ### Lines -/

/-- A line of a report ends with a line end and has no other. -/
theorem exists_body_of_mem_lines (r : Report) :
    ∀ line ∈ r.lines, ∃ body, line = body ++ ['\n'] ∧ '\n' ∉ body := by
  have hlabelled : ∀ (label : List Char) (a : UInt64), '\n' ∉ label →
      '\n' ∉ label ++ address a := by
    intro label a hlabel hmem
    rcases List.mem_append.mp hmem with hmem | hmem
    · exact hlabel hmem
    · exact newline_not_mem_address a hmem
  intro line hline
  rw [lines, List.mem_cons, List.mem_cons, List.mem_singleton] at hline
  rcases hline with rfl | rfl | rfl
  · exact ⟨_, rfl, hlabelled _ _ (by decide)⟩
  · exact ⟨_, rfl, hlabelled _ _ (by decide)⟩
  · cases r.verdict with
    | inBounds offset => exact ⟨_, verdictLine_inBounds offset, hlabelled _ _ (by decide)⟩
    | outOfBounds =>
        exact ⟨" | Brainfuck code has errors! Data pointer went out of bounds!".toList,
          by decide +kernel, by decide +kernel⟩

theorem exists_three_lines (r : Report) :
    ∃ first second third : List Char, '\n' ∉ first ∧ '\n' ∉ second ∧ '\n' ∉ third
      ∧ r.text = first ++ '\n' :: (second ++ '\n' :: (third ++ ['\n'])) := by
  have hbody := r.exists_body_of_mem_lines
  rw [lines, List.forall_mem_cons, List.forall_mem_cons, List.forall_mem_singleton] at hbody
  obtain ⟨⟨first, h₁, hfirst⟩, ⟨second, h₂, hsecond⟩, ⟨third, h₃, hthird⟩⟩ := hbody
  refine ⟨first, second, third, hfirst, hsecond, hthird, ?_⟩
  rw [text, lines, h₁, h₂, h₃]
  simp

/-! ### The text of a report -/

/-- A writer without a limit holds the text, whether or not it can be flushed. -/
theorem send_output (r : Report) {w : Writer} (hw : w.Regular) (hlimit : w.limit = none)
    (hempty : w.kept = []) : (r.send w).writer.output = String.ofList r.text := by
  have hroom : w.hasRoom r.text.length = true := by rw [Writer.hasRoom, hlimit]
  have hkept := Writer.absorb_kept_of_hasRoom hroom
  rw [hempty, List.nil_append] at hkept
  rw [r.send_eq hw, if_pos hroom, Writer.output, hkept]

/-- **The text of a report tells the report.** Take an empty writer that accepts everything, in calls
of any size. Whatever base, pointer and verdict are reported, in bounds with an offset that need not
agree with them or out of bounds:

* the text that the writer holds reads as this report, and nothing reads as this report but the
  text, so that two different reports never read alike;
* the text has three lines, each with its end;
* it has the word `offset` in it exactly if the verdict is in bounds. -/
theorem text_tells_report {w : Writer} (hw : w.Regular) (hlimit : w.limit = none)
    (hempty : w.kept = []) (r : Report) :
    ofText? (r.send w).writer.output = some r
    ∧ (∀ text, ofText? text = some r ↔ text = (r.send w).writer.output)
    ∧ (∀ s : Report, (s.send w).writer.output = (r.send w).writer.output → s = r)
    ∧ (∃ first second third : List Char, '\n' ∉ first ∧ '\n' ∉ second ∧ '\n' ∉ third
      ∧ (r.send w).writer.output.toList
          = first ++ '\n' :: (second ++ '\n' :: (third ++ ['\n'])))
    ∧ ("offset".toList <:+: (r.send w).writer.output.toList ↔
        ∃ offset, r.verdict = .inBounds offset) := by
  have houtput : ∀ s : Report, (s.send w).writer.output = String.ofList s.text :=
    fun s => s.send_output hw hlimit hempty
  have hread : ofText? (String.ofList r.text) = some r := ofText?_eq_some_iff.mpr rfl
  simp only [houtput, String.toList_ofList]
  refine ⟨hread, fun text => ofText?_eq_some_iff, fun s hs => ?_, r.exists_three_lines,
    r.offset_infix_text_iff⟩
  rw [← hs, ofText?_eq_some_iff.mpr rfl] at hread
  exact Option.some.inj hread

/-- The base is zero, the pointer is the last address, and the offset agrees with neither; the writer
is interrupted twice and takes seven bytes in a call. -/
theorem text_tells_report_last_address :
    ofText? (send ⟨0, 0xffffffffffffffff, .inBounds 0x10⟩
        { Writer.narrow with limit := none }).writer.output
      = some ⟨0, 0xffffffffffffffff, .inBounds 0x10⟩
    ∧ "offset".toList <:+: (send ⟨0, 0xffffffffffffffff, .inBounds 0x10⟩
        { Writer.narrow with limit := none }).writer.output.toList := by
  have hregular : Writer.Regular { Writer.narrow with limit := none } :=
    Writer.narrow_regular.withLimit none
  obtain ⟨hread, -, -, -, hword⟩ :=
    text_tells_report hregular rfl rfl ⟨0, 0xffffffffffffffff, .inBounds 0x10⟩
  exact ⟨hread, hword.mpr ⟨0x10, rfl⟩⟩

end Report

end TapeProbe

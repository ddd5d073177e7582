import TapeProbe.Toml.Document

/-!
# Spellings

How the two kinds of values that settings take may be written, and that they read back.

A string between double quotes has many spellings: a character stands for itself or for an escape,
short or with its code point (`Toml.SpelledChar`, `Toml.Spelled`). All of them read as the string
(`Toml.string_spelled`), and every string has one (`Toml.spelled_escaped`).

A number has its decimal digits (`Toml.number_digits`). What follows it has to end it, and the end
of a line does (`Toml.lineEnd`). `Toml.Written` joins the two, and `Toml.value_written` says that a
value that ends its line is read as it is written.
-/

namespace TapeProbe.Toml

/-! ### Strings -/

/-- The letters of short escapes, with the characters they stand for. -/
def shortEscapes : List (Char × Char) :=
  [('b', '\x08'), ('t', '\t'), ('n', '\n'), ('f', '\x0c'), ('r', '\r'), ('"', '"'), ('\\', '\\')]

/-- These are the ways to write a character between double quotes. -/
inductive SpelledChar : Char → List Char → Prop where
  /-- As it is. -/
  | plain {c : Char} (htext : isText c = true) (hquote : c ≠ '"') (hslash : c ≠ '\\') :
    SpelledChar c [c]
  /-- By a short escape. -/
  | short {letter c : Char} (h : (letter, c) ∈ shortEscapes) : SpelledChar c ['\\', letter]
  /-- By its code point in four digits of either case. -/
  | four {c : Char} {ds : List Char} (hlength : ds.length = 4)
    (hdigits : ∀ d ∈ ds, Numeral.isDigit 16 d = true) (hvalue : Numeral.value 16 ds = c.toNat) :
    SpelledChar c ('\\' :: 'u' :: ds)
  /-- By its code point in eight digits of either case. -/
  | eight {c : Char} {ds : List Char} (hlength : ds.length = 8)
    (hdigits : ∀ d ∈ ds, Numeral.isDigit 16 d = true) (hvalue : Numeral.value 16 ds = c.toNat) :
    SpelledChar c ('\\' :: 'U' :: ds)

/-- These are the ways to write a string between double quotes, the quotes not included. -/
inductive Spelled : List Char → List Char → Prop where
  | nil : Spelled [] []
  | cons {c : Char} {w cs ws : List Char} (hchar : SpelledChar c w) (h : Spelled cs ws) :
    Spelled (c :: cs) (w ++ ws)

theorem isValidChar_toNat (c : Char) : c.toNat.isValidChar := c.valid

theorem codePoint_append {n : Nat} {c : Char} {ds : List Char} (hlength : ds.length = n)
    (hdigits : ∀ d ∈ ds, Numeral.isDigit 16 d = true) (hvalue : Numeral.value 16 ds = c.toNat)
    (rest : List Char) : codePoint n (ds ++ rest) = some (c, rest) := by
  have htake : (ds ++ rest).take n = ds := by rw [← hlength, List.take_left]
  have hdrop : (ds ++ rest).drop n = rest := by rw [← hlength, List.drop_left]
  simp only [codePoint, htake, hdrop, hvalue]
  rw [if_pos ⟨hlength, List.all_eq_true.mpr hdigits, isValidChar_toNat c⟩, Char.ofNat_toNat]

theorem escape_short {letter c : Char} (h : (letter, c) ∈ shortEscapes) (rest : List Char) :
    escape (letter :: rest) = some (c, rest) := by
  simp only [shortEscapes, List.mem_cons, Prod.mk.injEq, List.not_mem_nil, or_false] at h
  rcases h with ⟨rfl, rfl⟩ | ⟨rfl, rfl⟩ | ⟨rfl, rfl⟩ | ⟨rfl, rfl⟩ | ⟨rfl, rfl⟩ | ⟨rfl, rfl⟩ | ⟨rfl, rfl⟩
    <;> rfl

theorem basicChar_spelled {c : Char} {w : List Char} (h : SpelledChar c w) (rest : List Char) :
    basicChar (w ++ rest) = some (c, rest) := by
  cases h with
  | plain htext hquote hslash =>
      have hall : (isText c && c != '"') = true := by simp [htext, hquote]
      rw [List.singleton_append, basicChar, if_pos hall]
      exact hslash
  | short h => exact escape_short h rest
  | four hlength hdigits hvalue => exact codePoint_append hlength hdigits hvalue rest
  | eight hlength hdigits hvalue => exact codePoint_append hlength hdigits hvalue rest

/-- Reading characters ends with the quote. -/
theorem manyWithin_basicChar {cs ws : List Char} (h : Spelled cs ws) {budget : List Char}
    (hbudget : cs.length ≤ budget.length) (rest : List Char) :
    manyWithin basicChar budget (ws ++ '"' :: rest) = (cs, '"' :: rest) := by
  induction h generalizing budget with
  | nil =>
      cases budget with
      | nil => rfl
      | cons b budget => rfl
  | @cons c w cs ws hchar h ih =>
      cases budget with
      | nil => simp at hbudget
      | cons b budget =>
          have hlength : cs.length ≤ budget.length := by simpa using hbudget
          have hrest := ih hlength
          rw [List.append_assoc, manyWithin, basicChar_spelled hchar]
          simp only [hrest]

theorem SpelledChar.ne_nil {c : Char} {w : List Char} (h : SpelledChar c w) : w ≠ [] := by
  cases h <;> exact List.cons_ne_nil _ _

theorem Spelled.length_le {cs ws : List Char} (h : Spelled cs ws) : cs.length ≤ ws.length := by
  induction h with
  | nil => exact Nat.le_refl 0
  | cons hchar h ih =>
      have hpos := List.length_pos_iff.mpr hchar.ne_nil
      rw [List.length_cons, List.length_append]
      omega

theorem basicString_spelled {cs ws : List Char} (h : Spelled cs ws) (rest : List Char) :
    basicString (ws ++ '"' :: rest) = some (cs, rest) := by
  have hbudget : cs.length ≤ (ws ++ '"' :: rest).length := by
    have hlength := h.length_le
    rw [List.length_append]
    omega
  unfold basicString many
  rw [manyWithin_basicChar h hbudget]
  rfl

theorem SpelledChar.head_ne {c : Char} {w : List Char} (h : SpelledChar c w) (ws : List Char) :
    (w ++ ws).head? ≠ some '"' := by
  cases h with
  | plain _ hquote _ => simpa using hquote
  | _ => simp

/-- A string that does not start with three quotes stands on one line. -/
theorem string_eq_basicString {cs : List Char} (h : ∀ more, cs ≠ '"' :: '"' :: more) :
    string ('"' :: cs) = (basicString cs).map fun p => (String.ofList p.1, p.2) := by
  unfold string
  split
  · next heq => exact absurd (List.cons.inj heq).2 (h _)
  · next heq =>
    cases heq
    rfl
  · next heq => cases heq
  · next heq => cases heq
  · next hne _ _ => exact absurd rfl (hne _)

/-- A quoted string reads as what it spells. Two quotes must not be followed by a third. -/
theorem string_spelled {cs ws : List Char} (h : Spelled cs ws) {rest : List Char}
    (hrest : rest.head? ≠ some '"') :
    string ('"' :: (ws ++ '"' :: rest)) = some (String.ofList cs, rest) := by
  have hopen : ∀ more, ws ++ '"' :: rest ≠ '"' :: '"' :: more := by
    intro more heq
    cases h with
    | nil =>
        rw [List.nil_append] at heq
        rw [(List.cons.inj heq).2] at hrest
        exact hrest rfl
    | @cons c w cs ws hchar h =>
        have hhead := hchar.head_ne (ws ++ '"' :: rest)
        rw [← List.append_assoc, heq] at hhead
        exact hhead rfl
  rw [string_eq_basicString hopen, basicString_spelled h]
  rfl

/-- The plain spelling of a character: an escape only where there has to be one. -/
def escapedChar (c : Char) : List Char :=
  if c = '"' ∨ c = '\\' then ['\\', c]
  else if isText c then [c]
  else ['\\', 'u', '0', '0', Nat.digitChar (c.toNat / 16), Nat.digitChar (c.toNat % 16)]

/-- The plain spelling of a string. -/
def escaped (cs : List Char) : List Char := cs.flatMap escapedChar

theorem toNat_lt_of_not_isText {c : Char} (h : isText c = false) : c.toNat < 0x80 := by
  simp only [isText, Bool.or_eq_false_iff, Bool.and_eq_false_iff, decide_eq_false_iff_not,
    bne_eq_false_iff_eq] at h
  omega

theorem spelledChar_escapedChar (c : Char) : SpelledChar c (escapedChar c) := by
  unfold escapedChar
  split
  · next hspecial =>
    obtain rfl | rfl := hspecial
    · exact .short (by decide)
    · exact .short (by decide)
  · next hspecial =>
    split
    · next htext =>
      exact .plain htext (fun h => hspecial (Or.inl h)) fun h => hspecial (Or.inr h)
    · next htext =>
      have hsmall := toNat_lt_of_not_isText (by simpa using htext)
      have hhigh : c.toNat / 16 < 16 := by omega
      have hlow : c.toNat % 16 < 16 := by omega
      refine .four rfl ?_ ?_
      · intro d hd
        simp only [List.mem_cons, List.not_mem_nil, or_false] at hd
        rcases hd with rfl | rfl | rfl | rfl
        · decide
        · decide
        · exact Numeral.isDigit_digitChar (by decide) hhigh
        · exact Numeral.isDigit_digitChar (by decide) hlow
      · have hzero : Numeral.digitValue? '0' = some 0 := by decide
        simp only [Numeral.value, List.foldl_cons, List.foldl_nil, hzero,
          Numeral.digitValue?_digitChar hhigh, Numeral.digitValue?_digitChar hlow,
          Option.getD_some]
        omega

theorem spelled_escaped (cs : List Char) : Spelled cs (escaped cs) := by
  induction cs with
  | nil => exact .nil
  | cons c cs ih => exact .cons (spelledChar_escapedChar c) ih

/-! ### Numbers -/

/-- What may stand behind a value that ends its line: a line end, or nothing. -/
theorem lineEnd_cases {rest next : List Char} (h : lineEnd rest = some next) :
    (rest = [] ∧ next = []) ∨ rest = '\n' :: next ∨ rest = '\r' :: '\n' :: next := by
  unfold lineEnd at h
  split at h
  · exact Or.inl ⟨rfl, (Option.some.inj h).symm⟩
  · unfold lineBreak at h
    split at h
    · exact Or.inr (Or.inl (by rw [Option.some.inj h]))
    · exact Or.inr (Or.inr (by rw [Option.some.inj h]))
    · cases h

/-- A character that stands behind a value at the end of its line. -/
theorem head_of_lineEnd {c : Char} {more next : List Char} (h : lineEnd (c :: more) = some next) :
    c = '\n' ∨ c = '\r' := by
  obtain ⟨hnil, -⟩ | hfeed | hreturn := lineEnd_cases h
  · cases hnil
  · exact Or.inl (List.cons.inj hfeed).1
  · exact Or.inr (List.cons.inj hreturn).1

/-- What starts with a character of a class does not start with one outside of it. -/
theorem cons_ne_of_class {p : Char → Bool} {c d : Char} (hc : p c = true) (hd : p d = false)
    {cs ds : List Char} : c :: cs ≠ d :: ds := by
  intro h
  rw [(List.cons.inj h).1, hd] at hc
  cases hc

/-- The digits of a number go on up to the end of the line. -/
theorem moreDigits_append {ds rest next : List Char}
    (hdigits : ∀ d ∈ ds, Numeral.isDigit 10 d = true) (hend : lineEnd rest = some next) :
    moreDigits 10 (ds ++ rest) = some (ds, rest) := by
  induction ds with
  | nil => obtain ⟨rfl, -⟩ | rfl | rfl := lineEnd_cases hend <;> rfl
  | cons d ds ih =>
      have hd := hdigits d List.mem_cons_self
      rw [List.cons_append, moreDigits, if_pos hd,
        ih fun e he => hdigits e (List.mem_cons_of_mem d he)]
      · rfl
      · -- an underscore is read apart, and is no digit
        rintro c more rfl -
        exact absurd hd (by decide)

/-- A date or a time has a hyphen or a colon right behind its first digits. -/
theorem isMoment_stop {cs : List Char} (h : isMoment cs = true) :
    ∃ c more, cs.dropWhile (Numeral.isDigit 10) = c :: more ∧ (c = '-' ∨ c = ':') := by
  have hcolon : Numeral.isDigit 10 ':' = false := by decide
  have hhyphen : Numeral.isDigit 10 '-' = false := by decide
  unfold isMoment at h
  split at h
  · next a b c rest =>
    simp only [List.all_cons, List.all_nil, Bool.and_true, Bool.and_eq_true, Bool.or_eq_true,
      beq_iff_eq] at h
    obtain ⟨⟨ha, hb⟩, rfl | ⟨hc, hrest⟩⟩ := h
    · exact ⟨':', rest, by simp [ha, hb, hcolon], Or.inr rfl⟩
    · split at hrest
      · next d more => exact ⟨'-', more, by simp [ha, hb, hc, hrest, hhyphen], Or.inl rfl⟩
      · cases hrest
  · cases h

theorem isMoment_append {ds rest next : List Char}
    (hdigits : ∀ d ∈ ds, Numeral.isDigit 10 d = true) (hend : lineEnd rest = some next) :
    isMoment (ds ++ rest) = false := by
  rw [Bool.eq_false_iff]
  intro h
  obtain ⟨c, more, hdrop, hc⟩ := isMoment_stop h
  rw [List.dropWhile_append_of_pos hdigits] at hdrop
  -- neither of the two stands at the end of a line
  obtain ⟨rfl, -⟩ | rfl | rfl := lineEnd_cases hend
  · cases hdrop
  · cases hdrop
    exact absurd hc (by decide)
  · cases hdrop
    exact absurd hc (by decide)

theorem wholeDigits_append {d : Char} {ds rest next : List Char}
    (hdigits : ∀ e ∈ d :: ds, Numeral.isDigit 10 e = true) (hzero : d = '0' → ds = [])
    (hend : lineEnd rest = some next) :
    wholeDigits (d :: (ds ++ rest)) = some (d :: ds, rest) := by
  have hd := hdigits d List.mem_cons_self
  have hmore := moreDigits_append (fun e he => hdigits e (List.mem_cons_of_mem d he)) hend
  unfold wholeDigits
  split
  · next heq =>
    cases heq
    rw [hzero rfl]
    rfl
  · rw [digitRun, if_pos hd, hmore]
    rfl

theorem integer?_of_lt {n : Nat} (h : n < 0x8000000000000000) : integer? n = some (.integer n) := by
  unfold integer?
  rw [if_pos]
  omega

theorem isFloatTail_of_lineEnd {rest next : List Char} (h : lineEnd rest = some next) :
    isFloatTail rest = false := by
  obtain ⟨rfl, -⟩ | rfl | rfl := lineEnd_cases h <;> rfl

/-- A zero that ends its line is no mark of another base, and a digit is neither a sign nor the
start of a word. -/
theorem number_eq_decimalNumber {d : Char} {ds rest next : List Char}
    (hd : Numeral.isDigit 10 d = true) (hzero : d = '0' → ds = [])
    (hend : lineEnd rest = some next) :
    number (d :: (ds ++ rest)) = decimalNumber false (d :: (ds ++ rest)) := by
  have hsign : sign (d :: (ds ++ rest)) = (false, d :: (ds ++ rest)) := by
    unfold sign
    split
    · next heq => exact absurd heq (cons_ne_of_class hd (by decide))
    · next heq => exact absurd heq (cons_ne_of_class hd (by decide))
    · rfl
  have hmark : ∀ {c : Char} {more : List Char}, d :: (ds ++ rest) = '0' :: c :: more →
      c = '\n' ∨ c = '\r' := by
    intro c more heq
    obtain ⟨hd0, hrest⟩ := List.cons.inj heq
    rw [hzero hd0, List.nil_append] at hrest
    rw [hrest] at hend
    exact head_of_lineEnd hend
  unfold number
  split
  · next heq => exact absurd (hmark heq) (by decide)
  · next heq => exact absurd (hmark heq) (by decide)
  · next heq => exact absurd (hmark heq) (by decide)
  · rw [hsign]
    dsimp only
    split
    · next heq => exact absurd heq (cons_ne_of_class hd (by decide))
    · next heq => exact absurd heq (cons_ne_of_class hd (by decide))
    · rfl

/-- The decimal digits of a number below `2 ^ 63` read as the number. -/
theorem number_digits {n : Nat} (h : n < 0x8000000000000000) {rest next : List Char}
    (hend : lineEnd rest = some next) :
    number (Nat.toDigits 10 n ++ rest) = some (.integer n, rest) := by
  have hdigits := Numeral.isDigit_of_mem_toDigits (b := 10) (by decide) (by decide) n
  have hvalue := Numeral.value_toDigits (b := 10) (by decide) (by decide) n
  have hhead : ∀ d ds, Nat.toDigits 10 n = d :: ds → d = '0' → ds = [] := by
    rintro d ds hcons rfl
    -- a zero in front is the whole number, as there are no leading zeros
    have hn : n = 0 :=
      Numeral.eq_zero_of_head_toDigits (b := 10) (by decide) (by decide) (by rw [hcons]; rfl)
    rw [hn, Nat.toDigits_zero] at hcons
    exact (List.cons.inj hcons).2.symm
  obtain ⟨d, ds, hcons, hd⟩ :=
    Numeral.exists_toDigits_eq_cons (b := 10) (by decide) (by decide) n
  have hzero := hhead d ds hcons
  rw [hcons] at hdigits hvalue ⊢
  rw [List.cons_append, number_eq_decimalNumber hd hzero hend]
  unfold decimalNumber
  simp [wholeDigits_append hdigits hzero hend, isFloatTail_of_lineEnd hend, hvalue,
    integer?_of_lt h]

/-! ### Values -/

/-- These are the ways to write a string or a natural number as a value. -/
inductive Written : Value → List Char → Prop where
  | string {cs ws : List Char} (h : Spelled cs ws) :
    Written (.string (String.ofList cs)) ('"' :: (ws ++ ['"']))
  | integer {n : Nat} (h : n < 0x8000000000000000) : Written (.integer n) (Nat.toDigits 10 n)

/-- What opens neither an array nor an inline table is a scalar. -/
theorem value_eq_scalar {cs : List Char} (hlist : ∀ more, cs ≠ '[' :: more)
    (htable : ∀ more, cs ≠ '\x7b' :: more) (depth : Nat) : value depth cs = scalar cs := by
  cases depth with
  | zero =>
      unfold value
      split
      · exact absurd rfl (hlist _)
      · exact absurd rfl (htable _)
      · rfl
  | succ depth =>
      unfold value
      split
      · exact absurd rfl (hlist _)
      · exact absurd rfl (htable _)
      · rfl

/-- What starts with a digit and is no date or time is a number. -/
theorem scalar_eq_number {d : Char} {cs : List Char} (hd : Numeral.isDigit 10 d = true)
    (hmoment : isMoment (d :: cs) = false) : scalar (d :: cs) = number (d :: cs) := by
  unfold scalar
  split
  · next heq => exact absurd heq (cons_ne_of_class hd (by decide))
  · next heq => exact absurd heq (cons_ne_of_class hd (by decide))
  · next heq => exact absurd heq (cons_ne_of_class hd (by decide))
  · next heq => exact absurd heq (cons_ne_of_class hd (by decide))
  · rw [hmoment]
    rfl

/-- A value is read as it is written, up to the end of its line. -/
theorem value_written {x : Value} {v : List Char} (h : Written x v) {rest next : List Char}
    (hend : lineEnd rest = some next) (depth : Nat) :
    value depth (v ++ rest) = some (x, rest) := by
  cases h with
  | @string cs ws h =>
      have hrest : rest.head? ≠ some '"' := by
        obtain ⟨rfl, -⟩ | rfl | rfl := lineEnd_cases hend <;> simp
      have hread := string_spelled h hrest
      have hscalar : scalar ('"' :: (ws ++ '"' :: rest)) = some (.string (String.ofList cs), rest) := by
        unfold scalar
        simp only [hread, Option.map_some]
      rw [List.cons_append, List.append_assoc, List.singleton_append,
        value_eq_scalar (by simp) (by simp)]
      exact hscalar
  | @integer n h =>
      have hdigits := Numeral.isDigit_of_mem_toDigits (b := 10) (by decide) (by decide) n
      have hread := number_digits h hend
      have hmoment := isMoment_append hdigits hend
      obtain ⟨d, ds, hcons, hd⟩ :=
        Numeral.exists_toDigits_eq_cons (b := 10) (by decide) (by decide) n
      rw [hcons] at hread hmoment ⊢
      rw [List.cons_append] at hread hmoment ⊢
      rw [value_eq_scalar (fun _ => cons_ne_of_class hd (by decide))
        fun _ => cons_ne_of_class hd (by decide), scalar_eq_number hd hmoment]
      exact hread

end TapeProbe.Toml

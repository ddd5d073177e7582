/-!
# Numerals

Natural numbers as digits in a base from two to sixteen, most significant digit first and
without leading zeros. Everything the program prints in decimal or hexadecimal has the digits of
`Nat.toDigits`; everything it reads goes through `value`.

`value_toDigits` says that a written number reads back as itself, and `isDigit_run` that it can be
read up to the first character that is not a digit.
-/

namespace TapeProbe.Numeral

/-- The value of a digit of either case; a character that is no digit has none. -/
def digitValue? (c : Char) : Option Nat :=
  if '0' ≤ c ∧ c ≤ '9' then some (c.toNat - 48)
  else if 'a' ≤ c ∧ c ≤ 'f' then some (c.toNat - 87)
  else if 'A' ≤ c ∧ c ≤ 'F' then some (c.toNat - 55)
  else none

/-- Is the character a digit in base `b`? -/
def isDigit (b : Nat) (c : Char) : Bool :=
  match digitValue? c with
  | some d => d < b
  | none => false

/-- The number that a list of digits stands for in base `b`. -/
def value (b : Nat) (cs : List Char) : Nat :=
  cs.foldl (fun n c => n * b + (digitValue? c).getD 0) 0

/-- Decimal text. -/
def decimal (n : Nat) : String := n.repr

/-- Lower-case hexadecimal text, without a mark. -/
def hex (n : Nat) : String := String.ofList (Nat.toDigits 16 n)

/-- Lower-case hexadecimal text behind `0x`. -/
def markedHex (n : Nat) : String := "0x" ++ hex n

/-- Decimal text of an integer, with a minus sign when it is negative. -/
def signed (i : Int) : String := i.repr

/-! ### Reading back -/

theorem digitValue?_digitChar {d : Nat} (h : d < 16) :
    digitValue? (Nat.digitChar d) = some d := by
  have all : ∀ d : Fin 16, digitValue? (Nat.digitChar d.val) = some d.val := by decide
  exact all ⟨d, h⟩

theorem isDigit_digitChar {b d : Nat} (hb : b ≤ 16) (h : d < b) :
    isDigit b (Nat.digitChar d) = true := by
  simp [isDigit, digitValue?_digitChar (Nat.lt_of_lt_of_le h hb), h]

theorem value_append_singleton (b : Nat) (cs : List Char) (c : Char) :
    value b (cs ++ [c]) = value b cs * b + (digitValue? c).getD 0 := by
  simp [value, List.foldl_append]

/-- What holds of single digits, and of a number if it holds of the number without its last digit,
holds of all numbers. -/
@[elab_as_elim]
theorem toDigits_induction {b : Nat} (hb : 2 ≤ b) {motive : (n : Nat) → List Char → Prop}
    (single : ∀ d, d < b → motive d [d.digitChar])
    (snoc : ∀ n, b ≤ n → motive (n / b) (b.toDigits (n / b)) →
      motive n (b.toDigits (n / b) ++ [(n % b).digitChar]))
    (n : Nat) : motive n (b.toDigits n) := by
  induction n using Nat.strongRecOn with
  | ind n ih =>
    by_cases hn : n < b
    · rw [Nat.toDigits_of_lt_base hn]
      exact single n hn
    · rw [Nat.toDigits_of_base_le hb (Nat.le_of_not_lt hn)]
      exact snoc n (Nat.le_of_not_lt hn) (ih (n / b) (Nat.div_lt_self (by omega) hb))

/-- A written number reads back as itself. -/
theorem value_toDigits {b : Nat} (hb : 2 ≤ b) (hb' : b ≤ 16) (n : Nat) :
    value b (b.toDigits n) = n := by
  induction n using toDigits_induction hb with
  | single d hd => simp [value, digitValue?_digitChar (Nat.lt_of_lt_of_le hd hb')]
  | snoc n _ ih =>
    have hm : n % b < 16 := Nat.lt_of_lt_of_le (Nat.mod_lt _ (by omega)) hb'
    rw [value_append_singleton, ih, digitValue?_digitChar hm, Option.getD_some]
    exact Nat.div_add_mod' n b

/-- Every character of a written number is a digit of its base. -/
theorem isDigit_of_mem_toDigits {b : Nat} (hb : 2 ≤ b) (hb' : b ≤ 16) (n : Nat) :
    ∀ c ∈ b.toDigits n, isDigit b c = true := by
  induction n using toDigits_induction hb with
  | single d hd =>
    intro c hc
    rw [List.mem_singleton.1 hc]
    exact isDigit_digitChar hb' hd
  | snoc n _ ih =>
    intro c hc
    rcases List.mem_append.1 hc with hc | hc
    · exact ih c hc
    · rw [List.mem_singleton.1 hc]
      exact isDigit_digitChar hb' (Nat.mod_lt _ (by omega))

/-- A written number starts with a digit. -/
theorem exists_toDigits_eq_cons {b : Nat} (hb : 2 ≤ b) (hb' : b ≤ 16) (n : Nat) :
    ∃ d ds, b.toDigits n = d :: ds ∧ isDigit b d = true := by
  have hdigits := isDigit_of_mem_toDigits hb hb' n
  obtain ⟨d, ds, hcons⟩ := List.exists_cons_of_ne_nil (Nat.toDigits_ne_nil (n := n) (b := b))
  rw [hcons] at hdigits
  exact ⟨d, ds, hcons, hdigits d List.mem_cons_self⟩

/-- Only zero starts with a zero. -/
theorem eq_zero_of_head_toDigits {b n : Nat} (hb : 2 ≤ b) (hb' : b ≤ 16)
    (h : (b.toDigits n).head? = some '0') : n = 0 := by
  revert h
  induction n using toDigits_induction hb with
  | single d hd =>
    intro h
    have hvalue := digitValue?_digitChar (Nat.lt_of_lt_of_le hd hb')
    rw [Option.some.inj h] at hvalue
    exact (Option.some.inj hvalue).symm
  | snoc n hn ih =>
    intro h
    obtain ⟨c, cs, hcons, -⟩ := exists_toDigits_eq_cons hb hb' (n / b)
    rw [hcons] at h ih
    have hquot : n / b = 0 := ih h
    -- there are digits before the last one because the number is not below the base
    rcases Nat.div_eq_zero_iff.1 hquot with hzero | hlt
    · omega
    · omega

/-- Digits are read up to the first character that is not one. -/
theorem isDigit_run {b : Nat} {ds after : List Char} (hds : ∀ d ∈ ds, isDigit b d = true)
    (hafter : ∀ c ∈ after.head?, isDigit b c = false) :
    (ds ++ after).takeWhile (isDigit b) = ds ∧ (ds ++ after).dropWhile (isDigit b) = after := by
  rw [List.takeWhile_append_of_pos hds, List.dropWhile_append_of_pos hds]
  cases after with
  | nil => simp
  | cons c after =>
    have hc : ¬ isDigit b c = true := by simp [hafter c rfl]
    rw [List.takeWhile_cons_of_neg hc, List.dropWhile_cons_of_neg hc, List.append_nil]
    exact ⟨rfl, rfl⟩

end TapeProbe.Numeral

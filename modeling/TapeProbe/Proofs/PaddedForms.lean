import Mathlib.Data.List.Infix
import TapeProbe.Pointer

/-!
# Padded forms

Padding adds fill to a number and changes nothing else. Where a form adds fill is said without
counting (`Padding.Allows`): zeros between the mark and the digits, or a fill character on the side
that the alignment leaves, where a centred text has as much on its right as on its left or one more.
The length then leaves one text (`HexForm.Padded.eq_of_length`), and this is the text that is
written (`HexForm.write_eq_ok_iff`).

A reader that knows nothing about the form finds the number in it (`HexForm.readBack`): fill is
passed over, and zeros in front do not count.

A width beyond the largest one is refused, and then there is no text.
-/

namespace TapeProbe

/-! ### Digits -/

namespace Numeral

/-- Zeros in front do not count. -/
theorem value_zeros_append (k : Nat) (ds : List Char) :
    value 16 (List.replicate k '0' ++ ds) = value 16 ds := by
  induction k with
  | zero => rfl
  | succ k ih =>
      have hzero : digitValue? '0' = some 0 := by decide
      rw [List.replicate_succ, List.cons_append, value, List.foldl_cons, hzero]
      exact ih

end Numeral

/-! ### What padding adds -/

namespace Padding

/-- How many characters are added to a form, and where. -/
structure Added where
  /-- Fill before the whole form. -/
  left : Nat
  /-- Zeros between the mark and the digits. -/
  zeros : Nat
  /-- Fill behind the whole form. -/
  right : Nat

/-- All characters that are added. -/
def Added.total (a : Added) : Nat := a.left + a.zeros + a.right

/-- The fill character. Where a form has none, it is not used. -/
def char : Padding → Char
  | .fill c _ _ => c
  | _ => ' '

/-- Where padding may add characters: without a width nowhere, as zeros behind the mark, or as fill
on the side that the alignment leaves; in the centre the odd one goes to the right. -/
def Allows : Padding → Added → Prop
  | .none, a => a.left = 0 ∧ a.zeros = 0 ∧ a.right = 0
  | .zeros _, a => a.left = 0 ∧ a.right = 0
  | .fill _ .left _, a => a.left = 0 ∧ a.zeros = 0
  | .fill _ .right _, a => a.zeros = 0 ∧ a.right = 0
  | .fill _ .centre _, a => a.zeros = 0 ∧ (a.right = a.left ∨ a.right = a.left + 1)

/-- The characters that are added when so many are missing. -/
def added (missing : Nat) : Padding → Added
  | .none => ⟨0, 0, 0⟩
  | .zeros _ => ⟨0, missing, 0⟩
  | .fill _ .left _ => ⟨0, 0, missing⟩
  | .fill _ .right _ => ⟨missing, 0, 0⟩
  | .fill _ .centre _ => ⟨missing / 2, 0, missing - missing / 2⟩

theorem allows_added (p : Padding) (missing : Nat) : p.Allows (p.added missing) := by
  cases p with
  | none => exact ⟨rfl, rfl, rfl⟩
  | zeros width => exact ⟨rfl, rfl⟩
  | fill c align width =>
      cases align with
      | left => exact ⟨rfl, rfl⟩
      | right => exact ⟨rfl, rfl⟩
      | centre =>
          have hhalves : missing - missing / 2 = missing / 2
              ∨ missing - missing / 2 = missing / 2 + 1 := by omega
          exact ⟨rfl, hhalves⟩

/-- How many are added decides where. -/
theorem Allows.eq_of_total {p : Padding} {a b : Added} (ha : p.Allows a) (hb : p.Allows b)
    (htotal : a.total = b.total) : a = b := by
  obtain ⟨left, zeros, right⟩ := a
  obtain ⟨left', zeros', right'⟩ := b
  simp only [Added.total] at htotal
  rw [Added.mk.injEq]
  rcases p with _ | _ | ⟨_, _ | _ | _, _⟩ <;> simp only [Allows] at ha hb <;> omega

end Padding

namespace HexForm

/-- The form with nothing added: sign and mark, and the hexadecimal digits of the number. -/
def bare (form : HexForm) (n : Nat) : List Char := form.lead ++ Nat.toDigits 16 n

/-- The form with characters added to it. -/
def filled (form : HexForm) (n : Nat) (a : Padding.Added) : List Char :=
  List.replicate a.left form.padding.char
    ++ (form.lead
      ++ (List.replicate a.zeros '0'
        ++ (Nat.toDigits 16 n ++ List.replicate a.right form.padding.char)))

/-- The text is the bare form of the number with fill added where the form wants it, and nothing
else. -/
def Padded (form : HexForm) (n : Nat) (text : List Char) : Prop :=
  ∃ a, form.padding.Allows a ∧ text = form.filled n a

theorem length_filled (form : HexForm) (n : Nat) (a : Padding.Added) :
    (form.filled n a).length = (form.bare n).length + a.total := by
  simp only [filled, bare, Padding.Added.total, List.length_append, List.length_replicate]
  omega

/-- What is laid out is the bare form, filled up to the width. -/
theorem layout_eq_filled (form : HexForm) (n : Nat) :
    form.layout n
      = form.filled n (form.padding.added (form.padding.width - (form.bare n).length)) := by
  obtain ⟨plus, mark, padding⟩ := form
  simp only [layout, filled, bare]
  rcases padding with _ | width | ⟨c, _ | _ | _, width⟩ <;>
    simp [Padding.added, Padding.width, Padding.char, Align.pad, lead]

theorem length_layout (form : HexForm) (n : Nat) :
    (form.layout n).length = max form.padding.width (form.bare n).length := by
  rw [layout_eq_filled, length_filled]
  rcases form.padding with _ | width | ⟨c, _ | _ | _, width⟩ <;>
    simp only [Padding.added, Padding.Added.total, Padding.width] <;> omega

theorem padded_layout (form : HexForm) (n : Nat) : form.Padded n (form.layout n) :=
  ⟨_, form.padding.allows_added _, form.layout_eq_filled n⟩

/-- The length leaves no choice. -/
theorem Padded.eq_of_length {form : HexForm} {n : Nat} {text other : List Char}
    (h : form.Padded n text) (h' : form.Padded n other) (hlength : text.length = other.length) :
    text = other := by
  obtain ⟨a, ha, rfl⟩ := h
  obtain ⟨b, hb, rfl⟩ := h'
  rw [length_filled, length_filled] at hlength
  rw [ha.eq_of_total hb (by omega)]

/-- What is written is the one padded text of the right length. -/
theorem write_eq_ok_iff {form : HexForm} {n : Nat} {text : List Char} :
    form.write n = .ok text ↔
      form.padding.width ≤ maxWidth
      ∧ text.length = max form.padding.width (form.bare n).length ∧ form.Padded n text := by
  unfold write
  by_cases hwidth : form.padding.width ≤ maxWidth
  · rw [if_pos hwidth]
    constructor
    · intro h
      cases h
      exact ⟨hwidth, form.length_layout n, form.padded_layout n⟩
    · rintro ⟨-, hlength, hpadded⟩
      rw [(form.padded_layout n).eq_of_length hpadded ((form.length_layout n).trans hlength.symm)]
  · rw [if_neg hwidth]
    exact ⟨fun h => (by cases h), fun h => absurd h.1 hwidth⟩

theorem write_eq_error_iff {form : HexForm} {n : Nat} {e : Error} :
    form.write n = .error e ↔ maxWidth < form.padding.width := by
  unfold write
  by_cases hwidth : form.padding.width ≤ maxWidth
  · rw [if_pos hwidth]
    exact ⟨fun h => (by cases h), fun h => absurd hwidth (Nat.not_le.mpr h)⟩
  · rw [if_neg hwidth]
    exact ⟨fun _ => Nat.not_le.mp hwidth, fun _ => (by cases e; rfl)⟩

/-! ### Reading back -/

/-- The number in a hexadecimal text: what stands before the first digit is passed over, and so is a
mark; the digits from there on are read. -/
def readBack (text : List Char) : Nat :=
  let body := text.dropWhile fun c => !Numeral.isDigit 16 c
  Numeral.value 16 (((body.dropPrefix? ['0', 'x']).getD body).takeWhile (Numeral.isDigit 16))

/-- A character that is not taken for a part of a number. -/
def IsApart (c : Char) : Prop := Numeral.isDigit 16 c = false ∧ c ≠ 'x'

instance : DecidablePred IsApart := fun _ => inferInstanceAs (Decidable (_ ∧ _))

/-- A form whose fill is not taken for a part of the number. -/
def Legible (form : HexForm) : Prop := IsApart form.padding.char

instance : DecidablePred Legible := fun _ => inferInstanceAs (Decidable (IsApart _))

-- blanks and asterisks can be told from a number, which an `f` cannot
example : IsApart ' ' ∧ IsApart '*' ∧ ¬ IsApart 'f' := by
  decide

/-- Digits without a mark are not taken for a mark. -/
theorem dropPrefix?_mark_eq_none {ds after : List Char}
    (hds : ∀ d ∈ ds, Numeral.isDigit 16 d = true) (hafter : ∀ c ∈ after, IsApart c) :
    (ds ++ after).dropPrefix? ['0', 'x'] = none := by
  have hsecond : (ds ++ after)[1]? ≠ some 'x' := by
    intro h
    rcases List.mem_append.mp (List.mem_of_getElem? h) with hmem | hmem
    · exact absurd (hds 'x' hmem) (by decide)
    · exact (hafter 'x' hmem).2 rfl
  rw [Option.eq_none_iff_forall_ne_some]
  intro rest hrest
  obtain ⟨mark, htext, hmark⟩ := List.dropPrefix?_eq_some_iff.mp hrest
  rw [htext, eq_of_beq hmark] at hsecond
  exact hsecond rfl

/-- The text is passed over up to its first digit. -/
theorem readBack_append {before body : List Char}
    (hbefore : ∀ c ∈ before, Numeral.isDigit 16 c = false)
    (hbody : ∃ d rest, body = d :: rest ∧ Numeral.isDigit 16 d = true) :
    readBack (before ++ body)
      = Numeral.value 16
          (((body.dropPrefix? ['0', 'x']).getD body).takeWhile (Numeral.isDigit 16)) := by
  obtain ⟨d, rest, rfl, hd⟩ := hbody
  have hskip : (before ++ d :: rest).dropWhile (fun c => !Numeral.isDigit 16 c) = d :: rest := by
    rw [List.dropWhile_append_of_pos fun c hc => by simp [hbefore c hc],
      List.dropWhile_cons_of_neg (by simp [hd])]
  rw [readBack, hskip]

/-- A number is read back from between characters that are not taken for a part of it. -/
theorem readBack_marked {before ds after : List Char} (mark : Bool)
    (hbefore : ∀ c ∈ before, Numeral.isDigit 16 c = false)
    (hds : ∀ d ∈ ds, Numeral.isDigit 16 d = true) (hne : ds ≠ [])
    (hafter : ∀ c ∈ after, IsApart c) :
    readBack (before ++ ((if mark then ['0', 'x'] else []) ++ (ds ++ after)))
      = Numeral.value 16 ds := by
  have hrun : (ds ++ after).takeWhile (Numeral.isDigit 16) = ds :=
    (Numeral.isDigit_run hds fun c hc => (hafter c (List.mem_of_mem_head? hc)).1).1
  cases mark with
  | true =>
      have hmark : (['0', 'x'] ++ (ds ++ after)).dropPrefix? ['0', 'x'] = some (ds ++ after) :=
        List.dropPrefix?_eq_some_iff.mpr ⟨['0', 'x'], rfl, by decide⟩
      have hfirst : ∃ d rest, ['0', 'x'] ++ (ds ++ after) = d :: rest
          ∧ Numeral.isDigit 16 d = true := ⟨'0', _, rfl, by decide⟩
      rw [if_pos rfl, readBack_append hbefore hfirst, hmark, Option.getD_some, hrun]
  | false =>
      have hfirst : ∃ d rest, ds ++ after = d :: rest ∧ Numeral.isDigit 16 d = true := by
        obtain ⟨d, more, rfl⟩ := List.exists_cons_of_ne_nil hne
        exact ⟨d, _, rfl, hds d List.mem_cons_self⟩
      rw [if_neg Bool.false_ne_true, List.nil_append, readBack_append hbefore hfirst,
        dropPrefix?_mark_eq_none hds hafter, Option.getD_none, hrun]

/-- Whatever is added, the number is read back. -/
theorem Padded.readBack {form : HexForm} {n : Nat} {text : List Char} (h : form.Padded n text)
    (hlegible : form.Legible) : HexForm.readBack text = n := by
  obtain ⟨a, -, rfl⟩ := h
  have hfill : ∀ k, ∀ c ∈ List.replicate k form.padding.char, IsApart c := by
    intro k c hc
    rw [List.eq_of_mem_replicate hc]
    exact hlegible
  have hbefore : ∀ c ∈ List.replicate a.left form.padding.char
      ++ (if form.plus then ['+'] else []), Numeral.isDigit 16 c = false := by
    intro c hc
    rcases List.mem_append.mp hc with hc | hc
    · exact (hfill _ c hc).1
    · have hplus : c = '+' := by
        split at hc
        · exact List.mem_singleton.mp hc
        · cases hc
      rw [hplus]
      decide
  have hds : ∀ d ∈ List.replicate a.zeros '0' ++ Nat.toDigits 16 n,
      Numeral.isDigit 16 d = true := by
    intro d hd
    rcases List.mem_append.mp hd with hd | hd
    · rw [List.eq_of_mem_replicate hd]
      decide
    · exact Numeral.isDigit_of_mem_toDigits (by decide) (by decide) n d hd
  have hne : List.replicate a.zeros '0' ++ Nat.toDigits 16 n ≠ [] :=
    List.append_ne_nil_of_right_ne_nil _ Nat.toDigits_ne_nil
  have hread := readBack_marked form.mark hbefore hds hne (hfill a.right)
  rw [Numeral.value_zeros_append, Numeral.value_toDigits (by decide) (by decide)] at hread
  simp only [List.append_assoc] at hread
  rw [filled, lead, List.append_assoc]
  exact hread

/-- The text is how the number is printed in that form. -/
structure Renders (form : HexForm) (n : Nat) (text : String) : Prop where
  /-- It has as many characters as the form wants, or as the bare form has. -/
  length : text.length = max form.padding.width (form.bare n).length
  /-- It is the bare form with fill added in its place. -/
  padded : form.Padded n text.toList
  /-- It reads as the number, unless the fill would be taken for a part of it. -/
  reads : form.Legible → readBack text.toList = n

/-- Length and fill are enough: reading follows. -/
theorem renders_of_filled {form : HexForm} {n : Nat} {text : String} (a : Padding.Added)
    (ha : form.padding.Allows a) (htext : text.toList = form.filled n a)
    (hlength : text.length = max form.padding.width (form.bare n).length) :
    form.Renders n text := by
  have hpadded : form.Padded n text.toList := ⟨a, ha, htext⟩
  exact ⟨hlength, hpadded, hpadded.readBack⟩

end HexForm

/-! ### Pointers -/

namespace DataPointer

variable {p : DataPointer} {form : HexForm}

theorem hex_eq_ok_iff {text : String} :
    p.hex form = .ok text ↔ form.write p.addr.toNat = .ok text.toList := by
  unfold hex
  cases form.write p.addr.toNat with
  | ok cs =>
      have hlist : String.ofList cs = text ↔ cs = text.toList :=
        ⟨fun h => by rw [← h, String.toList_ofList], fun h => by rw [h, String.ofList_toList]⟩
      simpa [Except.map] using hlist
  | error e => simp [Except.map]

theorem hex_eq_error_iff {e : HexForm.Error} :
    p.hex form = .error e ↔ form.write p.addr.toNat = .error e := by
  unfold hex
  cases form.write p.addr.toNat <;> simp [Except.map]

/-- **Padding keeps the pointer.** Whatever the address, and whatever the form: with a sign, with a
mark, as it is, with zeros up to a width, or with a fill character on the left, on the right or on
both sides up to a width.

* For a width of at most 65535 there is a text, and it is the only one that has as many characters
  as the width, or as the bare form if that is longer, and is the bare form of the address with
  nothing but fill in its place: zeros between the mark and the digits, or the fill character
  outside the whole form, the odd one on the right. So the address can be read off again, if the
  fill character is neither a digit nor an `x`.
* A wider form is refused, and nothing is printed. -/
theorem padding_keeps_pointer (p : DataPointer) (form : HexForm) :
    (form.padding.width ≤ 65535 → ∃ text, p.hex form = .ok text)
    ∧ (∀ text, p.hex form = .ok text ↔
        form.padding.width ≤ 65535 ∧ form.Renders p.addr.toNat text)
    ∧ (65535 < form.padding.width → p.hex form = .error .widthOutOfRange) := by
  have hexact : ∀ text, p.hex form = .ok text ↔
      form.padding.width ≤ 65535 ∧ form.Renders p.addr.toNat text := by
    intro text
    rw [hex_eq_ok_iff, HexForm.write_eq_ok_iff, String.length_toList]
    constructor
    · rintro ⟨hwidth, hlength, hpadded⟩
      exact ⟨hwidth, hlength, hpadded, hpadded.readBack⟩
    · rintro ⟨hwidth, hrenders⟩
      exact ⟨hwidth, hrenders.length, hrenders.padded⟩
  refine ⟨fun hwidth => ?_, hexact, fun hwidth => ?_⟩
  · refine ⟨String.ofList (form.layout p.addr.toNat), hex_eq_ok_iff.mpr ?_⟩
    rw [String.toList_ofList]
    exact HexForm.write_eq_ok_iff.mpr ⟨hwidth, form.length_layout _, form.padded_layout _⟩
  · exact hex_eq_error_iff.mpr (HexForm.write_eq_error_iff.mpr hwidth)

/-- Asterisks around an address, one more on the right; zeros behind its mark; and blanks up to a
width that the address has already. -/
theorem padding_keeps_pointer_nine_wide :
    hex ⟨0xbeef⟩ { mark := true, padding := .fill '*' .centre 9 } = .ok "*0xbeef**"
    ∧ hex ⟨0xbeef⟩ { mark := true, padding := .zeros 9 } = .ok "0x000beef"
    ∧ hex ⟨0xbeef⟩ { padding := .fill ' ' .right 4 } = .ok "beef"
    ∧ HexForm.readBack "*0xbeef**".toList = 0xbeef := by
  have hcentre : HexForm.Renders { mark := true, padding := .fill '*' .centre 9 } 0xbeef
      "*0xbeef**" :=
    HexForm.renders_of_filled ⟨1, 0, 2⟩ ⟨rfl, Or.inr rfl⟩ (by decide) (by decide)
  have hzeros : HexForm.Renders { mark := true, padding := .zeros 9 } 0xbeef "0x000beef" :=
    HexForm.renders_of_filled ⟨0, 3, 0⟩ ⟨rfl, rfl⟩ (by decide) (by decide)
  have hblanks : HexForm.Renders { padding := .fill ' ' .right 4 } 0xbeef "beef" :=
    HexForm.renders_of_filled ⟨0, 0, 0⟩ ⟨rfl, rfl⟩ (by decide) (by decide)
  obtain ⟨-, hcentred, -⟩ :=
    padding_keeps_pointer ⟨0xbeef⟩ { mark := true, padding := .fill '*' .centre 9 }
  obtain ⟨-, hzeroed, -⟩ := padding_keeps_pointer ⟨0xbeef⟩ { mark := true, padding := .zeros 9 }
  obtain ⟨-, hblank, -⟩ := padding_keeps_pointer ⟨0xbeef⟩ { padding := .fill ' ' .right 4 }
  exact ⟨(hcentred _).mpr ⟨by decide, hcentre⟩, (hzeroed _).mpr ⟨by decide, hzeros⟩,
    (hblank _).mpr ⟨by decide, hblanks⟩, hcentre.reads (by decide)⟩

/-- One character more than the largest width: there is no text of that length, nor any other. -/
theorem hex_beyond_largest_width :
    ¬ ∃ text, hex ⟨255⟩ { mark := true, padding := .zeros 65536 } = .ok text
      ∧ HexForm.Renders { mark := true, padding := .zeros 65536 } 255 text := by
  rintro ⟨text, hhex, -⟩
  have hrefused : hex ⟨255⟩ { mark := true, padding := .zeros 65536 } = .error .widthOutOfRange :=
    hex_eq_error_iff.mpr (HexForm.write_eq_error_iff.mpr (by decide))
  rw [hrefused] at hhex
  cases hhex

end DataPointer

end TapeProbe

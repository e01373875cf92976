import ComponentAssembly.Numeral.Decimal
import Mathlib.Data.List.Induction
import Mathlib.Data.Nat.Digits.Defs
import Mathlib.Data.Rat.Defs
import Mathlib.Tactic.IntervalCases

/-! The texts that spell a decimal number, their characters in ASCII, and what is left of them without
the underscores. -/

namespace ComponentAssembly.Numeral

open Text

/-- The number that digits write in base ten. -/
def valueOf (ds : List Nat) : Nat := Nat.ofDigits 10 ds.reverse

/-- A row of digits of any script that writes these values. An underscore may stand between two
of them. -/
inductive DigitRow : List Char → List Nat → Prop
  | single {c d} (h : digitValue? c = some d) : DigitRow [c] [d]
  | more {c d s ds} (h : digitValue? c = some d) (rest : DigitRow s ds) :
      DigitRow (c :: s) (d :: ds)
  | apart {c d s ds} (h : digitValue? c = some d) (rest : DigitRow s ds) :
      DigitRow (c :: '_' :: s) (d :: ds)

/-- A row of digits that may be missing. -/
def MaybeRow (s : List Char) (ds : List Nat) : Prop := DigitRow s ds ∨ (s = [] ∧ ds = [])

/-- A sign, which may be missing, of a number that is negative or not. -/
inductive SignOf : List Char → Bool → Prop
  | missing : SignOf [] false
  | plus : SignOf ['+'] false
  | minus : SignOf ['-'] true

/-- The digits of a number in front of the point and behind it. One side may be missing, and the
point with the side behind it. -/
inductive DigitsOf : List Char → List Nat → List Nat → Prop
  | whole {s ds} (h : DigitRow s ds) : DigitsOf s ds []
  | pointed {s t ds es} (hs : MaybeRow s ds) (ht : MaybeRow t es) (h : ds ++ es ≠ []) :
      DigitsOf (s ++ '.' :: t) ds es

/-- A power of ten, which may be missing, with this exponent. -/
inductive PowerOf : List Char → Int → Prop
  | missing : PowerOf [] 0
  | marked {mark sign negative s ds} (hm : mark = 'e' ∨ mark = 'E') (hs : SignOf sign negative)
      (hd : DigitRow s ds) :
      PowerOf (mark :: (sign ++ s)) (if negative then -(valueOf ds : Int) else valueOf ds)

/-- A text spells a decimal number of this sign and magnitude, with blanks around it. -/
inductive Spells (text : String) : Bool → ℚ → Prop
  | numeral {before sign digits power after negative whole part k}
      (h : text.toList = before ++ (sign ++ (digits ++ power)) ++ after)
      (hb : ∀ c ∈ before, isBlank c = true) (hs : SignOf sign negative)
      (hd : DigitsOf digits whole part) (hp : PowerOf power k)
      (ha : ∀ c ∈ after, isBlank c = true) :
      Spells text negative (valueOf (whole ++ part) * 10 ^ (k - part.length))

/-- The four information separators, which are blank but do not stand around a numeral. -/
def isInformationSeparator (c : Char) : Bool := 0x1C ≤ c.toNat && c.toNat ≤ 0x1F

variable {c : Char} {d : Nat} {ds es : List Nat} {s t u : List Char} {negative : Bool} {k : Int}
  {text : String}

theorem isInformationSeparator_eq_false_iff :
    isInformationSeparator c = false ↔ c.toNat < 0x1C ∨ 0x20 ≤ c.toNat := by
  simp only [isInformationSeparator, Bool.and_eq_false_iff, decide_eq_false_iff_not]
  omega

theorem ofDigits_eq (ds : List Nat) : ofDigits ds = valueOf ds := by
  induction ds using List.reverseRecOn with
  | nil => rfl
  | append_singleton ds d ih =>
    rw [valueOf, List.reverse_concat, Nat.ofDigits_cons, ← valueOf, ← ih, ofDigits, ofDigits,
      List.foldl_append]
    simp only [List.foldl_cons, List.foldl_nil]
    omega

/-! ### Characters in ASCII -/

/-- The ASCII digit of a value. -/
def asciiDigit (d : Nat) : Char := Char.ofNat (0x30 + d)

/-- Digits in ASCII. -/
def asciiDigits (ds : List Nat) : List Char := ds.map asciiDigit

theorem isDigit_asciiDigit (h : d < 10) : (asciiDigit d).isDigit = true := by
  interval_cases d <;> rfl

theorem toNat_asciiDigit (h : d < 10) : (asciiDigit d).toNat - 0x30 = d := by
  interval_cases d <;> rfl

theorem isDigit_iff : c.isDigit = true ↔ 0x30 ≤ c.toNat ∧ c.toNat ≤ 0x39 := by
  simp only [Char.isDigit, Bool.and_eq_true, decide_eq_true_eq, ge_iff_le, UInt32.le_iff_toNat_le]
  exact Iff.rfl

/-- The digits of every script are written in ASCII by their values. -/
theorem plainChar_of_digit (h : digitValue? c = some d) : plainChar c = asciiDigit d := by
  have hfirst : ∀ base ∈ digitZeros, base < 0x80 → base = 0x30 := by decide
  have hclear : ∀ base ∈ digitZeros, ∀ range ∈ blankCodes, range.2 < base ∨ base + 10 ≤ range.1 := by
    decide
  have hv := h
  obtain ⟨base, hz, rfl⟩ := Option.map_eq_some_iff.1 h
  have hmem := List.mem_of_find?_eq_some hz
  have hbounds := List.find?_some hz
  simp only [Bool.and_eq_true, decide_eq_true_eq] at hbounds
  unfold plainChar
  by_cases hc : c.toNat < 0x80
  · have hzero := hfirst base hmem (by omega)
    rw [if_pos hc, asciiDigit, hzero, Nat.add_sub_cancel' (by omega), Char.ofNat_toNat]
  · have hblank : isBlank c = false := by
      rw [Bool.eq_false_iff, isBlank, ne_eq, CodeRanges.covers_iff]
      rintro ⟨range, hr, hl, hu⟩
      have := hclear base hmem range hr
      omega
    rw [if_neg hc, if_neg (by simp [hblank]), hv]
    rfl

theorem DigitRow.lt (h : DigitRow s ds) : ∀ d ∈ ds, d < 10 := by
  induction h with
  | single h => simpa using digitValue?_lt h
  | more h _ ih | apart h _ ih => exact List.forall_mem_cons.2 ⟨digitValue?_lt h, ih⟩

theorem MaybeRow.lt (h : MaybeRow s ds) : ∀ d ∈ ds, d < 10 := by
  rcases h with h | ⟨-, rfl⟩
  · exact h.lt
  · simp

theorem DigitRow.ne_nil (h : DigitRow s ds) : ds ≠ [] := by
  cases h <;> exact List.cons_ne_nil _ _

theorem isDigit_of_mem (h : ∀ d ∈ ds, d < 10) (hc : c ∈ asciiDigits ds) : c.isDigit = true := by
  obtain ⟨d, hd, rfl⟩ := List.mem_map.1 hc
  exact isDigit_asciiDigit (h d hd)

theorem ofDigitChars_asciiDigits (h : ∀ d ∈ ds, d < 10) :
    ofDigitChars (asciiDigits ds) = valueOf ds := by
  have hmap : (asciiDigits ds).map (fun c => c.toNat - 0x30) = ds := by
    rw [asciiDigits, List.map_map]
    exact (List.map_congr_left fun d hd => toNat_asciiDigit (h d hd)).trans (List.map_id ds)
  rw [ofDigitChars, hmap, ofDigits_eq]

/-- The blanks that are no information separators may surround a numeral. -/
theorem isMargin_plainChar (h : isBlank c = true) (hs : isInformationSeparator c = false) :
    isMargin (plainChar c) = true := by
  obtain ⟨range, hr, hl, hu⟩ := CodeRanges.covers_iff.1 h
  unfold plainChar
  by_cases hc : c.toNat < 0x80
  · have hlow : ∀ range ∈ blankCodes, range.1 < 0x80 → range = (0x9, 0xD) ∨ range = (0x1C, 0x20) := by
      decide
    rw [if_pos hc]
    rw [isInformationSeparator_eq_false_iff] at hs
    simp only [isMargin, Bool.or_eq_true, Bool.and_eq_true, decide_eq_true_eq]
    rcases hlow range hr (by omega) with rfl | rfl
    · exact .inr ⟨hl, hu⟩
    · refine .inl (Char.toNat_inj.1 ?_)
      change c.toNat = 0x20
      omega
  · rw [if_neg hc, if_pos h]
    rfl

/-- The characters of a numeral in ASCII. -/
def IsNumeralChar (c : Char) : Prop := c.isDigit = true ∨ c ∈ ['+', '-', '.', 'e', 'E']

theorem IsNumeralChar.code (h : IsNumeralChar c) : 0x2B ≤ c.toNat := by
  rcases h with h | h
  · have := isDigit_iff.1 h
    omega
  · simp only [List.mem_cons, List.not_mem_nil, or_false] at h
    rcases h with rfl | rfl | rfl | rfl | rfl <;> decide

theorem isMargin_of_code (h : 0x20 < c.toNat) : isMargin c = false := by
  simp only [isMargin, Bool.or_eq_false_iff, Bool.and_eq_false_iff, decide_eq_false_iff_not]
  refine ⟨?_, by omega⟩
  rintro rfl
  exact absurd h (by decide)

/-! ### Underscores -/

/-- Without its underscores a text is another one, whatever ordinary character stands in front of
it and whatever follows. -/
def CleansTo (s t : List Char) : Prop :=
  ∀ before, before ≠ '_' → ∃ last, last ≠ '_' ∧
    ∀ rest, withoutSeparators? before (s ++ rest) = (withoutSeparators? last rest).map (t ++ ·)

theorem withoutSeparators?_digit (h : c.isDigit = true) (before : Char) (rest : List Char) :
    withoutSeparators? before (c :: rest) = (withoutSeparators? c rest).map (c :: ·) := by
  have hc : c ≠ '_' := by
    rintro rfl
    simp at h
  simp [withoutSeparators?, hc, h]

theorem CleansTo.append {s' t' : List Char} (h : CleansTo s t) (h' : CleansTo s' t') :
    CleansTo (s ++ s') (t ++ t') := by
  intro before hb
  obtain ⟨middle, hm, hs⟩ := h before hb
  obtain ⟨last, hl, ht⟩ := h' middle hm
  refine ⟨last, hl, fun rest => ?_⟩
  rw [List.append_assoc, hs, ht, Option.map_map]
  congr 1
  funext r
  exact (List.append_assoc ..).symm

/-- A text that has no underscores stays. -/
theorem cleansTo_self (h : '_' ∉ s) : CleansTo s s := by
  induction s with
  | nil => exact fun before hb => ⟨before, hb, fun rest => by simp⟩
  | cons c s ih =>
    rw [List.mem_cons, not_or] at h
    have hc : c ≠ '_' := Ne.symm h.1
    intro before hb
    obtain ⟨last, hl, hs⟩ := ih h.2 c hc
    refine ⟨last, hl, fun rest => ?_⟩
    simp only [List.cons_append, withoutSeparators?, if_neg hc, hb, hs, decide_false, Bool.false_and,
      Bool.false_eq_true, if_false, Option.map_map, Function.comp_def]

/-- The digits of a row stay, in front of which even an underscore may stand. -/
theorem DigitRow.withoutSeparators? (h : DigitRow s ds) (before : Char) :
    ∃ last, last ≠ '_' ∧ ∀ rest, Numeral.withoutSeparators? before (s.map plainChar ++ rest) =
      (Numeral.withoutSeparators? last rest).map (asciiDigits ds ++ ·) := by
  have hstep {c d} (h : digitValue? c = some d) (before : Char) (rest : List Char) :
      Numeral.withoutSeparators? before (plainChar c :: rest) =
        (Numeral.withoutSeparators? (asciiDigit d) rest).map (asciiDigit d :: ·) := by
    rw [plainChar_of_digit h]
    exact withoutSeparators?_digit (isDigit_asciiDigit (digitValue?_lt h)) before rest
  -- Behind an underscore the rest of the row is met with the underscore in front of it.
  induction h generalizing before with
  | single h =>
    refine ⟨_, ?_, hstep h before⟩
    intro he
    have := isDigit_asciiDigit (digitValue?_lt h)
    rw [he] at this
    simp at this
  | more h _ ih =>
    obtain ⟨last, hl, hs⟩ := ih (asciiDigit _)
    refine ⟨last, hl, fun rest => ?_⟩
    rw [List.map_cons, List.cons_append, hstep h, hs, Option.map_map]
    rfl
  | apart h _ ih =>
    obtain ⟨last, hl, hs⟩ := ih '_'
    refine ⟨last, hl, fun rest => ?_⟩
    have hd := isDigit_asciiDigit (digitValue?_lt h)
    rw [List.map_cons, List.cons_append, hstep h, List.map_cons, List.cons_append]
    change Option.map _ (Numeral.withoutSeparators? _ ('_' :: _)) = _
    rw [Numeral.withoutSeparators?, if_pos rfl, if_pos hd, hs, Option.map_map]
    rfl

theorem DigitRow.cleansTo (h : DigitRow s ds) : CleansTo (s.map plainChar) (asciiDigits ds) :=
  fun before _ => h.withoutSeparators? before

theorem MaybeRow.cleansTo (h : MaybeRow s ds) : CleansTo (s.map plainChar) (asciiDigits ds) := by
  rcases h with h | ⟨rfl, rfl⟩
  · exact h.cleansTo
  · exact cleansTo_self (by simp)

theorem SignOf.cleansTo (h : SignOf s negative) : CleansTo (s.map plainChar) s := by
  have hs : s.map plainChar = s := by cases h <;> rfl
  rw [hs]
  apply cleansTo_self
  cases h <;> decide

theorem CleansTo.withoutSeparators? (h : CleansTo s t) :
    Numeral.withoutSeparators? ' ' s = some t := by
  obtain ⟨last, hl, hs⟩ := h ' ' (by decide)
  rw [← List.append_nil s, hs, Numeral.withoutSeparators?, if_neg hl]
  simp

end ComponentAssembly.Numeral

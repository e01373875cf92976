import ComponentAssembly.Proofs.Lowering
import ComponentAssembly.Proofs.ReadingIntegers

/-! The texts that are read as truth values are those that spell their names in ASCII, each letter in
either case, with blanks around them: no letter of another script stands for one of ASCII there. -/

namespace ComponentAssembly

open Numeral Text

namespace Text

variable {c l : Char} {s w letters before after : List Char} {code : Nat} {word text : String}

/-- A word with each of its letters as it is or as a capital of ASCII. -/
def InEitherCase (w letters : List Char) : Prop :=
  List.Forall₂ (fun l c => c = l ∨ c = l.toUpper) w letters

/-- A text spells a word: its letters, each in either case, with blanks around them. -/
inductive SpellsWord (word text : String) : Prop
  | spelling {before letters after : List Char} (h : text.toList = before ++ letters ++ after)
      (hb : ∀ c ∈ before, isBlank c = true) (hl : InEitherCase word.toList letters)
      (ha : ∀ c ∈ after, isBlank c = true) : SpellsWord word text

/-- The words that are spelled in ASCII alone: of small letters, without the one that is also the
lower-case form of the Kelvin sign. -/
def IsPlainWord (w : List Char) : Prop := ∀ l ∈ w, l.isLower = true ∧ l ≠ 'k'

/-! ### Letters of other scripts -/

/-- Only the capitals of ASCII have their lower-case forms there, and the Kelvin sign. -/
theorem caseRuns_leave_ascii : ∀ r ∈ caseRuns,
    r.last < 0x80 ∨ 0x80 ≤ r.image ∨ r.image = 0x6B ∧ r.first = r.last := by
  decide +kernel

theorem ascii_of_lowerCode (h : lowerCode code < 0x80) (hk : lowerCode code ≠ 0x6B) :
    code < 0x80 := by
  obtain ⟨hs, -⟩ | ⟨r, hr, hi⟩ := lowerCode_cases code
  · omega
  · obtain ⟨⟨hfirst, hlast, -⟩, himage⟩ := CaseRun.lower?_eq_some_iff.1 hi
    have := caseRuns_leave_ascii r hr
    omega

/-- A character whose lower-case form is in ASCII, and not the letter of the Kelvin sign, is in ASCII.
The dotted capital I has a combining dot in its form. -/
theorem ascii_of_lowerChar (h : ∀ d ∈ lowerChar c, d.toNat < 0x80 ∧ d ≠ 'k') : c.toNat < 0x80 := by
  by_cases hc : c = 'İ'
  · subst hc
    exact absurd (h '\u0307' (by decide +kernel)).1 (by decide)
  · obtain ⟨d, hd, hcode, -⟩ := exists_lowerChar hc
    obtain ⟨hlow, hk⟩ := h d (by simp [hd])
    refine ascii_of_lowerCode (hcode ▸ hlow) fun he => hk ?_
    rw [← Char.toNat_inj, hcode, he]
    rfl

/-- A text whose lower case is in ASCII, and without the letter of the Kelvin sign, is in ASCII. -/
theorem ascii_of_lowerAfter (h : ∀ d ∈ lowerAfter before s, d.toNat < 0x80 ∧ d ≠ 'k') :
    ∀ c ∈ s, c.toNat < 0x80 := by
  induction s generalizing before with
  | nil => simp
  | cons c s ih =>
    rw [lowerAfter, List.forall_mem_append] at h
    refine List.forall_mem_cons.2 ⟨?_, ih h.2⟩
    by_cases hc : c = 'Σ'
    · -- Both forms of the sigma are beyond ASCII.
      have hsigma := (h.1 (lowerSigma before s) (by simp [hc])).1
      obtain he | he := lowerSigma_cases before s
      · exact absurd hsigma (by rw [he]; decide)
      · exact absurd hsigma (by rw [he]; decide)
    · rw [if_neg hc] at h
      exact ascii_of_lowerChar h.1

/-! ### Words in either case -/

theorem toLower_eq_iff (hl : l.isLower = true) : c.toLower = l ↔ c = l ∨ c = l.toUpper := by
  have hsmall : l.toLower = l := Char.toLower_eq_of_not_isUpper (Char.not_isUpper_of_isLower hl)
  constructor
  · rintro rfl
    rw [Char.toUpper_toLower_eq_toUpper]
    by_cases hu : c.isUpper = true
    · exact .inr (Char.toUpper_eq_of_not_isLower (Char.not_isLower_of_isUpper hu)).symm
    · exact .inl (Char.toLower_eq_of_not_isUpper hu).symm
  · rintro (rfl | rfl)
    · exact hsmall
    · rw [Char.toLower_toUpper_eq_toLower, hsmall]

theorem map_toLower_eq_iff (hw : ∀ l ∈ w, l.isLower = true) :
    letters.map Char.toLower = w ↔ InEitherCase w letters := by
  induction w generalizing letters with
  | nil => simp [InEitherCase]
  | cons l w ih =>
    rw [List.forall_mem_cons] at hw
    cases letters with
    | nil => simp [InEitherCase]
    | cons c letters =>
      rw [InEitherCase, List.forall₂_cons, List.map_cons, List.cons.injEq, toLower_eq_iff hw.1,
        ih hw.2, InEitherCase]

/-- The letters of a word stand in ASCII and are no blanks. -/
theorem InEitherCase.alphanum (h : InEitherCase w letters) (hw : ∀ l ∈ w, l.isLower = true) :
    ∀ c ∈ letters, c.isAlphanum = true := by
  obtain rfl := (map_toLower_eq_iff hw).2 h
  intro c hc
  have hlower := hw c.toLower (List.mem_map_of_mem hc)
  rw [Char.isLower_toLower_eq_isAlpha] at hlower
  rw [Char.isAlphanum, hlower, Bool.true_or]

theorem InEitherCase.ascii (h : InEitherCase w letters) (hw : ∀ l ∈ w, l.isLower = true) :
    ∀ c ∈ letters, c.toNat < 0x80 := fun c hc => toNat_lt_of_isAlphanum (h.alphanum hw c hc)

/-- In lower case a text is a plain word exactly if it is that word in either case. -/
theorem lower_eq_iff (hw : IsPlainWord w) : lower letters = w ↔ InEitherCase w letters := by
  have hsmall : ∀ l ∈ w, l.isLower = true := fun l hl => (hw l hl).1
  constructor
  · intro h
    have hascii : ∀ c ∈ letters, c.toNat < 0x80 := by
      have hplain : ∀ d ∈ lower letters, d.toNat < 0x80 ∧ d ≠ 'k' := by
        rw [h]
        intro d hd
        have := isLower_iff.1 (hsmall d hd)
        exact ⟨by omega, (hw d hd).2⟩
      exact ascii_of_lowerAfter hplain
    rwa [lower_ascii hascii, map_toLower_eq_iff hsmall] at h
  · intro h
    rwa [lower_ascii (h.ascii hsmall), map_toLower_eq_iff hsmall]

/-- The letter that plain words are without has a spelling outside ASCII. -/
example : lower ['\u212A'] = ['k'] := by decide +kernel

/-! ### Blanks around words -/

theorem isBlank_of_isAlphanum (h : c.isAlphanum = true) : isBlank c = false := by
  have hblank : ∀ range ∈ blankCodes, range.2 < 0x30 ∨ 0x80 ≤ range.1 := by decide
  have hlow : 0x30 ≤ c.toNat := by
    simp only [Char.isAlphanum, Char.isAlpha, Bool.or_eq_true] at h
    rcases h with (h | h) | h
    · have := isUpper_iff.1 h
      omega
    · have := isLower_iff.1 h
      omega
    · exact (isDigit_iff.1 h).1
  have hhigh := toNat_lt_of_isAlphanum h
  rw [Bool.eq_false_iff, isBlank, ne_eq, CodeRanges.covers_iff]
  rintro ⟨range, hr, hl, hu⟩
  have := hblank range hr
  omega

/-- Without the blanks around it and in lower case, a text is a plain word exactly if it spells it. -/
theorem lower_trimBy_eq_iff (hw : IsPlainWord word.toList) (hne : word.toList ≠ []) :
    lower (trimBy isBlank text.toList) = word.toList ↔ SpellsWord word text := by
  have hsmall : ∀ l ∈ word.toList, l.isLower = true := fun l hl => (hw l hl).1
  constructor
  · intro h
    obtain ⟨u, v, htext, hu, hv⟩ := exists_trimBy isBlank text.toList
    exact .spelling htext hu ((lower_eq_iff hw).1 h) hv
  · rintro ⟨htext, hb, hl, ha⟩
    have hclear := fun c hc => isBlank_of_isAlphanum (hl.alphanum hsmall c hc)
    have hletters := (map_toLower_eq_iff hsmall).2 hl
    rw [htext, trimBy_surrounded hb hclear ha, lower_eq_iff hw]
    · exact hl
    · rintro rfl
      exact hne hletters.symm

/-- A character of three pieces of a text stands in the middle one, or with all before it in the first,
or with all behind it in the last. -/
theorem mem_of_pieces {first middle last : List Char}
    (h : first ++ middle ++ last = before ++ c :: after) :
    before ++ [c] <+: first ∨ c ∈ middle ∨ c :: after <:+ last := by
  have hfirst : first <+: before ++ c :: after := ⟨middle ++ last, by simp [← h]⟩
  have hlast : last <:+ before ++ c :: after := ⟨first ++ middle, h⟩
  by_cases hf : before.length < first.length
  · left
    exact List.prefix_of_prefix_length_le ⟨after, by simp⟩ hfirst (by simpa using hf)
  by_cases hl : after.length < last.length
  · right; right
    exact List.suffix_of_suffix_length_le ⟨before, rfl⟩ hlast (by simpa using hl)
  · obtain ⟨x, rfl⟩ : first <+: before :=
      List.prefix_of_prefix_length_le hfirst ⟨c :: after, rfl⟩ (by omega)
    obtain ⟨y, rfl⟩ : last <:+ after :=
      List.suffix_of_suffix_length_le hlast ⟨first ++ x ++ [c], by simp⟩ (by omega)
    right; left
    have hmiddle : middle ++ last = (x ++ c :: y) ++ last := by simpa using h
    rw [List.append_cancel_right hmiddle]
    simp

/-- In a text that spells a word all characters beyond ASCII are blanks in front of it or behind it. -/
theorem SpellsWord.foreign (h : SpellsWord word text)
    (hw : ∀ l ∈ word.toList, l.isLower = true) (ht : text.toList = before ++ c :: after)
    (hc : 0x80 ≤ c.toNat) :
    (∀ b ∈ before ++ [c], isBlank b = true) ∨ ∀ b ∈ c :: after, isBlank b = true := by
  obtain ⟨htext, hb, hl, ha⟩ := h
  obtain hfirst | hmiddle | hlast := mem_of_pieces (htext.symm.trans ht)
  · exact .inl fun b hmem => hb b (hfirst.subset hmem)
  · have := hl.ascii hw c hmiddle
    omega
  · exact .inr fun b hmem => ha b (hlast.subset hmem)

end Text

/-! ### Truth values -/

variable {text : String}

/-- The name of a truth value. -/
def flagName (b : Bool) : String := if b then "true" else "false"

theorem isPlainWord_flagName (b : Bool) : IsPlainWord (flagName b).toList := by
  cases b <;> simp [IsPlainWord, flagName]

/-- The truth value that is read is the one whose name the text spells. -/
theorem readFlag?_eq_some_iff (b : Bool) :
    readFlag? text = some b ↔ SpellsWord (flagName b) text := by
  have hne : (flagName b).toList ≠ [] := by cases b <;> simp [flagName]
  rw [← lower_trimBy_eq_iff (isPlainWord_flagName b) hne, readFlag?]
  generalize lower (trimBy isBlank text.toList) = name
  by_cases ht : name = "true".toList
  · cases b <;> simp [flagName, ht]
  · by_cases hf : name = "false".toList
    · cases b <;> simp [flagName, hf]
    · cases b <;> simp_all [flagName]

theorem parseFor_flag (parameter text : String) :
    ScalarType.flag.parseFor parameter text = match readFlag? text with
      | none => .error (.unconvertible parameter text .flag (.noFlag text))
      | some b => .ok (.flag b) := by
  rw [ScalarType.parseFor, ScalarType.parse]
  cases readFlag? text <;> rfl

/-- A text becomes a truth value exactly if it spells the name of that value in ASCII, each letter in
either case, with blanks around it. Any other text is refused with the name of the parameter. Where one
is read, no character beyond ASCII stands anywhere but among the blanks in front or behind. -/
theorem flags_read_by_name (parameter text : String) :
    (ScalarType.flag.parseFor parameter text = .ok (.flag true) ↔ SpellsWord "true" text) ∧
    (ScalarType.flag.parseFor parameter text = .ok (.flag false) ↔ SpellsWord "false" text) ∧
    (¬ SpellsWord "true" text → ¬ SpellsWord "false" text →
      ∃ f, ScalarType.flag.parseFor parameter text = .error f ∧ f.kind = .config .coercion ∧
        f.identifier? = some parameter ∧
        f.causeNote? = some ("'" ++ text ++ "' is not 'true' or 'false'")) ∧
    ∀ v, ScalarType.flag.parseFor parameter text = .ok v → ∀ before c after,
      text.toList = before ++ c :: after → 0x80 ≤ c.toNat →
        (∀ b ∈ before ++ [c], isBlank b = true) ∨ ∀ b ∈ c :: after, isBlank b = true := by
  have htrue : _ ↔ SpellsWord "true" text := readFlag?_eq_some_iff true
  have hfalse : _ ↔ SpellsWord "false" text := readFlag?_eq_some_iff false
  rw [← htrue, ← hfalse, parseFor_flag]
  cases hr : readFlag? text with
  | none =>
    exact ⟨by simp, by simp, fun _ _ => ⟨_, rfl, rfl, rfl, rfl⟩, by simp⟩
  | some b =>
    refine ⟨by simp, by simp, by cases b <;> simp, ?_⟩
    intro v _ before c after ht hc
    have hsmall : ∀ l ∈ (flagName b).toList, l.isLower = true :=
      fun l hl => (isPlainWord_flagName b l hl).1
    exact ((readFlag?_eq_some_iff b).1 hr).foreign hsmall ht hc

end ComponentAssembly

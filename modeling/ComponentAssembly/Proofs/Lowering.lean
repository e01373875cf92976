import ComponentAssembly.Proofs.LowerCase

/-! Lower case in every script: what has been put into it stays as it is, and it makes no capital of
ASCII and no sign of ASCII that was not there. -/

namespace ComponentAssembly.Text

variable {c d : Char} {r q : CaseRun} {s before : List Char} {code image : Nat}

/-! ### The lower-case form of a code point -/

/-- The lower-case forms that one run gives are no letters of another one: they lie before these, behind
them or between them. -/
def CaseRun.clears (r q : CaseRun) : Bool :=
  (r.image + (r.last - r.first)).blt q.first || q.last.blt r.image ||
    (q.stride == 2 && (r.stride == 2 || r.first == r.last) && (r.image + q.first) % 2 == 1)

/-- The lower-case forms that a run gives are characters behind the capitals of ASCII, and none of them
is the dotted capital I. -/
def CaseRun.GivesLetters (r : CaseRun) : Prop :=
  0x61 ≤ r.image ∧
    (r.image + (r.last - r.first) < 0x130 ∨
      0x130 < r.image ∧ r.image + (r.last - r.first) < 0xD800 ∨
      0xDFFF < r.image ∧ r.image + (r.last - r.first) < 0x110000)

instance CaseRun.decidableGivesLetters (r : CaseRun) : Decidable r.GivesLetters :=
  inferInstanceAs (Decidable (_ ∧ _))

theorem caseRuns_clear : ∀ r ∈ caseRuns, ∀ q ∈ caseRuns, r.clears q = true := by
  have h : (caseRuns.all fun r => caseRuns.all r.clears) = true := by decide +kernel
  exact fun r hr => List.all_eq_true.1 (List.all_eq_true.1 h r hr)

theorem caseRuns_giveLetters : ∀ r ∈ caseRuns, r.GivesLetters := by decide +kernel

theorem CaseRun.lower?_eq_some_iff : r.lower? code = some image ↔
    (r.first ≤ code ∧ code ≤ r.last ∧ (code - r.first) % r.stride = 0) ∧
      r.image + (code - r.first) = image := by
  rw [CaseRun.lower?]
  split <;> simp_all

/-- A code point is its own lower-case form unless a run gives it another one. -/
theorem lowerCode_cases (code : Nat) :
    (lowerCode code = code ∧ ∀ r ∈ caseRuns, r.lower? code = none) ∨
      ∃ r ∈ caseRuns, r.lower? code = some (lowerCode code) := by
  rw [lowerCode]
  cases h : caseRuns.findSome? (·.lower? code) with
  | none => exact .inl ⟨rfl, List.findSome?_eq_none_iff.1 h⟩
  | some image => exact .inr (List.exists_of_findSome?_eq_some h)

theorem CaseRun.lower?_eq_none (h : r.clears q = true) (hi : r.lower? code = some image) :
    q.lower? image = none := by
  have h : r.image + (r.last - r.first) < q.first ∨ q.last < r.image ∨
      q.stride = 2 ∧ (r.stride = 2 ∨ r.first = r.last) ∧ (r.image + q.first) % 2 = 1 := by
    simpa [CaseRun.clears, or_assoc, and_assoc] using h
  obtain ⟨⟨hfirst, hlast, hstride⟩, rfl⟩ := CaseRun.lower?_eq_some_iff.1 hi
  apply if_neg
  rintro ⟨hq, hq', hgrid⟩
  rcases h with h | h | ⟨hqs, hrs, hodd⟩
  · omega
  · omega
  · have heven : (code - r.first) % 2 = 0 := by
      rcases hrs with hrs | hrs
      · rwa [hrs] at hstride
      · omega
    rw [hqs] at hgrid
    omega

/-- The lower-case form of a code point is its own lower-case form. -/
theorem lowerCode_lowerCode (code : Nat) : lowerCode (lowerCode code) = lowerCode code := by
  obtain ⟨h, -⟩ | ⟨r, hr, hi⟩ := lowerCode_cases code
  · rw [h, h]
  · have hnone : caseRuns.findSome? (·.lower? (lowerCode code)) = none :=
      List.findSome?_eq_none_iff.2 fun q hq =>
        CaseRun.lower?_eq_none (caseRuns_clear r hr q hq) hi
    rw [lowerCode, hnone]
    rfl

/-- A form other than the code point itself is that of a character behind the capitals of ASCII, but not
of the dotted capital I. -/
theorem lowerCode_of_ne (h : lowerCode code ≠ code) :
    0x61 ≤ lowerCode code ∧ (lowerCode code).isValidChar ∧ lowerCode code ≠ 0x130 := by
  obtain ⟨hs, -⟩ | ⟨r, hr, hi⟩ := lowerCode_cases code
  · exact absurd hs h
  · obtain ⟨⟨-, hlast, -⟩, hc⟩ := CaseRun.lower?_eq_some_iff.1 hi
    obtain ⟨hlow, hb⟩ := caseRuns_giveLetters r hr
    rw [Nat.isValidChar]
    omega

/-! ### The lower-case form of a character -/

/-- Any character but the dotted capital I has a form of one character. -/
theorem exists_lowerChar (hc : c ≠ 'İ') :
    ∃ d, lowerChar c = [d] ∧ d.toNat = lowerCode c.toNat ∧ d ≠ 'İ' := by
  refine ⟨Char.ofNat (lowerCode c.toNat), if_neg hc, ?_⟩
  by_cases h : lowerCode c.toNat = c.toNat
  · rw [h, Char.ofNat_toNat]
    exact ⟨rfl, hc⟩
  · obtain ⟨-, hvalid, hne⟩ := lowerCode_of_ne h
    have hnat : (Char.ofNat (lowerCode c.toNat)).toNat = lowerCode c.toNat := by
      rw [Char.toNat_ofNat, if_pos hvalid]
    refine ⟨hnat, fun hd => hne ?_⟩
    rw [← hnat, hd]
    rfl

/-- What a character becomes in lower case stays as it is. -/
theorem lowerChar_of_mem_lowerChar (h : d ∈ lowerChar c) : lowerChar d = [d] := by
  by_cases hc : c = 'İ'
  · subst hc
    have hd : d = 'i' ∨ d = '\u0307' := by simpa [lowerChar] using h
    rcases hd with rfl | rfl <;> decide +kernel
  · obtain ⟨e, he, hcode, hne⟩ := exists_lowerChar hc
    rw [he, List.mem_singleton] at h
    subst h
    rw [lowerChar, if_neg hne, hcode, lowerCode_lowerCode, ← hcode, Char.ofNat_toNat]

/-- A character before the small letters of ASCII is nothing's lower-case form but its own. -/
theorem eq_of_mem_lowerChar (h : d ∈ lowerChar c) (hd : d.toNat < 0x61) : d = c := by
  by_cases hc : c = 'İ'
  · subst hc
    have hd' : d = 'i' ∨ d = '\u0307' := by simpa [lowerChar] using h
    rcases hd' with rfl | rfl <;> exact absurd hd (by decide)
  · obtain ⟨e, he, hcode, -⟩ := exists_lowerChar hc
    rw [he, List.mem_singleton] at h
    subst h
    have hsame : lowerCode c.toNat = c.toNat := by
      by_contra hne
      have := (lowerCode_of_ne hne).1
      omega
    rw [← Char.toNat_inj, hcode, hsame]

/-! ### Lower case of a text -/

theorem lowerSigma_cases (before after : List Char) :
    lowerSigma before after = 'ς' ∨ lowerSigma before after = 'σ' := by
  rw [lowerSigma]
  split
  · exact .inl rfl
  · exact .inr rfl

/-- Each character of a text in lower case is one of a character's form, or a small sigma. -/
theorem mem_lowerAfter (h : d ∈ lowerAfter before s) :
    (∃ c ∈ s, d ∈ lowerChar c) ∨ d = 'ς' ∨ d = 'σ' := by
  induction s generalizing before with
  | nil => cases h
  | cons c s ih =>
    rw [lowerAfter, List.mem_append] at h
    rcases h with h | h
    · split at h
      · rw [List.mem_singleton.1 h]
        exact .inr (lowerSigma_cases before s)
      · exact .inl ⟨c, List.mem_cons_self, h⟩
    · rcases ih h with ⟨b, hb, hd⟩ | hd
      · exact .inl ⟨b, List.mem_cons_of_mem c hb, hd⟩
      · exact .inr hd

theorem lowerChar_of_mem_lower (h : c ∈ lower s) : lowerChar c = [c] := by
  rcases mem_lowerAfter h with ⟨b, -, hb⟩ | rfl | rfl
  · exact lowerChar_of_mem_lowerChar hb
  · decide +kernel
  · decide +kernel

/-- A text of characters that are their own lower-case forms is in lower case. -/
theorem lower_of_lowered (h : ∀ c ∈ s, lowerChar c = [c]) : lower s = s := by
  have hafter (before : List Char) : lowerAfter before s = s := by
    induction s generalizing before with
    | nil => rfl
    | cons c s ih =>
      rw [List.forall_mem_cons] at h
      have hc : c ≠ 'Σ' := by
        rintro rfl
        exact absurd h.1 (by decide +kernel)
      rw [lowerAfter, if_neg hc, h.1, ih h.2, List.singleton_append]
  exact hafter []

/-- Lower case taken twice is lower case taken once. -/
theorem lower_lower (s : List Char) : lower (lower s) = lower s :=
  lower_of_lowered fun _ hc => lowerChar_of_mem_lower hc

/-- There is no capital of ASCII in lower case. -/
theorem not_isUpper_of_mem_lower (h : c ∈ lower s) : c.isUpper = false := by
  by_contra hu
  rw [Bool.not_eq_false] at hu
  have hs := lowerChar_of_mem_lower h
  rw [lowerChar_ascii (by have := isUpper_iff.1 hu; omega), List.cons.injEq] at hs
  have hl : c.isLower = true := by
    rw [← hs.1, Char.isLower_toLower_eq_isAlpha, Char.isAlpha, hu, Bool.true_or]
  exact Char.not_isUpper_of_isLower hl hu

/-- A sign before the small letters of ASCII stands in lower case only where it stood before. -/
theorem mem_of_mem_lower (h : c ∈ lower s) (hc : c.toNat < 0x61) : c ∈ s := by
  rcases mem_lowerAfter h with ⟨b, hb, hcb⟩ | rfl | rfl
  · rwa [eq_of_mem_lowerChar hcb hc]
  · exact absurd hc (by decide)
  · exact absurd hc (by decide)

end ComponentAssembly.Text

import ComponentAssembly.Text.LowerCase
import Mathlib

/-! Lower case of texts in ASCII: it is taken letter by letter. -/

namespace ComponentAssembly.Text

theorem isUpper_iff {c : Char} : c.isUpper = true ↔ 0x41 ≤ c.toNat ∧ c.toNat ≤ 0x5A := by
  simp only [Char.isUpper, decide_eq_true_eq, ge_iff_le, UInt32.le_iff_toNat_le]
  exact Iff.rfl

theorem isLower_iff {c : Char} : c.isLower = true ↔ 0x61 ≤ c.toNat ∧ c.toNat ≤ 0x7A := by
  simp only [Char.isLower, Bool.and_eq_true, decide_eq_true_eq, ge_iff_le, UInt32.le_iff_toNat_le]
  exact Iff.rfl

theorem not_isUpper_of_isDigit {c : Char} (h : c.isDigit = true) : ¬c.isUpper = true := by
  rw [isUpper_iff]
  have : c.toNat ≤ 0x39 := (Char.isDigit_iff_toNat.1 h).2
  omega

/-- Letters and digits are in ASCII. -/
theorem toNat_lt_of_isAlphanum {c : Char} (h : c.isAlphanum = true) : c.toNat < 0x80 := by
  simp only [Char.isAlphanum, Char.isAlpha, Bool.or_eq_true] at h
  rcases h with (h | h) | h
  · have := isUpper_iff.1 h
    omega
  · have := isLower_iff.1 h
    omega
  · have : c.toNat ≤ 0x39 := (Char.isDigit_iff_toNat.1 h).2
    omega

/-- Of the letters in ASCII the capitals have a lower-case form, all at one distance. -/
theorem lowerCode_ascii {code : Nat} (h : code < 0x80) :
    lowerCode code = if 0x41 ≤ code ∧ code ≤ 0x5A then code + 0x20 else code := by
  obtain ⟨others, hruns⟩ : ∃ others, caseRuns = ⟨0x41, 0x5A, 1, 0x61⟩ :: others := ⟨_, rfl⟩
  have hbeyond : ∀ run ∈ caseRuns.tail, 0x80 ≤ run.first := by decide +kernel
  have hnone : others.findSome? (·.lower? code) = none := by
    rw [List.findSome?_eq_none_iff]
    intro run hrun
    rw [hruns] at hbeyond
    have := hbeyond run hrun
    exact if_neg (by omega)
  rw [lowerCode, hruns, List.findSome?_cons, hnone, CaseRun.lower?]
  by_cases hc : 0x41 ≤ code ∧ code ≤ 0x5A
  · rw [if_pos ⟨hc.1, hc.2, Nat.mod_one _⟩, if_pos hc]
    change 0x61 + (code - 0x41) = code + 0x20
    omega
  · rw [if_neg (fun hr => hc ⟨hr.1, hr.2.1⟩), if_neg hc]
    rfl

theorem lowerChar_ascii {c : Char} (h : c.toNat < 0x80) : lowerChar c = [c.toLower] := by
  have hc : c ≠ 'İ' := by
    rintro rfl
    exact absurd h (by decide)
  rw [lowerChar, if_neg hc, lowerCode_ascii h]
  by_cases hu : c.isUpper = true
  · rw [if_pos (isUpper_iff.1 hu), Char.toLower_eq_of_isUpper hu]
  · rw [if_neg (isUpper_iff.not.1 hu), Char.toLower_eq_of_not_isUpper hu, Char.ofNat_toNat]

/-- In ASCII, lower case is taken letter by letter. -/
theorem lower_ascii {s : List Char} (h : ∀ c ∈ s, c.toNat < 0x80) : lower s = s.map Char.toLower := by
  have hafter (before : List Char) : lowerAfter before s = s.map Char.toLower := by
    induction s generalizing before with
    | nil => rfl
    | cons c s ih =>
      rw [List.forall_mem_cons] at h
      have hc : c ≠ 'Σ' := by
        rintro rfl
        exact absurd h.1 (by decide)
      rw [lowerAfter, if_neg hc, lowerChar_ascii h.1, ih h.2, List.map_cons, List.singleton_append]
  exact hafter []

end ComponentAssembly.Text

import ComponentAssembly.Proofs.Lowering
import ComponentAssembly.Proofs.SpellingNames

/-! The name of a setter is in its final form: to name it once more changes nothing. In ASCII nothing
but case and separators is lost on the way to it, and underscores only stand between words. -/

namespace ComponentAssembly

open Text

variable {a b c : Char} {s : List Char}

/-- A name in lower case without its hyphens and underscores. -/
def bareName (name : String) : List Char := lower (name.toList.filter fun c => c ≠ '-' ∧ c ≠ '_')

/-- All characters of a name are in ASCII. -/
def IsAscii (name : String) : Prop := ∀ c ∈ name.toList, c.toNat < 0x80

/-- An underscore stands alone and with something else on either side. -/
structure UnderscoresApart (s : List Char) : Prop where
  first : s.head? ≠ some '_'
  last : s.getLast? ≠ some '_'
  alone : ¬ ['_', '_'] <:+: s

/-! ### Naming once more -/

theorem hyphen_not_mem_snakeCase (s : List Char) : '-' ∉ snakeCase s := by
  intro h
  obtain ⟨c, -, hc⟩ := List.mem_map.1 (mem_of_mem_lower h (by decide))
  rw [underscored] at hc
  split at hc
  · exact absurd hc (by decide)
  · contradiction

theorem map_underscored (h : '-' ∉ s) : s.map underscored = s := by
  conv_rhs => rw [← List.map_id s]
  apply List.map_congr_left
  rintro c hc
  apply if_neg
  rintro rfl
  exact h hc

/-- No step of naming finds anything to do in a name in its final form. -/
theorem snakeCase_snakeCase (s : List Char) : snakeCase (snakeCase s) = snakeCase s := by
  have hcapitals : ∀ c ∈ snakeCase s, c.isUpper = false := fun _ hc => not_isUpper_of_mem_lower hc
  calc snakeCase (snakeCase s)
      = lower ((snakeCase s).map underscored) := by
        rw [snakeCase, separateWords_of_no_capitals hcapitals]
    _ = lower (snakeCase s) := by rw [map_underscored (hyphen_not_mem_snakeCase s)]
    _ = snakeCase s := lower_lower _

/-! ### What is left of a name in ASCII -/

/-- To separate words puts nothing but underscores between them. -/
theorem filter_separatedAfter {keep : Char → Bool} (hk : keep '_' = false) (a : Char)
    (s : List Char) : (separatedAfter a s).filter keep = s.filter keep := by
  induction s generalizing a with
  | nil => rfl
  | cons b s ih =>
    have hb : (if startsWord a b s then ['_', b] else [b]).filter keep = [b].filter keep := by
      split
      · rw [List.filter_cons, hk]
        rfl
      · rfl
    rw [separatedAfter, List.filter_append, ih b, hb, ← List.filter_append]
    rfl

theorem filter_separateWords {keep : Char → Bool} (hk : keep '_' = false) (s : List Char) :
    (separateWords s).filter keep = s.filter keep := by
  cases s with
  | nil => rfl
  | cons a s =>
    rw [separateWords_cons, List.filter_cons, List.filter_cons, filter_separatedAfter hk]

theorem toLower_eq_underscore_iff : c.toLower = '_' ↔ c = '_' := by
  constructor
  · intro h
    cases hu : c.isUpper with
    | false => rwa [Char.toLower_eq_of_not_isUpper (by simp [hu])] at h
    | true =>
      have hl : c.toLower.isLower = true := by
        rw [Char.isLower_toLower_eq_isAlpha, Char.isAlpha, hu, Bool.true_or]
      rw [h] at hl
      exact absurd hl (by decide)
  · rintro rfl
    rfl

/-- Only the separators become underscores. -/
theorem toLower_underscored_eq_underscore_iff :
    (underscored c).toLower = '_' ↔ c = '-' ∨ c = '_' := by
  rw [toLower_eq_underscore_iff, underscored]
  split <;> simp_all

/-- Without its underscores a name in its final form is the name without its separators. -/
theorem filter_snakeCase_ascii (h : ∀ c ∈ s, c.toNat < 0x80) :
    (snakeCase s).filter (· ≠ '_') = lower (s.filter fun c => c ≠ '-' ∧ c ≠ '_') := by
  have hkept : ∀ c ∈ s.filter (fun c => c ≠ '-' ∧ c ≠ '_'),
      (underscored c).toLower = c.toLower := by
    intro c hc
    rw [underscored, if_neg]
    simpa using (of_decide_eq_true (List.mem_filter.1 hc).2).1
  have hascii : ∀ c ∈ s.filter (fun c => c ≠ '-' ∧ c ≠ '_'), c.toNat < 0x80 :=
    fun c hc => h c (List.mem_filter.1 hc).1
  calc (snakeCase s).filter (· ≠ '_')
      = ((separateWords s).map fun c => (underscored c).toLower).filter (· ≠ '_') := by
        rw [snakeCase_ascii h]
    _ = ((separateWords s).filter fun c => c ≠ '-' ∧ c ≠ '_').map
          fun c => (underscored c).toLower := by
        rw [List.filter_map]
        congr 2
        funext c
        simp [toLower_underscored_eq_underscore_iff]
    _ = (s.filter fun c => c ≠ '-' ∧ c ≠ '_').map Char.toLower := by
        rw [filter_separateWords (by decide), List.map_congr_left hkept]
    _ = lower (s.filter fun c => c ≠ '-' ∧ c ≠ '_') := (lower_ascii hascii).symm

/-! ### Where underscores stand -/

theorem UnderscoresApart.nil : UnderscoresApart [] := ⟨by simp, by simp, by simp⟩

theorem UnderscoresApart.singleton (ha : a ≠ '_') : UnderscoresApart [a] :=
  ⟨by simpa using ha, by simpa using ha, by simp [List.infix_cons_iff]⟩

theorem UnderscoresApart.cons (ha : a ≠ '_') (h : UnderscoresApart (b :: s)) :
    UnderscoresApart (a :: b :: s) := by
  refine ⟨by simpa using ha, by simpa using h.last, ?_⟩
  rw [List.infix_cons_iff]
  rintro (hp | hi)
  · exact ha (List.cons_prefix_cons.1 hp).1.symm
  · exact h.alone hi

/-- An underscore may stand in front of what does not begin with one. -/
theorem UnderscoresApart.separated (ha : a ≠ '_') (h : UnderscoresApart (b :: s)) :
    UnderscoresApart (a :: '_' :: b :: s) := by
  have hb : b ≠ '_' := by simpa using h.first
  refine ⟨by simpa using ha, by simpa using h.last, ?_⟩
  rw [List.infix_cons_iff, List.infix_cons_iff]
  rintro (hp | hp | hi)
  · exact ha (List.cons_prefix_cons.1 hp).1.symm
  · exact hb (List.cons_prefix_cons.1 (List.cons_prefix_cons.1 hp).2).1.symm
  · exact h.alone hi

/-- Separated words, with each character changed to what is no underscore. -/
theorem separatedAfter_apart {f : Char → Char} (hf : f '_' = '_') (ha : f a ≠ '_')
    (hs : ∀ c ∈ s, f c ≠ '_') : UnderscoresApart (f a :: (separatedAfter a s).map f) := by
  induction s generalizing a with
  | nil => exact .singleton ha
  | cons b s ih =>
    rw [List.forall_mem_cons] at hs
    have hrest := ih hs.1 hs.2
    rw [separatedAfter]
    split
    · simpa [hf] using hrest.separated ha
    · exact hrest.cons ha

theorem snakeCase_apart (h : ∀ c ∈ s, c.toNat < 0x80) (hs : ∀ c ∈ s, c ≠ '-' ∧ c ≠ '_') :
    UnderscoresApart (snakeCase s) := by
  have hf : ∀ c ∈ s, (underscored c).toLower ≠ '_' := by
    intro c hc
    rw [ne_eq, toLower_underscored_eq_underscore_iff, not_or]
    exact hs c hc
  rw [snakeCase_ascii h]
  cases s with
  | nil => exact .nil
  | cons a s =>
    rw [List.forall_mem_cons] at hf
    rw [separateWords_cons]
    exact separatedAfter_apart (f := fun c => (underscored c).toLower) rfl hf.1 hf.2

/-- The name of the setter for a parameter is the same for what stands in it behind its beginning, where
there is no hyphen and no capital of ASCII. For a name in ASCII that is, underscores apart, the name in
lower case without its separators, so that two such names have one setter only if they agree up to case
and separators. If the name has no separators of its own, underscores only stand between words. -/
theorem setterName_stable (name : String) :
    ∃ s : String, setterName name = "set_" ++ s ∧
      '-' ∉ s.toList ∧ (∀ c ∈ s.toList, c.isUpper = false) ∧
      setterName s = setterName name ∧
      (IsAscii name → s.toList.filter (· ≠ '_') = bareName name ∧
        ∀ other, IsAscii other → setterName other = setterName name →
          bareName other = bareName name) ∧
      (IsAscii name → '-' ∉ name.toList → '_' ∉ name.toList → UnderscoresApart s.toList) := by
  refine ⟨String.ofList (snakeCase name.toList), rfl, ?_⟩
  rw [String.toList_ofList]
  refine ⟨hyphen_not_mem_snakeCase _, fun _ hc => not_isUpper_of_mem_lower hc, ?_, ?_, ?_⟩
  · rw [setterName, setterName, String.toList_ofList, snakeCase_snakeCase]
  · intro hn
    refine ⟨filter_snakeCase_ascii hn, fun other ho hsame => ?_⟩
    have hsnake : snakeCase other.toList = snakeCase name.toList :=
      String.ofList_inj.1 ((String.append_right_inj "set_").1 hsame)
    rw [bareName, bareName, ← filter_snakeCase_ascii ho, ← filter_snakeCase_ascii hn, hsnake]
  · intro hn hhyphen hunderscore
    apply snakeCase_apart hn
    intro c hc
    constructor
    · rintro rfl
      exact hhyphen hc
    · rintro rfl
      exact hunderscore hc

/-- Two spellings with one setter, an acronym in one of them and a hyphen in the other. -/
theorem setterName_stable_size :
    IsAscii "maxHTTPSize" ∧ IsAscii "max-HttpSize" ∧
      setterName "maxHTTPSize" = "set_max_http_size" ∧
      setterName "max-HttpSize" = "set_max_http_size" ∧
      setterName "max_http_size" = "set_max_http_size" ∧
      bareName "max-HttpSize" = bareName "maxHTTPSize" ∧
      UnderscoresApart "max_http_size".toList := by
  have hacronym : IsAscii "maxHTTPSize" := by simp [IsAscii]
  have hhyphen : IsAscii "max-HttpSize" := by simp [IsAscii]
  have hname : setterName "maxHTTPSize" = "set_max_http_size" := by decide +kernel
  have hother : setterName "max-HttpSize" = "set_max_http_size" := by decide +kernel
  obtain ⟨s, hs, -, -, hagain, hascii, hplain⟩ := setterName_stable "maxHTTPSize"
  obtain rfl : s = "max_http_size" :=
    (String.append_right_inj "set_").1 (hs.symm.trans hname)
  exact ⟨hacronym, hhyphen, hname, hother, hagain.trans hname,
    (hascii hacronym).2 _ hhyphen (hother.trans hname.symm), hplain hacronym (by simp) (by simp)⟩

end ComponentAssembly

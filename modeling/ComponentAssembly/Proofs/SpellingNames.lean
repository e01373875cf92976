import ComponentAssembly.Parameter.Naming
import ComponentAssembly.Proofs.LowerCase

/-! The usual spellings of a name, with hyphens, with underscores and with capitals, are those of one
setter: its name is the words of the name between underscores. -/

namespace ComponentAssembly

open Text

/-! ### Words and their spellings -/

/-- A word of a name: small letters and digits, the first one a letter. -/
structure IsWord (w : List Char) : Prop where
  begins : ∃ c ∈ w.head?, c.isLower = true
  chars : ∀ c ∈ w, c.isLower = true ∨ c.isDigit = true

/-- A word with a capital at its beginning. -/
def capitalised : List Char → List Char
  | [] => []
  | c :: w => c.toUpper :: w

/-- A word in capitals. -/
def acronym (w : List Char) : List Char := w.map Char.toUpper

/-- Words one after the other, each of them capitalised or an acronym, behind an acronym or not. The
second character of a capitalised word is a letter, an acronym has no digits, and no acronym follows
upon another one. -/
inductive CapitalWords : Bool → List (List Char) → List Char → Prop
  | nil {after : Bool} : CapitalWords after [] []
  | capitalised {after : Bool} {w : List Char} {words : List (List Char)} {s : List Char}
      (letter : ∃ c ∈ w[1]?, c.isLower = true) (rest : CapitalWords false words s) :
      CapitalWords after (w :: words) (capitalised w ++ s)
  | acronym {w : List Char} {words : List (List Char)} {s : List Char}
      (letters : ∀ c ∈ w, c.isDigit = false) (rest : CapitalWords true words s) :
      CapitalWords false (w :: words) (acronym w ++ s)

/-- Words in camel case: the first one may stand in small letters. -/
inductive CamelCase : List (List Char) → List Char → Prop
  | small {w : List Char} {words : List (List Char)} {s : List Char}
      (rest : CapitalWords false words s) : CamelCase (w :: words) (w ++ s)
  | capital {words : List (List Char)} {s : List Char} (rest : CapitalWords false words s) :
      CamelCase words s

variable {a b c : Char} {v w s : List Char} {words : List (List Char)} {after : Bool}

theorem IsWord.alphanum (hw : IsWord w) (hc : c ∈ w) : c.isAlphanum = true := by
  rcases hw.chars c hc with h | h <;> simp [Char.isAlphanum, Char.isAlpha, h]

theorem IsWord.not_upper (hw : IsWord w) (hc : c ∈ w) : c.isUpper = false := by
  rw [← Bool.not_eq_true]
  rcases hw.chars c hc with h | h
  · exact Char.not_isUpper_of_isLower h
  · exact not_isUpper_of_isDigit h

theorem IsWord.map_toLower (hw : IsWord w) : w.map Char.toLower = w := by
  conv_rhs => rw [← List.map_id w]
  apply List.map_congr_left
  intro c hc
  exact Char.toLower_eq_of_not_isUpper (by simp [hw.not_upper hc])

theorem IsWord.exists_cons (hw : IsWord w) : ∃ c v, w = c :: v ∧ c.isLower = true := by
  obtain ⟨c, hc, hl⟩ := hw.begins
  obtain ⟨v, rfl⟩ := List.head?_eq_some_iff.1 hc
  exact ⟨c, v, rfl, hl⟩

theorem exists_cons_cons (letter : ∃ c ∈ w[1]?, c.isLower = true) :
    ∃ c d v, w = c :: d :: v ∧ d.isLower = true := by
  obtain ⟨d, hd, hl⟩ := letter
  match w, hd with
  | c :: _ :: v, rfl => exact ⟨c, d, v, rfl, hl⟩

theorem isAlphanum_of_isUpper (h : c.isUpper = true) : c.isAlphanum = true := by
  rw [Char.isAlphanum, Char.isAlpha, h]
  rfl

theorem isUpper_toUpper (h : c.isLower = true) : c.toUpper.isUpper = true := by
  rw [Char.isUpper_toUpper_eq_isAlpha, Char.isAlpha, h, Bool.or_true]

theorem map_toLower_capitalised (w : List Char) :
    (capitalised w).map Char.toLower = w.map Char.toLower := by
  cases w with
  | nil => rfl
  | cons c w => rw [capitalised, List.map_cons, List.map_cons, Char.toLower_toUpper_eq_toLower]

theorem map_toLower_acronym (w : List Char) :
    (acronym w).map Char.toLower = w.map Char.toLower := by
  rw [acronym, List.map_map]
  apply List.map_congr_left
  intro c _
  exact Char.toLower_toUpper_eq_toLower c

/-- The letters of an acronym are capitals. -/
theorem isUpper_of_mem_acronym (hw : IsWord w) (hd : ∀ c ∈ w, c.isDigit = false)
    (hc : c ∈ acronym w) : c.isUpper = true := by
  obtain ⟨b, hb, rfl⟩ := List.mem_map.1 hc
  rcases hw.chars b hb with h | h
  · exact isUpper_toUpper h
  · rw [hd b hb] at h
    cases h

theorem CapitalWords.begins (h : CapitalWords after words s) (hw : ∀ w ∈ words, IsWord w) :
    ∀ c ∈ s.head?, c.isUpper = true := by
  cases h with
  | nil => simp
  | @capitalised _ w _ _ _ _ =>
    obtain ⟨c, v, rfl, hc⟩ := (hw w List.mem_cons_self).exists_cons
    simpa [ComponentAssembly.capitalised] using isUpper_toUpper hc
  | @acronym w _ _ _ _ =>
    obtain ⟨c, v, rfl, hc⟩ := (hw w List.mem_cons_self).exists_cons
    simpa [ComponentAssembly.acronym] using isUpper_toUpper hc

theorem CapitalWords.alphanum (h : CapitalWords after words s) (hw : ∀ w ∈ words, IsWord w) :
    ∀ c ∈ s, c.isAlphanum = true := by
  induction h with
  | nil => simp
  | @capitalised _ w words s _ _ ih =>
    rw [List.forall_mem_cons] at hw
    obtain ⟨c, v, rfl, hc⟩ := hw.1.exists_cons
    intro d hd
    rw [List.mem_append, ComponentAssembly.capitalised, List.mem_cons] at hd
    rcases hd with (rfl | hd) | hd
    · exact isAlphanum_of_isUpper (isUpper_toUpper hc)
    · exact hw.1.alphanum (List.mem_cons_of_mem c hd)
    · exact ih hw.2 d hd
  | @acronym w words s hletters _ ih =>
    rw [List.forall_mem_cons] at hw
    intro d hd
    rcases List.mem_append.1 hd with hd | hd
    · exact isAlphanum_of_isUpper (isUpper_of_mem_acronym hw.1 hletters hd)
    · exact ih hw.2 d hd

theorem CamelCase.alphanum (h : CamelCase words s) (hw : ∀ w ∈ words, IsWord w) :
    ∀ c ∈ s, c.isAlphanum = true := by
  cases h with
  | small rest =>
    rw [List.forall_mem_cons] at hw
    intro c hc
    rcases List.mem_append.1 hc with hc | hc
    · exact hw.1.alphanum hc
    · exact rest.alphanum hw.2 c hc
  | capital rest => exact rest.alphanum hw

/-! ### Where words are separated -/

/-- What stands behind a character once the words are separated. -/
def separatedAfter (a : Char) : List Char → List Char
  | [] => []
  | b :: s => (if startsWord a b s then ['_', b] else [b]) ++ separatedAfter b s

theorem separateWords_cons (a : Char) (s : List Char) :
    separateWords (a :: s) = a :: separatedAfter a s := by
  induction s generalizing a with
  | nil => rfl
  | cons b s ih =>
    rw [separateWords, separatedAfter, ih]
    split <;> rfl

theorem mem_separatedAfter (h : c ∈ separatedAfter a s) : c = '_' ∨ c ∈ s := by
  induction s generalizing a with
  | nil => cases h
  | cons b s ih =>
    rw [separatedAfter, List.mem_append] at h
    rw [List.mem_cons]
    rcases h with h | h
    · have hc : c = '_' ∨ c = b := by
        split at h
        · simpa using h
        · exact .inr (List.mem_singleton.1 h)
      rcases hc with hc | hc
      · exact .inl hc
      · exact .inr (.inl hc)
    · rcases ih h with hc | hc
      · exact .inl hc
      · exact .inr (.inr hc)

theorem mem_separateWords (h : c ∈ separateWords s) : c = '_' ∨ c ∈ s := by
  cases s with
  | nil => cases h
  | cons a s =>
    rw [separateWords_cons, List.mem_cons] at h
    rcases h with rfl | h
    · exact .inr List.mem_cons_self
    · rcases mem_separatedAfter h with hc | hc
      · exact .inl hc
      · exact .inr (List.mem_cons_of_mem a hc)

/-- A capital begins a word unless it stands between a capital and what is no small letter. -/
theorem startsWord_of_isUpper (ha : a.isAlphanum = true) (hb : b.isUpper = true) :
    startsWord a b s = (!a.isUpper || s.head?.any Char.isLower) := by
  cases hu : a.isUpper with
  | false =>
    have hsmall : (a.isLower || a.isDigit) = true := by
      simpa [Char.isAlphanum, Char.isAlpha, hu] using ha
    rw [startsWord, hb, hsmall]
    rfl
  | true =>
    have hl : a.isLower = false := by simpa using Char.not_isLower_of_isUpper hu
    have hd : a.isDigit = false := by
      rw [← Bool.not_eq_true]
      exact fun hd => not_isUpper_of_isDigit hd hu
    rw [startsWord, hb, hl, hd, hu]
    rfl

/-- No word begins at a character that is no capital. -/
theorem separatedAfter_small (hv : ∀ c ∈ v, c.isUpper = false) (a : Char) (s : List Char) :
    separatedAfter a (v ++ s) = v ++ separatedAfter (v.getLastD a) s := by
  induction v generalizing a with
  | nil => rfl
  | cons b v ih =>
    rw [List.forall_mem_cons] at hv
    have hb : startsWord a b (v ++ s) = false := by rw [startsWord, hv.1, Bool.false_and]
    rw [List.cons_append, separatedAfter, hb, ih hv.2 b, List.getLastD_cons]
    rfl

/-- No word begins inside a row of capitals unless a small letter follows. -/
theorem separatedAfter_capitals (hv : ∀ c ∈ v, c.isUpper = true) (ha : a.isUpper = true)
    (hs : ∀ c ∈ s.head?, c.isUpper = true) :
    separatedAfter a (v ++ s) = v ++ separatedAfter (v.getLastD a) s := by
  induction v generalizing a with
  | nil => rfl
  | cons b v ih =>
    rw [List.forall_mem_cons] at hv
    have hnext : ∀ c ∈ (v ++ s).head?, c.isUpper = true := by
      cases v with
      | nil => exact hs
      | cons d v => simpa using hv.2 d List.mem_cons_self
    have hnone : (v ++ s).head?.any Char.isLower = false := by
      rw [Option.any_eq_false]
      intro c hc
      simpa using Char.not_isLower_of_isUpper (hnext c hc)
    have hb : startsWord a b (v ++ s) = false := by
      rw [startsWord_of_isUpper (isAlphanum_of_isUpper ha) hv.1, ha, hnone]
      rfl
    rw [List.cons_append, separatedAfter, hb, ih hv.2 hv.1, List.getLastD_cons]
    rfl

theorem separatedAfter_of_startsWord (h : startsWord a b s = true) :
    separatedAfter a (b :: s) = '_' :: separateWords (b :: s) := by
  rw [separatedAfter, h, separateWords_cons]
  rfl

/-- A word in small letters stays whole. -/
theorem separateWords_small (hw : IsWord w) (s : List Char) :
    ∃ l, l.isAlphanum = true ∧ l.isUpper = false ∧
      separateWords (w ++ s) = w ++ separatedAfter l s := by
  obtain ⟨c, v, rfl, _⟩ := hw.exists_cons
  have hv : ∀ d ∈ v, d.isUpper = false := fun d hd => hw.not_upper (List.mem_cons_of_mem c hd)
  have hl : v.getLastD c ∈ c :: v := List.getLastD_mem_cons
  refine ⟨v.getLastD c, hw.alphanum hl, hw.not_upper hl, ?_⟩
  rw [List.cons_append, separateWords_cons, separatedAfter_small hv]
  rfl

/-- A capitalised word stays whole. -/
theorem separateWords_capitalised (hw : IsWord w) (letter : ∃ c ∈ w[1]?, c.isLower = true)
    (s : List Char) :
    ∃ l, l.isAlphanum = true ∧ l.isUpper = false ∧
      separateWords (capitalised w ++ s) = capitalised w ++ separatedAfter l s := by
  obtain ⟨c, d, v, rfl, _⟩ := exists_cons_cons letter
  have hv : ∀ e ∈ d :: v, e.isUpper = false := fun e he => hw.not_upper (List.mem_cons_of_mem c he)
  have hl : v.getLastD d ∈ d :: v := List.getLastD_mem_cons
  refine ⟨v.getLastD d, hw.alphanum (List.mem_cons_of_mem c hl), hv _ hl, ?_⟩
  rw [capitalised, List.cons_append, separateWords_cons, separatedAfter_small hv, List.getLastD_cons]
  rfl

/-- An acronym stays whole in front of capitals. -/
theorem separateWords_acronym (hw : IsWord w) (letters : ∀ c ∈ w, c.isDigit = false)
    (hs : ∀ c ∈ s.head?, c.isUpper = true) :
    ∃ l, l.isAlphanum = true ∧ l.isUpper = true ∧
      separateWords (acronym w ++ s) = acronym w ++ separatedAfter l s := by
  have hupper : ∀ c ∈ acronym w, c.isUpper = true := fun c hc => isUpper_of_mem_acronym hw letters hc
  obtain ⟨c, v, rfl, _⟩ := hw.exists_cons
  rw [acronym, List.map_cons] at hupper ⊢
  have hl : (v.map Char.toUpper).getLastD c.toUpper ∈ c.toUpper :: v.map Char.toUpper :=
    List.getLastD_mem_cons
  refine ⟨_, ?_, hupper _ hl, ?_⟩
  · exact isAlphanum_of_isUpper (hupper _ hl)
  · rw [List.forall_mem_cons] at hupper
    rw [List.cons_append, separateWords_cons, separatedAfter_capitals hupper.2 hupper.1 hs]
    rfl

/-- A capitalised word stands behind an underscore whatever is before it. -/
theorem separatedAfter_capitalised (hw : IsWord w) (letter : ∃ c ∈ w[1]?, c.isLower = true)
    (ha : a.isAlphanum = true) (s : List Char) :
    separatedAfter a (capitalised w ++ s) = '_' :: separateWords (capitalised w ++ s) := by
  obtain ⟨c, d, v, rfl, hd⟩ := exists_cons_cons letter
  have hc : c.isLower = true := by simpa using hw.begins
  apply separatedAfter_of_startsWord
  rw [startsWord_of_isUpper ha (isUpper_toUpper hc)]
  simp [hd]

/-- An acronym stands behind an underscore if no capital is before it. -/
theorem separatedAfter_acronym (hw : IsWord w) (ha : a.isAlphanum = true) (hu : a.isUpper = false)
    (s : List Char) :
    separatedAfter a (acronym w ++ s) = '_' :: separateWords (acronym w ++ s) := by
  obtain ⟨c, v, rfl, hc⟩ := hw.exists_cons
  apply separatedAfter_of_startsWord
  rw [startsWord_of_isUpper ha (isUpper_toUpper hc), hu]
  rfl

/-- The words of a row of capital words stand apart, each behind an underscore. -/
theorem separatedAfter_words (h : CapitalWords after words s) (hw : ∀ w ∈ words, IsWord w)
    (ha : a.isAlphanum = true) (hafter : a.isUpper = after) :
    (separatedAfter a s).map Char.toLower = words.flatMap ('_' :: ·) := by
  -- The character before the row is kept general: it is a capital only behind an acronym.
  induction h generalizing a with
  | nil => rfl
  | @capitalised _ w words s letter _ ih =>
    rw [List.forall_mem_cons] at hw
    obtain ⟨l, hl, hlu, hword⟩ := separateWords_capitalised hw.1 letter s
    rw [separatedAfter_capitalised hw.1 letter ha, hword, List.map_cons, List.map_append,
      map_toLower_capitalised, hw.1.map_toLower, ih hw.2 hl hlu]
    rfl
  | @acronym w words s letters rest ih =>
    rw [List.forall_mem_cons] at hw
    obtain ⟨l, hl, hlu, hword⟩ := separateWords_acronym hw.1 letters (rest.begins hw.2)
    rw [separatedAfter_acronym hw.1 ha hafter, hword, List.map_cons, List.map_append,
      map_toLower_acronym, hw.1.map_toLower, ih hw.2 hl hlu]
    rfl

/-! ### The name of the setter -/

/-- What stands between the words of a name joined by a sign. -/
theorem cons_intercalate (c : Char) (hne : words ≠ []) :
    c :: [c].intercalate words = words.flatMap (c :: ·) := by
  induction words with
  | nil => exact absurd rfl hne
  | cons w words ih =>
    cases words with
    | nil => simp
    | cons v words =>
      rw [List.intercalate_cons_cons, List.flatMap_cons, ← ih (List.cons_ne_nil v words)]
      simp

/-- Words in camel case stand apart with an underscore between any two. -/
theorem separateWords_camelCase (h : CamelCase words s) (hw : ∀ w ∈ words, IsWord w)
    (hne : words ≠ []) : (separateWords s).map Char.toLower = ['_'].intercalate words := by
  apply (List.cons_inj_right '_').1
  rw [cons_intercalate '_' hne]
  cases h with
  | @small w words s rest =>
    rw [List.forall_mem_cons] at hw
    obtain ⟨l, hl, hlu, hword⟩ := separateWords_small hw.1 s
    rw [hword, List.map_append, hw.1.map_toLower, separatedAfter_words rest hw.2 hl hlu]
    rfl
  | capital rest =>
    -- Behind a small letter the whole row of words is separated, its first word too.
    have hrow := separatedAfter_words rest hw (a := 'a') rfl rfl
    cases rest with
    | nil => exact absurd rfl hne
    | capitalised letter _ =>
      rwa [separatedAfter_capitalised (hw _ List.mem_cons_self) letter rfl] at hrow
    | acronym _ _ =>
      rwa [separatedAfter_acronym (hw _ List.mem_cons_self) rfl rfl] at hrow

/-- In ASCII the case and the hyphens of a name are changed character by character. -/
theorem snakeCase_ascii (h : ∀ c ∈ s, c.toNat < 0x80) :
    snakeCase s = (separateWords s).map fun c => (underscored c).toLower := by
  have hascii : ∀ c ∈ (separateWords s).map underscored, c.toNat < 0x80 := by
    intro c hc
    obtain ⟨b, hb, rfl⟩ := List.mem_map.1 hc
    rw [underscored]
    split
    · decide
    · rcases mem_separateWords hb with rfl | hb
      · decide
      · exact h b hb
  rw [snakeCase, lower_ascii hascii, List.map_map]
  rfl

theorem underscored_of_isAlphanum (h : c.isAlphanum = true) : underscored c = c := by
  apply if_neg
  rintro rfl
  exact absurd h (by decide)

/-- Camel case becomes its words with an underscore between any two. -/
theorem snakeCase_camelCase (h : CamelCase words s) (hw : ∀ w ∈ words, IsWord w)
    (hne : words ≠ []) : snakeCase s = ['_'].intercalate words := by
  have hs := h.alphanum hw
  rw [snakeCase_ascii fun c hc => toNat_lt_of_isAlphanum (hs c hc),
    ← separateWords_camelCase h hw hne]
  apply List.map_congr_left
  intro c hc
  rcases mem_separateWords hc with rfl | hc
  · rfl
  · rw [underscored_of_isAlphanum (hs c hc)]

theorem mem_intercalate (hne : words ≠ []) (h : c ∈ [b].intercalate words) :
    c = b ∨ ∃ w ∈ words, c ∈ w := by
  have hc : c ∈ words.flatMap (b :: ·) := by
    rw [← cons_intercalate b hne]
    exact List.mem_cons_of_mem b h
  obtain ⟨w, hw, hcw⟩ := List.mem_flatMap.1 hc
  rcases List.mem_cons.1 hcw with hcb | hcw
  · exact .inl hcb
  · exact .inr ⟨w, hw, hcw⟩

/-- A name without capitals is left as it is. -/
theorem separateWords_of_no_capitals (h : ∀ c ∈ s, c.isUpper = false) : separateWords s = s := by
  cases s with
  | nil => rfl
  | cons a s =>
    rw [List.forall_mem_cons] at h
    have hrest := separatedAfter_small h.2 a []
    rw [List.append_nil, separatedAfter, List.append_nil] at hrest
    rw [separateWords_cons, hrest]

/-- Words that a hyphen or an underscore joins become the words that an underscore joins. -/
theorem snakeCase_intercalate (hw : ∀ w ∈ words, IsWord w) (hne : words ≠ [])
    (hb : b = '-' ∨ b = '_') : snakeCase ([b].intercalate words) = ['_'].intercalate words := by
  have hsign : b.toNat < 0x80 ∧ b.isUpper = false ∧ (underscored b).toLower = '_' := by
    rcases hb with rfl | rfl <;> decide
  have hascii : ∀ c ∈ [b].intercalate words, c.toNat < 0x80 := by
    intro c hc
    rcases mem_intercalate hne hc with rfl | ⟨w, hmem, hc⟩
    · exact hsign.1
    · exact toNat_lt_of_isAlphanum ((hw w hmem).alphanum hc)
  have hcapitals : ∀ c ∈ [b].intercalate words, c.isUpper = false := by
    intro c hc
    rcases mem_intercalate hne hc with rfl | ⟨w, hmem, hc⟩
    · exact hsign.2.1
    · exact (hw w hmem).not_upper hc
  have hwords : ∀ w ∈ words, (b :: w).map (fun c => (underscored c).toLower) = '_' :: w := by
    intro w hmem
    rw [List.map_cons, hsign.2.2]
    conv_rhs => rw [← (hw w hmem).map_toLower]
    congr 1
    apply List.map_congr_left
    intro c hc
    rw [underscored_of_isAlphanum ((hw w hmem).alphanum hc)]
  rw [snakeCase_ascii hascii, separateWords_of_no_capitals hcapitals]
  apply (List.cons_inj_right '_').1
  calc '_' :: ([b].intercalate words).map (fun c => (underscored c).toLower)
      = (b :: [b].intercalate words).map (fun c => (underscored c).toLower) := by
        rw [List.map_cons, hsign.2.2]
    _ = words.flatMap fun w => (b :: w).map (fun c => (underscored c).toLower) := by
        rw [cons_intercalate b hne, List.map_flatMap]
    _ = words.flatMap ('_' :: ·) := List.flatMap_congr hwords
    _ = '_' :: ['_'].intercalate words := (cons_intercalate '_' hne).symm

/-- Every usual spelling of a name is one setter's: with hyphens or with underscores between its
words, or in camel case. -/
theorem setterName_of_words (words : List String) (hne : words ≠ [])
    (hw : ∀ w ∈ words, IsWord w.toList) :
    setterName ("-".intercalate words) = "set_" ++ "_".intercalate words ∧
    setterName ("_".intercalate words) = "set_" ++ "_".intercalate words ∧
    ∀ s : String, CamelCase (words.map String.toList) s.toList →
      setterName s = "set_" ++ "_".intercalate words := by
  have hw' : ∀ w ∈ words.map String.toList, IsWord w := by
    intro w hmem
    obtain ⟨t, ht, rfl⟩ := List.mem_map.1 hmem
    exact hw t ht
  have hne' : words.map String.toList ≠ [] := mt List.map_eq_nil_iff.1 hne
  have hjoined : "_".intercalate words
      = String.ofList (['_'].intercalate (words.map String.toList)) := by
    rw [← String.toList_inj, String.toList_intercalate, String.toList_ofList, String.toList_ofList]
  rw [hjoined]
  refine ⟨?_, ?_, ?_⟩
  · rw [setterName, String.toList_intercalate]
    exact congrArg _ (congrArg _ (snakeCase_intercalate hw' hne' (.inl rfl)))
  · rw [setterName, String.toList_ofList, snakeCase_intercalate hw' hne' (.inr rfl)]
  · intro s hs
    rw [setterName, snakeCase_camelCase hs hw' hne']

/-- A capitalised word behind an acronym, itself behind a digit. -/
theorem setterName_of_words_acronym :
    ["oauth2", "http", "client"] ≠ [] ∧ (∀ w ∈ ["oauth2", "http", "client"], IsWord w.toList) ∧
      CamelCase (["oauth2", "http", "client"].map String.toList) "oauth2HTTPClient".toList ∧
      setterName "oauth2-http-client" = "set_oauth2_http_client" ∧
      setterName "oauth2HTTPClient" = "set_oauth2_http_client" := by
  have hne : ["oauth2", "http", "client"] ≠ [] := by decide
  have hw : ∀ w ∈ ["oauth2", "http", "client"], IsWord w.toList := by
    intro w hmem
    simp only [List.mem_cons, List.not_mem_nil, or_false] at hmem
    rcases hmem with rfl | rfl | rfl <;> exact ⟨by simp, by simp⟩
  have hc : CamelCase (["oauth2", "http", "client"].map String.toList) "oauth2HTTPClient".toList :=
    .small (.acronym (by simp) (.capitalised (by simp) .nil))
  have h := setterName_of_words ["oauth2", "http", "client"] hne hw
  exact ⟨hne, hw, hc, h.1, h.2.2 _ hc⟩

end ComponentAssembly

import ComponentAssembly.Proofs.Spelling
import Mathlib.Data.List.TakeDrop
import Mathlib.Data.List.TakeWhile

/-! A text that spells a decimal number is read as this number, unless an information separator stands
among the blanks around it. -/

namespace ComponentAssembly.Numeral

open Text

variable {c : Char} {ds es : List Nat} {s t u v : List Char} {negative : Bool} {k : Int}
  {text : String}

/-! ### The parts of a numeral -/

/-- What may follow the digits of a number: nothing, or a power of ten. -/
def EndsDigits (u : List Char) : Prop := ∀ c ∈ u.head?, c = 'e' ∨ c = 'E'

/-- What the digits of a number begin with: a digit, or the point. -/
def BeginsDigits (t : List Char) : Prop := ∃ c ∈ t.head?, c.isDigit = true ∨ c = '.'

theorem isEmpty_asciiDigits (h : ds ≠ []) : (asciiDigits ds).isEmpty = false := by
  simpa [asciiDigits] using h

theorem span_digits (h : ∀ d ∈ ds, d < 10) (hu : ∀ c ∈ u.head?, c.isDigit = false) :
    (asciiDigits ds ++ u).span Char.isDigit = (asciiDigits ds, u) := by
  have hall : ∀ c ∈ asciiDigits ds, c.isDigit = true := fun c hc => isDigit_of_mem h hc
  have htake : u.takeWhile Char.isDigit = [] := by
    cases u with
    | nil => rfl
    | cons c u => simp [hu c rfl]
  have hdrop : u.dropWhile Char.isDigit = u := by
    cases u with
    | nil => rfl
    | cons c u => simp [hu c rfl]
  rw [List.span_eq_takeWhile_dropWhile, List.takeWhile_append_of_pos hall,
    List.dropWhile_append_of_pos hall, htake, hdrop, List.append_nil]

theorem EndsDigits.not_digit (h : EndsDigits u) : ∀ c ∈ u.head?, c.isDigit = false := by
  intro c hc
  rcases h c hc with rfl | rfl <;> rfl

theorem EndsDigits.fraction (h : EndsDigits u) : fraction u = ([], u) := by
  cases u with
  | nil => rfl
  | cons c u => rcases h c rfl with rfl | rfl <;> rfl

theorem scientific?_whole (hds : ∀ d ∈ ds, d < 10) (hne : ds ≠ []) (hu : EndsDigits u)
    (negative : Bool) : scientific? negative (asciiDigits ds ++ u) =
      (exponent? u).map fun k => .finite negative (valueOf ds) k := by
  unfold scientific?
  rw [span_digits hds hu.not_digit]
  simp only [hu.fraction, isEmpty_asciiDigits hne, List.append_nil, ofDigitChars_asciiDigits hds]
  cases exponent? u <;> simp

theorem scientific?_pointed (hds : ∀ d ∈ ds, d < 10) (hes : ∀ d ∈ es, d < 10)
    (hne : ds ++ es ≠ []) (hu : EndsDigits u) (negative : Bool) :
    scientific? negative (asciiDigits ds ++ '.' :: (asciiDigits es ++ u)) =
      (exponent? u).map fun k => .finite negative (valueOf (ds ++ es)) (k - es.length) := by
  have hboth : ∀ d ∈ ds ++ es, d < 10 := List.forall_mem_append.2 ⟨hds, hes⟩
  have hempty : ((asciiDigits ds).isEmpty && (asciiDigits es).isEmpty) = false := by
    rw [Bool.eq_false_iff]
    simpa [asciiDigits] using hne
  have hpoint : ∀ c ∈ ('.' :: (asciiDigits es ++ u)).head?, c.isDigit = false := by
    rintro c ⟨rfl⟩
    rfl
  unfold scientific?
  rw [span_digits hds hpoint]
  simp only [Numeral.fraction, span_digits hes hu.not_digit, hempty]
  rw [asciiDigits, asciiDigits, ← List.map_append, ← asciiDigits, ofDigitChars_asciiDigits hboth]
  cases exponent? u <;> simp

theorem SignOf.split (h : SignOf s negative) (ht : ∀ c ∈ t.head?, c ≠ '+' ∧ c ≠ '-') :
    splitSign (s ++ t) = (negative, t) := by
  cases h with
  | missing =>
    rw [List.nil_append]
    unfold splitSign
    split
    · exact absurd rfl (ht '-' rfl).2
    · exact absurd rfl (ht '+' rfl).1
    · rfl
  | plus | minus => rfl

theorem SignOf.isNumeralChar (h : SignOf s negative) : ∀ c ∈ s, IsNumeralChar c := by
  cases h <;> simp [IsNumeralChar]

theorem isNumeralChar_digits (h : ∀ d ∈ ds, d < 10) : ∀ c ∈ asciiDigits ds, IsNumeralChar c :=
  fun _ hc => .inl (isDigit_of_mem h hc)

theorem ne_sign_of_isDigit (h : c.isDigit = true) : c ≠ '+' ∧ c ≠ '-' := by
  constructor <;> rintro rfl <;> simp at h

/-- The power of ten is read, and its characters are those of a numeral. -/
theorem PowerOf.read (h : PowerOf s k) : ∃ t, CleansTo (s.map plainChar) t ∧
    exponent? t = some k ∧ EndsDigits t ∧ ∀ c ∈ t, IsNumeralChar c := by
  cases h with
  | missing => exact ⟨[], cleansTo_self (by simp), rfl, by simp [EndsDigits], by simp⟩
  | @marked mark sign negative s ds hm hs hd =>
    have hmark : plainChar mark = mark := by rcases hm with rfl | rfl <;> rfl
    have hclean : CleansTo [mark] [mark] := by
      apply cleansTo_self
      rcases hm with rfl | rfl <;> decide
    refine ⟨mark :: (sign ++ asciiDigits ds), ?_, ?_, ?_, ?_⟩
    · rw [List.map_cons, hmark, List.map_append]
      exact hclean.append (hs.cleansTo.append hd.cleansTo)
    · have hsplit : splitSign (sign ++ asciiDigits ds) = (negative, asciiDigits ds) :=
        hs.split fun c hc => ne_sign_of_isDigit (isDigit_of_mem hd.lt (List.mem_of_mem_head? hc))
      have hall : (asciiDigits ds).all Char.isDigit = true :=
        List.all_eq_true.2 fun c hc => isDigit_of_mem hd.lt hc
      simp only [exponent?, hsplit, hall, isEmpty_asciiDigits hd.ne_nil, hm,
        ofDigitChars_asciiDigits hd.lt, Bool.or_eq_true, decide_eq_true_eq, Bool.not_false,
        Bool.and_true, if_true]
    · rintro c ⟨rfl⟩
      exact hm
    · refine List.forall_mem_cons.2 ⟨?_, List.forall_mem_append.2
        ⟨hs.isNumeralChar, isNumeralChar_digits hd.lt⟩⟩
      rcases hm with rfl | rfl <;> simp [IsNumeralChar]

/-- The digits are read together with the power of ten behind them. -/
theorem DigitsOf.read (h : DigitsOf s ds es) : ∃ t, CleansTo (s.map plainChar) t ∧
    BeginsDigits t ∧ (∀ c ∈ t, IsNumeralChar c) ∧
    ∀ u negative, EndsDigits u → scientific? negative (t ++ u) =
      (exponent? u).map fun k => .finite negative (valueOf (ds ++ es)) (k - es.length) := by
  cases h with
  | whole h =>
    refine ⟨asciiDigits ds, h.cleansTo, ?_, isNumeralChar_digits h.lt, fun u negative hu => ?_⟩
    · obtain ⟨d, ds', rfl⟩ := List.exists_cons_of_ne_nil h.ne_nil
      exact ⟨_, rfl, .inl (isDigit_asciiDigit (h.lt d List.mem_cons_self))⟩
    · rw [scientific?_whole h.lt h.ne_nil hu]
      simp
  | @pointed s t ds es hs ht hne =>
    refine ⟨asciiDigits ds ++ '.' :: asciiDigits es, ?_, ?_, ?_, fun u negative hu => ?_⟩
    · rw [List.map_append, List.map_cons]
      have hpoint : CleansTo ['.'] ['.'] := cleansTo_self (by decide)
      exact hs.cleansTo.append (hpoint.append ht.cleansTo)
    · cases ds with
      | nil => exact ⟨'.', rfl, .inr rfl⟩
      | cons d ds => exact ⟨_, rfl, .inl (isDigit_asciiDigit (hs.lt d List.mem_cons_self))⟩
    · refine List.forall_mem_append.2 ⟨isNumeralChar_digits hs.lt, List.forall_mem_cons.2
        ⟨?_, isNumeralChar_digits ht.lt⟩⟩
      simp [IsNumeralChar]
    · rw [List.append_assoc, List.cons_append, scientific?_pointed hs.lt ht.lt hne hu]

/-! ### The whole -/

theorem trimBy_surrounded {drop : Char → Bool} (hs : ∀ c ∈ s, drop c = true)
    (ht : ∀ c ∈ t, drop c = false) (hu : ∀ c ∈ u, drop c = true) (hne : t ≠ []) :
    trimBy drop (s ++ t ++ u) = t := by
  have hkeep {t : List Char} (ht : ∀ c ∈ t, drop c = false) (hne : t ≠ []) (u : List Char) :
      (t ++ u).dropWhile drop = t ++ u := by
    obtain ⟨c, t, rfl⟩ := List.exists_cons_of_ne_nil hne
    simp [ht c List.mem_cons_self]
  have hback := hkeep (t := t.reverse) (by simpa using ht) (by simpa using hne) []
  rw [List.append_nil] at hback
  rw [trimBy, List.append_assoc, List.dropWhile_append_of_pos hs, hkeep ht hne,
    List.reverse_append, List.dropWhile_append_of_pos (by simpa using hu), hback,
    List.reverse_reverse]

theorem toLower_of_lt (h : c.toNat < 0x41) : c.toLower = c := by
  unfold Char.toLower
  rw [dif_neg]
  rintro ⟨hl, -⟩
  exact absurd (UInt32.le_iff_toNat_le.1 hl) (Nat.not_le.2 h)

theorem BeginsDigits.append (h : BeginsDigits t) (u : List Char) : BeginsDigits (t ++ u) := by
  obtain ⟨c, hc, hd⟩ := h
  cases t with
  | nil => cases hc
  | cons => exact ⟨c, hc, hd⟩

theorem BeginsDigits.ne_nil (h : BeginsDigits t) : t ≠ [] := by
  obtain ⟨c, hc, -⟩ := h
  exact List.ne_nil_of_mem (List.mem_of_mem_head? hc)

theorem BeginsDigits.not_sign (h : BeginsDigits t) : ∀ c ∈ t.head?, c ≠ '+' ∧ c ≠ '-' := by
  intro c hc
  obtain ⟨c', hc', hd⟩ := h
  obtain rfl := Option.mem_unique hc hc'
  rcases hd with hd | rfl
  · exact ne_sign_of_isDigit hd
  · decide

/-- What begins with a digit or a point is no name. -/
theorem BeginsDigits.map_toLower_ne (h : BeginsDigits t) {name : List Char}
    (hn : (name.all fun c => !c.isDigit && c != '.') = true) : t.map Char.toLower ≠ name := by
  rintro rfl
  obtain ⟨c, hc, hd⟩ := h
  have hlow : c.toLower = c := by
    rcases hd with hd | rfl
    · have := isDigit_iff.1 hd
      exact toLower_of_lt (by omega)
    · rfl
  have hmem : c ∈ t.map Char.toLower := hlow ▸ List.mem_map_of_mem (List.mem_of_mem_head? hc)
  have := List.all_eq_true.1 hn c hmem
  rcases hd with hd | rfl
  · simp [hd] at this
  · simp at this

/-- Without its underscores, the blanks around it and its sign, a numeral is digits and a power of
ten. -/
theorem readDecimal?_of_cleaned
    (h : withoutSeparators? ' ' (plain text) = some (s ++ (t ++ v) ++ u))
    (hs : ∀ c ∈ s, isMargin c = true) (ht : SignOf t negative) (hv : BeginsDigits v)
    (hvc : ∀ c ∈ v, IsNumeralChar c) (hu : ∀ c ∈ u, isMargin c = true) :
    readDecimal? text = scientific? negative v := by
  have hcore : ∀ c ∈ t ++ v, isMargin c = false := fun c hc =>
    isMargin_of_code (lt_of_lt_of_le (by decide)
      (List.forall_mem_append.2 ⟨ht.isNumeralChar, hvc⟩ c hc).code)
  have htrim := trimBy_surrounded hs hcore hu (List.append_ne_nil_of_right_ne_nil _ hv.ne_nil)
  unfold readDecimal?
  rw [h]
  simp only [Option.bind_eq_bind, Option.bind_some, htrim, ht.split hv.not_sign]
  rw [if_neg, if_neg]
  · simpa using hv.map_toLower_ne (by decide)
  · simp only [Bool.or_eq_true, decide_eq_true_eq, not_or]
    exact ⟨hv.map_toLower_ne (by decide), hv.map_toLower_ne (by decide)⟩

/-- A spelled number is read as the number it spells. -/
theorem readDecimal?_of_spells {x : ℚ} (h : Spells text negative x)
    (hs : ∀ c ∈ text.toList, isInformationSeparator c = false) :
    ∃ n k, readDecimal? text = some (.finite negative n k) ∧ x = n * 10 ^ k := by
  obtain @⟨before, sign, digits, power, after, _, whole, part, k, htext, hb, hsign, hd, hp, ha⟩ := h
  obtain ⟨q, hq, hread, hends, hqc⟩ := hp.read
  obtain ⟨t, ht, hbegin, htc, hsci⟩ := hd.read
  rw [htext] at hs
  simp only [List.forall_mem_append] at hs
  have hmargin {s : List Char} (hb : ∀ c ∈ s, isBlank c = true)
      (hs : ∀ c ∈ s, isInformationSeparator c = false) : ∀ c ∈ s.map plainChar, isMargin c = true :=
    List.forall_mem_map.2 fun c hc => isMargin_plainChar (hb c hc) (hs c hc)
  have hbefore := hmargin hb hs.1.1
  have hafter := hmargin ha hs.2
  have hclean {s : List Char} (h : ∀ c ∈ s, isMargin c = true) : CleansTo s s :=
    cleansTo_self fun hu => absurd (h '_' hu) (by decide)
  have hplain : withoutSeparators? ' ' (plain text) =
      some (before.map plainChar ++ (sign ++ (t ++ q)) ++ after.map plainChar) := by
    rw [plain, htext, List.map_append, List.map_append, List.map_append, List.map_append]
    exact (((hclean hbefore).append (hsign.cleansTo.append (ht.append hq))).append
      (hclean hafter)).withoutSeparators?
  refine ⟨valueOf (whole ++ part), k - part.length, ?_, rfl⟩
  rw [readDecimal?_of_cleaned hplain hbefore hsign (hbegin.append q)
    (List.forall_mem_append.2 ⟨htc, hqc⟩) hafter, hsci q negative hends, hread, Option.map_some]

/-! ### Information separators -/

theorem mem_withoutSeparators? {before : Char} (h : withoutSeparators? before s = some t)
    (hc : c ∈ s) (hne : c ≠ '_') : c ∈ t := by
  induction s generalizing before t with
  | nil => cases hc
  | cons d s ih =>
    rw [withoutSeparators?] at h
    split at h
    · rename_i hd
      split at h
      · exact ih h ((List.mem_cons.1 hc).resolve_left fun he => hne (he.trans hd))
      · cases h
    · split at h
      · cases h
      · obtain ⟨t', ht', rfl⟩ := Option.map_eq_some_iff.1 h
        exact List.mem_cons.2 ((List.mem_cons.1 hc).imp_right (ih ht'))

theorem mem_trimBy {drop : Char → Bool} (hc : c ∈ s) (h : drop c = false) : c ∈ trimBy drop s := by
  have hdrop {s : List Char} (hc : c ∈ s) : c ∈ s.dropWhile drop := by
    rw [← List.takeWhile_append_dropWhile (p := drop) (l := s), List.mem_append] at hc
    refine hc.resolve_left fun ht => ?_
    have := List.mem_takeWhile_imp ht
    simp [h] at this
  rw [trimBy, List.mem_reverse]
  exact hdrop (List.mem_reverse.2 (hdrop hc))

theorem mem_splitSign (hc : c ∈ s) (h : c ≠ '+' ∧ c ≠ '-') : c ∈ (splitSign s).2 := by
  unfold splitSign
  split
  · exact (List.mem_cons.1 hc).resolve_left h.2
  · exact (List.mem_cons.1 hc).resolve_left h.1
  · exact hc

theorem isNumeralChar_of_splitSign (h : ∀ c ∈ (splitSign s).2, IsNumeralChar c) :
    ∀ c ∈ s, IsNumeralChar c := by
  intro c hc
  by_cases hsign : c ≠ '+' ∧ c ≠ '-'
  · exact h c (mem_splitSign hc hsign)
  · rw [not_and_or, not_not, not_not] at hsign
    rcases hsign with rfl | rfl <;> simp [IsNumeralChar]

theorem isNumeralChar_of_exponent? (h : exponent? s = some k) : ∀ c ∈ s, IsNumeralChar c := by
  cases s with
  | nil => simp
  | cons mark s =>
    simp only [exponent?] at h
    split at h
    · rename_i hm
      simp only [Bool.and_eq_true, Bool.or_eq_true, decide_eq_true_eq, List.all_eq_true] at hm
      refine List.forall_mem_cons.2 ⟨?_, isNumeralChar_of_splitSign fun c hc => .inl (hm.2 c hc)⟩
      rcases hm.1.1 with rfl | rfl <;> simp [IsNumeralChar]
    · cases h

theorem isNumeralChar_of_span (h : ∀ c ∈ (s.span Char.isDigit).2, IsNumeralChar c) :
    ∀ c ∈ s, IsNumeralChar c := by
  rw [List.span_eq_takeWhile_dropWhile] at h
  intro c hc
  rw [← List.takeWhile_append_dropWhile (p := Char.isDigit) (l := s), List.mem_append] at hc
  exact hc.elim (fun ht => .inl (List.mem_takeWhile_imp ht)) (h c)

theorem isNumeralChar_of_fraction (h : ∀ c ∈ (fraction s).2, IsNumeralChar c) :
    ∀ c ∈ s, IsNumeralChar c := by
  unfold fraction at h
  split at h
  · refine List.forall_mem_cons.2 ⟨?_, isNumeralChar_of_span h⟩
    simp [IsNumeralChar]
  · exact h

theorem isNumeralChar_of_scientific? {d : Decimal} (h : scientific? negative s = some d) :
    ∀ c ∈ s, IsNumeralChar c := by
  simp only [scientific?] at h
  split at h
  · cases h
  · obtain ⟨k, hk, -⟩ := Option.bind_eq_some_iff.1 h
    exact isNumeralChar_of_span (isNumeralChar_of_fraction (isNumeralChar_of_exponent? hk))

/-- A text with an information separator in it is no numeral, even where it is blank. -/
theorem readDecimal?_of_separator (hc : c ∈ text.toList) (h : isInformationSeparator c = true) :
    readDecimal? text = none := by
  simp only [isInformationSeparator, Bool.and_eq_true, decide_eq_true_eq] at h
  have hplain : plainChar c = c := if_pos (by omega)
  have hne : ∀ c' : Char, 0x20 ≤ c'.toNat → c ≠ c' := by
    rintro c' hc' rfl
    omega
  have hmargin : isMargin c = false := by
    simp only [isMargin, Bool.or_eq_false_iff, Bool.and_eq_false_iff, decide_eq_false_iff_not]
    exact ⟨hne ' ' (by decide), by omega⟩
  have hnumeral : ¬ IsNumeralChar c := fun hn => absurd hn.code (by omega)
  have hlow : c.toLower = c := toLower_of_lt (by omega)
  rw [Option.eq_none_iff_forall_ne_some]
  intro d hd
  obtain ⟨t, ht, hd⟩ := Option.bind_eq_some_iff.1 hd
  have hmem : c ∈ (splitSign (trimBy isMargin t)).2 := by
    refine mem_splitSign (mem_trimBy (mem_withoutSeparators? ht ?_ (hne '_' (by decide))) hmargin)
      ⟨hne '+' (by decide), hne '-' (by decide)⟩
    rw [plain, ← hplain]
    exact List.mem_map_of_mem hc
  have hname {name : List Char} (hn : (name.all fun c => 0x20 ≤ c.toNat) = true) :
      (splitSign (trimBy isMargin t)).2.map Char.toLower ≠ name := by
    rintro rfl
    have := of_decide_eq_true (List.all_eq_true.1 hn c (hlow ▸ List.mem_map_of_mem hmem))
    omega
  simp only [Bool.or_eq_true, decide_eq_true_eq] at hd
  rw [if_neg, if_neg] at hd
  · exact hnumeral (isNumeralChar_of_scientific? hd c hmem)
  · exact hname (by decide)
  · rw [not_or]
    exact ⟨hname (by decide), hname (by decide)⟩

end ComponentAssembly.Numeral

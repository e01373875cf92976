import ComponentAssembly.Failure.Message
import ComponentAssembly.Parameter.Conversion
import ComponentAssembly.Proofs.ReadingNumerals

/-! The texts that are read as integers are those that spell one with a bounded number of digits, and
the integer is the one that they spell. -/

namespace ComponentAssembly

open Numeral Text

namespace Numeral

variable {c x : Char} {d : Nat} {ds : List Nat} {s t u : List Char} {negative : Bool} {n : Int}
  {count : Nat} {text : String}

/-- The integer that a sign and digits write. -/
def integerOf (negative : Bool) (ds : List Nat) : Int :=
  if negative then -(valueOf ds : Int) else valueOf ds

/-- A blank that may stand around an integer. -/
def MaySurround (c : Char) : Prop := isBlank c = true ∧ isInformationSeparator c = false

/-- A text spells an integer with a number of digits: a sign, which may be missing, and a row of digits,
which may begin with zeros, with blanks around them. -/
inductive SpellsInteger (text : String) : Int → Nat → Prop
  | numeral {before sign digits after negative ds}
      (h : text.toList = before ++ (sign ++ digits) ++ after)
      (hb : ∀ c ∈ before, MaySurround c) (hs : SignOf sign negative) (hd : DigitRow digits ds)
      (ha : ∀ c ∈ after, MaySurround c) : SpellsInteger text (integerOf negative ds) ds.length

/-! ### What is spelled is read -/

theorem digit?_asciiDigit (h : d < 10) : digit? (asciiDigit d) = some d := by
  rw [digit?, if_pos (isDigit_asciiDigit h), toNat_asciiDigit h]

theorem asciiDigit_ne_underscore (h : d < 10) : asciiDigit d ≠ '_' := by
  intro he
  have := isDigit_asciiDigit h
  rw [he] at this
  simp at this

theorem digitRun?_apart (c : Char) (s : List Char) : digitRun? (c :: '_' :: s) =
    (digit? c).bind fun d => (digitRun? s).map (d :: ·) := by
  rw [digitRun?]
  cases digit? c <;> cases digitRun? s <;> rfl

theorem digitRun?_more (hx : x ≠ '_') (c : Char) (s : List Char) : digitRun? (c :: x :: s) =
    (digit? c).bind fun d => (digitRun? (x :: s)).map (d :: ·) := by
  rw [digitRun?]
  · cases digit? c <;> cases digitRun? (x :: s) <;> rfl
  · simp
  · rintro s' heq
    exact hx (List.cons.inj heq).1

theorem DigitRow.exists_cons (h : DigitRow s ds) :
    ∃ c s' d, s = c :: s' ∧ digitValue? c = some d := by
  cases h with
  | single hc | more hc _ | apart hc _ => exact ⟨_, _, _, rfl, hc⟩

/-- A row of digits is read as the digits it writes. -/
theorem DigitRow.digitRun? (h : DigitRow s ds) : Numeral.digitRun? (s.map plainChar) = some ds := by
  induction h with
  | single hc =>
    rw [List.map_singleton, plainChar_of_digit hc]
    simp [Numeral.digitRun?, digit?_asciiDigit (digitValue?_lt hc)]
  | more hc rest ih =>
    obtain ⟨x, s', e, rfl, hx⟩ := rest.exists_cons
    rw [List.map_cons, plainChar_of_digit hx] at ih
    rw [List.map_cons, List.map_cons, plainChar_of_digit hc, plainChar_of_digit hx,
      digitRun?_more (asciiDigit_ne_underscore (digitValue?_lt hx)), ih,
      digit?_asciiDigit (digitValue?_lt hc)]
    rfl
  | apart hc rest ih =>
    have hu : plainChar '_' = '_' := rfl
    rw [List.map_cons, List.map_cons, plainChar_of_digit hc, hu, digitRun?_apart, ih,
      digit?_asciiDigit (digitValue?_lt hc)]
    rfl

theorem SignOf.map_plainChar (h : SignOf s negative) : s.map plainChar = s := by
  cases h <;> rfl

theorem DigitRow.isMargin (h : DigitRow s ds) : ∀ c ∈ s.map plainChar, isMargin c = false := by
  have hdigit {c d} (hc : digitValue? c = some d) : Numeral.isMargin (plainChar c) = false := by
    have hd := isDigit_iff.1 (isDigit_asciiDigit (digitValue?_lt hc))
    rw [plainChar_of_digit hc]
    exact isMargin_of_code (by omega)
  induction h with
  | single hc =>
    intro x hx
    rw [List.map_singleton, List.mem_singleton] at hx
    exact hx ▸ hdigit hc
  | more hc _ ih => exact List.forall_mem_cons.2 ⟨hdigit hc, ih⟩
  | apart hc _ ih => exact List.forall_mem_cons.2 ⟨hdigit hc, List.forall_mem_cons.2 ⟨rfl, ih⟩⟩

/-- What is spelled with at most the bounded number of digits is read. -/
theorem readInteger?_of_spells (h : SpellsInteger text n count) :
    readInteger? text = if count ≤ digitLimit then some n else none := by
  obtain @⟨before, sign, digits, after, negative, ds, htext, hb, hs, hd, ha⟩ := h
  have hmargin {s : List Char} (h : ∀ c ∈ s, MaySurround c) :
      ∀ c ∈ s.map plainChar, isMargin c = true :=
    List.forall_mem_map.2 fun c hc => isMargin_plainChar (h c hc).1 (h c hc).2
  have hcore : ∀ c ∈ sign ++ digits.map plainChar, isMargin c = false := by
    refine List.forall_mem_append.2 ⟨?_, hd.isMargin⟩
    intro c hc
    exact isMargin_of_code (lt_of_lt_of_le (by decide) (hs.isNumeralChar c hc).code)
  have hfirst : ∀ c ∈ (digits.map plainChar).head?, c ≠ '+' ∧ c ≠ '-' := by
    obtain ⟨c, s', d, rfl, hc⟩ := hd.exists_cons
    rw [List.map_cons, plainChar_of_digit hc]
    rintro x ⟨rfl⟩
    exact ne_sign_of_isDigit (isDigit_asciiDigit (digitValue?_lt hc))
  have hne : sign ++ digits.map plainChar ≠ [] := by
    obtain ⟨c, s', d, rfl, -⟩ := hd.exists_cons
    simp
  have hplain : trimBy isMargin (plain text) = sign ++ digits.map plainChar := by
    rw [plain, htext, List.map_append, List.map_append, List.map_append, hs.map_plainChar]
    exact trimBy_surrounded (hmargin hb) hcore (hmargin ha) hne
  unfold readInteger?
  rw [hplain, hs.split hfirst]
  simp only [hd.digitRun?, ofDigits_eq, Option.bind_eq_bind, Option.bind_some]
  rfl

/-! ### What is read is spelled -/

theorem plainChar_cases (c : Char) : plainChar c = c ∨ plainChar c = ' ' ∧ MaySurround c ∨
    plainChar c = '?' ∨ ∃ d, digitValue? c = some d ∧ plainChar c = asciiDigit d := by
  by_cases hc : c.toNat < 0x80
  · left
    exact if_pos hc
  · right
    unfold plainChar
    rw [if_neg hc]
    by_cases hb : isBlank c = true
    · left
      refine ⟨if_pos hb, hb, isInformationSeparator_eq_false_iff.2 ?_⟩
      omega
    · right
      rw [if_neg hb]
      cases hv : digitValue? c with
      | none => exact .inl rfl
      | some d => exact .inr ⟨d, rfl, rfl⟩

/-- The characters between the digits of a numeral stand for themselves. -/
theorem eq_of_plainChar (h : plainChar c = x) (hx : x ∈ ['_', '+', '-']) : c = x := by
  have hother : x ≠ ' ' ∧ x ≠ '?' ∧ x.isDigit = false := by
    simp only [List.mem_cons, List.not_mem_nil, or_false] at hx
    rcases hx with rfl | rfl | rfl <;> decide
  rcases plainChar_cases c with hc | ⟨hc, -⟩ | hc | ⟨d, hd, hc⟩
  · exact hc.symm.trans h
  · exact absurd (h.symm.trans hc) hother.1
  · exact absurd (h.symm.trans hc) hother.2.1
  · have hdigit := isDigit_asciiDigit (digitValue?_lt hd)
    rw [← hc, h, hother.2.2] at hdigit
    cases hdigit

theorem digitValue?_of_isDigit (h : c.isDigit = true) : digitValue? c = some (c.toNat - 0x30) := by
  have hbounds := isDigit_iff.1 h
  obtain ⟨others, hzeros⟩ : ∃ others, digitZeros = 0x30 :: others := ⟨_, rfl⟩
  rw [digitValue?, hzeros, List.find?_cons_of_pos, Option.map_some]
  rw [Bool.and_eq_true, decide_eq_true_eq, decide_eq_true_eq]
  omega

theorem digitValue?_of_digit? (h : digit? (plainChar c) = some d) : digitValue? c = some d := by
  rcases plainChar_cases c with hc | ⟨hc, -⟩ | hc | ⟨e, he, hc⟩
  · rw [hc, digit?] at h
    split at h
    · rename_i hdigit
      rw [digitValue?_of_isDigit hdigit]
      exact h
    · cases h
  · rw [hc] at h
    cases h
  · rw [hc] at h
    cases h
  · rw [hc, digit?_asciiDigit (digitValue?_lt he)] at h
    exact he.trans h

theorem maySurround_of_isMargin (h : isMargin (plainChar c) = true) : MaySurround c := by
  rcases plainChar_cases c with hc | ⟨-, hc⟩ | hc | ⟨d, hd, hc⟩
  · rw [hc, isMargin, Bool.or_eq_true, Bool.and_eq_true, decide_eq_true_eq, decide_eq_true_eq,
      decide_eq_true_eq] at h
    rcases h with rfl | ⟨hl, hu⟩
    · exact ⟨rfl, rfl⟩
    · refine ⟨CodeRanges.covers_iff.2 ⟨(0x9, 0xD), by decide, hl, hu⟩, ?_⟩
      simp only [isInformationSeparator, Bool.and_eq_false_iff, decide_eq_false_iff_not]
      omega
  · exact hc
  · rw [hc] at h
    cases h
  · have hdigit := isDigit_iff.1 (isDigit_asciiDigit (digitValue?_lt hd))
    rw [hc, isMargin_of_code (by omega)] at h
    cases h

/-- What is read as digits is a row of them. -/
theorem digitRow_of_digitRun? : ∀ {s ds}, digitRun? (s.map plainChar) = some ds → DigitRow s ds
  | [], _, h => by cases h
  | [c], ds, h => by
    obtain ⟨d, hd, rfl⟩ := Option.map_eq_some_iff.1 h
    exact .single (digitValue?_of_digit? hd)
  | c :: x :: s, ds, h => by
    rw [List.map_cons, List.map_cons] at h
    by_cases hx : plainChar x = '_'
    · obtain rfl := eq_of_plainChar hx (by simp)
      rw [hx, digitRun?_apart] at h
      obtain ⟨d, hd, h⟩ := Option.bind_eq_some_iff.1 h
      obtain ⟨ds', hds, rfl⟩ := Option.map_eq_some_iff.1 h
      exact .apart (digitValue?_of_digit? hd) (digitRow_of_digitRun? hds)
    · rw [digitRun?_more hx, ← List.map_cons] at h
      obtain ⟨d, hd, h⟩ := Option.bind_eq_some_iff.1 h
      obtain ⟨ds', hds, rfl⟩ := Option.map_eq_some_iff.1 h
      exact .more (digitValue?_of_digit? hd) (digitRow_of_digitRun? hds)

/-- A text splits into a sign and the rest as its characters in ASCII do. -/
theorem splitSign_plainChar (s : List Char) : ∃ sign t, s = sign ++ t ∧
    SignOf sign (splitSign (s.map plainChar)).1 ∧
    (splitSign (s.map plainChar)).2 = t.map plainChar := by
  cases s with
  | nil => exact ⟨[], [], rfl, .missing, rfl⟩
  | cons c s =>
    rw [List.map_cons]
    unfold splitSign
    split
    · rename_i rest heq
      obtain ⟨hc, rfl⟩ := List.cons.inj heq
      obtain rfl := eq_of_plainChar hc (by simp)
      exact ⟨['-'], s, rfl, .minus, rfl⟩
    · rename_i rest heq
      obtain ⟨hc, rfl⟩ := List.cons.inj heq
      obtain rfl := eq_of_plainChar hc (by simp)
      exact ⟨['+'], s, rfl, .plus, rfl⟩
    · exact ⟨[], c :: s, rfl, .missing, rfl⟩

theorem exists_trimBy (drop : Char → Bool) (s : List Char) : ∃ u v, s = u ++ trimBy drop s ++ v ∧
    (∀ c ∈ u, drop c = true) ∧ ∀ c ∈ v, drop c = true := by
  refine ⟨s.takeWhile drop, ((s.dropWhile drop).reverse.takeWhile drop).reverse, ?_, ?_, ?_⟩
  · rw [trimBy, List.append_assoc, ← List.reverse_append, List.takeWhile_append_dropWhile,
      List.reverse_reverse, List.takeWhile_append_dropWhile]
  · intro c hc
    exact List.mem_takeWhile_imp hc
  · intro c hc
    exact List.mem_takeWhile_imp (List.mem_reverse.1 hc)

/-- What is read as an integer spells it, with at most the bounded number of digits. -/
theorem spells_of_readInteger? (h : readInteger? text = some n) :
    ∃ count, SpellsInteger text n count ∧ count ≤ digitLimit := by
  obtain ⟨u, v, htext, hu, hv⟩ := exists_trimBy isMargin (plain text)
  obtain ⟨middle, after, htext, hmiddle, rfl⟩ := List.map_eq_append_iff.1 htext
  obtain ⟨before, core, rfl, rfl, hcore⟩ := List.map_eq_append_iff.1 hmiddle
  obtain ⟨sign, digits, rfl, hsign, hrest⟩ := splitSign_plainChar core
  simp only [readInteger?, ← hcore, hrest, Option.bind_eq_bind] at h
  obtain ⟨ds, hds, h⟩ := Option.bind_eq_some_iff.1 h
  have hrow := digitRow_of_digitRun? hds
  have hblank {s : List Char} (h : ∀ c ∈ s.map plainChar, isMargin c = true) :
      ∀ c ∈ s, MaySurround c := fun c hc =>
    maySurround_of_isMargin (h (plainChar c) (List.mem_map_of_mem hc))
  split at h
  · rename_i hlimit
    obtain rfl := Option.some.inj h
    rw [ofDigits_eq]
    exact ⟨ds.length, .numeral htext (hblank hu) hsign hrow (hblank hv), hlimit⟩
  · cases h

/-! ### The usual spelling -/

theorem digitRow_of_isDigit (hs : ∀ c ∈ s, c.isDigit = true) (hne : s ≠ []) :
    DigitRow s (s.map fun c => c.toNat - 0x30) := by
  induction s with
  | nil => exact absurd rfl hne
  | cons c s ih =>
    rw [List.forall_mem_cons] at hs
    cases s with
    | nil => exact .single (digitValue?_of_isDigit hs.1)
    | cons x s => exact .more (digitValue?_of_isDigit hs.1) (ih hs.2 (List.cons_ne_nil _ _))

/-- The decimal digits of a natural number are a row of digits that write it. -/
theorem digitRow_toDigits (m : Nat) : ∃ ds, DigitRow (Nat.toDigits 10 m) ds ∧ valueOf ds = m ∧
    ds.length = (Nat.toDigits 10 m).length := by
  have hdigits : ∀ c ∈ Nat.toDigits 10 m, c.isDigit = true :=
    fun c hc => Nat.isDigit_of_mem_toDigits (by decide) (by decide) hc
  refine ⟨_, digitRow_of_isDigit hdigits Nat.toDigits_ne_nil, ?_, List.length_map _⟩
  have hvalue : ofDigitChars (Nat.toDigits 10 m) = Nat.ofDigitChars 10 (Nat.toDigits 10 m) 0 := by
    rw [ofDigitChars, ofDigits, List.foldl_map]
    rfl
  rw [← ofDigits_eq]
  exact hvalue.trans Nat.ofDigitChars_ten_toDigits

/-- The decimal text of an integer spells it. -/
theorem spells_toString (n : Int) :
    SpellsInteger (toString n) n (Nat.toDigits 10 n.natAbs).length := by
  obtain ⟨ds, hrow, hvalue, hlength⟩ := digitRow_toDigits n.natAbs
  have hnone : ∀ c ∈ ([] : List Char), MaySurround c := List.forall_mem_nil _
  rw [← hlength]
  cases n with
  | ofNat m =>
    have hdigits : toString (Int.ofNat m) = String.ofList (Nat.toDigits 10 m) :=
      Nat.toString_eq_ofList_toDigits
    have htext : (toString (Int.ofNat m)).toList = [] ++ ([] ++ Nat.toDigits 10 m) ++ [] := by
      rw [hdigits, String.toList_ofList, List.nil_append, List.nil_append, List.append_nil]
    have hn : integerOf false ds = Int.ofNat m := congrArg Int.ofNat hvalue
    have hspells : SpellsInteger _ (integerOf false ds) ds.length :=
      .numeral htext hnone .missing hrow hnone
    rwa [hn] at hspells
  | negSucc m =>
    have hdigits : toString (Int.negSucc m) = "-" ++ String.ofList (Nat.toDigits 10 (m + 1)) := by
      rw [← Nat.toString_eq_ofList_toDigits]
      rfl
    have htext : (toString (Int.negSucc m)).toList =
        [] ++ (['-'] ++ Nat.toDigits 10 (m + 1)) ++ [] := by
      simp [hdigits]
    have hn : integerOf true ds = Int.negSucc m := by
      rw [integerOf, if_pos rfl, hvalue]
      rfl
    have hspells : SpellsInteger _ (integerOf true ds) ds.length :=
      .numeral htext hnone .minus hrow hnone
    rwa [hn] at hspells

end Numeral

/-! ### Integers within bounds -/

/-- The integers of a scalar type are those between two bounds. -/
inductive ScalarType.Spans : ScalarType → Int → Int → Prop
  | integer : Spans .integer (-2 ^ 63) (2 ^ 63 - 1)
  | narrowInteger : Spans .narrowInteger (-2 ^ 31) (2 ^ 31 - 1)

variable {type : ScalarType} {lower upper n : Int} {count : Nat} {text : String}

theorem parseFor_of_spans (h : type.Spans lower upper) (parameter text : String) :
    type.parseFor parameter text = match readInteger? text with
      | none => .error (.unconvertible parameter text type .noNumber)
      | some n =>
        if lower ≤ n ∧ n ≤ upper then .ok (.integer n)
        else .error (.unconvertible parameter text type (.outside n ⟨lower, upper⟩)) := by
  have hbounds (bounds : Bounds) :
      (readBounded bounds text).mapError (Failure.unconvertible parameter text type) =
        match readInteger? text with
        | none => .error (.unconvertible parameter text type .noNumber)
        | some n =>
          if bounds.lower ≤ n ∧ n ≤ bounds.upper then .ok (.integer n)
          else .error (.unconvertible parameter text type (.outside n bounds)) := by
    unfold readBounded
    cases readInteger? text with
    | none => rfl
    | some n =>
      simp only [Bounds.holds, Bool.and_eq_true, decide_eq_true_eq]
      split <;> rfl
  cases h with
  | integer => exact hbounds .wide
  | narrowInteger => exact hbounds .narrow

/-- A spelled integer becomes a value of an integer type exactly if it has at most 4300 digits and lies
within the bounds of the type, and the value is this integer. Otherwise the text is refused with the name
of the parameter, and if the digits are not too many, because the integer is outside the bounds. The
decimal text of each integer within the bounds is read as this integer. -/
theorem integers_read_within_bounds (h : type.Spans lower upper) (parameter : String) :
    (∀ text n count, SpellsInteger text n count →
      (type.parseFor parameter text = .ok (.integer n) ↔
        count ≤ 4300 ∧ lower ≤ n ∧ n ≤ upper) ∧
      (¬ (count ≤ 4300 ∧ lower ≤ n ∧ n ≤ upper) → ∃ f, type.parseFor parameter text = .error f ∧
        f.kind = .config .coercion ∧ f.identifier? = some parameter ∧
        (count ≤ 4300 → f.causeNote? = some (toString n ++ " is outside [" ++ toString lower ++ ", " ++
          toString upper ++ "]")))) ∧
    ∀ n, lower ≤ n → n ≤ upper → type.parseFor parameter (toString n) = .ok (.integer n) := by
  have hspelled (text : String) (n : Int) (count : Nat) (hs : SpellsInteger text n count) :
      type.parseFor parameter text =
        if count ≤ 4300 then
          if lower ≤ n ∧ n ≤ upper then .ok (.integer n)
          else .error (.unconvertible parameter text type (.outside n ⟨lower, upper⟩))
        else .error (.unconvertible parameter text type .noNumber) := by
    rw [parseFor_of_spans h, readInteger?_of_spells hs, digitLimit]
    by_cases hc : count ≤ 4300
    · rw [if_pos hc, if_pos hc]
    · rw [if_neg hc, if_neg hc]
  constructor
  · intro text n count hs
    rw [hspelled text n count hs]
    by_cases hc : count ≤ 4300
    · rw [if_pos hc]
      by_cases hn : lower ≤ n ∧ n ≤ upper
      · rw [if_pos hn]
        exact ⟨iff_of_true rfl ⟨hc, hn⟩, fun hout => absurd ⟨hc, hn⟩ hout⟩
      · rw [if_neg hn]
        exact ⟨iff_of_false (by simp) fun hin => hn hin.2, fun _ => ⟨_, rfl, rfl, rfl, fun _ => rfl⟩⟩
    · rw [if_neg hc]
      exact ⟨iff_of_false (by simp) fun hin => hc hin.1,
        fun _ => ⟨_, rfl, rfl, rfl, fun hle => absurd hle hc⟩⟩
  · intro n hl hu
    have hcount : (Nat.toDigits 10 n.natAbs).length ≤ 4300 := by
      have hsize : n.natAbs < 10 ^ 19 := by cases h <;> omega
      have := (Nat.length_toDigits_le_iff (by decide) (by decide)).2 hsize
      omega
    rw [hspelled _ n _ (spells_toString n), if_pos hcount, if_pos ⟨hl, hu⟩]

/-- The least integer of 64 bits, with blanks, a zero and an underscore. -/
theorem integers_read_within_bounds_least :
    ScalarType.Spans .integer (-2 ^ 63) (2 ^ 63 - 1) ∧
    SpellsInteger "\t-0_9223372036854775808\n" (-2 ^ 63) 20 ∧
    ScalarType.integer.parseFor "limit" "\t-0_9223372036854775808\n" = .ok (.integer (-2 ^ 63)) ∧
    ScalarType.Spans .narrowInteger (-2 ^ 31) (2 ^ 31 - 1) ∧
    (∃ f, ScalarType.narrowInteger.parseFor "limit" "\t-0_9223372036854775808\n" = .error f ∧
      f.kind = .config .coercion ∧ f.identifier? = some "limit" ∧
      f.causeNote? = some "-9223372036854775808 is outside [-2147483648, 2147483647]") ∧
    ScalarType.integer.parseFor "limit" (toString (-2 ^ 63 : Int)) = .ok (.integer (-2 ^ 63)) := by
  have hspells : SpellsInteger "\t-0_9223372036854775808\n" (-2 ^ 63) 20 := by
    have hrow : DigitRow "0_9223372036854775808".toList
        [0, 9, 2, 2, 3, 3, 7, 2, 0, 3, 6, 8, 5, 4, 7, 7, 5, 8, 0, 8] :=
      digitRow_of_digitRun? (by decide +kernel)
    have htab : ∀ c ∈ ['\t'], MaySurround c := List.forall_mem_singleton.2 ⟨rfl, rfl⟩
    have hline : ∀ c ∈ ['\n'], MaySurround c := List.forall_mem_singleton.2 ⟨rfl, rfl⟩
    exact SpellsInteger.numeral rfl htab .minus hrow hline
  have hwide := integers_read_within_bounds .integer "limit"
  have hnarrow := integers_read_within_bounds .narrowInteger "limit"
  obtain ⟨f, herror, hkind, hidentifier, hnote⟩ := (hnarrow.1 _ _ _ hspells).2 (by decide)
  exact ⟨.integer, hspells, (hwide.1 _ _ _ hspells).1.2 (by decide), .narrowInteger,
    ⟨f, herror, hkind, hidentifier, (hnote (by decide)).trans (by decide +kernel)⟩,
    hwide.2 _ (by decide) (by decide)⟩

end ComponentAssembly

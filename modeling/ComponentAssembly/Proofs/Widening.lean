import ComponentAssembly.Proofs.Narrowing
import ComponentAssembly.Proofs.ReadingIntegers

/-! A text that is read as an integer is read alike by the wider types of numbers: as the same integer,
and as the double nearest to it, which is the integer itself if it has 32 bits. -/

namespace ComponentAssembly

open Numeral Text

namespace Numeral

variable {c : Char} {s : List Char} {ds : List Nat} {negative : Bool} {n : Int} {count : Nat}
  {text : String}

theorem code_of_digitValue? {d : Nat} (h : digitValue? c = some d) : 0x30 ≤ c.toNat := by
  have hfirst : ∀ base ∈ digitZeros, 0x30 ≤ base := by decide
  obtain ⟨base, hz, -⟩ := Option.map_eq_some_iff.1 h
  have hbounds := List.find?_some hz
  rw [Bool.and_eq_true, decide_eq_true_eq] at hbounds
  exact (hfirst base (List.mem_of_find?_eq_some hz)).trans hbounds.1

theorem DigitRow.code (h : DigitRow s ds) : ∀ c ∈ s, 0x30 ≤ c.toNat := by
  induction h with
  | single hc => exact List.forall_mem_singleton.2 (code_of_digitValue? hc)
  | more hc _ ih => exact List.forall_mem_cons.2 ⟨code_of_digitValue? hc, ih⟩
  | apart hc _ ih =>
    exact List.forall_mem_cons.2 ⟨code_of_digitValue? hc, List.forall_mem_cons.2 ⟨by decide, ih⟩⟩

/-- A text that spells an integer spells it as a decimal number. -/
theorem SpellsInteger.spells (h : SpellsInteger text n count) : ∃ negative x,
    Spells text negative x ∧ signed negative x = n ∧
      ∀ c ∈ text.toList, isInformationSeparator c = false := by
  obtain @⟨before, sign, digits, after, negative, ds, htext, hb, hs, hd, ha⟩ := h
  have hsplit : text.toList = before ++ (sign ++ (digits ++ [])) ++ after := by
    rw [List.append_nil, htext]
  refine ⟨negative, _, .numeral hsplit (fun c hc => (hb c hc).1) hs (.whole hd) .missing
    fun c hc => (ha c hc).1, ?_, ?_⟩
  · cases negative <;> simp [signed, integerOf]
  · rw [htext]
    simp only [List.forall_mem_append]
    refine ⟨⟨fun c hc => (hb c hc).2, ?_, ?_⟩, fun c hc => (ha c hc).2⟩
    · intro c hc
      exact isInformationSeparator_eq_false_iff.2
        (.inr (le_trans (by decide) (hs.isNumeralChar c hc).code))
    · intro c hc
      exact isInformationSeparator_eq_false_iff.2 (.inr (le_trans (by decide) (hd.code c hc)))

/-- A spelled decimal number below the limit of doubles is read as the double it is rounded to. -/
theorem readDouble?_of_spells {x : ℚ} (h : Spells text negative x)
    (hs : ∀ c ∈ text.toList, isInformationSeparator c = false) (hx : x < Format.double.limit) :
    ∃ m e, readDouble? text = some (.finite negative m e) ∧
      Format.double.RoundsTo (signed negative x) (signed negative (dyadic m e)) := by
  obtain ⟨n, k, hread, rfl⟩ := readDecimal?_of_spells h hs
  rcases toDouble_cases negative n k with ⟨hle, -⟩ | ⟨-, m, e, hfin, -⟩
  · exact absurd hx (not_lt.2 hle)
  · refine ⟨m, e, ?_, (toDouble_roundsTo hfin).2⟩
    rw [readDouble?, hread, Option.map_some, hfin]

end Numeral

variable {text : String} {n : Int}

theorem lt_limit_of_bounds (hl : -2 ^ 63 ≤ n) (hu : n ≤ 2 ^ 63 - 1) :
    |(n : ℚ)| < Format.double.limit := by
  have habs : |(n : ℚ)| ≤ 2 ^ (63 : Int) := by
    rw [abs_le]
    constructor
    · exact_mod_cast hl
    · have : n ≤ 2 ^ 63 := by omega
      exact_mod_cast this
  calc |(n : ℚ)| ≤ 2 ^ (63 : Int) := habs
    _ < 2 ^ (1023 : Int) := zpow_lt_zpow_right₀ (by norm_num) (by decide)
    _ = dyadic (2 ^ 53) 970 := (dyadic_two_pow 53 970).symm
    _ ≤ Format.double.limit := pow_le_limit _

theorem represents_of_bounds (hl : -2 ^ 31 ≤ n) (hu : n ≤ 2 ^ 31 - 1) :
    Format.double.Represents |(n : ℚ)| := by
  refine ⟨n.natAbs, 0, ?_, by decide, by decide, ?_⟩
  · have : n.natAbs < 2 ^ 53 := by omega
    exact this
  · rw [dyadic, zpow_zero, mul_one, Nat.cast_natAbs, Int.cast_abs]

theorem integer_ok_iff {v : Value} {type : ScalarType} {lower upper : Int}
    (h : type.Spans lower upper) (parameter : String) :
    type.parseFor parameter text = .ok v ↔
      ∃ n, readInteger? text = some n ∧ lower ≤ n ∧ n ≤ upper ∧ v = .integer n := by
  rw [parseFor_of_spans h]
  cases readInteger? text with
  | none => simp
  | some n =>
    simp only [Option.some.injEq, exists_eq_left']
    by_cases hn : lower ≤ n ∧ n ≤ upper
    · rw [if_pos hn]
      simp [hn, eq_comm]
    · rw [if_neg hn]
      simp only [reduceCtorEq, false_iff]
      exact fun ⟨hl, hu, _⟩ => hn ⟨hl, hu⟩

/-- An integer of 64 bits is read as the double that it is rounded to. -/
theorem real_of_readInteger? (h : readInteger? text = some n) (hl : -2 ^ 63 ≤ n)
    (hu : n ≤ 2 ^ 63 - 1) (parameter : String) : ∃ negative m e,
      ScalarType.real.parseFor parameter text = .ok (.real (.finite negative m e)) ∧
      Format.double.RoundsTo n (signed negative (dyadic m e)) := by
  obtain ⟨count, hspells, -⟩ := spells_of_readInteger? h
  obtain ⟨negative, x, hx, hn, hclear⟩ := hspells.spells
  have hlt : x < Format.double.limit := by
    calc x ≤ |x| := le_abs_self x
      _ = |(n : ℚ)| := by rw [← hn, abs_signed]
      _ < Format.double.limit := lt_limit_of_bounds hl hu
  obtain ⟨m, e, hread, hround⟩ := readDouble?_of_spells hx hclear hlt
  rw [hn] at hround
  refine ⟨negative, m, e, ?_, hround⟩
  rw [ScalarType.parseFor, ScalarType.parse, hread]
  rfl

/-- A text that is an integer of 32 bits is the same integer of 64 bits, and the double that is equal
to it. A text that is an integer of 64 bits is the same integer of 32 bits if it lies within their
bounds, and is refused as lying outside otherwise; and it is the double nearest to it. -/
theorem widening_keeps_integers (parameter text : String) :
    (∀ v, ScalarType.narrowInteger.parseFor parameter text = .ok v →
      ScalarType.integer.parseFor parameter text = .ok v ∧ ∃ n : Int, v = .integer n ∧
        ∃ negative m e, ScalarType.real.parseFor parameter text =
          .ok (.real (.finite negative m e)) ∧ signed negative (dyadic m e) = n) ∧
    ∀ v, ScalarType.integer.parseFor parameter text = .ok v → ∃ n : Int, v = .integer n ∧
      (-2 ^ 31 ≤ n ∧ n ≤ 2 ^ 31 - 1 →
        ScalarType.narrowInteger.parseFor parameter text = .ok v) ∧
      (¬ (-2 ^ 31 ≤ n ∧ n ≤ 2 ^ 31 - 1) →
        ScalarType.narrowInteger.parseFor parameter text =
          .error (.unconvertible parameter text .narrowInteger (.outside n .narrow))) ∧
      ∃ negative m e, ScalarType.real.parseFor parameter text =
        .ok (.real (.finite negative m e)) ∧
        Format.double.RoundsTo n (signed negative (dyadic m e)) := by
  constructor
  · intro v hv
    obtain ⟨n, hread, hl, hu, rfl⟩ := (integer_ok_iff .narrowInteger parameter).1 hv
    obtain ⟨negative, m, e, hreal, hround⟩ :=
      real_of_readInteger? hread (by omega) (by omega) parameter
    exact ⟨(integer_ok_iff .integer parameter).2 ⟨n, hread, by omega, by omega, rfl⟩, n, rfl,
      negative, m, e, hreal, hround.eq_of_represents (represents_of_bounds hl hu)⟩
  · intro v hv
    obtain ⟨n, hread, hl, hu, rfl⟩ := (integer_ok_iff .integer parameter).1 hv
    refine ⟨n, rfl, ?_, ?_, real_of_readInteger? hread hl hu parameter⟩
    · intro hin
      exact (integer_ok_iff .narrowInteger parameter).2 ⟨n, hread, hin.1, hin.2, rfl⟩
    · intro hout
      rw [parseFor_of_spans .narrowInteger, hread]
      exact if_neg hout

/-- An integer of 32 bits in digits of another script, and one that needs more bits. -/
theorem widening_keeps_integers_sizes :
    ScalarType.narrowInteger.parseFor "size" " -0٤_2" = .ok (.integer (-42)) ∧
    (∃ negative m e, ScalarType.real.parseFor "size" " -0٤_2" =
      .ok (.real (.finite negative m e)) ∧ signed negative (dyadic m e) = (-42 : Int)) ∧
    ScalarType.integer.parseFor "size" "+3_000000000" = .ok (.integer 3000000000) ∧
    ScalarType.narrowInteger.parseFor "size" "+3_000000000" =
      .error (.unconvertible "size" "+3_000000000" .narrowInteger
        (.outside 3000000000 .narrow)) := by
  have hsmall : ScalarType.narrowInteger.parseFor "size" " -0٤_2" = .ok (.integer (-42)) := by rfl
  have hlarge : ScalarType.integer.parseFor "size" "+3_000000000" = .ok (.integer 3000000000) := by
    rfl
  obtain ⟨-, n, hn, hreal⟩ := (widening_keeps_integers "size" " -0٤_2").1 _ hsmall
  obtain ⟨k, hk, -, houtside, -⟩ := (widening_keeps_integers "size" "+3_000000000").2 _ hlarge
  obtain rfl := Value.integer.inj hn
  obtain rfl := Value.integer.inj hk
  exact ⟨hsmall, hreal, hlarge, houtside (by decide)⟩

end ComponentAssembly

import ComponentAssembly.Parameter.Conversion
import ComponentAssembly.Proofs.ReadingNumerals
import ComponentAssembly.Proofs.RoundingNearest
import Mathlib.Tactic.NormNum.Pow

/-! A spelled decimal number as one of single precision: where it is refused, and where it becomes an
infinity. -/

namespace ComponentAssembly

open Numeral Text

namespace Numeral

variable {negative : Bool} {n m : Nat} {e k : Int} {x : ℚ} {text : String}

theorem two_zpow_le_ten (hk : 0 ≤ k) : (2 : ℚ) ^ (3 * k) ≤ 10 ^ k := by
  rw [zpow_mul]
  exact zpow_le_zpow_left₀ hk (by norm_num) (by norm_num)

theorem ten_zpow_le_two (hk : k ≤ 0) : (10 : ℚ) ^ k ≤ 2 ^ (3 * k) := by
  have hle := two_zpow_le_ten (neg_nonneg.2 hk)
  rw [mul_neg, zpow_neg, zpow_neg] at hle
  exact (inv_le_inv₀ (by positivity) (by positivity)).1 hle

/-- A power of ten beyond the range of doubles. -/
theorem limit_le_of_large (hn : 0 < n) (hk : 400 < k) : Format.double.limit ≤ n * 10 ^ k := by
  have h1 : (1 : ℚ) ≤ n := by exact_mod_cast hn
  calc Format.double.limit ≤ dyadic (2 ^ 53) 971 := limit_le_pow _
    _ = 2 ^ (1024 : Int) := dyadic_two_pow ..
    _ ≤ 2 ^ (3 * k) := zpow_le_zpow_right₀ (by norm_num) (by omega)
    _ ≤ 10 ^ k := two_zpow_le_ten (by omega)
    _ ≤ n * 10 ^ k := le_mul_of_one_le_left (by positivity) h1

/-- A power of ten that leaves less than half of the smallest double. -/
theorem lt_of_small (hk : (n.log2 : Int) + 1100 < -3 * k) :
    (n : ℚ) * 10 ^ k < 2 ^ (Format.double.minExponent - 1) := by
  have hlog : (n : ℚ) < 2 ^ ((n.log2 : Int) + 1) := by exact_mod_cast Nat.lt_log2_self
  calc (n : ℚ) * 10 ^ k < 2 ^ ((n.log2 : Int) + 1) * 10 ^ k := by gcongr
    _ ≤ 2 ^ ((n.log2 : Int) + 1) * 2 ^ (3 * k) := by
      gcongr
      exact ten_zpow_le_two (by omega)
    _ = 2 ^ ((n.log2 : Int) + 1 + 3 * k) := (zpow_add₀ two_ne_zero _ _).symm
    _ ≤ 2 ^ (Format.double.minExponent - 1) := by
      refine zpow_le_zpow_right₀ (by norm_num) ?_
      simp only [Format.double]
      omega

theorem tenTo_eq (n : Nat) : tenTo n = 10 ^ n := rfl

/-- A decimal number is rounded as the quotient it is: what is decided without computing its power of
ten comes out the same. -/
theorem toDouble_eq_round (negative : Bool) (n : Nat) (k : Int) : ∃ num den : Nat, 0 < den ∧
    (num : ℚ) / den = n * 10 ^ k ∧
    (Decimal.finite negative n k).toDouble = Format.double.round negative num den := by
  have hlarge (hk : 0 ≤ k) : ((n * tenTo k.natAbs : Nat) : ℚ) / (1 : Nat) = n * 10 ^ k := by
    have habs : (k.natAbs : Int) = k := by omega
    rw [tenTo_eq, Nat.cast_one, div_one]
    push_cast
    rw [← zpow_natCast, habs]
  have hsmall (hk : k < 0) : (n : ℚ) / (tenTo k.natAbs : Nat) = n * 10 ^ k := by
    have habs : (k.natAbs : Int) = -k := by omega
    rw [tenTo_eq]
    push_cast
    rw [← zpow_natCast, habs, zpow_neg, div_inv_eq_mul]
  simp only [Decimal.toDouble]
  -- The second and the third branch do not compute the power; the others are the quotient already.
  split
  · rename_i hn
    exact ⟨0, 1, Nat.one_pos, by simp [hn], rfl⟩
  rename_i hn
  split
  · rename_i hk
    refine ⟨_, _, Nat.one_pos, hlarge (by omega), ?_⟩
    rcases round_limit (f := .double) (by decide) (by decide) Nat.one_pos negative
      (n * tenTo k.natAbs) with ⟨-, hinf⟩ | ⟨hlt, -⟩
    · exact hinf.symm
    · rw [hlarge (by omega)] at hlt
      exact absurd (limit_le_of_large (by omega) hk) (not_le.2 hlt)
  split
  · rename_i hk
    refine ⟨_, _, tenTo_pos _, hsmall (by omega), ?_⟩
    have hlt := lt_of_small hk
    rw [← hsmall (by omega)] at hlt
    exact (round_of_small (by decide) (by decide) (tenTo_pos _) hlt negative).symm
  split
  · rename_i hk
    exact ⟨_, _, tenTo_pos _, hsmall hk, rfl⟩
  · rename_i hk
    exact ⟨_, _, Nat.one_pos, hlarge (by omega), rfl⟩

/-- The double of a decimal number is an infinity from the limit on. Below it, it is finite, and no
double is between it and the number. -/
theorem toDouble_cases (negative : Bool) (n : Nat) (k : Int) :
    (Format.double.limit ≤ n * 10 ^ k ∧
      (Decimal.finite negative n k).toDouble = .infinite negative) ∨
    (n * 10 ^ k < Format.double.limit ∧ ∃ m e,
      (Decimal.finite negative n k).toDouble = .finite negative m e ∧
      ∀ y, Format.double.Represents y →
        (y ≤ n * 10 ^ k → y ≤ dyadic m e) ∧ (n * 10 ^ k ≤ y → dyadic m e ≤ y)) := by
  obtain ⟨num, den, hd, hx, hround⟩ := toDouble_eq_round negative n k
  rw [hround, ← hx]
  rcases round_limit (f := .double) (by decide) (by decide) hd negative num with
    hinf | ⟨hlt, m, e, hfin⟩
  · exact .inl hinf
  · exact .inr ⟨hlt, m, e, hfin, fun y hy =>
      ⟨fun hle => le_round (by decide) (by decide) hd hy hle hfin,
        fun hle => round_le (by decide) (by decide) hd hy hle hfin⟩⟩

/-- An infinite double is passed on. -/
theorem readSingle?_of_infinite (h : readDouble? text = some (.infinite negative)) :
    readSingle? text = some (.infinite negative) := by
  unfold readSingle?
  rw [h]
  rfl

/-- A finite double is refused from the limit of single precision on, and below it becomes the number
of single precision that it is rounded to, as a double stores it. -/
theorem readSingle?_of_finite (h : readDouble? text = some (.finite negative m e)) :
    (Format.single.limit ≤ dyadic m e ∧ readSingle? text = none) ∨
    (dyadic m e < Format.single.limit ∧ ∃ n k, readSingle? text = some (.finite negative n k) ∧
      Format.double.Stores n k ∧
      Format.single.RoundsTo (signed negative (dyadic m e)) (signed negative (dyadic n k))) := by
  unfold readSingle?
  rw [h]
  simp only [Option.bind_eq_bind, Option.bind_some]
  rcases convert_limit (f := .single) (by decide) (by decide) negative m e with
    ⟨hle, hinf⟩ | ⟨hlt, n, k, hfin⟩
  · exact .inl ⟨hle, by rw [hinf]⟩
  · have hs := convert_has (f := .single) (by decide) (by decide) (.finite negative m e)
    rw [hfin] at hs
    obtain ⟨n', k', hd, heq⟩ :=
      convert_exact (f := .double) (by decide) negative (represents_double hs)
    refine .inr ⟨hlt, n', k', ?_, convert_stores (by decide) (by decide) hd, ?_⟩
    · rw [hfin]
      exact congrArg some hd
    · rw [heq]
      exact convert_roundsTo (by decide) (by decide) hfin

theorem represents_pow : Format.double.Represents (2 ^ 128) := by
  have hpow : dyadic 1 128 = 2 ^ 128 := one_mul _
  exact ⟨1, 128, by decide, by decide, by decide, hpow.symm⟩

theorem limit_single_le : Format.single.limit ≤ 2 ^ 128 := by
  calc Format.single.limit ≤ dyadic (2 ^ 24) 104 := limit_le_pow _
    _ = 2 ^ 128 := dyadic_two_pow ..

/-- A decimal number read for single precision: an infinity from the limit of doubles on, below it
refused or a finite number of single precision. It is refused from `2 ^ 128` on, and not up to the
greatest number of single precision. -/
theorem readSingle?_cases (h : readDecimal? text = some (.finite negative n k)) :
    (Format.double.limit ≤ n * 10 ^ k ∧ readSingle? text = some (.infinite negative)) ∨
    (n * 10 ^ k < Format.double.limit ∧ Format.single.greatest < n * 10 ^ k ∧
      readSingle? text = none) ∨
    (n * 10 ^ k < Format.double.limit ∧ (n * 10 ^ k : ℚ) < 2 ^ 128 ∧ ∃ m e,
      readSingle? text = some (.finite negative m e) ∧ Format.single.Represents (dyadic m e)) := by
  have hdouble : readDouble? text = some (Decimal.finite negative n k).toDouble := by
    rw [readDouble?, h, Option.map_some]
  rcases toDouble_cases negative n k with ⟨hle, hinf⟩ | ⟨hlt, m, e, hfin, hcross⟩
  · rw [hinf] at hdouble
    exact .inl ⟨hle, readSingle?_of_infinite hdouble⟩
  rw [hfin] at hdouble
  rcases readSingle?_of_finite hdouble with ⟨hlimit, hnone⟩ | ⟨hlimit, m', e', hsome, -, hround⟩
  · refine .inr (.inl ⟨hlt, not_le.1 fun hx => ?_, hnone⟩)
    have hgreatest := represents_double (represents_greatest (f := .single) (by decide))
    have hm := (hcross _ hgreatest).2 hx
    exact absurd (greatest_lt_limit .single) (not_lt.2 (hlimit.trans hm))
  · have hsingle := hround.represents
    rw [abs_signed, abs_of_nonneg (dyadic_nonneg m' e')] at hsingle
    refine .inr (.inr ⟨hlt, not_le.1 fun hx => ?_, m', e', hsome, hsingle⟩)
    have hm := (hcross _ represents_pow).1 hx
    exact absurd hlimit (not_lt.2 (limit_single_le.trans hm))

end Numeral

variable {text : String} {negative : Bool} {x : ℚ}

/-- A setter of single precision is given a finite number of this precision. -/
def IsFiniteSingle (r : Except Failure Value) : Prop :=
  ∃ negative m e, r = .ok (.real (.finite negative m e)) ∧ Format.single.Represents (dyadic m e)

/-- A text holds an information separator. -/
def HasInformationSeparator (text : String) : Prop :=
  ∃ c ∈ text.toList, isInformationSeparator c = true

theorem parseFor_narrowReal (parameter text : String) :
    ScalarType.narrowReal.parseFor parameter text = match readSingle? text with
      | none => .error (.unconvertible parameter text .narrowReal .noNumber)
      | some b => .ok (.real b) := by
  unfold ScalarType.parseFor ScalarType.parse orNoNumber
  cases readSingle? text <;> rfl

/-- What becomes of a text that spells a decimal number where a number of single precision is wanted.
It is a finite number of this precision or refused exactly if the magnitude is rounded to a finite
double, or if an information separator stands among the blanks around it. In these cases it is refused
from `2 ^ 128` on, and without such a separator it is not refused up to the greatest number of single
precision. Every other text becomes an infinity. -/
theorem narrowReal_of_spells (h : Spells text negative x) (parameter : String) :
    (IsFiniteSingle (ScalarType.narrowReal.parseFor parameter text) ∨
        ScalarType.narrowReal.parseFor parameter text =
          .error (.unconvertible parameter text .narrowReal .noNumber) ↔
      x < 2 ^ 1024 - 2 ^ 970 ∨ HasInformationSeparator text) ∧
    (2 ^ 128 ≤ x → x < 2 ^ 1024 - 2 ^ 970 ∨ HasInformationSeparator text →
      ScalarType.narrowReal.parseFor parameter text =
        .error (.unconvertible parameter text .narrowReal .noNumber)) ∧
    (x ≤ (2 ^ 24 - 1) * 2 ^ 104 → ¬ HasInformationSeparator text →
      IsFiniteSingle (ScalarType.narrowReal.parseFor parameter text)) ∧
    (2 ^ 1024 - 2 ^ 970 ≤ x → ¬ HasInformationSeparator text →
      ScalarType.narrowReal.parseFor parameter text = .ok (.real (.infinite negative))) := by
  rw [parseFor_narrowReal]
  by_cases hsep : HasInformationSeparator text
  · obtain ⟨c, hc, hs⟩ := hsep
    have hnone : readSingle? text = none := by
      rw [readSingle?, readDouble?, readDecimal?_of_separator hc hs]
      rfl
    rw [hnone]
    exact ⟨iff_of_true (.inr rfl) (.inr ⟨c, hc, hs⟩), fun _ _ => rfl,
      fun _ hn => absurd ⟨c, hc, hs⟩ hn, fun _ hn => absurd ⟨c, hc, hs⟩ hn⟩
  have hclear : ∀ c ∈ text.toList, isInformationSeparator c = false :=
    fun c hc => Bool.eq_false_iff.2 fun hs => hsep ⟨c, hc, hs⟩
  obtain ⟨n, k, hread, rfl⟩ := readDecimal?_of_spells h hclear
  have hlimit : Format.double.limit = 2 ^ 1024 - 2 ^ 970 := limit_eq _
  have hgreatest : Format.single.greatest = (2 ^ 24 - 1) * 2 ^ 104 := by
    norm_num [Format.greatest, Format.single, dyadic]
  have hbelow : Format.single.greatest < Format.double.limit :=
    (represents_double (represents_greatest (by decide))).lt_limit
  rw [← hlimit, ← hgreatest, or_iff_left hsep]
  rcases readSingle?_cases hread with
    ⟨hle, hinf⟩ | ⟨hlt, habove, hnone⟩ | ⟨hlt, hsmall, m, e, hfin, hm⟩
  · rw [hinf]
    refine ⟨iff_of_false ?_ (not_lt.2 hle), fun _ hlt => absurd hle (not_le.2 hlt),
      fun hx => absurd (hbelow.trans_le hle) (not_lt.2 hx), fun _ _ => rfl⟩
    rintro (⟨negative, m, e, heq, -⟩ | heq) <;> cases heq
  · rw [hnone]
    exact ⟨iff_of_true (.inr rfl) hlt, fun _ _ => rfl, fun hx => absurd habove (not_lt.2 hx),
      fun hle => absurd hlt (not_lt.2 hle)⟩
  · rw [hfin]
    have hfinite : IsFiniteSingle (.ok (.real (.finite negative m e))) := ⟨negative, m, e, rfl, hm⟩
    exact ⟨iff_of_true (.inl hfinite) hlt, fun hle => absurd hsmall (not_lt.2 hle),
      fun _ _ => hfinite, fun hle => absurd hlt (not_lt.2 hle)⟩

theorem spells_beyond_single : Spells " -3_5.0e37 " true (350 * 10 ^ (36 : Int)) := by
  have hwhole : DigitRow ['3', '_', '5'] [3, 5] := .apart rfl (.single rfl)
  have hpart : DigitRow ['0'] [0] := .single rfl
  have hpower : DigitRow ['3', '7'] [3, 7] := .more rfl (.single rfl)
  have hblank : ∀ c ∈ [' '], isBlank c = true := List.forall_mem_singleton.2 rfl
  exact @Spells.numeral _ [' '] _ _ _ [' '] _ _ _ _ rfl hblank .minus
    (.pointed (.inl hwhole) (.inl hpart) (by decide)) (.marked (.inl rfl) .missing hpower) hblank

/-- A number beyond single precision that is still a double is refused. -/
theorem narrowReal_of_spells_beyond :
    Spells " -3_5.0e37 " true (350 * 10 ^ (36 : Int)) ∧ (2 : ℚ) ^ 128 ≤ 350 * 10 ^ (36 : Int) ∧
      ScalarType.narrowReal.parseFor "ratio" " -3_5.0e37 " =
        .error (.unconvertible "ratio" " -3_5.0e37 " .narrowReal .noNumber) := by
  have hlarge : (2 : ℚ) ^ 128 ≤ 350 * 10 ^ (36 : Int) := by norm_num
  have hdouble : (350 * 10 ^ (36 : Int) : ℚ) < 2 ^ 1024 - 2 ^ 970 := by
    calc (350 * 10 ^ (36 : Int) : ℚ) < 2 ^ (129 : Int) := by norm_num
      _ ≤ 2 ^ (1023 : Int) := zpow_le_zpow_right₀ (by norm_num) (by decide)
      _ = dyadic (2 ^ 53) 970 := (dyadic_two_pow 53 970).symm
      _ ≤ Format.double.limit := pow_le_limit _
      _ = 2 ^ 1024 - 2 ^ 970 := limit_eq _
  exact ⟨spells_beyond_single, hlarge,
    (narrowReal_of_spells spells_beyond_single "ratio").2.1 hlarge (.inl hdouble)⟩

/-- A number beyond the doubles is not: it is finite, and becomes an infinity. -/
theorem infinite_of_spells :
    Spells "1e999" false (1 * 10 ^ (999 : Int)) ∧ (2 : ℚ) ^ 128 ≤ 1 * 10 ^ (999 : Int) ∧
      ScalarType.narrowReal.parseFor "ratio" "1e999" = .ok (.real (.infinite false)) ∧
      ¬ (IsFiniteSingle (ScalarType.narrowReal.parseFor "ratio" "1e999") ∨
        ∃ f, ScalarType.narrowReal.parseFor "ratio" "1e999" = .error f) := by
  have hspells : Spells "1e999" false (1 * 10 ^ (999 : Int)) := by
    have hone : DigitRow ['1'] [1] := .single rfl
    have hpower : DigitRow ['9', '9', '9'] [9, 9, 9] := .more rfl (.more rfl (.single rfl))
    exact @Spells.numeral _ [] _ _ _ [] _ _ _ _ rfl (List.forall_mem_nil _) .missing
      (.whole hone) (.marked (.inl rfl) .missing hpower) (List.forall_mem_nil _)
  have hinf : ScalarType.narrowReal.parseFor "ratio" "1e999" = .ok (.real (.infinite false)) := rfl
  refine ⟨hspells, ?_, hinf, ?_⟩
  · calc (2 : ℚ) ^ 128 ≤ 2 ^ (3 * 999 : Int) :=
          zpow_le_zpow_right₀ (a := (2 : ℚ)) (m := 128) (by norm_num) (by decide)
      _ ≤ 10 ^ (999 : Int) := two_zpow_le_ten (by decide)
      _ = 1 * 10 ^ (999 : Int) := (one_mul _).symm
  · rw [hinf]
    rintro (⟨negative, m, e, heq, -⟩ | ⟨f, heq⟩) <;> cases heq

end ComponentAssembly

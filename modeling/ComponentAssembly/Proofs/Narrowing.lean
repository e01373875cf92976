import ComponentAssembly.Proofs.Overflowing

/-! A text that is read as a finite double, where a number of single precision is wanted: it is refused
from the limit of this precision on, and below it becomes the nearest number, ties to the even
significand. -/

namespace ComponentAssembly

open Numeral

namespace Numeral

variable {negative : Bool} {n m : Nat} {e k : Int} {text : String}

/-- The double of a decimal number is a double as it is stored, and what the number is rounded to. -/
theorem toDouble_roundsTo (h : (Decimal.finite negative n k).toDouble = .finite negative m e) :
    Format.double.Stores m e ∧
      Format.double.RoundsTo (signed negative (n * 10 ^ k)) (signed negative (dyadic m e)) := by
  obtain ⟨num, den, hd, hx, hround⟩ := toDouble_eq_round negative n k
  rw [hround] at h
  rw [← hx]
  exact ⟨round_stores (by decide) (by decide) hd h, round_roundsTo (by decide) (by decide) hd h⟩

theorem sign_toDouble {negative' : Bool}
    (h : (Decimal.finite negative n k).toDouble = .finite negative' m e) : negative' = negative := by
  rcases toDouble_cases negative n k with ⟨-, hinf⟩ | ⟨-, m', e', hfin, -⟩
  · rw [hinf] at h
    cases h
  · rw [hfin] at h
    cases h
    rfl

/-- What is read as a finite double is a double as it is stored. -/
theorem readDouble?_stores (h : readDouble? text = some (.finite negative m e)) :
    Format.double.Stores m e := by
  obtain ⟨d, -, hd⟩ := Option.map_eq_some_iff.1 h
  cases d with
  | nan | infinite negative' => cases hd
  | finite negative' n k =>
    obtain rfl := sign_toDouble hd
    exact (toDouble_roundsTo hd).1

end Numeral

variable {text : String} {negative : Bool} {m : Nat} {e : Int}

theorem single_limit : Format.single.limit = 2 ^ 128 - 2 ^ 103 := limit_eq _

theorem parseFor_narrowReal_of_finite (h : readDouble? text = some (.finite negative m e))
    (parameter : String) :
    (2 ^ 128 - 2 ^ 103 ≤ dyadic m e ∧ ScalarType.narrowReal.parseFor parameter text =
      .error (.unconvertible parameter text .narrowReal .noNumber)) ∨
    (dyadic m e < 2 ^ 128 - 2 ^ 103 ∧ ∃ n k, ScalarType.narrowReal.parseFor parameter text =
        .ok (.real (.finite negative n k)) ∧ Format.double.Stores n k ∧
      Format.single.RoundsTo (signed negative (dyadic m e)) (signed negative (dyadic n k))) := by
  rw [parseFor_narrowReal, ← single_limit]
  rcases readSingle?_of_finite h with ⟨hle, hnone⟩ | ⟨hlt, n, k, hsome, hround⟩
  · left
    rw [hnone]
    exact ⟨hle, rfl⟩
  · right
    rw [hsome]
    exact ⟨hlt, n, k, rfl, hround⟩

theorem roundsTo_of_narrowReal {parameter : String} {n : Nat} {k : Int}
    (h : readDouble? text = some (.finite negative m e))
    (hok : ScalarType.narrowReal.parseFor parameter text = .ok (.real (.finite negative n k))) :
    Format.single.RoundsTo (signed negative (dyadic m e)) (signed negative (dyadic n k)) := by
  rcases parseFor_narrowReal_of_finite h parameter with ⟨-, herr⟩ | ⟨-, n', k', hok', -, hround⟩
  · rw [hok] at herr
    cases herr
  · rw [hok] at hok'
    cases hok'
    exact hround

/-- What becomes of a text that is read as a finite double where a number of single precision is
wanted. It is refused exactly if the magnitude is not below the middle between the greatest number of
this precision and the next power of two. Otherwise it becomes the number of this precision, of the same
sign, that the double is rounded to: the nearest one, ties to the even significand. So a double of this
precision is kept as it is, and the order of two doubles is kept. -/
theorem narrowReal_nearest (h : readDouble? text = some (.finite negative m e))
    (parameter : String) :
    (ScalarType.narrowReal.parseFor parameter text =
        .error (.unconvertible parameter text .narrowReal .noNumber) ↔
      2 ^ 128 - 2 ^ 103 ≤ dyadic m e) ∧
    (dyadic m e < 2 ^ 128 - 2 ^ 103 → ∃ n k,
      ScalarType.narrowReal.parseFor parameter text = .ok (.real (.finite negative n k)) ∧
      Format.single.RoundsTo (signed negative (dyadic m e)) (signed negative (dyadic n k))) ∧
    (Format.single.Represents (dyadic m e) →
      ScalarType.narrowReal.parseFor parameter text = .ok (.real (.finite negative m e))) ∧
    ∀ parameter' text' negative' m' e' n k n' k',
      readDouble? text' = some (.finite negative' m' e') →
      signed negative (dyadic m e) ≤ signed negative' (dyadic m' e') →
      ScalarType.narrowReal.parseFor parameter text = .ok (.real (.finite negative n k)) →
      ScalarType.narrowReal.parseFor parameter' text' = .ok (.real (.finite negative' n' k')) →
      signed negative (dyadic n k) ≤ signed negative' (dyadic n' k') := by
  have hcases := parseFor_narrowReal_of_finite h parameter
  refine ⟨?_, ?_, ?_, ?_⟩
  · rcases hcases with ⟨hle, herr⟩ | ⟨hlt, n, k, hok, -⟩
    · exact iff_of_true herr hle
    · rw [hok]
      exact iff_of_false (by simp) (not_le.2 hlt)
  · intro hlt
    rcases hcases with ⟨hle, -⟩ | ⟨-, n, k, hok, -, hround⟩
    · exact absurd hlt (not_lt.2 hle)
    · exact ⟨n, k, hok, hround⟩
  · intro hrep
    rcases hcases with ⟨hle, -⟩ | ⟨-, n, k, hok, hstores, hround⟩
    · rw [← single_limit] at hle
      exact absurd hrep.lt_limit (not_lt.2 hle)
    · have habs : |signed negative (dyadic m e)| = dyadic m e := by
        rw [abs_signed, abs_of_nonneg (dyadic_nonneg m e)]
      have hvalue := signed_injective negative (hround.eq_of_represents (habs.symm ▸ hrep))
      obtain ⟨rfl, rfl⟩ := hstores.unique (by decide) (readDouble?_stores h) hvalue
      exact hok
  · intro parameter' text' negative' m' e' n k n' k' h' hle hok hok'
    have hround := roundsTo_of_narrowReal h hok
    have hround' := roundsTo_of_narrowReal h' hok'
    exact hround.mono (by decide) (by decide) hround' hle

/-- Both neighbours are equally near to two integers beyond the precision: one is rounded down and the
other up. A negative zero stays what it is. -/
theorem narrowReal_nearest_ties :
    readDouble? "16777217" = some (.finite false 4503599895805952 (-28)) ∧
    readDouble? " 1.6777219e7" = some (.finite false 4503600432676864 (-28)) ∧
    readDouble? "-0" = some (.finite true 0 (-1074)) ∧
    dyadic 4503599895805952 (-28) < 2 ^ 128 - 2 ^ 103 ∧
    (∃ n k, ScalarType.narrowReal.parseFor "ratio" "16777217" =
        .ok (.real (.finite false n k)) ∧
      Format.single.RoundsTo (signed false (dyadic 4503599895805952 (-28)))
        (signed false (dyadic n k))) ∧
    ScalarType.narrowReal.parseFor "ratio" "-0" = .ok (.real (.finite true 0 (-1074))) ∧
    signed false (dyadic 4503599627370496 (-28)) ≤
      signed false (dyadic 4503600701112320 (-28)) := by
  have hread : readDouble? "16777217" = some (.finite false 4503599895805952 (-28)) := by
    decide +kernel
  have hread' : readDouble? " 1.6777219e7" = some (.finite false 4503600432676864 (-28)) := by
    decide +kernel
  have hzero : readDouble? "-0" = some (.finite true 0 (-1074)) := by decide +kernel
  have hlt : dyadic 4503599895805952 (-28) < 2 ^ 128 - 2 ^ 103 := by norm_num [dyadic]
  have hle : signed false (dyadic 4503599895805952 (-28)) ≤
      signed false (dyadic 4503600432676864 (-28)) := dyadic_le (by decide) le_rfl
  have hparse : ScalarType.narrowReal.parseFor "ratio" "16777217" =
      .ok (.real (.finite false 4503599627370496 (-28))) := by rfl
  have hparse' : ScalarType.narrowReal.parseFor "ratio" " 1.6777219e7" =
      .ok (.real (.finite false 4503600701112320 (-28))) := by rfl
  have hrep : Format.single.Represents (dyadic 0 (-1074)) := by
    simpa [dyadic] using represents_zero (f := .single) (by decide)
  have hnear := narrowReal_nearest hread "ratio"
  exact ⟨hread, hread', hzero, hlt, hnear.2.1 hlt, (narrowReal_nearest hzero "ratio").2.2.1 hrep,
    hnear.2.2.2 "ratio" " 1.6777219e7" false _ _ _ _ _ _ hread' hle hparse hparse'⟩

end ComponentAssembly

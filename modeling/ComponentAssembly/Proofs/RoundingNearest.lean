import ComponentAssembly.Proofs.RoundingOrder
import Mathlib.Algebra.Order.Group.Unbundled.Abs
import Mathlib.Algebra.Order.Ring.Abs

/-! Rounding gives the number of a format that is nearest, and of two equally near ones the one with
the even significand. This determines the result, keeps numbers of the format and keeps their
order. -/

namespace ComponentAssembly.Numeral

variable {f : Format} {negative negative' : Bool} {num den m n c d : Nat} {e k : Int} {x x' y y' z : ℚ}

/-! ### Significands as a format stores them -/

/-- A format stores a number with this significand at this exponent: the significand has all bits of
the precision, unless the exponent is the smallest one. -/
structure Format.Stores (f : Format) (m : Nat) (e : Int) : Prop where
  significand_lt : m < 2 ^ f.precision
  minExponent_le : f.minExponent ≤ e
  le_maxExponent : e ≤ f.maxExponent
  full_or_min : 2 ^ (f.precision - 1) ≤ m ∨ e = f.minExponent

theorem Format.Stores.represents (h : f.Stores m e) : f.Represents (dyadic m e) :=
  ⟨m, e, h.significand_lt, h.minExponent_le, h.le_maxExponent, rfl⟩

theorem dyadic_nonneg (m : Nat) (e : Int) : 0 ≤ dyadic m e := by
  unfold dyadic
  positivity

theorem dyadic_lt (h : m < n) (e : Int) : dyadic m e < dyadic n e := by
  unfold dyadic
  gcongr

theorem dyadic_inj (h : dyadic m e = dyadic n e) : m = n := by
  rcases lt_trichotomy m n with hlt | heq | hlt
  · exact absurd h (dyadic_lt hlt e).ne
  · exact heq
  · exact absurd h (dyadic_lt hlt e).ne'

theorem pow_twice (hp : 0 < f.precision) : 2 ^ f.precision = 2 * 2 ^ (f.precision - 1) := by
  rw [← Nat.pow_succ', Nat.succ_eq_add_one, Nat.sub_add_cancel hp]

/-- Of two stored numbers the one with the smaller exponent is smaller. -/
theorem Format.Stores.dyadic_lt (hp : 0 < f.precision) (h : f.Stores m e) (h' : f.Stores n k)
    (hek : e < k) : dyadic m e < dyadic n k := by
  have hfull : 2 ^ (f.precision - 1) ≤ n := by
    rcases h'.full_or_min with hn | hk
    · exact hn
    · have := h.minExponent_le
      omega
  calc dyadic m e < dyadic (2 ^ f.precision) e := Numeral.dyadic_lt h.significand_lt e
    _ ≤ dyadic (2 ^ f.precision) (k - 1) := dyadic_le le_rfl (by omega)
    _ = dyadic (2 ^ (f.precision - 1)) k := dyadic_pow_pred hp k
    _ ≤ dyadic n k := dyadic_le hfull le_rfl

/-- A number is stored in one way only. -/
theorem Format.Stores.unique (hp : 0 < f.precision) (h : f.Stores m e) (h' : f.Stores n k)
    (heq : dyadic m e = dyadic n k) : m = n ∧ e = k := by
  rcases lt_trichotomy e k with hlt | rfl | hlt
  · exact absurd heq (h.dyadic_lt hp h' hlt).ne
  · exact ⟨dyadic_inj heq, rfl⟩
  · exact absurd heq (h'.dyadic_lt hp h hlt).ne'

theorem Format.Stores.succ (h : f.Stores m e) (hm : m + 1 < 2 ^ f.precision) :
    f.Stores (m + 1) e := by
  refine ⟨hm, h.minExponent_le, h.le_maxExponent, ?_⟩
  rcases h.full_or_min with hfull | hmin
  · left
    omega
  · right
    exact hmin

/-- What is settled is stored, if the significand has all bits or the exponent is the smallest. -/
theorem settle_stores (hp : 0 < f.precision) (he : f.minExponent ≤ e) (hm : m ≤ 2 ^ f.precision)
    (hfull : 2 ^ (f.precision - 1) ≤ m ∨ e = f.minExponent)
    (h : f.settle negative m e = .finite negative' n k) : f.Stores n k := by
  unfold Format.settle at h
  split at h
  · split at h
    · cases h
    · cases h
      have hlt : 2 ^ (f.precision - 1) < 2 ^ f.precision :=
        Nat.pow_lt_pow_right (by omega) (by omega)
      exact ⟨hlt, by omega, by omega, .inl le_rfl⟩
  · split at h
    · cases h
    · cases h
      exact ⟨by omega, he, by omega, hfull⟩

/-- Above the smallest exponent, the significand has all bits of the precision. -/
theorem full_or_min_of_max (hp : 0 < f.precision) (hn : 0 < num) (hd : 0 < den)
    (he : max f.minExponent (freeExponent f.precision num den) = e) :
    2 ^ (f.precision - 1) ≤ nearest (scaled num den e).1 (scaled num den e).2 ∨
      e = f.minExponent := by
  by_cases hmin : e = f.minExponent
  · right
    exact hmin
  · left
    have hbits : dyadic (2 ^ (f.precision - 1)) e ≤ (num : ℚ) / den :=
      pow_le_of_freeExponent hp hn hd (by omega)
    exact le_nearest (scaled_pos hd num e) ((le_scaled_iff hd num _ e).2 hbits)

/-- Rounding gives a number as the format stores it. -/
theorem round_stores (hp : 0 < f.precision) (hr : f.minExponent ≤ f.maxExponent) (hd : 0 < den)
    (h : f.round negative num den = .finite negative' m k) : f.Stores m k := by
  rcases Nat.eq_zero_or_pos num with rfl | hn
  · cases h
    exact ⟨by positivity, le_rfl, hr, .inr rfl⟩
  · rw [round_eq hn rfl] at h
    have hle := nearest_le (scaled_lt hp hn hd (le_max_right f.minExponent _))
    exact settle_stores hp (le_max_left _ _) hle (full_or_min_of_max hp hn hd rfl) h

theorem convert_stores (hp : 0 < f.precision) (hr : f.minExponent ≤ f.maxExponent)
    (h : f.convert (.finite negative m e) = .finite negative' n k) : f.Stores n k :=
  round_stores hp hr (scaled_pos Nat.one_pos m (-e)) h

/-! ### The nearest number -/

/-- A magnitude is one of the format with an even significand. -/
def Format.HasEvenSignificand (f : Format) (x : ℚ) : Prop :=
  ∃ m e, f.Stores m e ∧ m % 2 = 0 ∧ x = dyadic m e

/-- A number of a format is the one that another number is rounded to: no other is nearer, and if
another is as near, then it is the one with the even significand. -/
structure Format.RoundsTo (f : Format) (x y : ℚ) : Prop where
  represents : f.Represents |y|
  nearest : ∀ z, f.Represents |z| → |x - y| ≤ |x - z|
  even : ∀ z, f.Represents |z| → |x - z| = |x - y| → z ≠ y → f.HasEvenSignificand |y|

theorem represents_zero (hr : f.minExponent ≤ f.maxExponent) : f.Represents 0 :=
  ⟨0, f.minExponent, by positivity, le_rfl, hr, by simp [dyadic]⟩

/-- A number is not below the middle of two numbers if the greater one is not farther away. -/
theorem middle_le (hlt : y' < y) (h : |x - y| ≤ |x - y'|) : y + y' ≤ 2 * x := by
  by_contra hx
  have hless : |x - y'| < y - x := abs_lt.2 ⟨by linarith, by linarith⟩
  have hy : y - x ≤ |x - y| := by
    rw [abs_sub_comm]
    exact le_abs_self _
  linarith

/-- Nor is it above the middle if the smaller one is not farther away. -/
theorem le_middle (hlt : y' < y) (h : |x - y'| ≤ |x - y|) : 2 * x ≤ y + y' := by
  by_contra hx
  have hless : |x - y| < x - y' := abs_lt.2 ⟨by linarith, by linarith⟩
  have hy : x - y' ≤ |x - y'| := le_abs_self _
  linarith

/-- Between two numbers with even significands there is another number. -/
theorem exists_between_even (hp : 0 < f.precision) (hx : f.HasEvenSignificand x)
    (hy : f.HasEvenSignificand y) (hlt : x < y) : ∃ z, f.Represents z ∧ x < z ∧ z < y := by
  obtain ⟨m, e, hm, hme, rfl⟩ := hx
  obtain ⟨n, k, hn, hne, rfl⟩ := hy
  have htwice := pow_twice hp
  have hmlt := hm.significand_lt
  have hsucc : f.Stores (m + 1) e := hm.succ (by omega)
  refine ⟨dyadic (m + 1) e, hsucc.represents, dyadic_lt (Nat.lt_succ_self m) e, ?_⟩
  rcases lt_trichotomy e k with hek | rfl | hke
  · exact hsucc.dyadic_lt hp hn hek
  · have hmn : m < n := by
      by_contra hle
      exact absurd hlt (not_lt.2 (dyadic_le (not_lt.1 hle) le_rfl))
    exact dyadic_lt (by omega) e
  · exact absurd hlt (hn.dyadic_lt hp hm hke).not_gt

/-- Between two numbers of a format that another is rounded to there would be a nearer one. -/
theorem not_roundsTo_of_lt (hp : 0 < f.precision) (hr : f.minExponent ≤ f.maxExponent)
    (h : f.RoundsTo x y) (h' : f.RoundsTo x y') : ¬ y < y' := by
  intro hlt
  have hdist : |x - y| = |x - y'| :=
    le_antisymm (h.nearest y' h'.represents) (h'.nearest y h.represents)
  have hmid : 2 * x = y' + y := le_antisymm (le_middle hlt hdist.le) (middle_le hlt hdist.ge)
  have hy := h.even y' h'.represents hdist.symm hlt.ne'
  have hy' := h'.even y h.represents hdist hlt.ne
  have hbetween : ∃ z, f.Represents |z| ∧ y < z ∧ z < y' := by
    rcases le_or_gt 0 y with hpos | hneg
    · rw [abs_of_nonneg hpos] at hy
      rw [abs_of_nonneg (hpos.trans hlt.le)] at hy'
      obtain ⟨z, hz, hl, hu⟩ := exists_between_even hp hy hy' hlt
      refine ⟨z, ?_, hl, hu⟩
      rwa [abs_of_nonneg (hpos.trans hl.le)]
    rcases le_or_gt y' 0 with hneg' | hpos'
    · rw [abs_of_neg hneg] at hy
      rw [abs_of_nonpos hneg'] at hy'
      obtain ⟨z, hz, hl, hu⟩ := exists_between_even hp hy' hy (neg_lt_neg hlt)
      refine ⟨-z, ?_, by linarith, by linarith⟩
      rwa [abs_neg, abs_of_nonneg (by linarith)]
    · refine ⟨0, ?_, hneg, hpos'⟩
      rw [abs_zero]
      exact represents_zero hr
  obtain ⟨z, hz, hl, hu⟩ := hbetween
  have hbelow := le_middle hl (h.nearest z hz)
  linarith

/-- A number is rounded to one number only. -/
theorem Format.RoundsTo.unique (hp : 0 < f.precision) (hr : f.minExponent ≤ f.maxExponent)
    (h : f.RoundsTo x y) (h' : f.RoundsTo x y') : y = y' :=
  le_antisymm (not_lt.1 (not_roundsTo_of_lt hp hr h' h)) (not_lt.1 (not_roundsTo_of_lt hp hr h h'))

/-- A number of the format is rounded to itself. -/
theorem Format.RoundsTo.eq_of_represents (h : f.RoundsTo x y) (hx : f.Represents |x|) : y = x := by
  have hnear := h.nearest x hx
  rw [sub_self, abs_zero] at hnear
  have := abs_nonpos_iff.1 hnear
  linarith

/-- Rounding keeps the order. -/
theorem Format.RoundsTo.mono (hp : 0 < f.precision) (hr : f.minExponent ≤ f.maxExponent)
    (h : f.RoundsTo x y) (h' : f.RoundsTo x' y') (hle : x ≤ x') : y ≤ y' := by
  rcases hle.lt_or_eq with hlt | rfl
  · -- Otherwise both numbers would lie beyond the middle of the results.
    by_contra hgt
    have hbelow := middle_le (not_le.1 hgt) (h.nearest y' h'.represents)
    have habove := le_middle (not_le.1 hgt) (h'.nearest y h.represents)
    linarith
  · exact (h.unique hp hr h').le

/-! ### Rounding -/

/-- A magnitude with a sign. -/
def signed (negative : Bool) (x : ℚ) : ℚ := if negative then -x else x

@[simp] theorem abs_signed (negative : Bool) (x : ℚ) : |signed negative x| = |x| := by
  cases negative <;> simp [signed]

theorem signed_neg (negative : Bool) (x : ℚ) : signed negative (-x) = -signed negative x := by
  cases negative <;> rfl

theorem signed_injective (negative : Bool) : Function.Injective (signed negative) := by
  intro x y h
  cases negative
  · exact h
  · exact neg_injective h

theorem abs_signed_sub (negative : Bool) (x y : ℚ) :
    |signed negative x - signed negative y| = |x - y| := by
  cases negative
  · rfl
  · simp only [signed, if_true]
    rw [neg_sub_neg, abs_sub_comm]

/-- What magnitudes are rounded to, numbers with a sign are rounded to. -/
theorem roundsTo_signed (hr : f.minExponent ≤ f.maxExponent) (hx : 0 ≤ x) (hy : f.Represents y)
    (hy0 : 0 ≤ y) (hnear : ∀ z, f.Represents z → |x - y| ≤ |x - z|)
    (heven : ∀ z, f.Represents z → |x - z| = |x - y| → z ≠ y → f.HasEvenSignificand y)
    (negative : Bool) : f.RoundsTo (signed negative x) (signed negative y) := by
  have habs : |signed negative y| = y := by rw [abs_signed, abs_of_nonneg hy0]
  have hdist (z : ℚ) : |x - abs z| ≤ |signed negative x - z| := by
    have htri := abs_abs_sub_abs_le (signed negative x) z
    rwa [abs_signed, abs_of_nonneg hx] at htri
  constructor
  · rwa [habs]
  · intro z hz
    rw [abs_signed_sub]
    exact (hnear |z| hz).trans (hdist z)
  · intro z hz heq hne
    rw [abs_signed_sub] at heq
    have hsame : |x - abs z| = |x - y| := le_antisymm ((hdist z).trans heq.le) (hnear |z| hz)
    rw [habs]
    by_cases hzy : |z| = y
    · -- As near with the other sign is only zero.
      exfalso
      apply hne
      have hneg : z = signed negative (-y) := by
        rw [← habs] at hzy
        rw [signed_neg]
        exact (abs_eq_abs.1 hzy).resolve_left hne
      have hsum : |x + y| = |x - y| := by
        rw [← heq, hneg, abs_signed_sub, sub_neg_eq_add]
      have hzero : y = 0 := by
        rcases abs_eq_abs.1 hsum with hxy | hxy
        · linarith
        · have hx0 : x = 0 := by linarith
          have hnear0 := hnear 0 (represents_zero hr)
          rw [hx0, zero_sub, abs_neg, sub_zero, abs_zero] at hnear0
          exact abs_nonpos_iff.1 hnear0
      rw [hneg, hzero, neg_zero]
    · exact heven |z| hz hsame hzy

/-- The nearest integer is not farther away than a half, and even if it is as far away as that. -/
theorem nearest_half (hd : 0 < d) (n : Nat) :
    |(n : ℚ) / d - nearest n d| ≤ 1 / 2 ∧
      (|(n : ℚ) / d - nearest n d| = 1 / 2 → nearest n d % 2 = 0) := by
  have habove := lt_nearest_iff hd (n := n) (c := nearest n d)
  have hbelow := lt_nearest_iff hd (n := n) (c := nearest n d - 1)
  generalize nearest n d = c at habove hbelow ⊢
  have hup : 2 * n ≤ (2 * c + 1) * d ∧ ((2 * c + 1) * d = 2 * n → c % 2 = 0) := by
    constructor <;> omega
  have hlow : 2 * c * d ≤ 2 * n + d ∧ (2 * c * d = 2 * n + d → c % 2 = 0) := by
    rcases Nat.eq_zero_or_pos c with rfl | hc
    · constructor <;> omega
    · have hstep : (2 * (c - 1) + 1) * d + d = 2 * c * d := by
        rw [← Nat.succ_mul]
        congr 1
        omega
      constructor <;> omega
  have hq : (0 : ℚ) < d := by exact_mod_cast hd
  have hup' : 2 * (n : ℚ) ≤ (2 * c + 1) * d := by exact_mod_cast hup.1
  have hlow' : 2 * (c : ℚ) * d ≤ 2 * n + d := by exact_mod_cast hlow.1
  have hdiff : (n : ℚ) / d - c = (n - c * d) / d := by field_simp
  rw [hdiff, abs_div, abs_of_pos hq, div_le_iff₀ hq, div_eq_iff hq.ne']
  refine ⟨abs_le.2 ⟨by linarith, by linarith⟩, ?_⟩
  intro hhalf
  rcases abs_eq (by positivity) |>.1 hhalf with hpos | hneg
  · have heq : (2 * (c : ℚ) + 1) * d = 2 * n := by linarith
    exact hup.2 (by exact_mod_cast heq)
  · have heq : 2 * (c : ℚ) * d = 2 * n + d := by linarith
    exact hlow.2 (by exact_mod_cast heq)

/-- So it is with the nearest number of units of a power of two. -/
theorem nearest_units (hd : 0 < den) (num : Nat)
    (hc : nearest (scaled num den e).1 (scaled num den e).2 = c) :
    |(num : ℚ) / den - dyadic c e| ≤ 2 ^ e / 2 ∧
      (|(num : ℚ) / den - dyadic c e| = 2 ^ e / 2 → c % 2 = 0) := by
  have hunit : (0 : ℚ) < 2 ^ e := by positivity
  have hhalf := nearest_half (scaled_pos hd num e) (scaled num den e).1
  rw [hc, scaled_eq] at hhalf
  have hdist : |(num : ℚ) / den - dyadic c e| = |(num : ℚ) / den / 2 ^ e - c| * 2 ^ e := by
    have hscale : (num : ℚ) / den - dyadic c e = (num / den / 2 ^ e - c) * 2 ^ e := by
      rw [sub_mul, div_mul_cancel₀ _ hunit.ne', dyadic]
    rw [hscale, abs_mul, abs_of_pos hunit]
  rw [hdist]
  constructor
  · calc |(num : ℚ) / den / 2 ^ e - c| * 2 ^ e ≤ 1 / 2 * 2 ^ e := by gcongr; exact hhalf.1
      _ = 2 ^ e / 2 := by ring
  · intro heq
    apply hhalf.2
    apply mul_right_cancel₀ hunit.ne'
    rw [heq]
    ring

/-- Another number of units is at least a unit away. -/
theorem unit_le_of_ne (h : n ≠ c) (e : Int) : (2 : ℚ) ^ e ≤ |dyadic n e - dyadic c e| := by
  have hone : (1 : ℚ) ≤ |(n : ℚ) - c| := by
    have hne : (n : ℤ) - c ≠ 0 := by omega
    exact_mod_cast Int.one_le_abs hne
  calc (2 : ℚ) ^ e = 1 * 2 ^ e := (one_mul _).symm
    _ ≤ |(n : ℚ) - c| * 2 ^ e := by gcongr
    _ = |dyadic n e - dyadic c e| := by
      rw [dyadic, dyadic, ← sub_mul, abs_mul, abs_of_pos (by positivity : (0 : ℚ) < 2 ^ e)]

/-- No number of units is nearer than the nearest one, which is even if another is as near. -/
theorem nearest_among_units (hd : 0 < den) (num : Nat)
    (hc : nearest (scaled num den e).1 (scaled num den e).2 = c) (n : Nat) :
    |(num : ℚ) / den - dyadic c e| ≤ |(num : ℚ) / den - dyadic n e| ∧
      (|(num : ℚ) / den - dyadic n e| = |(num : ℚ) / den - dyadic c e| →
        dyadic n e ≠ dyadic c e → c % 2 = 0) := by
  obtain ⟨hhalf, heven⟩ := nearest_units hd num hc
  by_cases hn : n = c
  · subst hn
    exact ⟨le_rfl, fun _ hne => absurd rfl hne⟩
  · have hunit := unit_le_of_ne hn e
    have htri : |dyadic n e - dyadic c e| ≤
        |(num : ℚ) / den - dyadic n e| + |(num : ℚ) / den - dyadic c e| := by
      rw [abs_sub_comm _ (dyadic n e)]
      exact abs_sub_le _ _ _
    constructor
    · linarith
    · intro heq _
      apply heven
      linarith

theorem settle_even (hp : 1 < f.precision) (hm : m % 2 = 0)
    (h : f.settle negative m e = .finite negative n k) : n % 2 = 0 := by
  unfold Format.settle at h
  split at h
  · split at h
    · cases h
    · cases h
      exact Nat.mod_eq_zero_of_dvd (dvd_pow_self 2 (by omega))
  · split at h
    · cases h
    · cases h
      exact hm

/-- No number of the format is nearer than what rounding gives, and if another is as near, then the
significand of the result is even. -/
theorem round_nearest (hp : 1 < f.precision) (hd : 0 < den)
    (h : f.round negative num den = .finite negative m k) (hz : f.Represents z) :
    |(num : ℚ) / den - dyadic m k| ≤ |(num : ℚ) / den - z| ∧
      (|(num : ℚ) / den - z| = |(num : ℚ) / den - dyadic m k| → z ≠ dyadic m k →
        m % 2 = 0) := by
  rcases Nat.eq_zero_or_pos num with rfl | hn
  · cases h
    simp [dyadic]
  have hp0 : 0 < f.precision := by omega
  generalize he : max f.minExponent (freeExponent f.precision num den) = e
  generalize hc : nearest (scaled num den e).1 (scaled num den e).2 = c
  rw [round_eq hn he, hc] at h
  have hvalue : dyadic m k = dyadic c e := by
    rcases settle_cases hp0 negative c e with ⟨hinf, -⟩ | ⟨-, -, n, l, hfin, hval⟩
    · rw [hinf] at h
      cases h
    · rw [hfin] at h
      cases h
      exact hval
  have hunits := nearest_among_units hd num hc
  obtain ⟨j, l, hj, hmin, -, rfl⟩ := hz
  rw [hvalue]
  rcases le_or_gt e l with hel | hle
  · rw [dyadic_eq_shifted j hel]
    obtain ⟨hnear, heven⟩ := hunits (j * 2 ^ (l - e).toNat)
    exact ⟨hnear, fun heq hne => settle_even hp (heven heq hne) h⟩
  · -- Below the exponent of the result all numbers are farther away than the least full significand.
    have hbits : dyadic (2 ^ (f.precision - 1)) e ≤ (num : ℚ) / den :=
      pow_le_of_freeExponent hp0 hn hd (by omega)
    have hless : dyadic j l < dyadic (2 ^ (f.precision - 1)) e := by
      calc dyadic j l < dyadic (2 ^ f.precision) l := dyadic_lt hj l
        _ ≤ dyadic (2 ^ f.precision) (e - 1) := dyadic_le le_rfl (by omega)
        _ = dyadic (2 ^ (f.precision - 1)) e := dyadic_pow_pred hp0 e
    have hfar : |(num : ℚ) / den - dyadic c e| < |(num : ℚ) / den - dyadic j l| := by
      calc |(num : ℚ) / den - dyadic c e|
          ≤ |(num : ℚ) / den - dyadic (2 ^ (f.precision - 1)) e| := (hunits _).1
        _ = num / den - dyadic (2 ^ (f.precision - 1)) e := abs_of_nonneg (by linarith)
        _ < num / den - dyadic j l := by linarith
        _ ≤ |(num : ℚ) / den - dyadic j l| := le_abs_self _
    exact ⟨hfar.le, fun heq => absurd heq hfar.ne'⟩

/-- What rounding gives is what the number is rounded to. -/
theorem round_roundsTo (hp : 1 < f.precision) (hr : f.minExponent ≤ f.maxExponent) (hd : 0 < den)
    (h : f.round negative num den = .finite negative m k) :
    f.RoundsTo (signed negative (num / den)) (signed negative (dyadic m k)) := by
  have hstores := round_stores (by omega) hr hd h
  apply roundsTo_signed hr (by positivity) hstores.represents (dyadic_nonneg m k)
  · intro z hz
    exact (round_nearest hp hd h hz).1
  · intro z hz heq hne
    exact ⟨m, k, hstores, (round_nearest hp hd h hz).2 heq hne, rfl⟩

theorem convert_roundsTo (hp : 1 < f.precision) (hr : f.minExponent ≤ f.maxExponent)
    (h : f.convert (.finite negative m e) = .finite negative n k) :
    f.RoundsTo (signed negative (dyadic m e)) (signed negative (dyadic n k)) := by
  rw [← scaled_dyadic m e]
  exact round_roundsTo hp hr (scaled_pos Nat.one_pos m (-e)) h

end ComponentAssembly.Numeral

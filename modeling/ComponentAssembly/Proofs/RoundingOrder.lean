import ComponentAssembly.Proofs.Rounding

/-! How rounding compares with the numbers of a format: where it becomes an infinity or zero, and
that it crosses no number of the format. -/

namespace ComponentAssembly.Numeral

variable {f : Format} {negative : Bool} {num den c m n d p : Nat} {e k : Int} {y : ℚ}

/-- An integer is below the nearest one if the middle between it and the next is below, or equal to
the quotient where the next is the even one. -/
theorem lt_nearest_iff (hd : 0 < d) :
    c < nearest n d ↔ (2 * c + 1) * d < 2 * n ∨ ((2 * c + 1) * d = 2 * n ∧ c % 2 = 1) := by
  have hn := Nat.div_add_mod n d
  have hr := Nat.mod_lt n hd
  simp only [nearest]
  generalize n / d = q at hn ⊢
  generalize n % d = r at hn hr ⊢
  subst hn
  -- The middle above an integer `c` is beyond the quotient as soon as `c` is beyond its whole part.
  rcases lt_trichotomy c q with hc | rfl | hc
  · have hle : (2 * c + 2) * d ≤ 2 * (d * q) := by
      calc (2 * c + 2) * d ≤ 2 * q * d := Nat.mul_le_mul_right d (by omega)
        _ = 2 * (d * q) := by ring
    have hstep : (2 * c + 2) * d = (2 * c + 1) * d + d := by ring
    refine iff_of_true ?_ (.inl (by omega))
    split
    · exact hc
    · split <;> omega
  · have hm : (2 * c + 1) * d = 2 * (d * c) + d := by ring
    rw [hm]
    split
    · omega
    · split <;> omega
  · have hle : 2 * (d * q) + 3 * d ≤ (2 * c + 1) * d := by
      calc 2 * (d * q) + 3 * d = (2 * q + 3) * d := by ring
        _ ≤ (2 * c + 1) * d := Nat.mul_le_mul_right d (by omega)
    refine iff_of_false ?_ (by omega)
    split
    · omega
    · split <;> omega

/-- No integer up to the quotient is above the nearest one. -/
theorem le_nearest (hd : 0 < d) (h : c * d ≤ n) : c ≤ nearest n d := by
  rcases Nat.eq_zero_or_pos c with rfl | hc
  · exact Nat.zero_le _
  · have hm : (2 * (c - 1) + 1) * d + d = 2 * (c * d) := by
      calc (2 * (c - 1) + 1) * d + d = 2 * (c - 1 + 1) * d := by ring
        _ = 2 * (c * d) := by rw [Nat.sub_add_cancel hc]; ring
    have hlt := (lt_nearest_iff hd (n := n) (c := c - 1)).2 (.inl (by omega))
    omega

/-- No integer from the quotient on is below the nearest one. -/
theorem nearest_le_of_le (hd : 0 < d) (h : n ≤ c * d) : nearest n d ≤ c := by
  by_contra hlt
  have hmid := (lt_nearest_iff hd (n := n) (c := c)).1 (not_le.1 hlt)
  have hstep : (2 * c + 1) * d = 2 * (c * d) + d := by ring
  omega

/-- An integer is not above the quotient in units of a power of two if it is not above as a number
of these units, and the same for not below. -/
theorem le_scaled_iff (hd : 0 < den) (num c : Nat) (e : Int) :
    c * (scaled num den e).2 ≤ (scaled num den e).1 ↔ dyadic c e ≤ (num : ℚ) / den := by
  have hq : (0 : ℚ) < (scaled num den e).2 := by exact_mod_cast scaled_pos hd num e
  have h2 : (0 : ℚ) < 2 ^ e := by positivity
  rw [dyadic, ← le_div_iff₀ h2, ← scaled_eq, le_div_iff₀ hq]
  exact_mod_cast Iff.rfl

theorem scaled_le_iff (hd : 0 < den) (num c : Nat) (e : Int) :
    (scaled num den e).1 ≤ c * (scaled num den e).2 ↔ (num : ℚ) / den ≤ dyadic c e := by
  have hq : (0 : ℚ) < (scaled num den e).2 := by exact_mod_cast scaled_pos hd num e
  have h2 : (0 : ℚ) < 2 ^ e := by positivity
  rw [dyadic, ← div_le_iff₀ h2, ← scaled_eq, div_le_iff₀ hq]
  exact_mod_cast Iff.rfl

/-- Not above, in halves of the units. -/
theorem half_le_scaled_iff (hd : 0 < den) (num c : Nat) (e : Int) :
    c * (scaled num den e).2 ≤ 2 * (scaled num den e).1 ↔
      dyadic c (e - 1) ≤ (num : ℚ) / den := by
  have hq : (0 : ℚ) < (scaled num den e).2 := by exact_mod_cast scaled_pos hd num e
  have h2 : (0 : ℚ) < 2 ^ e := by positivity
  have hhalf : dyadic c (e - 1) = c / 2 * 2 ^ e := by
    rw [dyadic, zpow_sub_one₀ two_ne_zero]
    ring
  rw [hhalf, ← le_div_iff₀ h2, ← scaled_eq, le_div_iff₀ hq, div_mul_eq_mul_div,
    div_le_iff₀ two_pos, mul_comm _ (2 : ℚ)]
  exact_mod_cast Iff.rfl

/-- The magnitude in the middle between the greatest number of a format and the next power of
two. -/
def Format.limit (f : Format) : ℚ := dyadic (2 ^ (f.precision + 1) - 1) (f.maxExponent - 1)

theorem limit_eq (f : Format) :
    f.limit = 2 ^ ((f.precision : Int) + f.maxExponent) - 2 ^ (f.maxExponent - 1) := by
  have hpow : 1 ≤ 2 ^ (f.precision + 1) := Nat.one_le_two_pow
  have hexp : (f.precision : Int) + f.maxExponent = ((f.precision + 1 : Nat) : Int) +
      (f.maxExponent - 1) := by
    push_cast
    ring
  rw [Format.limit, dyadic, Nat.cast_sub hpow, sub_mul, hexp, zpow_add₀ two_ne_zero, zpow_natCast]
  push_cast
  ring

theorem pow_le_limit (f : Format) : dyadic (2 ^ f.precision) (f.maxExponent - 1) ≤ f.limit := by
  have hpos : 0 < 2 ^ f.precision := Nat.pow_pos (by decide)
  refine dyadic_le ?_ le_rfl
  rw [Nat.pow_succ]
  omega

theorem limit_le_pow (f : Format) : f.limit ≤ dyadic (2 ^ f.precision) f.maxExponent := by
  calc f.limit ≤ dyadic (2 ^ (f.precision + 1)) (f.maxExponent - 1) :=
        dyadic_le (Nat.sub_le _ _) le_rfl
    _ = dyadic (2 ^ f.precision) f.maxExponent := by
      rw [dyadic_two_pow, dyadic_two_pow]
      congr 1
      omega

/-- What is settled is an infinity, or has the value that was rounded. -/
theorem settle_cases (hp : 0 < f.precision) (negative : Bool) (m : Nat) (e : Int) :
    (f.settle negative m e = .infinite negative ∧
      (f.maxExponent < e ∨ (f.maxExponent = e ∧ m = 2 ^ f.precision))) ∨
    (e ≤ f.maxExponent ∧ ¬ (f.maxExponent = e ∧ m = 2 ^ f.precision) ∧
      ∃ n k, f.settle negative m e = .finite negative n k ∧ dyadic n k = dyadic m e) := by
  unfold Format.settle
  by_cases hm : m = 2 ^ f.precision
  · rw [if_pos hm]
    by_cases he : f.maxExponent < e + 1
    · exact .inl ⟨if_pos he, by omega⟩
    · refine .inr ⟨by omega, by omega, _, _, if_neg he, ?_⟩
      rw [hm, dyadic_two_pow, dyadic_two_pow]
      congr 1
      omega
  · rw [if_neg hm]
    by_cases he : f.maxExponent < e
    · exact .inl ⟨if_pos he, .inl he⟩
    · exact .inr ⟨by omega, by omega, m, e, if_neg he, rfl⟩

/-- A significand is rounded up to the power of two exactly from the middle on. -/
theorem nearest_eq_pow_iff (hp : 0 < p) (hd : 0 < d) (hn : n < 2 ^ p * d) :
    nearest n d = 2 ^ p ↔ (2 ^ (p + 1) - 1) * d ≤ 2 * n := by
  have hle := nearest_le hn
  have hpos := Nat.pow_pos (n := p) (a := 2) (by decide)
  have hodd : (2 ^ p - 1) % 2 = 1 := by
    obtain ⟨q, rfl⟩ := Nat.exists_eq_succ_of_ne_zero hp.ne'
    rw [Nat.pow_succ] at hpos ⊢
    omega
  have hiff := lt_nearest_iff hd (n := n) (c := 2 ^ p - 1)
  have hmid : 2 * (2 ^ p - 1) + 1 = 2 ^ (p + 1) - 1 := by
    rw [Nat.pow_succ]
    omega
  rw [hmid] at hiff
  constructor
  · intro heq
    rcases hiff.1 (by omega) with h | h
    · exact h.le
    · exact h.1.le
  · intro h
    have hlt := hiff.2 (h.lt_or_eq.imp_right fun heq => ⟨heq, hodd⟩)
    omega

/-- Where rounding gives an infinity, and what finite number it gives elsewhere: the nearest integer
of units at the exponent. -/
theorem round_cases (hp : 0 < f.precision) (hr : f.minExponent ≤ f.maxExponent) (hn : 0 < num)
    (hd : 0 < den) (negative : Bool)
    (he : max f.minExponent (freeExponent f.precision num den) = e) :
    (f.limit ≤ (num : ℚ) / den ∧ f.round negative num den = .infinite negative) ∨
    ((num : ℚ) / den < f.limit ∧ ∃ n k, f.round negative num den = .finite negative n k ∧
      dyadic n k = dyadic (nearest (scaled num den e).1 (scaled num den e).2) e) := by
  have hfree : freeExponent f.precision num den ≤ e := he ▸ le_max_right _ _
  have hlt := scaled_lt hp hn hd hfree
  have hpos := scaled_pos hd num e
  have hpow := nearest_eq_pow_iff hp hpos hlt
  rw [half_le_scaled_iff hd] at hpow
  rw [round_eq hn he]
  rcases settle_cases hp negative (nearest (scaled num den e).1 (scaled num den e).2) e with
    ⟨hinf, h | ⟨heq, hm⟩⟩ | ⟨hle, hnot, hfin⟩
  · -- The exponent is beyond the greatest one, so it is the free one.
    refine .inl ⟨?_, hinf⟩
    have hfe : freeExponent f.precision num den = e := by omega
    calc f.limit ≤ dyadic (2 ^ f.precision) f.maxExponent := limit_le_pow f
      _ = 2 ^ ((f.precision : Int) + f.maxExponent) := dyadic_two_pow ..
      _ ≤ 2 ^ (f.precision - 1 + freeExponent f.precision num den) :=
        zpow_le_zpow_right₀ (by norm_num) (by omega)
      _ ≤ num / den := (freeExponent_bounds hp hn hd).1
  · refine .inl ⟨?_, hinf⟩
    rw [Format.limit, heq]
    exact hpow.1 hm
  · refine .inr ⟨?_, hfin⟩
    rcases hle.lt_or_eq with hlt' | heq
    · calc (num : ℚ) / den < dyadic (2 ^ f.precision) e := lt_of_freeExponent_le hp hn hd hfree
        _ ≤ dyadic (2 ^ f.precision) (f.maxExponent - 1) := dyadic_le le_rfl (by omega)
        _ ≤ f.limit := pow_le_limit f
    · refine not_le.1 fun h => hnot ⟨heq.symm, hpow.2 ?_⟩
      rwa [heq]

/-- The greatest number of a format. -/
def Format.greatest (f : Format) : ℚ := dyadic (2 ^ f.precision - 1) f.maxExponent

theorem represents_greatest (hr : f.minExponent ≤ f.maxExponent) : f.Represents f.greatest :=
  ⟨2 ^ f.precision - 1, f.maxExponent, Nat.sub_lt (Nat.pow_pos (by decide)) Nat.one_pos, hr, le_rfl,
    rfl⟩

theorem greatest_lt_limit (f : Format) : f.greatest < f.limit := by
  have hpow : 1 ≤ 2 ^ f.precision := Nat.one_le_two_pow
  have hunit : (2 : ℚ) ^ (f.maxExponent - 1) < 2 ^ f.maxExponent :=
    zpow_lt_zpow_right₀ (by norm_num) (by omega)
  rw [limit_eq, Format.greatest, dyadic, Nat.cast_sub hpow, sub_mul, zpow_add₀ two_ne_zero,
    zpow_natCast]
  push_cast
  linarith

/-- All numbers of a format are below its limit. -/
theorem Format.Represents.lt_limit (h : f.Represents y) : y < f.limit := by
  obtain ⟨n, k, hn, -, hmax, rfl⟩ := h
  exact (dyadic_le (by omega) hmax).trans_lt (greatest_lt_limit f)

theorem limit_pos (f : Format) : 0 < f.limit := by
  refine lt_of_lt_of_le ?_ (pow_le_limit f)
  rw [dyadic_two_pow]
  positivity

/-- Rounding gives an infinity from the limit on, and a finite number below it, of the same sign. -/
theorem round_limit (hp : 0 < f.precision) (hr : f.minExponent ≤ f.maxExponent) (hd : 0 < den)
    (negative : Bool) (num : Nat) :
    (f.limit ≤ (num : ℚ) / den ∧ f.round negative num den = .infinite negative) ∨
    ((num : ℚ) / den < f.limit ∧ ∃ m k, f.round negative num den = .finite negative m k) := by
  rcases Nat.eq_zero_or_pos num with rfl | hn
  · refine .inr ⟨?_, 0, f.minExponent, rfl⟩
    rw [Nat.cast_zero, zero_div]
    exact limit_pos f
  · rcases round_cases hp hr hn hd negative rfl with hinf | ⟨hlt, m, k, hfin, -⟩
    · exact .inl hinf
    · exact .inr ⟨hlt, m, k, hfin⟩

/-- So does conversion. -/
theorem convert_limit (hp : 0 < f.precision) (hr : f.minExponent ≤ f.maxExponent)
    (negative : Bool) (m : Nat) (e : Int) :
    (f.limit ≤ dyadic m e ∧ f.convert (.finite negative m e) = .infinite negative) ∨
    (dyadic m e < f.limit ∧ ∃ n k, f.convert (.finite negative m e) = .finite negative n k) := by
  rw [← scaled_dyadic m e]
  exact round_limit hp hr (scaled_pos Nat.one_pos m (-e)) negative _

theorem dyadic_pow_pred (hp : 0 < p) (e : Int) :
    dyadic (2 ^ p) (e - 1) = dyadic (2 ^ (p - 1)) e := by
  rw [dyadic_two_pow, dyadic_two_pow]
  congr 1
  omega

/-- The significand at the free exponent has all bits of the precision. -/
theorem pow_le_of_freeExponent (hp : 0 < p) (hn : 0 < num) (hd : 0 < den)
    (he : freeExponent p num den = e) : dyadic (2 ^ (p - 1)) e ≤ (num : ℚ) / den := by
  rw [dyadic_two_pow, Nat.cast_pred hp, ← he]
  exact (freeExponent_bounds hp hn hd).1

/-- Rounding does not fall below a number of the format that is not above. -/
theorem le_round (hp : 0 < f.precision) (hr : f.minExponent ≤ f.maxExponent) (hd : 0 < den)
    (hy : f.Represents y) (hle : y ≤ (num : ℚ) / den)
    (h : f.round negative num den = .finite negative m k) : y ≤ dyadic m k := by
  obtain ⟨c, j, hc, hmin, -, rfl⟩ := hy
  rcases Nat.eq_zero_or_pos num with rfl | hn
  · refine hle.trans ?_
    simp only [Nat.cast_zero, zero_div, dyadic]
    positivity
  generalize he : max f.minExponent (freeExponent f.precision num den) = e
  have hpos := scaled_pos hd num e
  rcases round_cases hp hr hn hd negative he with ⟨-, hinf⟩ | ⟨-, n, l, hfin, heq⟩
  · rw [h] at hinf
    cases hinf
  rw [h] at hfin
  cases hfin
  rw [heq]
  rcases le_or_gt e j with hej | hje
  · -- The number is a whole number of units.
    rw [dyadic_eq_shifted c hej] at hle ⊢
    exact dyadic_le (le_nearest hpos ((le_scaled_iff hd num _ e).2 hle)) le_rfl
  · -- The significand has just the precision, at an exponent above that of the number.
    have hbits : dyadic (2 ^ (f.precision - 1)) e ≤ (num : ℚ) / den :=
      pow_le_of_freeExponent hp hn hd (by omega)
    calc dyadic c j ≤ dyadic (2 ^ f.precision) (e - 1) := dyadic_le hc.le (by omega)
      _ = dyadic (2 ^ (f.precision - 1)) e := dyadic_pow_pred hp e
      _ ≤ dyadic (nearest (scaled num den e).1 (scaled num den e).2) e :=
        dyadic_le (le_nearest hpos ((le_scaled_iff hd num _ e).2 hbits)) le_rfl

/-- Nor does rounding rise above a number of the format that is not below. -/
theorem round_le (hp : 0 < f.precision) (hr : f.minExponent ≤ f.maxExponent) (hd : 0 < den)
    (hy : f.Represents y) (hle : (num : ℚ) / den ≤ y)
    (h : f.round negative num den = .finite negative m k) : dyadic m k ≤ y := by
  obtain ⟨c, j, hc, hmin, -, rfl⟩ := hy
  rcases Nat.eq_zero_or_pos num with rfl | hn
  · cases h
    simpa [dyadic] using hle
  generalize he : max f.minExponent (freeExponent f.precision num den) = e
  have hpos := scaled_pos hd num e
  rcases round_cases hp hr hn hd negative he with ⟨-, hinf⟩ | ⟨-, n, l, hfin, heq⟩
  · rw [h] at hinf
    cases hinf
  rw [h] at hfin
  cases hfin
  rw [heq]
  -- The number is a whole number of units, since at a smaller exponent it would be below.
  have hej : e ≤ j := by
    by_contra hje
    have hfe : freeExponent f.precision num den = e := by omega
    have hbelow : (2 : ℚ) ^ (f.precision - 1 + e) < 2 ^ ((f.precision : Int) + j) := by
      calc (2 : ℚ) ^ (f.precision - 1 + e) ≤ num / den := hfe ▸ (freeExponent_bounds hp hn hd).1
        _ ≤ dyadic c j := hle
        _ < 2 ^ ((f.precision : Int) + j) := by
          rw [← dyadic_two_pow]
          unfold dyadic
          gcongr
    have := (zpow_lt_zpow_iff_right₀ (by norm_num : (1 : ℚ) < 2)).1 hbelow
    omega
  rw [dyadic_eq_shifted c hej] at hle ⊢
  exact dyadic_le (nearest_le_of_le hpos ((scaled_le_iff hd num _ e).2 hle)) le_rfl

/-- Rounding gives zero below half of the smallest number. -/
theorem round_of_small (hp : 0 < f.precision) (hr : f.minExponent ≤ f.maxExponent) (hd : 0 < den)
    (h : (num : ℚ) / den < 2 ^ (f.minExponent - 1)) (negative : Bool) :
    f.round negative num den = .finite negative 0 f.minExponent := by
  rcases Nat.eq_zero_or_pos num with rfl | hn
  · rfl
  have hfree : freeExponent f.precision num den ≤ f.minExponent := by
    have hlt := (freeExponent_bounds hp hn hd).1.trans_lt h
    have := (zpow_lt_zpow_iff_right₀ (by norm_num : (1 : ℚ) < 2)).1 hlt
    omega
  have hpos := scaled_pos hd num f.minExponent
  have hzero : nearest (scaled num den f.minExponent).1 (scaled num den f.minExponent).2 = 0 := by
    have hhalf := (half_le_scaled_iff hd num 1 f.minExponent).not.2 (by simpa [dyadic] using h)
    have hiff := lt_nearest_iff hpos (n := (scaled num den f.minExponent).1) (c := 0)
    omega
  rw [round_eq hn (max_eq_left hfree), hzero,
    settle_of_lt (Nat.pow_pos (by decide)) hr]

end ComponentAssembly.Numeral

import ComponentAssembly.Numeral.Decimal
import Mathlib.Algebra.Order.Field.Power
import Mathlib.Tactic.FieldSimp
import Mathlib.Tactic.Linarith
import Mathlib.Tactic.Positivity
import Mathlib.Tactic.Ring

/-! Rounding gives a number of the format, and the number itself if it is one of the format. -/

namespace ComponentAssembly.Numeral

variable {f : Format} {negative : Bool} {num den m n d p : Nat} {e k : Int} {x : ℚ} {b : Binary}
  {s : String}

/-- The magnitude that a significand and an exponent stand for. -/
def dyadic (m : Nat) (e : Int) : ℚ := m * 2 ^ e

/-- A magnitude is among the finite ones of a format. -/
def Format.Represents (f : Format) (x : ℚ) : Prop :=
  ∃ n k, n < 2 ^ f.precision ∧ f.minExponent ≤ k ∧ k ≤ f.maxExponent ∧ x = dyadic n k

/-- A binary number is one of a format: its magnitude is, or it is infinite or no number. -/
def Format.Has (f : Format) : Binary → Prop
  | .finite _ m e => f.Represents (dyadic m e)
  | _ => True

theorem dyadic_two_pow (p : Nat) (e : Int) : dyadic (2 ^ p) e = 2 ^ ((p : Int) + e) := by
  rw [dyadic, zpow_add₀ two_ne_zero, zpow_natCast]
  push_cast
  rfl

/-- A greater significand at a greater exponent is a greater magnitude. -/
theorem dyadic_le (h : m ≤ n) (he : e ≤ k) : dyadic m e ≤ dyadic n k := by
  unfold dyadic
  gcongr
  norm_num

/-- A magnitude at a smaller exponent has a greater significand. -/
theorem dyadic_eq_shifted (m : Nat) (he : e ≤ k) :
    dyadic m k = dyadic (m * 2 ^ (k - e).toNat) e := by
  rw [dyadic, dyadic]
  push_cast
  rw [← zpow_natCast, Int.toNat_of_nonneg (by omega), mul_assoc, ← zpow_add₀ two_ne_zero]
  congr 2
  omega

theorem twoTo_eq (n : Nat) : twoTo n = 2 ^ n := rfl

theorem zpow_natAbs_of_neg (he : e < 0) : (2 : ℚ) ^ e.natAbs = (2 ^ e)⁻¹ := by
  have hn : (e.natAbs : Int) = -e := by omega
  rw [← zpow_natCast, hn, zpow_neg]

theorem zpow_natAbs_of_nonneg (he : 0 ≤ e) : (2 : ℚ) ^ e.natAbs = 2 ^ e := by
  have hn : (e.natAbs : Int) = e := by omega
  rw [← zpow_natCast, hn]

theorem scaled_pos (hd : 0 < den) (num : Nat) (e : Int) : 0 < (scaled num den e).2 := by
  unfold scaled
  split
  · exact hd
  · exact Nat.mul_pos hd (twoTo_pos _)

/-- Scaling divides by the power. -/
theorem scaled_eq (num den : Nat) (e : Int) :
    ((scaled num den e).1 : ℚ) / (scaled num den e).2 = num / den / 2 ^ e := by
  unfold scaled
  split
  · rename_i he
    rw [twoTo_eq]
    push_cast
    rw [zpow_natAbs_of_neg he]
    field_simp
  · rename_i he
    rw [twoTo_eq]
    push_cast
    rw [zpow_natAbs_of_nonneg (by omega)]
    field_simp

theorem div_lt_iff_scaled (hd : 0 < den) (num c : Nat) (e : Int) :
    (scaled num den e).1 / (scaled num den e).2 < c ↔ (num : ℚ) / den < c * 2 ^ e := by
  have hp := scaled_pos hd num e
  have hq : (0 : ℚ) < (scaled num den e).2 := by exact_mod_cast hp
  have h2 : (0 : ℚ) < 2 ^ e := by positivity
  rw [Nat.div_lt_iff_lt_mul hp, ← div_lt_iff₀ h2, ← scaled_eq, div_lt_iff₀ hq]
  exact_mod_cast Iff.rfl

theorem log2_bounds (hn : 0 < num) (hd : 0 < den) :
    (2 : ℚ) ^ ((num.log2 : Int) - den.log2 - 1) ≤ num / den ∧
      (num : ℚ) / den < 2 ^ ((num.log2 : Int) - den.log2 + 1) := by
  have hq : (0 : ℚ) < den := by exact_mod_cast hd
  have hn1 : (2 : ℚ) ^ (num.log2 : Int) ≤ num := by exact_mod_cast Nat.log2_self_le (by omega)
  have hn2 : (num : ℚ) < 2 ^ ((num.log2 : Int) + 1) := by exact_mod_cast Nat.lt_log2_self
  have hd1 : (2 : ℚ) ^ (den.log2 : Int) ≤ den := by exact_mod_cast Nat.log2_self_le (by omega)
  have hd2 : (den : ℚ) < 2 ^ ((den.log2 : Int) + 1) := by exact_mod_cast Nat.lt_log2_self
  constructor
  · rw [le_div_iff₀ hq]
    calc (2 : ℚ) ^ ((num.log2 : Int) - den.log2 - 1) * den
        ≤ 2 ^ ((num.log2 : Int) - den.log2 - 1) * 2 ^ ((den.log2 : Int) + 1) := by gcongr
      _ = 2 ^ (num.log2 : Int) := by rw [← zpow_add₀ two_ne_zero]; congr 1; ring
      _ ≤ num := hn1
  · rw [div_lt_iff₀ hq]
    calc (num : ℚ) < 2 ^ ((num.log2 : Int) + 1) := hn2
      _ = 2 ^ ((num.log2 : Int) - den.log2 + 1) * 2 ^ (den.log2 : Int) := by
        rw [← zpow_add₀ two_ne_zero]; congr 1; ring
      _ ≤ 2 ^ ((num.log2 : Int) - den.log2 + 1) * den := by gcongr

/-- The free exponent is that of the last bit: the significand at it has just the precision. -/
theorem freeExponent_bounds (hp : 0 < p) (hn : 0 < num) (hd : 0 < den) :
    (2 : ℚ) ^ (p - 1 + freeExponent p num den) ≤ num / den ∧
      (num : ℚ) / den < 2 ^ (p + freeExponent p num den) := by
  obtain ⟨hl, hu⟩ := log2_bounds hn hd
  have hc : ((p - 1 : Nat) : Int) = p - 1 := by omega
  have hc2 (g : Int) : ((twoTo (p - 1) : Nat) : ℚ) * 2 ^ g = 2 ^ ((p : Int) - 1 + g) := by
    rw [twoTo_eq]
    push_cast
    rw [← zpow_natCast, hc, ← zpow_add₀ two_ne_zero]
  unfold freeExponent
  simp only [hc]
  generalize hg : (num.log2 : Int) - den.log2 - ((p : Int) - 1) = g
  have hiff := div_lt_iff_scaled hd num (twoTo (p - 1)) g
  rw [hc2] at hiff
  split
  · rename_i hlt
    refine ⟨?_, ?_⟩
    · convert hl using 2
      omega
    · convert hiff.1 hlt using 2
      omega
  · rename_i hge
    refine ⟨not_lt.1 fun hlt => hge (hiff.2 hlt), ?_⟩
    convert hu using 2
    omega

theorem nearest_le (h : n < 2 ^ p * d) : nearest n d ≤ 2 ^ p := by
  have hq : n / d < 2 ^ p := Nat.div_lt_of_lt_mul (by rwa [Nat.mul_comm] at h)
  simp only [nearest]
  split
  · omega
  · split <;> omega

theorem nearest_mul (hd : 0 < d) (m : Nat) : nearest (m * d) d = m := by
  simp [nearest, Nat.mul_div_cancel m hd, hd]

/-- What a rounded significand at an exponent becomes in a format. -/
def Format.settle (f : Format) (negative : Bool) (m : Nat) (e : Int) : Binary :=
  if m = 2 ^ f.precision then
    if f.maxExponent < e + 1 then .infinite negative
    else .finite negative (2 ^ (f.precision - 1)) (e + 1)
  else if f.maxExponent < e then .infinite negative else .finite negative m e

theorem round_eq (hn : 0 < num) (he : max f.minExponent (freeExponent f.precision num den) = e) :
    f.round negative num den =
      f.settle negative (nearest (scaled num den e).1 (scaled num den e).2) e := by
  subst he
  unfold Format.round Format.settle
  rw [if_neg (by omega)]
  simp only [twoTo_eq]
  split
  · rename_i hm
    simp only [hm, if_true]
  · rename_i hm
    simp only [hm, if_false]

theorem settle_has (hp : 0 < f.precision) (he : f.minExponent ≤ e) (hm : m ≤ 2 ^ f.precision)
    (negative : Bool) : f.Has (f.settle negative m e) := by
  unfold Format.settle
  split
  · split
    · trivial
    · have hlt : 2 ^ (f.precision - 1) < 2 ^ f.precision :=
        Nat.pow_lt_pow_right (by omega) (by omega)
      exact ⟨2 ^ (f.precision - 1), e + 1, hlt, by omega, by omega, rfl⟩
  · split
    · trivial
    · exact ⟨m, e, by omega, he, by omega, rfl⟩

theorem settle_of_lt (hm : m < 2 ^ f.precision) (he : e ≤ f.maxExponent) (negative : Bool) :
    f.settle negative m e = .finite negative m e := by
  unfold Format.settle
  rw [if_neg (by omega), if_neg (by omega)]

/-- Below the power of two at which a significand of the precision ends. -/
theorem lt_of_freeExponent_le (hp : 0 < p) (hn : 0 < num) (hd : 0 < den)
    (he : freeExponent p num den ≤ e) : (num : ℚ) / den < ((2 ^ p : Nat) : ℚ) * 2 ^ e := by
  calc (num : ℚ) / den < 2 ^ (p + freeExponent p num den) := (freeExponent_bounds hp hn hd).2
    _ ≤ 2 ^ ((p : Int) + e) := zpow_le_zpow_right₀ (by norm_num) (by omega)
    _ = ((2 ^ p : Nat) : ℚ) * 2 ^ e := by
      push_cast
      rw [zpow_add₀ two_ne_zero, zpow_natCast]

theorem scaled_lt (hp : 0 < p) (hn : 0 < num) (hd : 0 < den)
    (he : freeExponent p num den ≤ e) :
    (scaled num den e).1 < 2 ^ p * (scaled num den e).2 := by
  have hlt := lt_of_freeExponent_le hp hn hd he
  rwa [← div_lt_iff_scaled hd, Nat.div_lt_iff_lt_mul (scaled_pos hd num e)] at hlt

/-- Rounding gives a number of the format. -/
theorem round_has (hp : 0 < f.precision) (hr : f.minExponent ≤ f.maxExponent) (hd : 0 < den)
    (negative : Bool) (num : Nat) : f.Has (f.round negative num den) := by
  rcases Nat.eq_zero_or_pos num with rfl | hn
  · exact ⟨0, f.minExponent, by positivity, le_rfl, hr, rfl⟩
  · rw [round_eq hn rfl]
    have hlt := scaled_lt hp hn hd (le_max_right f.minExponent _)
    exact settle_has hp (le_max_left _ _) (nearest_le hlt) negative

/-- The exponent of a number of a format is not below that of its last bit. -/
theorem freeExponent_le (hp : 0 < p) (hn : 0 < num) (hd : 0 < den) (hm : m < 2 ^ p)
    (h : (num : ℚ) / den = dyadic m k) : freeExponent p num den ≤ k := by
  have hl := (freeExponent_bounds hp hn hd).1
  have hu : (num : ℚ) / den < 2 ^ ((p : Int) + k) := by
    have hmq : (m : ℚ) < 2 ^ (p : Int) := by exact_mod_cast hm
    calc (num : ℚ) / den = m * 2 ^ k := h
      _ < 2 ^ (p : Int) * 2 ^ k := by gcongr
      _ = 2 ^ ((p : Int) + k) := (zpow_add₀ two_ne_zero _ _).symm
  have hlt := (zpow_lt_zpow_iff_right₀ (by norm_num : (1 : ℚ) < 2)).1 (hl.trans_lt hu)
  omega

/-- A number with an exponent that is not below is a whole number of units. -/
theorem scaled_of_dyadic (hd : 0 < den) (he : e ≤ k) (h : (num : ℚ) / den = dyadic m k) :
    (scaled num den e).1 = m * 2 ^ (k - e).toNat * (scaled num den e).2 := by
  have hp := scaled_pos hd num e
  have hq : ((scaled num den e).2 : ℚ) ≠ 0 := by exact_mod_cast hp.ne'
  have hk : (2 : ℚ) ^ (k - e).toNat = 2 ^ k / 2 ^ e := by
    rw [← zpow_natCast, Int.toNat_of_nonneg (by omega), zpow_sub₀ two_ne_zero]
  have hs := scaled_eq num den e
  rw [h, dyadic, mul_div_assoc, ← hk, div_eq_iff hq] at hs
  exact_mod_cast hs

/-- A number of the format is rounded to itself. -/
theorem round_exact (hp : 0 < f.precision) (hd : 0 < den) (negative : Bool)
    (h : f.Represents ((num : ℚ) / den)) :
    ∃ m e, f.round negative num den = .finite negative m e ∧ dyadic m e = num / den := by
  rcases Nat.eq_zero_or_pos num with rfl | hn
  · exact ⟨0, f.minExponent, rfl, by simp [dyadic]⟩
  obtain ⟨m, k, hm, hmin, hmax, hx⟩ := h
  generalize he : max f.minExponent (freeExponent f.precision num den) = e
  have hek : e ≤ k := he ▸ max_le hmin (freeExponent_le hp hn hd hm hx)
  have hs := scaled_of_dyadic hd hek hx
  have hlt := scaled_lt hp hn hd (he ▸ le_max_right f.minExponent _)
  have hpos := scaled_pos hd num e
  rw [hs] at hlt
  refine ⟨m * 2 ^ (k - e).toNat, e, ?_, ?_⟩
  · rw [round_eq hn he, hs, nearest_mul hpos,
      settle_of_lt (Nat.lt_of_mul_lt_mul_right hlt) (hek.trans hmax)]
  · rw [hx, dyadic_eq_shifted m hek]

theorem scaled_dyadic (m : Nat) (e : Int) :
    ((scaled m 1 (-e)).1 : ℚ) / (scaled m 1 (-e)).2 = dyadic m e := by
  rw [scaled_eq, zpow_neg, dyadic]
  simp

theorem convert_has (hp : 0 < f.precision) (hr : f.minExponent ≤ f.maxExponent) (b : Binary) :
    f.Has (f.convert b) := by
  cases b with
  | finite negative m e => exact round_has hp hr (scaled_pos Nat.one_pos m (-e)) negative _
  | infinite negative | nan => trivial

/-- Conversion keeps a number of the format. -/
theorem convert_exact (hp : 0 < f.precision) (negative : Bool) (h : f.Represents (dyadic m e)) :
    ∃ n k, f.convert (.finite negative m e) = .finite negative n k ∧ dyadic n k = dyadic m e := by
  have hs := scaled_dyadic m e
  have hd := scaled_pos Nat.one_pos m (-e)
  rw [← hs] at h ⊢
  exact round_exact hp hd negative h

/-- All numbers of single precision are numbers of double precision. -/
theorem represents_double (h : Format.single.Represents x) : Format.double.Represents x := by
  obtain ⟨n, k, hn, hl, hu, hx⟩ := h
  simp only [Format.single] at hn hl hu
  refine ⟨n, k, hn.trans (by decide), ?_, ?_, hx⟩ <;> simp only [Format.double] <;> omega

theorem toDouble_has (d : Decimal) : Format.double.Has d.toDouble := by
  have hr {den : Nat} (hd : 0 < den) (negative : Bool) (num : Nat) :
      Format.double.Has (Format.double.round negative num den) :=
    round_has (by decide) (by decide) hd negative num
  cases d with
  | nan | infinite negative => trivial
  | finite negative c e =>
    simp only [Decimal.toDouble]
    split
    · exact hr Nat.one_pos ..
    · split
      · trivial
      · split
        · exact hr Nat.one_pos ..
        · split
          · exact hr (tenTo_pos _) ..
          · exact hr Nat.one_pos ..

/-- What is read as a double is one. -/
theorem readDouble?_has (h : readDouble? s = some b) : Format.double.Has b := by
  obtain ⟨d, -, rfl⟩ := Option.map_eq_some_iff.1 h
  exact toDouble_has d

/-- What is read as a number of single precision is one, and a double as well. -/
theorem readSingle?_has (h : readSingle? s = some b) :
    Format.double.Has b ∧ Format.single.Has b := by
  obtain ⟨d, -, hd⟩ := Option.bind_eq_some_iff.1 h
  have hb : b = Format.double.convert (Format.single.convert d) := by
    split at hd
    · cases hd
    · exact (Option.some.inj hd).symm
  subst hb
  refine ⟨convert_has (by decide) (by decide) _, ?_⟩
  have hs := convert_has (f := Format.single) (by decide) (by decide) d
  cases hc : Format.single.convert d with
  | infinite negative | nan => trivial
  | finite negative m e =>
    rw [hc] at hs
    obtain ⟨n, k, hnk, heq⟩ :=
      convert_exact (f := Format.double) (by decide) negative (represents_double hs)
    rw [hnk]
    change Format.single.Represents (dyadic n k)
    rw [heq]
    exact hs

end ComponentAssembly.Numeral

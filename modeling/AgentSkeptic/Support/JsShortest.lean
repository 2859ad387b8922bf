import AgentSkeptic.Support.JsDouble
import AgentSkeptic.Support.JsSafeInteger
import Mathlib.Data.Nat.Cast.Order.Field

/-!
# Shortest decimals

Seventeen digits tell a double from its neighbours, so every double of an integer has a
shortest decimal (`shortest_isSome`).  The number that an integer literal is read as
determines the double, and the double the number (`ofDecimal_eq_int_iff`).
-/

namespace AgentSkeptic.Support.JsNumber

/-! ## Rounding to the nearest -/

/-- An integer less than half a step away is the nearest. -/
theorem nearest_of_near {p q m : ℕ} (hq : 0 < q) (h : |(p : ℚ) / q - m| < 1 / 2) :
    nearest p q = m := by
  have hqQ : (0 : ℚ) < q := by exact_mod_cast hq
  obtain ⟨hlow, hhigh⟩ := abs_lt.mp h
  have hupper : (p : ℚ) * 2 < (2 * m + 1) * q := by
    have hratio : (p : ℚ) / q < (2 * m + 1) / 2 := by linarith
    rw [div_lt_div_iff₀ hqQ two_pos] at hratio
    exact hratio
  have hlower : (2 * m : ℚ) * q < p * 2 + q := by
    have hratio : (2 * m - 1 : ℚ) / 2 < (p : ℚ) / q := by linarith
    rw [div_lt_div_iff₀ two_pos hqQ] at hratio
    linarith
  have hupperN : p * 2 < (2 * m + 1) * q := by exact_mod_cast hupper
  have hlowerN : 2 * m * q < p * 2 + q := by exact_mod_cast hlower
  have hdiv : p / q * q + p % q = p := by
    rw [mul_comm]
    exact Nat.div_add_mod p q
  have hmod : p % q < q := Nat.mod_lt p hq
  have hle : p / q ≤ m := by
    by_contra hgt
    have hmul : (m + 1) * q ≤ p / q * q := Nat.mul_le_mul_right q (by omega)
    have hrest : 0 ≤ p % q := Nat.zero_le _
    nlinarith
  have hge : m ≤ p / q + 1 := by
    by_contra hlt
    have hmul : (p / q + 2) * q ≤ m * q := Nat.mul_le_mul_right q (by omega)
    nlinarith
  rcases Nat.lt_or_ge (p / q) m with hless | hmore
  · obtain rfl : m = p / q + 1 := by omega
    have htwice : q < 2 * (p % q) := by nlinarith
    simp only [nearest]
    rw [if_neg (by omega), if_pos htwice]
  · obtain rfl : m = p / q := by omega
    have htwice : 2 * (p % q) < q := by nlinarith
    simp only [nearest]
    rw [if_pos htwice]

/-- The nearest integer is at most half a step away. -/
theorem nearest_near {p q : ℕ} (hq : 0 < q) : |(p : ℚ) / q - nearest p q| ≤ 1 / 2 := by
  have hqQ : (0 : ℚ) < q := by exact_mod_cast hq
  have hdiv : ((p / q : ℕ) : ℚ) * q + (p % q : ℕ) = p := by
    exact_mod_cast (by rw [mul_comm]; exact Nat.div_add_mod p q)
  have hratio : (p : ℚ) / q = (p / q : ℕ) + ((p % q : ℕ) : ℚ) / q := by
    rw [← hdiv]
    field_simp
  have hnonneg : 0 ≤ ((p % q : ℕ) : ℚ) / q := by positivity
  have hsmall : ((p % q : ℕ) : ℚ) / q < 1 := by
    rw [div_lt_one hqQ]
    exact_mod_cast Nat.mod_lt p hq
  -- The remainder against one half decides between the floor and the next.
  have hhalf : 2 * (p % q) ≤ q → ((p % q : ℕ) : ℚ) / q ≤ 1 / 2 := by
    intro hle
    rw [div_le_div_iff₀ hqQ two_pos]
    have hleQ : (2 : ℚ) * (p % q : ℕ) ≤ q := by exact_mod_cast hle
    linarith
  have hhalf' : q ≤ 2 * (p % q) → 1 / 2 ≤ ((p % q : ℕ) : ℚ) / q := by
    intro hle
    rw [div_le_div_iff₀ two_pos hqQ]
    have hleQ : (q : ℚ) ≤ 2 * (p % q : ℕ) := by exact_mod_cast hle
    linarith
  rw [hratio, abs_le]
  simp only [nearest]
  split_ifs with hless hmore heven
  · have hle := hhalf (by omega)
    constructor <;> linarith
  · have hle := hhalf' (by omega)
    push_cast
    constructor <;> linarith
  · have hle := hhalf (by omega)
    constructor <;> linarith
  · have hle := hhalf' (by omega)
    push_cast
    constructor <;> linarith

theorem nearest_floor (p q : ℕ) : nearest p q = p / q ∨ nearest p q = p / q + 1 := by
  simp only [nearest]
  split_ifs
  · exact .inl rfl
  · exact .inr rfl
  · exact .inl rfl
  · exact .inr rfl

theorem binade_eq {p q : ℕ} {b : ℤ} (hp : 0 < p) (hq : 0 < q)
    (hlow : (2 : ℚ) ^ b ≤ (p : ℚ) / q) (hhigh : (p : ℚ) / q < 2 ^ (b + 1)) :
    binade p q = b := by
  obtain ⟨hlow', hhigh'⟩ := binade_spec hp hq
  have htwo : (1 : ℚ) < 2 := one_lt_two
  have hle := (zpow_lt_zpow_iff_right₀ htwo).mp (hlow.trans_lt hhigh')
  have hge := (zpow_lt_zpow_iff_right₀ htwo).mp (hlow'.trans_lt hhigh)
  omega

/-! ## Near a double -/

/-- A mantissa of 53 bits, and an exponent at which no bit is lost. -/
structure Normal (double : ℕ × ℤ) : Prop where
  low : 2 ^ 52 ≤ double.1
  high : double.1 < 2 ^ 53
  exponent : -1073 ≤ double.2

theorem Normal.doubleValue_bounds {double : ℕ × ℤ} (h : Normal double) :
    (2 : ℚ) ^ (52 + double.2) ≤ doubleValue double ∧
      doubleValue double < 2 ^ (53 + double.2) := by
  have hpower : (0 : ℚ) < 2 ^ double.2 := by positivity
  have hlow : ((2 : ℚ) ^ 52) ≤ double.1 := by exact_mod_cast h.low
  have hhigh : (double.1 : ℚ) < 2 ^ 53 := by exact_mod_cast h.high
  rw [zpow_add₀ two_ne_zero, zpow_add₀ two_ne_zero, doubleValue]
  constructor
  · exact mul_le_mul_of_nonneg_right hlow hpower.le
  · exact mul_lt_mul_of_pos_right hhigh hpower

/-- Two doubles with one value are one. -/
theorem Normal.eq_of_value {double double' : ℕ × ℤ} (h : Normal double)
    (h' : Normal double') (hvalue : doubleValue double = doubleValue double') :
    double = double' := by
  obtain ⟨hlow, hhigh⟩ := h.doubleValue_bounds
  obtain ⟨hlow', hhigh'⟩ := h'.doubleValue_bounds
  have htwo : (1 : ℚ) < 2 := one_lt_two
  rw [hvalue] at hlow hhigh
  have hle := (zpow_lt_zpow_iff_right₀ htwo).mp (hlow.trans_lt hhigh')
  have hge := (zpow_lt_zpow_iff_right₀ htwo).mp (hlow'.trans_lt hhigh)
  have hexp : double.2 = double'.2 := by omega
  have hpower : (2 : ℚ) ^ double'.2 ≠ 0 := by positivity
  rw [doubleValue, doubleValue, hexp] at hvalue
  have hmantissa : (double.1 : ℚ) = double'.1 := mul_right_cancel₀ hpower hvalue
  exact Prod.ext (by exact_mod_cast hmantissa) hexp

/-- What is left of a ratio at the exponent of a double. -/
theorem scaled_near {p q m : ℕ} {e : ℤ} {r : ℚ}
    (h : |(p : ℚ) / q - m * 2 ^ e| < r * 2 ^ e) :
    |((scaled 2 p q (-e)).1 : ℚ) / (scaled 2 p q (-e)).2 - m| < r := by
  have hpower : (0 : ℚ) < 2 ^ e := by positivity
  have hscaled := @scaled_ratio 2 p q (-e) two_pos
  have hdiff : ((p : ℚ) / q * 2 ^ (-e) - m) * 2 ^ e = (p : ℚ) / q - m * 2 ^ e := by
    rw [zpow_neg]
    field_simp
  rw [hscaled, Nat.cast_two]
  rw [← hdiff, abs_mul, abs_of_pos hpower] at h
  exact lt_of_mul_lt_mul_right h hpower.le

/-- A ratio of the same binade within half a step of a double is rounded to it. -/
theorem round_of_near {p q : ℕ} {double : ℕ × ℤ} (h : Normal double) (hp : 0 < p)
    (hq : 0 < q) (hlow : (2 : ℚ) ^ (52 + double.2) ≤ (p : ℚ) / q)
    (hhigh : (p : ℚ) / q < 2 ^ (53 + double.2))
    (hnear : |(p : ℚ) / q - doubleValue double| < 1 / 2 * 2 ^ double.2) :
    round p q = double := by
  have hbinade : binade p q = 52 + double.2 := by
    apply binade_eq hp hq hlow
    rwa [show 52 + double.2 + 1 = 53 + double.2 by ring]
  have hexp : max (binade p q - 52) (-1074) = double.2 := by
    have hexponent := h.exponent
    rw [hbinade]
    omega
  have hmantissa : nearest (scaled 2 p q (-double.2)).1 (scaled 2 p q (-double.2)).2 =
      double.1 := nearest_of_near (scaled_pos _ two_pos hq) (scaled_near hnear)
  rw [round_eq, hexp, hmantissa, if_neg h.high.ne]

/-- Below a power of two the step is halved. -/
theorem round_of_near_below {p q : ℕ} {e : ℤ} (he : -1073 ≤ e) (hp : 0 < p) (hq : 0 < q)
    (hbelow : (p : ℚ) / q < 2 ^ (52 + e))
    (hnear : |(p : ℚ) / q - doubleValue (2 ^ 52, e)| < 1 / 4 * 2 ^ e) :
    round p q = (2 ^ 52, e) := by
  have hpower : (0 : ℚ) < 2 ^ e := by positivity
  have hhalf : (2 : ℚ) ^ (e - 1) * 2 = 2 ^ e := by
    rw [← zpow_add_one₀ two_ne_zero, sub_add_cancel]
  have hvalue : doubleValue (2 ^ 52, e) = ((2 ^ 53 : ℕ) : ℚ) * 2 ^ (e - 1) := by
    rw [doubleValue, ← hhalf]
    push_cast
    ring
  have hbinade : binade p q = 51 + e := by
    apply binade_eq hp hq
    · have hlow := (abs_lt.mp hnear).1
      have hedge : (2 : ℚ) ^ (51 + e) = 2 ^ 51 * 2 ^ e := by
        rw [zpow_add₀ two_ne_zero]
        norm_num
      rw [doubleValue] at hlow
      push_cast at hlow
      rw [hedge]
      linarith
    · rwa [show 51 + e + 1 = 52 + e by ring]
  have hexp : max (binade p q - 52) (-1074) = e - 1 := by
    rw [hbinade]
    omega
  have hmantissa : nearest (scaled 2 p q (-(e - 1))).1 (scaled 2 p q (-(e - 1))).2 =
      2 ^ 53 := by
    apply nearest_of_near (scaled_pos _ two_pos hq)
    apply scaled_near
    rw [← hvalue]
    linarith
  rw [round_eq, hexp, hmantissa, if_pos rfl, sub_add_cancel]

/-! ## Doubles of integers -/

/-- A positive integer is rounded to a mantissa of 53 bits. -/
theorem round_normal {n : ℕ} (hn : 0 < n) : Normal (round n 1) ∧ -52 ≤ (round n 1).2 := by
  obtain ⟨b, hb, hlow, hhigh⟩ := exists_binade hn
  have hexp : max (binade n 1 - 52) (-1074) = (b : ℤ) - 52 := by
    rw [hb]
    omega
  have hratio : ((scaled 2 n 1 (-((b : ℤ) - 52))).1 : ℚ) /
      (scaled 2 n 1 (-((b : ℤ) - 52))).2 = n * 2 ^ (-((b : ℤ) - 52)) := by
    rw [scaled_ratio _ two_pos]
    simp
  have hden : 0 < (scaled 2 n 1 (-((b : ℤ) - 52))).2 := scaled_pos _ two_pos one_pos
  have hdenQ : (0 : ℚ) < (scaled 2 n 1 (-((b : ℤ) - 52))).2 := by exact_mod_cast hden
  have hpower : (0 : ℚ) < 2 ^ (-((b : ℤ) - 52)) := by positivity
  have hlowQ : (2 : ℚ) ^ b ≤ n := by exact_mod_cast hlow
  have hhighQ : (n : ℚ) < 2 ^ (b + 1) := by exact_mod_cast hhigh
  have hbelow : 2 ^ 52 * (scaled 2 n 1 (-((b : ℤ) - 52))).2 ≤
      (scaled 2 n 1 (-((b : ℤ) - 52))).1 := by
    have hmul : (2 : ℚ) ^ 52 ≤ n * 2 ^ (-((b : ℤ) - 52)) := by
      calc (2 : ℚ) ^ 52 = 2 ^ b * 2 ^ (-((b : ℤ) - 52)) := by
            rw [← zpow_natCast, ← zpow_natCast, ← zpow_add₀ two_ne_zero]
            congr 1
            push_cast
            ring
        _ ≤ n * 2 ^ (-((b : ℤ) - 52)) := mul_le_mul_of_nonneg_right hlowQ hpower.le
    rw [← hratio, le_div_iff₀ hdenQ] at hmul
    exact_mod_cast hmul
  have habove : (scaled 2 n 1 (-((b : ℤ) - 52))).1 <
      2 ^ 53 * (scaled 2 n 1 (-((b : ℤ) - 52))).2 := by
    have hmul : n * (2 : ℚ) ^ (-((b : ℤ) - 52)) < 2 ^ 53 := by
      calc n * (2 : ℚ) ^ (-((b : ℤ) - 52)) < 2 ^ (b + 1) * 2 ^ (-((b : ℤ) - 52)) :=
            mul_lt_mul_of_pos_right hhighQ hpower
        _ = 2 ^ 53 := by
            rw [← zpow_natCast, ← zpow_natCast, ← zpow_add₀ two_ne_zero]
            congr 1
            push_cast
            ring
    rw [← hratio, div_lt_iff₀ hdenQ] at hmul
    exact_mod_cast hmul
  have hfloor : 2 ^ 52 ≤ (scaled 2 n 1 (-((b : ℤ) - 52))).1 /
      (scaled 2 n 1 (-((b : ℤ) - 52))).2 := (Nat.le_div_iff_mul_le hden).mpr hbelow
  have hceil : (scaled 2 n 1 (-((b : ℤ) - 52))).1 / (scaled 2 n 1 (-((b : ℤ) - 52))).2 <
      2 ^ 53 := (Nat.div_lt_iff_lt_mul hden).mpr habove
  rw [round_eq, hexp]
  split_ifs with hlarge
  · have hpow : (2 : ℕ) ^ 52 < 2 ^ 53 := by decide
    refine ⟨⟨Nat.le_refl _, hpow, ?_⟩, ?_⟩
    · dsimp only
      omega
    · dsimp only
      omega
  · rcases nearest_floor (scaled 2 n 1 (-((b : ℤ) - 52))).1
      (scaled 2 n 1 (-((b : ℤ) - 52))).2 with hnear | hnear
    · rw [hnear]
      refine ⟨⟨hfloor, hceil, ?_⟩, ?_⟩
      · dsimp only
        omega
      · dsimp only
        omega
    · rw [hnear] at hlarge ⊢
      refine ⟨⟨by omega, by omega, ?_⟩, ?_⟩
      · dsimp only
        omega
      · dsimp only
        omega

/-- A decimal within a part in `2 * 10 ^ 16` of a double is read as it. -/
theorem round_of_seventeen {p q : ℕ} {double : ℕ × ℤ} (h : Normal double) (hp : 0 < p)
    (hq : 0 < q)
    (hnear : |(p : ℚ) / q - doubleValue double| ≤ doubleValue double / (2 * 10 ^ 16)) :
    round p q = double := by
  obtain ⟨m, e⟩ := double
  have hpower : (0 : ℚ) < 2 ^ e := by positivity
  have hlow52 : (2 : ℚ) ^ (52 + e) = 2 ^ 52 * 2 ^ e := by
    rw [zpow_add₀ two_ne_zero]
    norm_num
  have hhigh53 : (2 : ℚ) ^ (53 + e) = 2 ^ 53 * 2 ^ e := by
    rw [zpow_add₀ two_ne_zero]
    norm_num
  have hvalue : doubleValue (m, e) = m * 2 ^ e := rfl
  obtain ⟨hlow, hhigh⟩ := abs_le.mp hnear
  rw [hvalue] at hnear hlow hhigh
  rcases Nat.eq_or_lt_of_le h.low with hedge | hinner
  · obtain rfl : m = 2 ^ 52 := hedge.symm
    push_cast at hlow hhigh hnear
    by_cases hside : (p : ℚ) / q < 2 ^ (52 + e)
    · apply round_of_near_below h.exponent hp hq hside
      rw [hvalue]
      push_cast
      have hstep : (2 : ℚ) ^ 52 * 2 ^ e / (2 * 10 ^ 16) < 1 / 4 * 2 ^ e := by linarith
      exact hnear.trans_lt hstep
    · apply round_of_near h hp hq (not_lt.mp hside)
      · dsimp only
        rw [hhigh53]
        linarith
      · rw [hvalue]
        push_cast
        have hstep : (2 : ℚ) ^ 52 * 2 ^ e / (2 * 10 ^ 16) < 1 / 2 * 2 ^ e := by linarith
        exact hnear.trans_lt hstep
  · have hm : (2 : ℚ) ^ 52 + 1 ≤ m := by exact_mod_cast hinner
    have hm' : (m : ℚ) ≤ 2 ^ 53 - 1 := by
      have hle : (m : ℚ) + 1 ≤ 2 ^ 53 := by exact_mod_cast h.high
      linarith
    have hbelow : ((2 : ℚ) ^ 52 + 1) * 2 ^ e ≤ m * 2 ^ e :=
      mul_le_mul_of_nonneg_right hm hpower.le
    have habove : (m : ℚ) * 2 ^ e ≤ (2 ^ 53 - 1) * 2 ^ e :=
      mul_le_mul_of_nonneg_right hm' hpower.le
    apply round_of_near h hp hq
    · dsimp only
      rw [hlow52]
      linarith
    · dsimp only
      rw [hhigh53]
      linarith
    · rw [hvalue]
      have hstep : (m : ℚ) * 2 ^ e / (2 * 10 ^ 16) < 1 / 2 * 2 ^ e := by linarith
      exact hnear.trans_lt hstep

theorem scaled_double (double : ℕ × ℤ) :
    ((scaled 2 double.1 1 double.2).1 : ℚ) / (scaled 2 double.1 1 double.2).2 =
      doubleValue double := by
  rw [scaled_ratio _ two_pos, doubleValue]
  simp

/-- The power of ten of the first digit of a ratio that is at least one. -/
theorem leading_le {p q : ℕ} (hq : 0 < q) (hle : q ≤ p) :
    (10 : ℚ) ^ (((decimalDigits (p / q)).length : ℤ) - 1) ≤ (p : ℚ) / q := by
  have hpos : 0 < (decimalDigits (p / q)).length := Nat.length_toDigits_pos
  have hwhole : 0 < p / q := Nat.div_pos hle hq
  obtain ⟨k, hk⟩ : ∃ k, (decimalDigits (p / q)).length = k + 1 :=
    ⟨_, (Nat.succ_pred_eq_of_pos hpos).symm⟩
  have hdigits : 10 ^ k ≤ p / q := by
    rcases Nat.eq_zero_or_pos k with rfl | hk'
    · rwa [pow_zero]
    · by_contra hless
      have hshort : (decimalDigits (p / q)).length ≤ k :=
        (Nat.length_toDigits_le_iff (by decide) hk').mpr (Nat.lt_of_not_le hless)
      omega
  have hexp : ((decimalDigits (p / q)).length : ℤ) - 1 = (k : ℕ) := by
    rw [hk]
    push_cast
    ring
  rw [hexp, zpow_natCast]
  calc (10 : ℚ) ^ k ≤ ((p / q : ℕ) : ℚ) := by exact_mod_cast hdigits
    _ ≤ (p : ℚ) / q := Nat.cast_div_le

/-- A multiple of a small power of ten that is nearest to a double is near enough. -/
theorem nearest_seventeen {p q : ℕ} {e : ℤ} {v : ℚ} (hq : 0 < q)
    (hv : (p : ℚ) / q * 10 ^ e = v) (hunit : (10 : ℚ) ^ e * 10 ^ 16 ≤ v) :
    0 < nearest p q ∧ |(nearest p q : ℚ) * 10 ^ e - v| ≤ v / (2 * 10 ^ 16) := by
  have hten : (0 : ℚ) < 10 ^ e := by positivity
  have hvpos : 0 < v := lt_of_lt_of_le (by positivity) hunit
  have hdistance : |(nearest p q : ℚ) * 10 ^ e - v| ≤ v / (2 * 10 ^ 16) := by
    have hmul : |(p : ℚ) / q - nearest p q| * 10 ^ e ≤ 1 / 2 * 10 ^ e :=
      mul_le_mul_of_nonneg_right (nearest_near hq) hten.le
    rw [← abs_of_pos hten, ← abs_mul, abs_of_pos hten, sub_mul, hv, abs_sub_comm] at hmul
    linarith
  refine ⟨?_, hdistance⟩
  apply Nat.pos_of_ne_zero
  intro hzero
  rw [hzero, Nat.cast_zero, zero_mul, zero_sub, abs_neg, abs_of_pos hvpos] at hdistance
  linarith

/-- The decimal of seventeen digits of a double that is at least one reads as it. -/
theorem withDigits_seventeen {double : ℕ × ℤ} (h : Normal double) (he : -52 ≤ double.2) :
    (withDigits double 17).isSome = true := by
  have hratio := scaled_double double
  have hden : 0 < (scaled 2 double.1 1 double.2).2 := scaled_pos _ two_pos one_pos
  set ratio := scaled 2 double.1 1 double.2 with hscaled
  have hdenQ : (0 : ℚ) < ratio.2 := by exact_mod_cast hden
  have hone : 1 ≤ doubleValue double := by
    have hle : (2 : ℚ) ^ (0 : ℤ) ≤ 2 ^ (52 + double.2) :=
      zpow_le_zpow_right₀ one_le_two (by omega)
    rw [zpow_zero] at hle
    exact hle.trans h.doubleValue_bounds.1
  have hge : ratio.2 ≤ ratio.1 := by
    rw [← hratio, one_le_div hdenQ] at hone
    exact_mod_cast hone
  have hlead := leading_le hden hge
  set e : ℤ := ((decimalDigits (ratio.1 / ratio.2)).length : ℤ) - (17 : ℕ) with hexp
  have hunit : (10 : ℚ) ^ e * 10 ^ 16 ≤ doubleValue double := by
    rw [← hratio, ← zpow_natCast (10 : ℚ) 16, ← zpow_add₀ (by norm_num)]
    refine le_trans (le_of_eq ?_) hlead
    congr 1
    rw [hexp]
    push_cast
    ring
  set shifted := scaled 10 ratio.1 ratio.2 (-e) with hshifted
  have hshiftedDen : 0 < shifted.2 := scaled_pos _ (by decide) hden
  have hshiftedRatio : (shifted.1 : ℚ) / shifted.2 * 10 ^ e = doubleValue double := by
    rw [hshifted, scaled_ratio _ (by decide), hratio, Nat.cast_ofNat, zpow_neg]
    field_simp
  obtain ⟨hpositive, hdistance⟩ := nearest_seventeen hshiftedDen hshiftedRatio hunit
  have hround : roundDecimal (nearest shifted.1 shifted.2) e = double := by
    apply round_of_seventeen h (scaled_num_pos e (by decide) hpositive)
      (scaled_pos e (by decide) one_pos)
    rw [scaled_ratio e (by decide), Nat.cast_one, div_one, Nat.cast_ofNat]
    exact hdistance
  rw [withDigits, Option.isSome_map, ← hscaled, if_neg (Nat.not_lt_of_le hge), ← hexp, ← hshifted]
  apply List.find?_isSome.mpr
  refine ⟨nearest shifted.1 shifted.2, ?_, by rw [hround]; exact beq_self_eq_true _⟩
  rcases nearest_floor shifted.1 shifted.2 with hfloor | hfloor
  · rw [if_pos hfloor, hfloor]
    exact List.mem_cons_self
  · rw [if_neg (by omega), hfloor]
    exact List.mem_cons_self

/-- The double of a positive integer has a shortest decimal. -/
theorem shortest_isSome {n : ℕ} (hn : 0 < n) : (shortest (round n 1)).isSome = true := by
  obtain ⟨hnormal, hexp⟩ := round_normal hn
  rw [shortest, List.findSome?_isSome_iff]
  exact ⟨16, List.mem_range.mpr (by decide), withDigits_seventeen hnormal hexp⟩

/-! ## Reading integers -/

theorem roundDecimal_zero (n : ℕ) : roundDecimal n 0 = round n 1 := by
  simp [roundDecimal, scaled]

theorem mantissa_zero (e : ℤ) : (roundDecimal 0 e).1 = 0 := by
  have hscaled : ∀ (base q : ℕ) (k : ℤ), (scaled base 0 q k).1 = 0 := by
    intro base q k
    rw [scaled]
    split_ifs
    · exact Nat.zero_mul _
    · rfl
  have hnearest : ∀ q, nearest 0 q = 0 := by
    intro q
    simp [nearest]
  rw [roundDecimal, hscaled, round_eq, hscaled, hnearest, if_neg (by decide)]

/-- An integer literal is read as a number exactly when both stand for one double. -/
theorem ofDecimal_eq_int_iff {neg : Bool} {m : ℕ} {n : ℤ} (hm : 0 < m)
    (hread : (int n).Readable) :
    ofDecimal neg m 0 = int n ↔
      neg = decide (n < 0) ∧ round m 1 = round n.natAbs 1 := by
  have hnormal := (round_normal hm).1
  rw [ofDecimal_eq neg 0 hm, roundDecimal_zero]
  constructor
  · intro h
    have hsmall : ¬971 < (round m 1).2 := by
      intro hlarge
      rw [ofDouble, if_pos hlarge] at h
      cases h
    obtain ⟨⟨d, e⟩, hshortest⟩ := Option.isSome_iff_exists.mp (shortest_isSome hm)
    have hdouble := roundDecimal_of_shortest hshortest
    have hd : 0 < d := by
      apply Nat.pos_of_ne_zero
      rintro rfl
      have hlow := hnormal.low
      rw [← hdouble, mantissa_zero] at hlow
      omega
    obtain ⟨hneg, hvalue⟩ := ofDouble_spec neg hsmall hd hshortest
    rw [h] at hneg hvalue
    have habs : (n.natAbs : ℚ) = d * 10 ^ e := by
      rw [← hvalue, toRat, Nat.cast_natAbs, Int.cast_abs]
    have hn : 0 < n.natAbs := by
      have hpos : (0 : ℚ) < n.natAbs := by
        rw [habs]
        positivity
      exact_mod_cast hpos
    refine ⟨hneg.symm, ?_⟩
    rw [← hdouble, ← roundDecimal_zero]
    apply roundDecimal_congr hd hn
    rw [← habs, zpow_zero, mul_one]
  · rintro ⟨rfl, hround⟩
    have hn : 0 < n.natAbs := by
      apply Nat.pos_of_ne_zero
      intro hzero
      have hlow := hnormal.low
      rw [hround, hzero, ← roundDecimal_zero, mantissa_zero] at hlow
      omega
    obtain ⟨d, e, hparse, hvalue⟩ := parse?_toText (n := int n) rfl
    have hself : int n = ofDecimal (decide (n < 0)) d e :=
      Option.some.inj (hread.symm.trans hparse)
    have habs : (d : ℚ) * 10 ^ e = n.natAbs := by
      rw [hvalue, toRat, Nat.cast_natAbs, Int.cast_abs]
    have hd : 0 < d := by
      apply Nat.pos_of_ne_zero
      rintro rfl
      rw [Nat.cast_zero, zero_mul] at habs
      have hzero : n.natAbs = 0 := by exact_mod_cast habs.symm
      omega
    have hdouble : roundDecimal d e = round n.natAbs 1 := by
      rw [← roundDecimal_zero]
      apply roundDecimal_congr hd hn
      rw [habs, zpow_zero, mul_one]
    rw [hround, ← hdouble, ← ofDecimal_eq _ _ hd, ← hself]

/-- A mantissa has 53 bits at most. -/
theorem round_mantissa_lt {p q : ℕ} (hp : 0 < p) (hq : 0 < q) : (round p q).1 < 2 ^ 53 := by
  obtain ⟨-, hhigh⟩ := binade_spec hp hq
  set e := max (binade p q - 52) (-1074) with he
  have hden : 0 < (scaled 2 p q (-e)).2 := scaled_pos _ two_pos hq
  have hdenQ : (0 : ℚ) < (scaled 2 p q (-e)).2 := by exact_mod_cast hden
  have hpower : (0 : ℚ) < 2 ^ (-e) := by positivity
  have hbelow : (scaled 2 p q (-e)).1 < 2 ^ 53 * (scaled 2 p q (-e)).2 := by
    have hmul : (p : ℚ) / q * 2 ^ (-e) < 2 ^ 53 := by
      calc (p : ℚ) / q * 2 ^ (-e) < 2 ^ (binade p q + 1) * 2 ^ (-e) :=
            mul_lt_mul_of_pos_right hhigh hpower
        _ = (2 : ℚ) ^ (binade p q + 1 - e) := by
            rw [← zpow_add₀ two_ne_zero, sub_eq_add_neg]
        _ ≤ 2 ^ (53 : ℤ) := zpow_le_zpow_right₀ one_le_two (by omega)
        _ = 2 ^ 53 := by norm_num
    have hratio := @scaled_ratio 2 p q (-e) two_pos
    rw [Nat.cast_two] at hratio
    rw [← hratio, div_lt_iff₀ hdenQ] at hmul
    exact_mod_cast hmul
  have hfloor : (scaled 2 p q (-e)).1 / (scaled 2 p q (-e)).2 < 2 ^ 53 :=
    (Nat.div_lt_iff_lt_mul hden).mpr hbelow
  rw [round_eq, ← he]
  split_ifs with hlarge
  · have hpow : (2 : ℕ) ^ 52 < 2 ^ 53 := by decide
    exact hpow
  · dsimp only
    rcases nearest_floor (scaled 2 p q (-e)).1 (scaled 2 p q (-e)).2 with hnearest | hnearest
    · omega
    · omega

/-- A positive integer that is some double is a double with all bits of its mantissa. -/
theorem exists_normal {n m : ℕ} {e : ℤ} (hn : 0 < n) (hm : m < 2 ^ 53)
    (hvalue : doubleValue (m, e) = n) :
    ∃ double, Normal double ∧ doubleValue double = n := by
  have hone : (1 : ℚ) ≤ n := by exact_mod_cast hn
  have hpower : (0 : ℚ) < 2 ^ e := by positivity
  have hexponent : -53 < e := by
    have hlarge : (2 : ℚ) ^ (0 : ℤ) < 2 ^ (53 + e) := by
      rw [zpow_add₀ two_ne_zero, zpow_zero]
      have hmQ : (m : ℚ) < 2 ^ (53 : ℤ) := by exact_mod_cast hm
      calc (1 : ℚ) ≤ n := hone
        _ = m * 2 ^ e := hvalue.symm
        _ < 2 ^ (53 : ℤ) * 2 ^ e := mul_lt_mul_of_pos_right hmQ hpower
    have hlt := (zpow_lt_zpow_iff_right₀ one_lt_two).mp hlarge
    omega
  have hmpos : 0 < m := by
    apply Nat.pos_of_ne_zero
    rintro rfl
    rw [doubleValue, Nat.cast_zero, zero_mul] at hvalue
    rw [← hvalue] at hone
    exact absurd hone (by norm_num)
  have hlog : Nat.log2 m ≤ 52 := Nat.le_of_lt_succ ((Nat.log2_lt hmpos.ne').mpr hm)
  have hlow : 2 ^ 52 ≤ m * 2 ^ (52 - Nat.log2 m) := by
    calc 2 ^ 52 = 2 ^ Nat.log2 m * 2 ^ (52 - Nat.log2 m) := by
          rw [← pow_add, Nat.add_sub_cancel' hlog]
      _ ≤ m * 2 ^ (52 - Nat.log2 m) :=
          Nat.mul_le_mul_right _ (Nat.log2_self_le hmpos.ne')
  have hhigh : m * 2 ^ (52 - Nat.log2 m) < 2 ^ 53 := by
    calc m * 2 ^ (52 - Nat.log2 m) < 2 ^ (Nat.log2 m + 1) * 2 ^ (52 - Nat.log2 m) :=
          Nat.mul_lt_mul_of_pos_right Nat.lt_log2_self (by positivity)
      _ = 2 ^ 53 := by rw [← pow_add, show Nat.log2 m + 1 + (52 - Nat.log2 m) = 53 by omega]
  refine ⟨(m * 2 ^ (52 - Nat.log2 m), e - (52 - Nat.log2 m : ℕ)), ⟨hlow, hhigh, ?_⟩, ?_⟩
  · dsimp only
    omega
  · rw [← hvalue, doubleValue, doubleValue, zpow_sub₀ two_ne_zero, zpow_natCast]
    push_cast
    field_simp

/-! ## Doubles as rationals -/

theorem doubleValue_zero : doubleValue (round 0 1) = 0 := by decide +kernel

theorem doubleValue_round_pos {n : ℕ} (hn : 0 < n) : 0 < doubleValue (round n 1) := by
  have hbounds := (round_normal hn).1.doubleValue_bounds
  exact lt_of_lt_of_le (by positivity) hbounds.1

theorem round_injective_value {m n : ℕ}
    (h : doubleValue (round m 1) = doubleValue (round n 1)) : round m 1 = round n 1 := by
  rcases Nat.eq_zero_or_pos m with rfl | hm
  · rcases Nat.eq_zero_or_pos n with rfl | hn
    · rfl
    · rw [doubleValue_zero] at h
      exact absurd h (doubleValue_round_pos hn).ne
  · rcases Nat.eq_zero_or_pos n with rfl | hn
    · rw [doubleValue_zero] at h
      exact absurd h (doubleValue_round_pos hm).ne'
    · exact (round_normal hm).1.eq_of_value (round_normal hn).1 h

theorem round_eq_zero {n : ℕ} (h : round n 1 = round 0 1) : n = 0 := by
  by_contra hne
  have hpos := doubleValue_round_pos (Nat.pos_of_ne_zero hne)
  rw [h, doubleValue_zero] at hpos
  exact lt_irrefl _ hpos

theorem toDouble_eq (x : ℚ) :
    toDouble x = (if x < 0 then -1 else 1) * doubleValue (round x.num.natAbs x.den) := by
  rw [← scaled_double]
  unfold toDouble
  dsimp only
  rw [Rat.mkRat_eq_div]
  split_ifs
  · push_cast
    ring
  · push_cast
    ring

theorem toDouble_intCast (n : ℤ) :
    toDouble n = (if n < 0 then -1 else 1) * doubleValue (round n.natAbs 1) := by
  have hsign : ((n : ℚ) < 0) ↔ n < 0 := by exact_mod_cast Iff.rfl
  rw [toDouble_eq, Rat.num_intCast, Rat.den_intCast]
  simp only [hsign]

theorem toDouble_eq_iff {n z : ℤ} :
    toDouble n = toDouble z ↔
      decide (n < 0) = decide (z < 0) ∧ round n.natAbs 1 = round z.natAbs 1 := by
  rw [toDouble_intCast, toDouble_intCast]
  have hnonneg : ∀ k : ℕ, 0 ≤ doubleValue (round k 1) := by
    intro k
    unfold doubleValue
    positivity
  have hpos : ∀ k : ℤ, k < 0 → 0 < doubleValue (round k.natAbs 1) :=
    fun k hk => doubleValue_round_pos (by omega)
  by_cases hn : n < 0
  · by_cases hz : z < 0
    · rw [if_pos hn, if_pos hz, decide_eq_true hn, decide_eq_true hz]
      constructor
      · intro h
        exact ⟨rfl, round_injective_value (by linarith)⟩
      · rintro ⟨-, h⟩
        rw [h]
    · have hneg := hpos n hn
      have hother := hnonneg z.natAbs
      rw [if_pos hn, if_neg hz, decide_eq_true hn, decide_eq_false hz]
      refine iff_of_false (by linarith) ?_
      rintro ⟨hsign, -⟩
      cases hsign
  · by_cases hz : z < 0
    · have hneg := hpos z hz
      have hother := hnonneg n.natAbs
      rw [if_neg hn, if_pos hz, decide_eq_false hn, decide_eq_true hz]
      refine iff_of_false (by linarith) ?_
      rintro ⟨hsign, -⟩
      cases hsign
    · rw [if_neg hn, if_neg hz, decide_eq_false hn, decide_eq_false hz]
      constructor
      · intro h
        exact ⟨rfl, round_injective_value (by linarith)⟩
      · rintro ⟨-, h⟩
        rw [h]

/-- A safe integer is a double, and the double of no other integer. -/
theorem toDouble_safeInteger {z : ℤ} (hsafe : z.natAbs < 2 ^ 53) :
    toDouble z = z ∧ ∀ n : ℤ, toDouble n = z → n = z := by
  have hself : toDouble z = z := by
    rw [toDouble_intCast]
    rcases Nat.eq_zero_or_pos z.natAbs with hzero | hpos
    · obtain rfl := Int.natAbs_eq_zero.mp hzero
      rw [Int.natAbs_zero, doubleValue_zero]
      simp
    · obtain ⟨k, hk⟩ := round_safeInteger hpos hsafe
      have hvalue : doubleValue (round z.natAbs 1) = z.natAbs := by
        rw [hk, doubleValue, zpow_neg, zpow_natCast]
        push_cast
        field_simp
      rw [hvalue, Nat.cast_natAbs]
      split_ifs with hneg
      · rw [abs_of_neg hneg]
        push_cast
        ring
      · rw [abs_of_nonneg (by omega)]
        ring
  refine ⟨hself, ?_⟩
  intro n hn
  obtain ⟨hsign, hround⟩ := toDouble_eq_iff.mp (hn.trans hself.symm)
  have habs : n.natAbs = z.natAbs := by
    rcases Nat.eq_zero_or_pos z.natAbs with hzero | hpos
    · rw [hzero] at hround ⊢
      exact round_eq_zero hround
    · exact round_safeInteger_injective hpos hsafe hround
  rw [decide_eq_decide] at hsign
  omega

/-- A double that is an integer is read as itself. -/
theorem toDouble_of_eq {x : ℚ} {n : ℕ} (h : toDouble x = n) : toDouble (n : ℤ) = n := by
  rcases Nat.eq_zero_or_pos n with rfl | hn
  · exact (toDouble_safeInteger (by decide)).1
  · have hvalue : doubleValue (round x.num.natAbs x.den) = n := by
      have hnonneg : 0 ≤ doubleValue (round x.num.natAbs x.den) := by
        unfold doubleValue
        positivity
      have hpos : (0 : ℚ) < n := by exact_mod_cast hn
      rw [toDouble_eq] at h
      split_ifs at h
      · linarith
      · linarith
    have hp : 0 < x.num.natAbs := by
      apply Nat.pos_of_ne_zero
      intro hzero
      obtain rfl : x = 0 := Rat.num_eq_zero.mp (Int.natAbs_eq_zero.mp hzero)
      have hnone : doubleValue (round (0 : ℚ).num.natAbs (0 : ℚ).den) = 0 := doubleValue_zero
      rw [hnone] at hvalue
      exact absurd (by exact_mod_cast hvalue) hn.ne
    obtain ⟨double, hnormal, hdouble⟩ :=
      exists_normal hn (round_mantissa_lt hp x.den_pos) hvalue
    have hround : round n 1 = double := by
      obtain ⟨hlow, hhigh⟩ := hnormal.doubleValue_bounds
      have hratio : (n : ℚ) / (1 : ℕ) = doubleValue double := by
        rw [hdouble, Nat.cast_one, div_one]
      apply round_of_near hnormal hn one_pos
      · rwa [hratio]
      · rwa [hratio]
      · rw [hratio, sub_self, abs_zero]
        positivity
    rw [toDouble_intCast, if_neg (by omega), Int.natAbs_natCast, hround, hdouble, one_mul]

/-- The number that an integer literal is read as. -/
theorem ofDecimal_int_eq_iff {n z : ℤ} (hread : (int n).Readable) :
    ofDecimal (decide (z < 0)) z.natAbs 0 = int n ↔ toDouble n = toDouble z := by
  rw [toDouble_eq_iff]
  rcases Nat.eq_zero_or_pos z.natAbs with hzero | hpos
  · obtain rfl := Int.natAbs_eq_zero.mp hzero
    have hleft : ofDecimal (decide ((0 : ℤ) < 0)) (0 : ℤ).natAbs 0 = int 0 := rfl
    rw [hleft, int.injEq]
    constructor
    · rintro rfl
      exact ⟨rfl, rfl⟩
    · rintro ⟨-, hround⟩
      have habs := round_eq_zero hround
      omega
  · rw [ofDecimal_eq_int_iff hpos hread]
    exact and_congr eq_comm eq_comm

end AgentSkeptic.Support.JsNumber

import AgentSkeptic.Support.JsNumber
import Mathlib.Tactic.NormNum
import Mathlib.Data.Rat.Cast.Order

/-!
# Arithmetic on doubles

A finite double is the rational it stands for.  An operation of the code is the exact
one, rounded by `JsNumber.round`.  Its value tells a finite number (`eq_of_toRat_eq`).
-/

namespace AgentSkeptic.Support

/-- The double nearest to a rational. -/
def toDouble (x : ℚ) : ℚ :=
  let double := JsNumber.round x.num.natAbs x.den
  let ratio := JsNumber.scaled 2 double.1 1 double.2
  mkRat (if x < 0 then -(ratio.1 : ℤ) else ratio.1) ratio.2

/-- `x.toFixed(3)` of a double that is not negative. -/
def toFixed3 (x : ℚ) : String :=
  let thousandths := (x * 1000 + 1 / 2).floor.toNat
  let fraction := JsNumber.decimalDigits (thousandths % 1000)
  String.ofList (JsNumber.decimalDigits (thousandths / 1000) ++ ['.'] ++
    List.replicate (3 - fraction.length) '0' ++ fraction)

example : toFixed3 (toDouble (7 / 10)) = "0.700" := by
  decide +kernel

/-! ## The value of a number -/

/-- The digits of a fraction with their sign. -/
def Fraction.signed (value : Fraction) : ℤ :=
  if value.negative then -(value.digits : ℤ) else value.digits

theorem Fraction.not_dvd_signed (value : Fraction) : ¬ (10 : ℤ) ∣ value.signed := by
  have hlowest := value.lowest.2
  unfold Fraction.signed
  split_ifs
  · omega
  · omega

/-- Sign and digits of a fraction are those of its signed digits. -/
theorem Fraction.signed_inj {a b : Fraction} (hscale : a.scale = b.scale)
    (hsigned : a.signed = b.signed) : a = b := by
  obtain ⟨negative, digits, scale, hlowest⟩ := a
  obtain ⟨negative', digits', scale', hlowest'⟩ := b
  unfold Fraction.signed at hsigned
  dsimp only at hscale hsigned
  obtain rfl : scale = scale' := hscale
  have hdigits : digits % 10 ≠ 0 := hlowest.2
  have hboth : negative = negative' ∧ digits = digits' := by
    split_ifs at hsigned with hsign hsign' hsign'
    · exact ⟨hsign.trans hsign'.symm, by omega⟩
    · omega
    · omega
    · rw [Bool.not_eq_true] at hsign hsign'
      exact ⟨hsign.trans hsign'.symm, by omega⟩
  obtain ⟨rfl, rfl⟩ := hboth
  rfl

namespace JsNumber

/-- `mantissa / 10 ^ scale`, in lowest terms. -/
def decimal : JsNumber → ℤ × ℕ
  | int value => (value, 0)
  | frac value => (value.signed, value.scale)
  | infinity _ => (0, 0)

theorem toRat_eq_decimal {n : JsNumber} :
    n.toRat = (n.decimal.1 : ℚ) / 10 ^ n.decimal.2 := by
  cases n with
  | int value => simp [toRat, decimal]
  | frac value =>
      simp only [toRat, decimal, Fraction.signed]
      split_ifs
      · simp
      · simp
  | infinity negative => simp [toRat, decimal]

theorem decimal_lowest (n : JsNumber) : n.decimal.2 = 0 ∨ ¬ (10 : ℤ) ∣ n.decimal.1 := by
  cases n with
  | int value => exact .inl rfl
  | frac value => exact .inr value.not_dvd_signed
  | infinity negative => exact .inl rfl

/-- Decimals in lowest terms are equal only when their parts are. -/
theorem decimal_unique {x y : ℤ} {a b : ℕ} (hab : a ≤ b) (hb : b = 0 ∨ ¬ (10 : ℤ) ∣ y)
    (h : x * 10 ^ b = y * 10 ^ a) : a = b ∧ x = y := by
  have hpow : (10 : ℤ) ^ b = 10 ^ (b - a) * 10 ^ a := by
    rw [← pow_add, Nat.sub_add_cancel hab]
  have hne : (10 : ℤ) ^ a ≠ 0 := pow_ne_zero a (by decide)
  have hxy : x * 10 ^ (b - a) = y := by
    rw [hpow, ← mul_assoc] at h
    exact mul_right_cancel₀ hne h
  have hscale : a = b := by
    rcases hb with hb | hb
    · omega
    · by_contra hlt
      have hpos : b - a ≠ 0 := by omega
      apply hb
      rw [← hxy]
      exact Dvd.dvd.mul_left (dvd_pow_self 10 hpos) x
  subst hscale
  refine ⟨rfl, ?_⟩
  simpa using hxy

/-- A finite number is told by its value. -/
theorem eq_of_toRat_eq {m n : JsNumber} (hm : m.isFinite = true) (hn : n.isFinite = true)
    (h : m.toRat = n.toRat) : m = n := by
  have hcross : m.decimal.1 * 10 ^ n.decimal.2 = n.decimal.1 * 10 ^ m.decimal.2 := by
    have hne (k : ℕ) : (10 : ℚ) ^ k ≠ 0 := pow_ne_zero k (by norm_num)
    rw [toRat_eq_decimal, toRat_eq_decimal, div_eq_div_iff (hne _) (hne _)] at h
    exact_mod_cast h
  have hparts : m.decimal.2 = n.decimal.2 ∧ m.decimal.1 = n.decimal.1 := by
    rcases Nat.le_total m.decimal.2 n.decimal.2 with hle | hle
    · exact decimal_unique hle n.decimal_lowest hcross
    · obtain ⟨hscale, hdigits⟩ := decimal_unique hle m.decimal_lowest hcross.symm
      exact ⟨hscale.symm, hdigits.symm⟩
  obtain ⟨hscale, hdigits⟩ := hparts
  cases m with
  | infinity negative => cases hm
  | int value =>
      cases n with
      | infinity negative => cases hn
      | int other =>
          have hvalue : value = other := hdigits
          rw [hvalue]
      | frac other => exact absurd hscale.symm (Nat.ne_of_gt other.lowest.1)
  | frac value =>
      cases n with
      | infinity negative => cases hn
      | int other => exact absurd hscale (Nat.ne_of_gt value.lowest.1)
      | frac other => rw [Fraction.signed_inj hscale hdigits]

end JsNumber

end AgentSkeptic.Support

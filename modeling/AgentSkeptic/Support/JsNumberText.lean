import AgentSkeptic.Support.JsNumber
import Mathlib.Algebra.Order.Field.Power
import Mathlib.Data.Nat.Log
import Mathlib.Tactic.FieldSimp
import Mathlib.Tactic.IntervalCases
import Mathlib.Tactic.Linarith
import Mathlib.Tactic.NormNum
import Mathlib.Tactic.Positivity
import Mathlib.Tactic.Ring

/-!
# The text of a number

The double that a decimal stands for depends on its value only (`roundDecimal_congr`),
and the text of a number is a decimal of its value (`parse?_toText`).  So every finite
number that was read from a text is read back from its own text.
-/

namespace AgentSkeptic.Support.JsNumber

/-! ## Rounding -/

theorem scaled_pos {base p q : ℕ} (e : ℤ) (hbase : 0 < base) (hq : 0 < q) :
    0 < (scaled base p q e).2 := by
  unfold scaled
  split_ifs
  · exact hq
  · positivity

theorem scaled_num_pos {base p q : ℕ} (e : ℤ) (hbase : 0 < base) (hp : 0 < p) :
    0 < (scaled base p q e).1 := by
  unfold scaled
  split_ifs
  · positivity
  · exact hp

theorem scaled_ratio {base p q : ℕ} (e : ℤ) (hbase : 0 < base) :
    ((scaled base p q e).1 : ℚ) / (scaled base p q e).2 =
      (p : ℚ) / q * (base : ℚ) ^ e := by
  have hne : (base : ℚ) ≠ 0 := by positivity
  unfold scaled
  split_ifs with he
  · obtain ⟨n, rfl⟩ := Int.eq_ofNat_of_zero_le he
    simp only [Int.toNat_natCast, zpow_natCast]
    push_cast
    ring
  · obtain ⟨n, rfl⟩ : ∃ n : ℕ, e = -n := ⟨e.natAbs, by omega⟩
    simp only [Int.natAbs_neg, Int.natAbs_natCast, zpow_neg, zpow_natCast]
    push_cast
    rw [div_mul_eq_div_div, div_eq_mul_inv ((p : ℚ) / q)]

/-- A ratio in other terms is rounded to the same integer. -/
theorem nearest_mul (p q : ℕ) {k : ℕ} (hk : 0 < k) :
    nearest (p * k) (q * k) = nearest p q := by
  have hfloor : p * k / (q * k) = p / q := Nat.mul_div_mul_right p q hk
  have hrest : p * k % (q * k) = p % q * k := Nat.mul_mod_mul_right k p q
  have hbelow : 2 * (p % q * k) < q * k ↔ 2 * (p % q) < q := by
    rw [← mul_assoc]
    exact Nat.mul_lt_mul_right hk
  have habove : q * k < 2 * (p % q * k) ↔ q < 2 * (p % q) := by
    rw [← mul_assoc]
    exact Nat.mul_lt_mul_right hk
  simp only [nearest, hfloor, hrest, hbelow, habove]

theorem nearest_congr {p q p' q' : ℕ} (hq : 0 < q) (hq' : 0 < q')
    (h : p * q' = p' * q) : nearest p q = nearest p' q' := by
  rw [← nearest_mul p q hq', ← nearest_mul p' q' hq, h, mul_comm q q']

/-- The exponent of the power of two below a ratio. -/
def binade (p q : ℕ) : ℤ :=
  let guess : ℤ := (Nat.log2 p : ℤ) - Nat.log2 q
  let below := scaled 2 p q (-guess)
  if below.1 < below.2 then guess - 1 else guess

theorem binade_spec {p q : ℕ} (hp : 0 < p) (hq : 0 < q) :
    (2 : ℚ) ^ binade p q ≤ (p : ℚ) / q ∧ (p : ℚ) / q < (2 : ℚ) ^ (binade p q + 1) := by
  have hqQ : (0 : ℚ) < q := by exact_mod_cast hq
  have hplow : ((2 ^ Nat.log2 p : ℕ) : ℚ) ≤ p := by
    exact_mod_cast Nat.log2_self_le hp.ne'
  have hphigh : (p : ℚ) < ((2 ^ (Nat.log2 p + 1) : ℕ) : ℚ) := by
    exact_mod_cast Nat.lt_log2_self
  have hqlow : ((2 ^ Nat.log2 q : ℕ) : ℚ) ≤ q := by
    exact_mod_cast Nat.log2_self_le hq.ne'
  have hqhigh : (q : ℚ) < ((2 ^ (Nat.log2 q + 1) : ℕ) : ℚ) := by
    exact_mod_cast Nat.lt_log2_self
  set a := Nat.log2 p
  set b := Nat.log2 q
  have hlow : (2 : ℚ) ^ ((a : ℤ) - b - 1) ≤ (p : ℚ) / q := by
    rw [le_div_iff₀ hqQ]
    calc (2 : ℚ) ^ ((a : ℤ) - b - 1) * q
        ≤ (2 : ℚ) ^ ((a : ℤ) - b - 1) * ((2 ^ (b + 1) : ℕ) : ℚ) := by
          apply mul_le_mul_of_nonneg_left hqhigh.le
          positivity
      _ = ((2 ^ a : ℕ) : ℚ) := by
          push_cast
          rw [← zpow_natCast, ← zpow_natCast, ← zpow_add₀ two_ne_zero]
          congr 1
          push_cast
          ring
      _ ≤ p := hplow
  have hhigh : (p : ℚ) / q < (2 : ℚ) ^ ((a : ℤ) - b + 1) := by
    rw [div_lt_iff₀ hqQ]
    calc (p : ℚ) < ((2 ^ (a + 1) : ℕ) : ℚ) := hphigh
      _ = (2 : ℚ) ^ ((a : ℤ) - b + 1) * ((2 ^ b : ℕ) : ℚ) := by
          push_cast
          rw [← zpow_natCast, ← zpow_natCast, ← zpow_add₀ two_ne_zero]
          congr 1
          push_cast
          ring
      _ ≤ (2 : ℚ) ^ ((a : ℤ) - b + 1) * q := by
          apply mul_le_mul_of_nonneg_left hqlow
          positivity
  have hratio := @scaled_ratio 2 p q (-((a : ℤ) - b)) two_pos
  have hden : (0 : ℚ) < (scaled 2 p q (-((a : ℤ) - b))).2 := by
    exact_mod_cast scaled_pos _ two_pos hq
  have hpower : (0 : ℚ) < (2 : ℚ) ^ ((a : ℤ) - b) := by positivity
  have hcompare : ((scaled 2 p q (-((a : ℤ) - b))).1 <
      (scaled 2 p q (-((a : ℤ) - b))).2) ↔ (p : ℚ) / q < (2 : ℚ) ^ ((a : ℤ) - b) := by
    rw [← Nat.cast_lt (α := ℚ), ← div_lt_one hden, hratio, zpow_neg, Nat.cast_two,
      ← div_eq_mul_inv, div_lt_one hpower]
  have hbinade : binade p q = if (scaled 2 p q (-((a : ℤ) - b))).1 <
      (scaled 2 p q (-((a : ℤ) - b))).2 then (a : ℤ) - b - 1 else (a : ℤ) - b := rfl
  rw [hbinade]
  split_ifs with hless
  · rw [sub_add_cancel]
    exact ⟨hlow, hcompare.mp hless⟩
  · exact ⟨not_lt.mp (mt hcompare.mpr hless), hhigh⟩

theorem binade_congr {p q p' q' : ℕ} (hp : 0 < p) (hq : 0 < q) (hp' : 0 < p')
    (hq' : 0 < q') (h : p * q' = p' * q) : binade p q = binade p' q' := by
  have hratio : (p : ℚ) / q = (p' : ℚ) / q' := by
    rw [div_eq_div_iff (by positivity) (by positivity)]
    exact_mod_cast h
  obtain ⟨hlow, hhigh⟩ := binade_spec hp hq
  obtain ⟨hlow', hhigh'⟩ := binade_spec hp' hq'
  rw [hratio] at hlow hhigh
  have htwo : (1 : ℚ) < 2 := one_lt_two
  have hle := (zpow_lt_zpow_iff_right₀ htwo).mp (hlow.trans_lt hhigh')
  have hge := (zpow_lt_zpow_iff_right₀ htwo).mp (hlow'.trans_lt hhigh)
  omega

/-- The double nearest to a ratio depends on its value only. -/
theorem round_congr {p q p' q' : ℕ} (hp : 0 < p) (hq : 0 < q) (hp' : 0 < p')
    (hq' : 0 < q') (h : p * q' = p' * q) : round p q = round p' q' := by
  have hround : ∀ p q : ℕ, round p q =
      let e := max (binade p q - 52) (-1074)
      let ratio := scaled 2 p q (-e)
      let mantissa := nearest ratio.1 ratio.2
      if mantissa = 2 ^ 53 then (2 ^ 52, e + 1) else (mantissa, e) := fun _ _ => rfl
  have hbinade := binade_congr hp hq hp' hq' h
  have hnearest : ∀ e, nearest (scaled 2 p q e).1 (scaled 2 p q e).2 =
      nearest (scaled 2 p' q' e).1 (scaled 2 p' q' e).2 := by
    intro e
    have hpos := @scaled_pos 2 p q e two_pos hq
    have hpos' := @scaled_pos 2 p' q' e two_pos hq'
    apply nearest_congr hpos hpos'
    have hratio : ((scaled 2 p q e).1 : ℚ) / (scaled 2 p q e).2 =
        ((scaled 2 p' q' e).1 : ℚ) / (scaled 2 p' q' e).2 := by
      have hvalue : (p : ℚ) / q = (p' : ℚ) / q' := by
        rw [div_eq_div_iff (by positivity) (by positivity)]
        exact_mod_cast h
      rw [scaled_ratio e two_pos, scaled_ratio e two_pos, hvalue]
    rw [div_eq_div_iff (by positivity) (by positivity)] at hratio
    exact_mod_cast hratio
  rw [hround, hround]
  simp only [hbinade, hnearest]

/-- The double that a decimal is read as depends on its value only. -/
theorem roundDecimal_congr {d d' : ℕ} {e e' : ℤ} (hd : 0 < d) (hd' : 0 < d')
    (h : (d : ℚ) * 10 ^ e = d' * 10 ^ e') : roundDecimal d e = roundDecimal d' e' := by
  have hten : 0 < 10 := by decide
  have hpos := @scaled_pos 10 d 1 e hten one_pos
  have hpos' := @scaled_pos 10 d' 1 e' hten one_pos
  apply round_congr (scaled_num_pos e hten hd) hpos (scaled_num_pos e' hten hd') hpos'
  have hratio : ((scaled 10 d 1 e).1 : ℚ) / (scaled 10 d 1 e).2 =
      ((scaled 10 d' 1 e').1 : ℚ) / (scaled 10 d' 1 e').2 := by
    rw [scaled_ratio e hten, scaled_ratio e' hten]
    simpa using h
  rw [div_eq_div_iff (by positivity) (by positivity)] at hratio
  exact_mod_cast hratio

/-! ## The number of a decimal -/

/-- The number of a double that is not zero. -/
def ofDouble (neg : Bool) (double : ℕ × ℤ) : JsNumber :=
  if 971 < double.2 then infinity neg
  else
    match shortest double with
    | none => int 0
    | some (digits, e) =>
        if 0 ≤ e then ofScaled neg (digits * 10 ^ e.toNat) 0
        else ofScaled neg digits e.natAbs

theorem ofDecimal_eq (neg : Bool) {digits : ℕ} (e : ℤ) (h : 0 < digits) :
    ofDecimal neg digits e = ofDouble neg (roundDecimal digits e) := if_neg h.ne'

theorem ofDecimal_congr (neg : Bool) {d d' : ℕ} {e e' : ℤ} (hd : 0 < d)
    (hd' : 0 < d') (h : (d : ℚ) * 10 ^ e = d' * 10 ^ e') :
    ofDecimal neg d e = ofDecimal neg d' e' := by
  rw [ofDecimal_eq neg e hd, ofDecimal_eq neg e' hd', roundDecimal_congr hd hd' h]

/-- Below zero. -/
def negative : JsNumber → Bool
  | int value => decide (value < 0)
  | frac value => value.negative
  | infinity negative => negative

theorem ofScaled_spec (neg : Bool) (digits scale : ℕ) (h : 0 < digits) :
    (ofScaled neg digits scale).isFinite = true ∧
      (ofScaled neg digits scale).negative = neg ∧
      |(ofScaled neg digits scale).toRat| = (digits : ℚ) / 10 ^ scale := by
  induction scale generalizing digits with
  | zero =>
      rw [ofScaled]
      cases neg with
      | true =>
          refine ⟨rfl, by simp [negative, h], ?_⟩
          simp [toRat]
      | false =>
          refine ⟨rfl, by simp [negative], ?_⟩
          simp [toRat]
  | succ scale ih =>
      rw [ofScaled]
      split_ifs with hten
      · obtain ⟨hfinite, hneg, hvalue⟩ := ih (digits / 10) (by omega)
        refine ⟨hfinite, hneg, ?_⟩
        have hdigits : ((digits / 10 : ℕ) : ℚ) * 10 = digits := by
          exact_mod_cast Nat.div_mul_cancel (Nat.dvd_of_mod_eq_zero hten)
        rw [hvalue, ← hdigits, pow_succ]
        field_simp
      · refine ⟨rfl, rfl, ?_⟩
        have hpower : |(10 : ℚ) ^ (scale + 1)| = 10 ^ (scale + 1) := abs_of_pos (by positivity)
        cases neg with
        | true => simp only [toRat, if_true, abs_div, abs_neg, Nat.abs_cast, hpower]
        | false =>
            simp only [toRat, Bool.false_eq_true, if_false, abs_div, Nat.abs_cast, hpower]

theorem ofScaled_zero (neg : Bool) (scale : ℕ) : ofScaled neg 0 scale = int 0 := by
  induction scale with
  | zero => simp [ofScaled]
  | succ scale ih => rw [ofScaled, dif_pos (by decide), Nat.zero_div, ih]

theorem roundDecimal_of_shortest {double : ℕ × ℤ} {d : ℕ} {e : ℤ}
    (h : shortest double = some (d, e)) : roundDecimal d e = double := by
  obtain ⟨k, -, hk⟩ := List.exists_of_findSome?_eq_some h
  obtain ⟨digits, hfound, hpair⟩ := Option.map_eq_some_iff.mp hk
  obtain ⟨rfl, rfl⟩ := Prod.mk.inj hpair
  have hround := List.find?_some hfound
  exact eq_of_beq hround

/-- The number of a double with a shortest decimal: its sign and its size. -/
theorem ofDouble_spec (neg : Bool) {double : ℕ × ℤ} (hsmall : ¬971 < double.2) {d : ℕ}
    {e : ℤ} (hd : 0 < d) (hshortest : shortest double = some (d, e)) :
    (ofDouble neg double).negative = neg ∧
      |(ofDouble neg double).toRat| = (d : ℚ) * 10 ^ e := by
  have hdouble : ofDouble neg double =
      if 0 ≤ e then ofScaled neg (d * 10 ^ e.toNat) 0 else ofScaled neg d e.natAbs := by
    rw [ofDouble, if_neg hsmall, hshortest]
  rw [hdouble]
  by_cases he : 0 ≤ e
  · obtain ⟨-, hneg, hvalue⟩ := ofScaled_spec neg (d * 10 ^ e.toNat) 0 (by positivity)
    rw [if_pos he]
    refine ⟨hneg, ?_⟩
    obtain ⟨n, rfl⟩ := Int.eq_ofNat_of_zero_le he
    rw [hvalue]
    simp
  · obtain ⟨-, hneg, hvalue⟩ := ofScaled_spec neg d e.natAbs hd
    rw [if_neg he]
    refine ⟨hneg, ?_⟩
    obtain ⟨n, rfl⟩ : ∃ n : ℕ, e = -n := ⟨e.natAbs, by omega⟩
    rw [hvalue]
    simp [div_eq_mul_inv]

/-- A finite number that a decimal is read as is zero, or it is read from its own
digits too. -/
theorem ofDecimal_self (neg : Bool) (digits : ℕ) (e : ℤ)
    (hfinite : (ofDecimal neg digits e).isFinite = true) :
    ofDecimal neg digits e = int 0 ∨
      (ofDecimal neg digits e).negative = neg ∧ ∃ (d : ℕ) (e' : ℤ), 0 < d ∧
        |(ofDecimal neg digits e).toRat| = (d : ℚ) * 10 ^ e' ∧
        ofDecimal neg d e' = ofDecimal neg digits e := by
  rcases Nat.eq_zero_or_pos digits with hzero | hdigits
  · exact .inl (if_pos hzero)
  rw [ofDecimal_eq neg e hdigits] at hfinite ⊢
  unfold ofDouble at hfinite
  split_ifs at hfinite with hlarge
  · cases hfinite
  cases hshortest : shortest (roundDecimal digits e) with
  | none =>
      left
      rw [ofDouble, if_neg hlarge, hshortest]
  | some pair =>
      obtain ⟨d, e'⟩ := pair
      rcases Nat.eq_zero_or_pos d with rfl | hd
      · left
        rw [ofDouble, if_neg hlarge, hshortest]
        dsimp only
        rw [Nat.zero_mul, ofScaled_zero, ofScaled_zero, ite_self]
      · right
        obtain ⟨hneg, hvalue⟩ := ofDouble_spec neg hlarge hd hshortest
        refine ⟨hneg, d, e', hd, hvalue, ?_⟩
        rw [ofDecimal_eq neg e' hd, roundDecimal_of_shortest hshortest]

/-! ## Digits -/

theorem digitsValue_eq (digits : List Char) :
    digitsValue digits = Nat.ofDigitChars 10 digits 0 := rfl

theorem digitsValue_decimalDigits (n : ℕ) : digitsValue (decimalDigits n) = n :=
  Nat.ofDigitChars_ten_toDigits

theorem digitsValue_append (a b : List Char) :
    digitsValue (a ++ b) = 10 ^ b.length * digitsValue a + digitsValue b := by
  rw [digitsValue_eq, Nat.ofDigitChars_append, Nat.ofDigitChars_eq_ofDigitChars_zero]
  rfl

theorem digitsValue_zeros (n : ℕ) (b : List Char) :
    digitsValue (List.replicate n '0' ++ b) = digitsValue b := by
  rw [digitsValue_append, digitsValue_eq, Nat.ofDigitChars_replicate_zero]
  simp

theorem isDigit_decimalDigits {n : ℕ} {c : Char} (h : c ∈ decimalDigits n) :
    c.isDigit = true := Nat.isDigit_of_mem_toDigits (by decide) (by decide) h

theorem decimalDigits_ne_nil (n : ℕ) : decimalDigits n ≠ [] := Nat.toDigits_ne_nil

/-- The first digit of a positive number is not zero. -/
theorem head_decimalDigits {n : ℕ} (h : 0 < n) : (decimalDigits n).head? ≠ some '0' := by
  induction n using Nat.strongRecOn with
  | ind n ih =>
      rcases Nat.lt_or_ge n 10 with hsmall | hlarge
      · have hdigits : decimalDigits n = [n.digitChar] := Nat.toDigits_of_lt_base hsmall
        rw [hdigits]
        interval_cases n <;> decide
      · have hdigits : decimalDigits n = decimalDigits (n / 10) ++ [(n % 10).digitChar] :=
          Nat.toDigits_of_base_le (by decide) hlarge
        rw [hdigits, List.head?_append_of_ne_nil _ (decimalDigits_ne_nil _)]
        exact ih (n / 10) (by omega) (by omega)

theorem trimZeros_append (digits : List Char) :
    ∃ k, digits = trimZeros digits ++ List.replicate k '0' := by
  have hzeros : ∀ c ∈ digits.reverse.takeWhile (· == '0'), c = '0' := by
    intro c hc
    have hzero := List.mem_takeWhile_imp hc
    exact eq_of_beq hzero
  refine ⟨(digits.reverse.takeWhile (· == '0')).length, ?_⟩
  have hsplit := List.takeWhile_append_dropWhile (p := (· == '0')) (l := digits.reverse)
  have hreplicate := List.eq_replicate_of_mem hzeros
  have hreverse := congrArg List.reverse hsplit
  rw [List.reverse_append, List.reverse_reverse, hreplicate,
    List.reverse_replicate] at hreverse
  exact hreverse.symm

/-! ## The grammar -/

def fractionText (fraction : List Char) : List Char :=
  if fraction = [] then [] else '.' :: fraction

def exponentText : Option ℤ → List Char
  | none => []
  | some e => ['e', if e < 0 then '-' else '+'] ++ decimalDigits e.natAbs

theorem takeWhile_digits {digits rest : List Char}
    (hdigits : ∀ c ∈ digits, c.isDigit = true)
    (hrest : ∀ c ∈ rest.head?, c.isDigit = false) :
    (digits ++ rest).takeWhile Char.isDigit = digits ∧
      (digits ++ rest).dropWhile Char.isDigit = rest := by
  rw [List.takeWhile_append_of_pos hdigits, List.dropWhile_append_of_pos hdigits]
  cases rest with
  | nil => simp
  | cons c rest => simp [hrest c rfl]

theorem head_exponentText (exponent : Option ℤ) :
    ∀ c ∈ (exponentText exponent).head?, c = 'e' := by
  intro c hc
  cases exponent with
  | none => cases hc
  | some e => exact (Option.some.inj hc).symm

/-- The digits behind a point, and the rest. -/
def parseFraction (text : List Char) : Option (List Char × List Char) :=
  match text with
  | '.' :: rest => do
      let fraction := rest.takeWhile Char.isDigit
      guard (fraction ≠ [])
      pure (fraction, rest.dropWhile Char.isDigit)
  | _ => pure ([], text)

def splitExponentSign (rest : List Char) : Bool × List Char :=
  match rest with
  | '-' :: digits => (true, digits)
  | '+' :: digits => (false, digits)
  | _ => (false, rest)

def parseExponent : List Char → Option ℤ
  | [] => pure 0
  | e :: rest => do
      guard (e = 'e' ∨ e = 'E')
      let (minus, digits) := splitExponentSign rest
      guard (digits ≠ [] ∧ digits.all Char.isDigit)
      pure (if minus then -(digitsValue digits : ℤ) else digitsValue digits)

def splitSign (text : List Char) : Bool × List Char :=
  match text with
  | '-' :: rest => (true, rest)
  | _ => (false, text)

def parseUnsigned (neg : Bool) (text : List Char) : Option JsNumber := do
  let whole := text.takeWhile Char.isDigit
  guard (whole ≠ [] ∧ (whole.head? = some '0' → whole.length = 1))
  let (fraction, rest) ← parseFraction (text.dropWhile Char.isDigit)
  let exponent ← parseExponent rest
  pure (ofDecimal neg (digitsValue (whole ++ fraction)) (exponent - fraction.length))

/-- The grammar, one part after the other. -/
theorem parse?_eq (text : List Char) :
    parse? text = parseUnsigned (splitSign text).1 (splitSign text).2 := by
  unfold parse?
  split
  rename_i neg body hmatch
  have hsign : splitSign text = (neg, body) := hmatch
  rw [hsign]
  unfold parseUnsigned
  dsimp only
  congr 1
  funext _
  generalize body.dropWhile Char.isDigit = rest
  unfold parseFraction
  split
  · rename_i rest
    simp only [bind_assoc, pure_bind]
    congr 1
    funext _
    generalize rest.dropWhile Char.isDigit = tail
    cases tail with
    | nil => rfl
    | cons e tail =>
        rw [parseExponent]
        simp only [bind_assoc, pure_bind]
        rfl
  · simp only [pure_bind]
    cases rest with
    | nil => rfl
    | cons e tail =>
        rw [parseExponent]
        simp only [bind_assoc, pure_bind]
        rfl

theorem parseExponent_text (exponent : Option ℤ) :
    parseExponent (exponentText exponent) = some (exponent.getD 0) := by
  cases exponent with
  | none => rfl
  | some e =>
      have hdigits : (decimalDigits e.natAbs).all Char.isDigit = true :=
        List.all_eq_true.mpr fun c hc => isDigit_decimalDigits hc
      by_cases hneg : e < 0
      · simp [exponentText, parseExponent, splitExponentSign, hneg,
          decimalDigits_ne_nil, hdigits,
          digitsValue_decimalDigits, guard, abs_of_neg hneg]
      · simp [exponentText, parseExponent, splitExponentSign, hneg,
          decimalDigits_ne_nil, hdigits,
          digitsValue_decimalDigits, guard, abs_of_nonneg (not_lt.mp hneg)]

theorem parseFraction_text {fraction rest : List Char}
    (hfraction : ∀ c ∈ fraction, c.isDigit = true) (hrest : ∀ c ∈ rest.head?, c = 'e') :
    parseFraction (fractionText fraction ++ rest) = some (fraction, rest) := by
  by_cases hnil : fraction = []
  · subst hnil
    rw [fractionText, if_pos rfl, List.nil_append]
    cases rest with
    | nil => rfl
    | cons c rest =>
        obtain rfl := hrest c rfl
        rfl
  · have hstop : ∀ c ∈ rest.head?, c.isDigit = false := by
      intro c hc
      rw [hrest c hc]
      decide
    obtain ⟨htake, hdrop⟩ := takeWhile_digits hfraction hstop
    rw [fractionText, if_neg hnil, List.cons_append, parseFraction, htake, hdrop]
    simp [guard, hnil]

/-- Digits, a fraction and what stands for an exponent are read one after the other. -/
theorem parse?_parts (neg : Bool) {whole fraction rest : List Char} {exponent : ℤ}
    (hne : whole ≠ []) (hwhole : ∀ c ∈ whole, c.isDigit = true)
    (hzero : whole.head? = some '0' → whole.length = 1)
    (hfraction : ∀ c ∈ fraction, c.isDigit = true) (hrest : ∀ c ∈ rest.head?, c = 'e')
    (hexponent : parseExponent rest = some exponent) :
    parse? ((if neg then ['-'] else []) ++ (whole ++ (fractionText fraction ++ rest))) =
      some (ofDecimal neg (digitsValue (whole ++ fraction)) (exponent - fraction.length)) := by
  have hstop : ∀ c ∈ (fractionText fraction ++ rest).head?, c.isDigit = false := by
    intro c hc
    unfold fractionText at hc
    split_ifs at hc
    · rw [hrest c hc]
      decide
    · obtain rfl : '.' = c := Option.some.inj hc
      decide
  obtain ⟨htake, hdrop⟩ := takeWhile_digits hwhole hstop
  have hunsigned : ∀ neg, parseUnsigned neg (whole ++ (fractionText fraction ++ rest)) =
      some (ofDecimal neg (digitsValue (whole ++ fraction)) (exponent - fraction.length)) := by
    intro neg
    rw [parseUnsigned, htake, hdrop, parseFraction_text hfraction hrest]
    have hguard : whole ≠ [] ∧ (whole.head? = some '0' → whole.length = 1) := ⟨hne, hzero⟩
    simp only [Option.bind_eq_bind, Option.bind_some, hexponent, guard, if_pos hguard]
    rfl
  rw [parse?_eq]
  cases neg with
  | true => exact hunsigned true
  | false =>
      obtain ⟨c, rest, rfl⟩ := List.exists_cons_of_ne_nil hne
      have hminus : c ≠ '-' := by
        rintro rfl
        exact absurd (hwhole '-' List.mem_cons_self) (by decide)
      have hsign : ∀ text, splitSign (c :: text) = (false, c :: text) := by
        intro text
        unfold splitSign
        split
        · rename_i hcons
          exact absurd (List.cons.inj hcons).1 hminus
        · rfl
      exact (congrArg (fun s => parseUnsigned s.1 s.2) (hsign _)).trans (hunsigned false)

/-- A literal is read as the decimal that it writes. -/
theorem parse?_literal (neg : Bool) {whole fraction : List Char} (exponent : Option ℤ)
    (hne : whole ≠ []) (hwhole : ∀ c ∈ whole, c.isDigit = true)
    (hzero : whole.head? = some '0' → whole.length = 1)
    (hfraction : ∀ c ∈ fraction, c.isDigit = true) :
    parse? ((if neg then ['-'] else []) ++
        (whole ++ (fractionText fraction ++ exponentText exponent))) =
      some (ofDecimal neg (digitsValue (whole ++ fraction))
        (exponent.getD 0 - fraction.length)) :=
  parse?_parts neg hne hwhole hzero hfraction (head_exponentText exponent)
    (parseExponent_text exponent)

/-! ## The literals that are written -/

/-- A literal of a value. -/
structure WritesDecimal (text : List Char) (x : ℚ) : Prop where
  literal : ∃ (whole fraction : List Char) (exponent : Option ℤ),
    text = whole ++ (fractionText fraction ++ exponentText exponent) ∧ whole ≠ [] ∧
      (∀ c ∈ whole, c.isDigit = true) ∧
      (whole.head? = some '0' → whole.length = 1) ∧
      (∀ c ∈ fraction, c.isDigit = true) ∧
      (digitsValue (whole ++ fraction) : ℚ) *
        10 ^ (exponent.getD 0 - fraction.length) = x

theorem WritesDecimal.parse? {text : List Char} {x : ℚ} (h : WritesDecimal text x)
    (neg : Bool) : ∃ (d : ℕ) (e : ℤ),
      parse? ((if neg then ['-'] else []) ++ text) = some (ofDecimal neg d e) ∧
        (d : ℚ) * 10 ^ e = x := by
  obtain ⟨whole, fraction, exponent, rfl, hne, hwhole, hzero, hfraction, hvalue⟩ :=
    h.literal
  exact ⟨_, _, parse?_literal neg exponent hne hwhole hzero hfraction, hvalue⟩

theorem writesDecimal_scientific {digits : List Char} (hne : digits ≠ [])
    (hdigits : ∀ c ∈ digits, c.isDigit = true) (hhead : digits.head? ≠ some '0')
    (exponent : ℤ) :
    WritesDecimal (scientific digits exponent)
      ((digitsValue digits : ℚ) * 10 ^ (exponent - (digits.length - 1 : ℕ))) := by
  obtain ⟨c, rest, rfl⟩ := List.exists_cons_of_ne_nil hne
  refine ⟨[c], rest, some exponent, ?_, List.cons_ne_nil _ _, ?_, ?_, ?_, ?_⟩
  · have hshort : (c :: rest).length ≤ 1 ↔ rest = [] := by
      simp [List.length_eq_zero_iff]
    simp only [scientific, fractionText, exponentText, hshort, List.take_succ_cons,
      List.take_zero, List.drop_succ_cons, List.drop_zero, List.append_assoc]
  · intro d hd
    exact hdigits d (List.mem_cons.mpr (.inl (List.mem_singleton.mp hd)))
  · intro _
    rfl
  · intro d hd
    exact hdigits d (List.mem_cons_of_mem _ hd)
  · simp

/-- The digits of a positive number without the zeros at their end. -/
theorem trimZeros_spec {m : ℕ} (hm : 0 < m) :
    ∃ k : ℕ, trimZeros (decimalDigits m) ≠ [] ∧
      (∀ c ∈ trimZeros (decimalDigits m), c.isDigit = true) ∧
      (trimZeros (decimalDigits m)).head? ≠ some '0' ∧
      (decimalDigits m).length = (trimZeros (decimalDigits m)).length + k ∧
      m = digitsValue (trimZeros (decimalDigits m)) * 10 ^ k := by
  obtain ⟨k, hk⟩ := trimZeros_append (decimalDigits m)
  have hne : trimZeros (decimalDigits m) ≠ [] := by
    intro hnil
    rw [hnil, List.nil_append] at hk
    have hvalue := digitsValue_zeros k []
    rw [List.append_nil, ← hk, digitsValue_decimalDigits] at hvalue
    exact absurd hvalue hm.ne'
  refine ⟨k, hne, ?_, ?_, ?_, ?_⟩
  · intro c hc
    have hmem : c ∈ decimalDigits m := by
      rw [hk]
      exact List.mem_append_left _ hc
    exact isDigit_decimalDigits hmem
  · have hm' := head_decimalDigits hm
    rw [hk, List.head?_append_of_ne_nil _ hne] at hm'
    exact hm'
  · conv_lhs => rw [hk]
    simp
  · conv_lhs => rw [← digitsValue_decimalDigits m, hk]
    have hzeros := digitsValue_zeros k []
    have hnil : digitsValue [] = 0 := rfl
    rw [List.append_nil, hnil] at hzeros
    rw [digitsValue_append, hzeros, List.length_replicate, Nat.add_zero, mul_comm]

theorem writesDecimal_intText (m : ℕ) : WritesDecimal (intText m) m := by
  rcases Nat.eq_zero_or_pos m with rfl | hm
  · refine ⟨['0'], [], none, rfl, List.cons_ne_nil _ _, forall_mem_of_all (by decide), by decide,
      by simp, ?_⟩
    simp [digitsValue]
  · have hdigits : ∀ c ∈ decimalDigits m, c.isDigit = true :=
      fun c hc => isDigit_decimalDigits hc
    unfold intText
    dsimp only
    split_ifs with hshort
    · refine ⟨decimalDigits m, [], none, by simp [fractionText, exponentText],
        decimalDigits_ne_nil m, hdigits, ?_, by simp, ?_⟩
      · intro hzero
        exact absurd hzero (head_decimalDigits hm)
      · simp [digitsValue_decimalDigits]
    · obtain ⟨k, hne, htrim, hhead, hlength, hvalue⟩ := trimZeros_spec hm
      have hwrites := writesDecimal_scientific hne htrim hhead
        ((decimalDigits m).length - 1)
      have hpos : 0 < (trimZeros (decimalDigits m)).length := List.length_pos_iff.mpr hne
      have hexponent : ((decimalDigits m).length : ℤ) - 1 -
          ((trimZeros (decimalDigits m)).length - 1 : ℕ) = k := by omega
      rw [hexponent, zpow_natCast] at hwrites
      have hcast : (digitsValue (trimZeros (decimalDigits m)) : ℚ) * 10 ^ k = m := by
        exact_mod_cast hvalue.symm
      rwa [hcast] at hwrites

/-- A text writes one value. -/
theorem WritesDecimal.unique {text : List Char} {x y : ℚ} (hx : WritesDecimal text x)
    (hy : WritesDecimal text y) : x = y := by
  obtain ⟨whole, fraction, exponent, rfl, -, hwhole, -, hfraction, rfl⟩ := hx.literal
  obtain ⟨whole', fraction', exponent', htext, -, hwhole', -, hfraction', rfl⟩ := hy.literal
  have hstop : ∀ (fraction : List Char) (exponent : Option ℤ),
      ∀ c ∈ (fractionText fraction ++ exponentText exponent).head?, c.isDigit = false := by
    intro fraction exponent c hc
    unfold fractionText at hc
    split_ifs at hc
    · rw [head_exponentText exponent c hc]
      decide
    · obtain rfl : '.' = c := Option.some.inj hc
      decide
  have hleft := takeWhile_digits hwhole (hstop fraction exponent)
  have hright := takeWhile_digits hwhole' (hstop fraction' exponent')
  rw [← htext] at hright
  have hsame : whole = whole' := hleft.1.symm.trans hright.1
  have hrest := hleft.2.symm.trans hright.2
  have hparts := parseFraction_text hfraction (head_exponentText exponent)
  rw [hrest, parseFraction_text hfraction' (head_exponentText exponent')] at hparts
  obtain ⟨hfractions, htails⟩ := Prod.mk.inj (Option.some.inj hparts)
  have hexponents := parseExponent_text exponent
  rw [← htails, parseExponent_text] at hexponents
  rw [hsame, hfractions, Option.some.inj hexponents]

theorem intText_injective : Function.Injective intText := by
  intro m n h
  have hm := writesDecimal_intText m
  rw [h] at hm
  exact_mod_cast hm.unique (writesDecimal_intText n)

/-- `String` tells numbers that count something apart. -/
theorem toText_natCast_injective : Function.Injective fun n : ℕ => (int n).toText := by
  intro m n h
  have htext : ∀ k : ℕ, (int k).toText = String.ofList (intText k) := by
    intro k
    have hk : ¬ (k : ℤ) < 0 := by omega
    rw [toText, if_neg hk, List.nil_append, Int.natAbs_natCast]
  simp only [htext] at h
  exact intText_injective (String.ofList_injective h)

theorem writesDecimal_fracText {digits scale : ℕ} (hd : 0 < digits) (hscale : 0 < scale) :
    WritesDecimal (fracText digits scale) ((digits : ℚ) / 10 ^ scale) := by
  have hdigits : ∀ c ∈ decimalDigits digits, c.isDigit = true :=
    fun c hc => isDigit_decimalDigits hc
  have hne := decimalDigits_ne_nil digits
  have hlength : 0 < (decimalDigits digits).length := List.length_pos_iff.mpr hne
  have hpower : ∀ e : ℤ, e = -scale →
      (digits : ℚ) * 10 ^ e = (digits : ℚ) / 10 ^ scale := by
    rintro e rfl
    rw [zpow_neg, zpow_natCast, div_eq_mul_inv]
  unfold fracText
  dsimp only
  split_ifs with hinside hsmall
  · -- The point stands between two digits.
    obtain ⟨k, hk⟩ : ∃ k : ℕ, ((decimalDigits digits).length : ℤ) - scale = k :=
      ⟨_, (Int.toNat_of_nonneg hinside.le).symm⟩
    rw [hk, Int.toNat_natCast]
    have hbehind : (decimalDigits digits).drop k ≠ [] := by
      rw [ne_eq, List.drop_eq_nil_iff]
      omega
    refine ⟨(decimalDigits digits).take k, (decimalDigits digits).drop k, none,
      ?_, ?_, ?_, ?_, ?_, ?_⟩
    · rw [fractionText, if_neg hbehind]
      simp [exponentText]
    · rw [ne_eq, List.take_eq_nil_iff]
      rintro (hzero | hnil)
      · omega
      · exact hne hnil
    · intro c hc
      exact hdigits c (List.mem_of_mem_take hc)
    · intro hzero
      rw [List.head?_take, if_neg (by omega)] at hzero
      exact absurd hzero (head_decimalDigits hd)
    · intro c hc
      exact hdigits c (List.mem_of_mem_drop hc)
    · rw [List.take_append_drop, digitsValue_decimalDigits]
      apply hpower
      rw [List.length_drop, Option.getD_none]
      omega
  · -- Zeros stand between the point and the digits.
    obtain ⟨k, hk⟩ : ∃ k : ℕ, ((decimalDigits digits).length : ℤ) - scale = -k :=
      ⟨(scale - (decimalDigits digits).length : ℕ), by omega⟩
    rw [hk, Int.natAbs_neg, Int.natAbs_natCast]
    refine ⟨['0'], List.replicate k '0' ++ decimalDigits digits, none, ?_,
      List.cons_ne_nil _ _, forall_mem_of_all (by decide), by decide, ?_, ?_⟩
    · rw [fractionText, if_neg (by simp [hne])]
      simp [exponentText]
    · intro c hc
      rcases List.mem_append.mp hc with hzero | hdigit
      · rw [List.eq_of_mem_replicate hzero]
        decide
      · exact hdigits c hdigit
    · have hvalue := digitsValue_zeros (k + 1) (decimalDigits digits)
      rw [List.replicate_succ, digitsValue_decimalDigits] at hvalue
      rw [List.singleton_append, ← List.cons_append, hvalue]
      apply hpower
      rw [List.length_append, List.length_replicate, Option.getD_none]
      push_cast
      omega
  · have hwrites := writesDecimal_scientific hne hdigits (head_decimalDigits hd)
      (((decimalDigits digits).length : ℤ) - scale - 1)
    rw [digitsValue_decimalDigits, hpower _ (by omega)] at hwrites
    exact hwrites

theorem abs_toRat_frac (value : Fraction) :
    |(frac value).toRat| = (value.digits : ℚ) / 10 ^ value.scale := by
  have hpower : |(10 : ℚ) ^ value.scale| = 10 ^ value.scale := abs_of_pos (by positivity)
  rw [toRat]
  split_ifs
  · rw [abs_div, abs_neg, Nat.abs_cast, hpower]
  · rw [abs_div, Nat.abs_cast, hpower]

/-- The text of a finite number is read as a decimal of its value. -/
theorem parse?_toText {n : JsNumber} (h : n.isFinite = true) : ∃ (d : ℕ) (e : ℤ),
    parse? n.toText.toList = some (ofDecimal n.negative d e) ∧
      (d : ℚ) * 10 ^ e = |n.toRat| := by
  cases n with
  | int value =>
      have hwrites := (writesDecimal_intText value.natAbs).parse? (decide (value < 0))
      have hvalue : ((value.natAbs : ℕ) : ℚ) = |(value : ℚ)| := by
        rw [Nat.cast_natAbs, Int.cast_abs]
      rw [hvalue] at hwrites
      simpa [toText, negative, toRat] using hwrites
  | frac value =>
      have hd : 0 < value.digits := by
        have := value.lowest.2
        omega
      have hwrites := (writesDecimal_fracText hd value.lowest.1).parse? value.negative
      rw [← abs_toRat_frac] at hwrites
      simpa [toText, negative] using hwrites
  | infinity negative => cases h

/-- A finite number that was read is read from every decimal of its value. -/
theorem ofDecimal_of_value {neg : Bool} {digits : ℕ} {e : ℤ} {n : JsNumber}
    (hn : n = ofDecimal neg digits e) (hfinite : n.isFinite = true) {d : ℕ} {e' : ℤ}
    (hvalue : (d : ℚ) * 10 ^ e' = |n.toRat|) : ofDecimal n.negative d e' = n := by
  subst hn
  rcases ofDecimal_self neg digits e hfinite with hzero | ⟨hneg, d', e'', hd', hvalue', hself⟩
  · rw [hzero] at hvalue ⊢
    have hpower : (0 : ℚ) < 10 ^ e' := by positivity
    have habs : |(int 0).toRat| = 0 := by simp [toRat]
    rw [habs, mul_eq_zero, or_iff_left hpower.ne'] at hvalue
    have hd : d = 0 := by exact_mod_cast hvalue
    exact if_pos hd
  · rw [hvalue'] at hvalue
    have hd : 0 < d := by
      apply Nat.pos_of_ne_zero
      rintro rfl
      have hpos : (0 : ℚ) < (d' : ℚ) * 10 ^ e'' := by positivity
      rw [← hvalue] at hpos
      simp at hpos
    rw [hneg, ofDecimal_congr neg hd hd' hvalue, hself]

/-- A number that was read from a text is the number of a decimal. -/
theorem exists_ofDecimal {text : List Char} {n : JsNumber} (h : parse? text = some n) :
    ∃ neg digits e, n = ofDecimal neg digits e := by
  rw [parse?_eq, parseUnsigned] at h
  simp only [Option.bind_eq_bind, Option.bind_eq_some_iff] at h
  obtain ⟨-, -, fraction, -, exponent, -, hn⟩ := h
  exact ⟨_, _, _, (Option.some.inj hn).symm⟩

/-- A finite number that was read from a text is read back from its own text. -/
theorem parse?_toText_of_parse? {text : List Char} {n : JsNumber}
    (h : parse? text = some n) (hfinite : n.isFinite = true) :
    parse? n.toText.toList = some n := by
  obtain ⟨neg, digits, e, hn⟩ := exists_ofDecimal h
  obtain ⟨d, e', hparse, hvalue⟩ := parse?_toText hfinite
  rw [hparse, ofDecimal_of_value hn hfinite hvalue]

end AgentSkeptic.Support.JsNumber

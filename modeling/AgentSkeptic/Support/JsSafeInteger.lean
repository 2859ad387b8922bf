import AgentSkeptic.Support.JsonRoundTrip

/-!
# Safe integers

An integer below `2 ^ 53` is a double of its own, and no other integer is rounded to
that double.  So the shortest decimal of the double is the integer itself, and its
text is read back (`readable_safeInteger`).
-/

namespace AgentSkeptic.Support.JsNumber

/-- The rational that a mantissa and an exponent stand for. -/
def doubleValue (double : ℕ × ℤ) : ℚ := (double.1 : ℚ) * 2 ^ double.2

theorem nearest_one (p : ℕ) : nearest p 1 = p := by
  simp [nearest, Nat.mod_one]

theorem div_le_nearest (p q : ℕ) : p / q ≤ nearest p q := by
  simp only [nearest]
  split_ifs <;> omega

theorem round_eq (p q : ℕ) :
    round p q =
      if nearest (scaled 2 p q (-max (binade p q - 52) (-1074))).1
          (scaled 2 p q (-max (binade p q - 52) (-1074))).2 = 2 ^ 53 then
        (2 ^ 52, max (binade p q - 52) (-1074) + 1)
      else
        (nearest (scaled 2 p q (-max (binade p q - 52) (-1074))).1
          (scaled 2 p q (-max (binade p q - 52) (-1074))).2,
          max (binade p q - 52) (-1074)) := rfl

/-- The powers of two around a positive integer. -/
theorem exists_binade {n : ℕ} (hn : 0 < n) :
    ∃ b : ℕ, binade n 1 = b ∧ 2 ^ b ≤ n ∧ n < 2 ^ (b + 1) := by
  obtain ⟨hlow, hhigh⟩ := binade_spec hn one_pos
  rw [Nat.cast_one, div_one] at hlow hhigh
  have hone : (1 : ℚ) ≤ n := by exact_mod_cast hn
  have hnonneg : 0 ≤ binade n 1 := by
    by_contra hneg
    have hsmall : (2 : ℚ) ^ (binade n 1 + 1) ≤ 2 ^ (0 : ℤ) :=
      zpow_le_zpow_right₀ (by norm_num) (by omega)
    rw [zpow_zero] at hsmall
    linarith
  obtain ⟨b, hb⟩ := Int.eq_ofNat_of_zero_le hnonneg
  refine ⟨b, hb, ?_, ?_⟩
  · rw [hb, zpow_natCast] at hlow
    exact_mod_cast hlow
  · rw [hb] at hhigh
    exact_mod_cast hhigh

/-- A safe integer is rounded to itself, with an exponent that is not positive. -/
theorem round_safeInteger {n : ℕ} (hn : 0 < n) (hsafe : n < 2 ^ 53) :
    ∃ k : ℕ, round n 1 = (n * 2 ^ k, -(k : ℤ)) := by
  obtain ⟨b, hb, hlow, hhigh⟩ := exists_binade hn
  have hb52 : b ≤ 52 := by
    by_contra hlarge
    have hpow : 2 ^ 53 ≤ 2 ^ b := Nat.pow_le_pow_right (by decide) (by omega)
    omega
  have hexp : max (binade n 1 - 52) (-1074) = -((52 - b : ℕ) : ℤ) := by
    rw [hb]
    omega
  have hscaled : scaled 2 n 1 ((52 - b : ℕ) : ℤ) = (n * 2 ^ (52 - b), 1) := by
    simp [scaled]
  have hmantissa : n * 2 ^ (52 - b) < 2 ^ 53 := by
    have hmul : n * 2 ^ (52 - b) < 2 ^ (b + 1) * 2 ^ (52 - b) :=
      Nat.mul_lt_mul_of_pos_right hhigh (by positivity)
    rwa [← pow_add, show b + 1 + (52 - b) = 53 by omega] at hmul
  refine ⟨52 - b, ?_⟩
  rw [round_eq, hexp, neg_neg, hscaled, nearest_one, if_neg hmantissa.ne]

/-- A larger integer is not rounded below `2 ^ 53`. -/
theorem le_round_large {n : ℕ} (hlarge : 2 ^ 53 ≤ n) :
    (2 : ℚ) ^ 53 ≤ doubleValue (round n 1) := by
  obtain ⟨b, hb, hlow, hhigh⟩ := exists_binade (lt_of_lt_of_le (by positivity) hlarge)
  have hb53 : 53 ≤ b := by
    by_contra hsmall
    have hpow : 2 ^ (b + 1) ≤ 2 ^ 53 := Nat.pow_le_pow_right (by decide) (by omega)
    omega
  have hexp : max (binade n 1 - 52) (-1074) = ((b - 52 : ℕ) : ℤ) := by
    rw [hb]
    omega
  have hscaled : scaled 2 n 1 (-((b - 52 : ℕ) : ℤ)) = (n, 2 ^ (b - 52)) := by
    have hneg : ¬(0 : ℤ) ≤ -((b - 52 : ℕ) : ℤ) := by omega
    rw [scaled, if_neg hneg, Int.natAbs_neg, Int.natAbs_natCast, one_mul]
  have hmantissa : 2 ^ 52 ≤ nearest n (2 ^ (b - 52)) := by
    apply le_trans _ (div_le_nearest n (2 ^ (b - 52)))
    rw [Nat.le_div_iff_mul_le (by positivity), ← pow_add]
    rwa [show 52 + (b - 52) = b by omega]
  have hpower (e : ℤ) (he : 1 ≤ e) {m : ℕ} (hm : 2 ^ 52 ≤ m) :
      (2 : ℚ) ^ 53 ≤ doubleValue (m, e) := by
    have hmQ : (2 : ℚ) ^ 52 ≤ m := by exact_mod_cast hm
    have heQ : (2 : ℚ) ^ (1 : ℤ) ≤ 2 ^ e := zpow_le_zpow_right₀ (by norm_num) he
    calc (2 : ℚ) ^ 53 = (2 : ℚ) ^ 52 * (2 : ℚ) ^ (1 : ℤ) := by norm_num
      _ ≤ (m : ℚ) * (2 : ℚ) ^ e := by gcongr
  rw [round_eq, hexp, hscaled]
  split_ifs
  · exact hpower _ (by omega) (Nat.le_refl _)
  · exact hpower _ (by omega) hmantissa

/-- No other integer is rounded to the double of a safe integer. -/
theorem round_safeInteger_injective {m n : ℕ} (hn : 0 < n) (hsafe : n < 2 ^ 53)
    (h : round m 1 = round n 1) : m = n := by
  have hvalue {k : ℕ} (hk : 0 < k) (hksafe : k < 2 ^ 53) :
      doubleValue (round k 1) = k := by
    obtain ⟨e, he⟩ := round_safeInteger hk hksafe
    rw [he, doubleValue, zpow_neg, zpow_natCast]
    push_cast
    field_simp
  rcases Nat.eq_zero_or_pos m with rfl | hm
  · have hzero : doubleValue (round 0 1) = 0 := by decide +kernel
    rw [h, hvalue hn hsafe] at hzero
    exact absurd (by exact_mod_cast hzero) hn.ne'
  · by_cases hmsafe : m < 2 ^ 53
    · have hm' := hvalue hm hmsafe
      rw [h, hvalue hn hsafe] at hm'
      exact_mod_cast hm'.symm
    · have hlarge := le_round_large (Nat.le_of_not_lt hmsafe)
      rw [h, hvalue hn hsafe] at hlarge
      exact absurd (by exact_mod_cast hlarge) (Nat.not_le_of_lt hsafe)

/-- The decimal of a safe integer with all of its digits is itself. -/
theorem withDigits_safeInteger {n : ℕ} (hn : 0 < n) (hsafe : n < 2 ^ 53) (k : ℕ) :
    ∃ e : ℤ, e = (decimalDigits n).length - k ∧
      (∀ d e', withDigits (round n 1) k = some (d, e') → e' = e) ∧
      (e = 0 → (withDigits (round n 1) k).isSome = true) := by
  obtain ⟨j, hj⟩ := round_safeInteger hn hsafe
  have hscaled : scaled 2 (n * 2 ^ j) 1 (-(j : ℤ)) = (n * 2 ^ j, 2 ^ j) := by
    rcases Nat.eq_zero_or_pos j with rfl | hpos
    · simp [scaled]
    · have hneg : ¬(0 : ℤ) ≤ -(j : ℤ) := by omega
      rw [scaled, if_neg hneg, Int.natAbs_neg, Int.natAbs_natCast, one_mul]
  have hquotient : n * 2 ^ j / 2 ^ j = n := Nat.mul_div_cancel n (by positivity)
  have hnot : ¬n * 2 ^ j < 2 ^ j := by
    apply Nat.not_lt_of_le
    exact Nat.le_mul_of_pos_left _ hn
  refine ⟨_, rfl, ?_, ?_⟩
  · intro d e' h
    rw [hj] at h
    obtain ⟨d', -, hpair⟩ := Option.map_eq_some_iff.mp h
    simp only [hscaled, hquotient, if_neg hnot] at hpair
    exact (Prod.mk.inj hpair).2.symm
  · intro he
    have hdigits : roundDecimal n 0 = round n 1 := by
      simp [roundDecimal, scaled]
    rw [withDigits, Option.isSome_map, hj]
    simp only [hscaled, hquotient, if_neg hnot, he]
    have hsame : scaled 10 (n * 2 ^ j) (2 ^ j) (-(0 : ℤ)) = (n * 2 ^ j, 2 ^ j) := by
      simp [scaled]
    rw [hsame]
    dsimp only
    rw [hquotient]
    apply List.find?_isSome.mpr
    refine ⟨n, ?_, ?_⟩
    · split_ifs <;> simp
    · rw [hdigits, hj]
      exact beq_self_eq_true _

theorem length_decimalDigits_le {n : ℕ} (hsafe : n < 2 ^ 53) :
    (decimalDigits n).length ≤ 16 := by
  have hdigits : (decimalDigits n).length ≤ 16 ↔ n < 10 ^ 16 :=
    Nat.length_toDigits_le_iff (by decide) (by decide)
  rw [hdigits]
  exact hsafe.trans (by decide)

/-- The shortest decimal of a safe integer is the integer. -/
theorem shortest_safeInteger {n : ℕ} (hn : 0 < n) (hsafe : n < 2 ^ 53) :
    ∃ (d : ℕ) (e : ℤ), shortest (round n 1) = some (d, e) ∧ 0 ≤ e ∧
      d * 10 ^ e.toNat = n := by
  have hlength := length_decimalDigits_le hsafe
  have hpos : 0 < (decimalDigits n).length := Nat.length_toDigits_pos
  -- The decimal with all digits is found, if no shorter one is found before it.
  obtain ⟨e, he, -, hfound⟩ := withDigits_safeInteger hn hsafe (decimalDigits n).length
  have hsome : (shortest (round n 1)).isSome = true := by
    rw [shortest, List.findSome?_isSome_iff]
    refine ⟨(decimalDigits n).length - 1, List.mem_range.mpr (by omega), ?_⟩
    rw [Nat.sub_add_cancel hpos]
    exact hfound (by omega)
  obtain ⟨⟨d, e'⟩, hshortest⟩ := Option.isSome_iff_exists.mp hsome
  have hround := roundDecimal_of_shortest hshortest
  have hnonneg : 0 ≤ e' := by
    obtain ⟨before, k, after, hrange, hk, hbefore⟩ :=
      List.findSome?_eq_some_iff.mp hshortest
    have hkey : k = before.length := by
      have hget := congrArg (·[before.length]?) hrange
      simp only [List.getElem?_append_right (Nat.le_refl _), Nat.sub_self,
        List.getElem?_cons_zero] at hget
      have hlt : before.length < 17 := by
        have hlen := congrArg List.length hrange
        simp only [List.length_range, List.length_append, List.length_cons] at hlen
        omega
      rw [List.getElem?_range hlt] at hget
      exact (Option.some.inj hget).symm
    have hle : k + 1 ≤ (decimalDigits n).length := by
      by_contra hlarge
      have hmem : (decimalDigits n).length - 1 ∈ before := by
        have hget : before[(decimalDigits n).length - 1]? =
            some ((decimalDigits n).length - 1) := by
          have hlt : (decimalDigits n).length - 1 < before.length := by omega
          have hleft : (before ++ k :: after)[(decimalDigits n).length - 1]? =
              before[(decimalDigits n).length - 1]? := List.getElem?_append_left hlt
          rw [← hleft, ← hrange]
          exact List.getElem?_range (by omega)
        exact List.mem_of_getElem? hget
      have hnone := hbefore _ hmem
      rw [Nat.sub_add_cancel hpos] at hnone
      have hyes := hfound (by omega)
      rw [hnone] at hyes
      cases hyes
    obtain ⟨e'', he'', huniq, -⟩ := withDigits_safeInteger hn hsafe (k + 1)
    have heq := huniq d e' hk
    omega
  refine ⟨d, e', hshortest, hnonneg, ?_⟩
  apply round_safeInteger_injective hn hsafe
  rw [← hround, roundDecimal, scaled, if_pos hnonneg]

theorem ofDecimal_signedSafe (negative : Bool) {n : ℕ} (hsafe : n < 2 ^ 53) :
    ofDecimal negative n 0 = int (if negative then -(n : ℤ) else n) := by
  rcases Nat.eq_zero_or_pos n with rfl | hn
  · cases negative with
    | true => rfl
    | false => rfl
  · obtain ⟨k, hk⟩ := round_safeInteger hn hsafe
    obtain ⟨d, e, hshortest, he, hvalue⟩ := shortest_safeInteger hn hsafe
    have hdigits : roundDecimal n 0 = round n 1 := by
      simp [roundDecimal, scaled]
    have hsmall : ¬971 < (round n 1).2 := by
      rw [hk]
      omega
    rw [ofDecimal_eq negative 0 hn, ofDouble, hdigits, if_neg hsmall, hshortest]
    dsimp only
    rw [if_pos he, ofScaled, hvalue]

theorem ofDecimal_safeInteger {n : ℕ} (hsafe : n < 2 ^ 53) :
    ofDecimal false n 0 = int n := ofDecimal_signedSafe false hsafe

/-- The text of a safe integer is read back. -/
theorem readable_safeInteger {n : ℕ} (hsafe : n < 2 ^ 53) : (int n).Readable := by
  obtain ⟨d, e, hparse, hvalue⟩ := (writesDecimal_intText n).parse? false
  have htext : (int n).stringify.toList = intText n := by
    have hneg : ¬(n : ℤ) < 0 := by omega
    simp [stringify, isFinite, toText, hneg]
  have hread : parse? (intText n) = some (ofDecimal false d e) := by
    simpa using hparse
  rw [Readable, htext, hread]
  rcases Nat.eq_zero_or_pos n with rfl | hn
  · have hd : d = 0 := by
      rw [Nat.cast_zero, mul_eq_zero] at hvalue
      rcases hvalue with hd | hpow
      · exact_mod_cast hd
      · exact absurd hpow (by positivity)
    rw [hd]
    rfl
  · have hd : 0 < d := by
      apply Nat.pos_of_ne_zero
      rintro rfl
      rw [Nat.cast_zero, zero_mul] at hvalue
      have hzero : n = 0 := by exact_mod_cast hvalue.symm
      omega
    have hsame : ofDecimal false d e = ofDecimal false n 0 :=
      ofDecimal_congr false hd hn (by rw [hvalue, zpow_zero, mul_one])
    rw [hsame, ofDecimal_safeInteger hsafe]

end AgentSkeptic.Support.JsNumber

import AgentSkeptic.Engine.ValueVerification
import AgentSkeptic.Support.JsShortest
import AgentSkeptic.Support.JsonLayout

/-!
# Comparing integers

A stored integer reaches the comparison as a number, as a `bigint` or as the decimal text of
a `NUMERIC` column.  The number that is expected is a double; what it equals of the three is
`integers_compared`.
-/

namespace AgentSkeptic.Engine

open AgentSkeptic.Support

/-! ## Decimal texts -/

/-- An integer with `scale` digits behind the point. -/
def numericChars (z : ℤ) (scale : ℕ) : List Char :=
  (if z < 0 then ['-'] else []) ++
    (JsNumber.decimalDigits z.natAbs ++
      JsNumber.fractionText (List.replicate scale '0'))

/-- The text of a stored integer, as Postgres hands it over. -/
def numericText (z : ℤ) (scale : ℕ) : String := String.ofList (numericChars z scale)

theorem isNumberChar_numericChars (z : ℤ) (scale : ℕ) :
    ∀ c ∈ numericChars z scale, isNumberChar c = true := by
  intro c hc
  rw [numericChars, List.mem_append, List.mem_append] at hc
  rcases hc with hsign | hwhole | hfraction
  · split_ifs at hsign
    · obtain rfl := List.mem_singleton.mp hsign
      decide
    · cases hsign
  · exact isNumberChar_decimalDigits hwhole
  · rw [JsNumber.fractionText] at hfraction
    split_ifs at hfraction
    · cases hfraction
    · rcases List.mem_cons.mp hfraction with rfl | hzero
      · decide
      · obtain rfl := List.eq_of_mem_replicate hzero
        decide

theorem trimChars_numericChars (z : ℤ) (scale : ℕ) :
    trimChars (numericChars z scale) = numericChars z scale := by
  have hvisible : ∀ c ∈ numericChars z scale, isJsWhitespace c = false :=
    fun c hc => (isNumberChar_visible (isNumberChar_numericChars z scale c hc)).2
  have hreverse : ∀ c ∈ (numericChars z scale).reverse, isJsWhitespace c = false :=
    fun c hc => hvisible c (List.mem_reverse.mp hc)
  rw [trimChars, dropWhile_eq_self_of_visible hvisible,
    dropWhile_eq_self_of_visible hreverse, List.reverse_reverse]

theorem digitsValue_append_zeros (digits : List Char) (scale : ℕ) :
    JsNumber.digitsValue (digits ++ List.replicate scale '0') =
      10 ^ scale * JsNumber.digitsValue digits := by
  have hzeros := JsNumber.digitsValue_zeros scale []
  rw [List.append_nil] at hzeros
  rw [JsNumber.digitsValue_append, hzeros, List.length_replicate]
  rfl

/-- The text is read as the integer is, whatever its scale. -/
theorem parse?_numericChars (z : ℤ) (scale : ℕ) :
    JsNumber.parse? (numericChars z scale) =
      some (JsNumber.ofDecimal (decide (z < 0)) z.natAbs 0) := by
  have hdigits : ∀ c ∈ JsNumber.decimalDigits z.natAbs, c.isDigit = true :=
    fun c hc => JsNumber.isDigit_decimalDigits hc
  have hzeros : ∀ c ∈ List.replicate scale '0', c.isDigit = true := by
    intro c hc
    obtain rfl := List.eq_of_mem_replicate hc
    decide
  have hlead : (JsNumber.decimalDigits z.natAbs).head? = some '0' →
      (JsNumber.decimalDigits z.natAbs).length = 1 := by
    intro hhead
    rcases Nat.eq_zero_or_pos z.natAbs with hzero | hpos
    · rw [hzero]
      rfl
    · exact absurd hhead (JsNumber.head_decimalDigits hpos)
  have hparse := JsNumber.parse?_literal (decide (z < 0)) none
    (JsNumber.decimalDigits_ne_nil z.natAbs) hdigits hlead hzeros
  have htext : numericChars z scale = (if decide (z < 0) = true then ['-'] else []) ++
      (JsNumber.decimalDigits z.natAbs ++
        (JsNumber.fractionText (List.replicate scale '0') ++ JsNumber.exponentText none)) := by
    rw [numericChars, JsNumber.exponentText, List.append_nil]
    simp only [decide_eq_true_eq]
  rw [htext, hparse, digitsValue_append_zeros, JsNumber.digitsValue_decimalDigits,
    List.length_replicate, Option.getD_none, Option.some.injEq]
  rcases Nat.eq_zero_or_pos z.natAbs with hzero | hpos
  · have hread : ∀ e : ℤ, JsNumber.ofDecimal (decide (z < 0)) 0 e = .int 0 :=
      fun e => if_pos rfl
    rw [hzero, mul_zero, hread, hread]
  · apply JsNumber.ofDecimal_congr _ (by positivity) hpos
    have hcancel : (10 : ℚ) ^ scale * 10 ^ (-(scale : ℤ)) = 1 := by
      rw [zpow_neg, zpow_natCast]
      exact mul_inv_cancel₀ (by positivity)
    push_cast
    rw [zero_sub, mul_one, mul_comm ((10 : ℚ) ^ scale), mul_assoc, hcancel,
      mul_one]

/-- A text of one word is read as the word. -/
theorem parseJson_word {word : List Char} {v : Json} (hne : word ≠ [])
    (hword : ∀ c ∈ word, isWordChar c = true) (hv : wordValue word = some v) :
    parseJson word = some v := by
  have hlex := @lex_word word hword hne [] (by simp [Delimited])
  rw [List.append_nil] at hlex
  have htokens : lex .idle word = some [.word word] := hlex
  rw [parseJson, htokens]
  dsimp only
  rw [parseValue_word hv]

theorem parseJson_numericChars (z : ℤ) (scale : ℕ) :
    parseJson (numericChars z scale) =
      some (.num (JsNumber.ofDecimal (decide (z < 0)) z.natAbs 0)) := by
  have hparse := parse?_numericChars z scale
  have hne : ∀ word, JsNumber.parse? word = none → numericChars z scale ≠ word := by
    intro word hnone hsame
    rw [hsame, hnone] at hparse
    cases hparse
  apply parseJson_word (hne [] (by decide))
  · intro c hc
    exact isWordChar_of_isNumberChar (isNumberChar_numericChars z scale c hc)
  · unfold wordValue
    rw [if_neg (hne _ (by decide)), if_neg (hne _ (by decide)), if_neg (hne _ (by decide)),
      hparse]
    rfl

/-! ## The three branches -/

section Branches

variable {n : ℤ} (hread : (JsNumber.int n).Readable)

include hread

theorem scalarMatches_number {m : ℤ} (hm : (JsNumber.int m).Readable) :
    scalarMatches (.num (.int n)) (.json (.num (.int m))) = true ↔
      toDouble n = toDouble m := by
  have hself := JsNumber.ofDecimal_int_eq_iff (n := m) (z := m) hm
  have hboth := JsNumber.ofDecimal_int_eq_iff (n := n) (z := m) hread
  rw [hself.mpr rfl, JsNumber.int.injEq] at hboth
  simp [scalarMatches, JsNumber.isFinite, hboth]

omit hread in
theorem scalarMatches_bigint (z : ℤ) :
    scalarMatches (.num (.int n)) (.bigint z) = true ↔
      toDouble n = z ∧ |z| ≤ maxSafeInteger := by
  have hmax : maxSafeInteger = 2 ^ 53 - 1 := rfl
  have hmatch : scalarMatches (.num (.int n)) (.bigint z) = true ↔
      n = z ∧ -maxSafeInteger ≤ z ∧ z ≤ maxSafeInteger := by
    simp [scalarMatches, JsNumber.isFinite, and_assoc]
  rw [hmatch, abs_le]
  constructor
  · rintro ⟨rfl, hlow, hhigh⟩
    have hsafe : n.natAbs < 2 ^ 53 := by omega
    exact ⟨(JsNumber.toDouble_safeInteger hsafe).1, hlow, hhigh⟩
  · rintro ⟨hvalue, hlow, hhigh⟩
    have hsafe : z.natAbs < 2 ^ 53 := by omega
    exact ⟨(JsNumber.toDouble_safeInteger hsafe).2 n hvalue, hlow, hhigh⟩

theorem scalarMatches_numericText (z : ℤ) (scale : ℕ) :
    scalarMatches (.num (.int n)) (.json (.str (numericText z scale))) = true ↔
      toDouble n = toDouble z := by
  have hchars : (numericText z scale).toList = numericChars z scale := String.toList_ofList
  have hiff := JsNumber.ofDecimal_int_eq_iff (z := z) hread
  rw [← hiff]
  simp only [scalarMatches, hchars, trimChars_numericChars, parseJson_numericChars]
  constructor
  · intro h
    simp only [Bool.and_eq_true, decide_eq_true_eq] at h
    exact h.2.1.2
  · intro h
    rw [h]
    simp [JsNumber.isFinite]

end Branches

/-- A number is equal to the integer that it stands for; a `bigint` to the integer, when it
is safe; and a decimal text to the double nearest to its integer. -/
theorem integers_compared {n : ℤ} (hread : (JsNumber.int n).Readable) (z : ℤ) :
    (∀ m : ℤ, (JsNumber.int m).Readable → toDouble m = z →
      (verificationScalarsEqual (.num (.int n)) (.json (.num (.int m))) = .ok .ok ↔
        toDouble n = z)) ∧
    (verificationScalarsEqual (.num (.int n)) (.bigint z) = .ok .ok ↔
      toDouble n = z ∧ |z| ≤ maxSafeInteger) ∧
    ∀ scale, verificationScalarsEqual (.num (.int n)) (.json (.str (numericText z scale))) =
        .ok .ok ↔ toDouble n = toDouble z := by
  refine ⟨?_, ?_, ?_⟩
  · intro m hm hvalue
    rw [verificationScalarsEqual_ok_iff, scalarMatches_number hread hm, hvalue]
  · rw [verificationScalarsEqual_ok_iff, scalarMatches_bigint]
  · intro scale
    rw [verificationScalarsEqual_ok_iff, scalarMatches_numericText hread]

theorem integers_compared_42 :
    (∀ m : ℤ, (JsNumber.int m).Readable → toDouble m = (42 : ℤ) →
      (verificationScalarsEqual (.num (.int 42)) (.json (.num (.int m))) = .ok .ok ↔
        toDouble (42 : ℤ) = (42 : ℤ))) ∧
    (verificationScalarsEqual (.num (.int 42)) (.bigint 42) = .ok .ok ↔
      toDouble (42 : ℤ) = (42 : ℤ) ∧ |(42 : ℤ)| ≤ maxSafeInteger) ∧
    ∀ scale, verificationScalarsEqual (.num (.int 42))
        (.json (.str (numericText 42 scale))) = .ok .ok ↔
      toDouble (42 : ℤ) = toDouble (42 : ℤ) :=
  integers_compared (JsNumber.readable_safeInteger (n := 42) (by decide)) 42

/-- `2 ^ 53` is no `bigint` of its own size, and it is the text of the next integer. -/
theorem scalarsEqual_beyond_safe :
    (JsNumber.int (2 ^ 53)).Readable ∧ toDouble ((2 ^ 53 : ℤ) : ℚ) = (2 ^ 53 : ℤ) ∧
      verificationScalarsEqual (.num (.int (2 ^ 53))) (.bigint (2 ^ 53)) ≠ .ok .ok ∧
      verificationScalarsEqual (.num (.int (2 ^ 53)))
        (.json (.str (numericText (2 ^ 53 + 1) 0))) = .ok .ok := by
  have hread : (JsNumber.int (2 ^ 53)).Readable := by
    unfold JsNumber.Readable
    decide +kernel
  refine ⟨hread, by decide +kernel, ?_, ?_⟩
  · rw [ne_eq, verificationScalarsEqual_ok_iff]
    decide +kernel
  · rw [verificationScalarsEqual_ok_iff]
    decide +kernel

end AgentSkeptic.Engine

import AgentSkeptic.Support.JsonLiterals

/-!
# What Python reads of a document

`json.loads` makes an `int` of an integer literal, of any size, and a `float` of every other
number; a `float` keeps the sign of a zero and overflows to an infinity.  `json.dumps` writes
all of them apart: a number is read back from its text (`readNumber_dumps`).
-/

namespace AgentSkeptic.Support

open JsNumber

/-- `-0.0`, or the double that a number is. -/
inductive PyFloat where
  | negativeZero
  | number (value : JsNumber)
  deriving DecidableEq

inductive PyNumber where
  | int (value : ℤ)
  | float (value : PyFloat)
  deriving DecidableEq

inductive PyScalar where
  | none
  | bool (value : Bool)
  | num (value : PyNumber)
  | str (value : String)
  deriving DecidableEq

abbrev PyValue := JsonTree PyScalar

/-! ## `json.loads` -/

def PyFloat.ofDecimal (negative : Bool) (digits : ℕ) (exponent : ℤ) : PyFloat :=
  let value := JsNumber.ofDecimal negative digits exponent
  if negative = true ∧ value = .int 0 then .negativeZero else .number value

def JsonLiteral.pyNumber : JsonLiteral → PyNumber
  | .integer negative digits => .int (if negative then -(digits : ℤ) else digits)
  | .decimal negative digits exponent => .float (.ofDecimal negative digits exponent)

def JsonScalar.toPy : JsonScalar → PyScalar
  | .null => .none
  | .bool value => .bool value
  | .num literal => .num literal.pyNumber
  | .str value => .str value

def JsonDoc.toPy (doc : JsonDoc) : PyValue := doc.resolved.map JsonScalar.toPy

/-! ## `int.__repr__` and `float.__repr__` -/

def signText (negative : Bool) : List Char := if negative then ['-'] else []

def intRepr (value : ℤ) : List Char := signText (value < 0) ++ decimalDigits value.natAbs

/-- An exponent has two digits at least. -/
def reprExponent (exponent : ℤ) : List Char :=
  ['e', if exponent < 0 then '-' else '+'] ++
    ((if exponent.natAbs < 10 then ['0'] else []) ++ decimalDigits exponent.natAbs)

def reprScientific (digits : List Char) (exponent : ℤ) : List Char :=
  digits.take 1 ++ (fractionText (digits.drop 1) ++ reprExponent exponent)

def reprInt (magnitude : ℕ) : List Char :=
  let digits := decimalDigits magnitude
  if digits.length ≤ 16 then digits ++ ['.', '0']
  else reprScientific (trimZeros digits) (digits.length - 1)

def reprFrac (digits scale : ℕ) : List Char :=
  let point : ℤ := (decimalDigits digits).length - scale
  if -4 < point ∧ point ≤ 16 then fracText digits scale
  else reprScientific (decimalDigits digits) (point - 1)

/-- `json.dumps` writes the infinities as words. -/
def PyFloat.repr : PyFloat → List Char
  | .negativeZero => ['-', '0', '.', '0']
  | .number (.int value) => signText (value < 0) ++ reprInt value.natAbs
  | .number (.frac value) => signText value.negative ++ reprFrac value.digits value.scale
  | .number (.infinity negative) => signText negative ++ "Infinity".toList

def PyNumber.dumps : PyNumber → List Char
  | .int value => intRepr value
  | .float value => value.repr

example : (JsonLiteral.decimal false 1 16).pyNumber.dumps = "1e+16".toList := by
  decide +kernel

/-! ## Characters of a number -/

theorem isNumberChar_signText (negative : Bool) :
    ∀ c ∈ signText negative, isNumberChar c = true := by
  cases negative with
  | true => exact forall_mem_of_all (by decide)
  | false => exact forall_mem_of_all (by decide)

theorem isNumberChar_reprScientific {digits : List Char} {exponent : ℤ}
    (h : ∀ c ∈ digits, isNumberChar c = true) :
    ∀ c ∈ reprScientific digits exponent, isNumberChar c = true := by
  intro c hc
  simp only [reprScientific, reprExponent, List.mem_append] at hc
  rcases hc with hfirst | hfraction | hmark | hzero | hexponent
  · exact h c (List.mem_of_mem_take hfirst)
  · unfold fractionText at hfraction
    split_ifs at hfraction
    · cases hfraction
    · rcases List.mem_cons.mp hfraction with rfl | hdigit
      · decide
      · exact h c (List.mem_of_mem_drop hdigit)
  · have hsign : isNumberChar (if exponent < 0 then '-' else '+') = true := by
      split_ifs
      · decide
      · decide
    rcases List.mem_cons.mp hmark with rfl | hmark
    · decide
    · rw [List.mem_singleton.mp hmark]
      exact hsign
  · split_ifs at hzero
    · rw [List.mem_singleton.mp hzero]
      decide
    · cases hzero
  · exact isNumberChar_decimalDigits hexponent

theorem isNumberChar_reprInt (magnitude : ℕ) :
    ∀ c ∈ reprInt magnitude, isNumberChar c = true := by
  intro c hc
  unfold reprInt at hc
  dsimp only at hc
  split_ifs at hc
  · rcases List.mem_append.mp hc with hdigit | hpoint
    · exact isNumberChar_decimalDigits hdigit
    · have hall : ∀ d ∈ ['.', '0'], isNumberChar d = true := forall_mem_of_all (by decide)
      exact hall c hpoint
  · obtain ⟨k, hk⟩ := trimZeros_append (decimalDigits magnitude)
    refine isNumberChar_reprScientific ?_ c hc
    intro d hd
    have hmem : d ∈ decimalDigits magnitude := by
      rw [hk]
      exact List.mem_append_left _ hd
    exact isNumberChar_decimalDigits hmem

theorem isNumberChar_reprFrac (digits scale : ℕ) :
    ∀ c ∈ reprFrac digits scale, isNumberChar c = true := by
  intro c hc
  unfold reprFrac at hc
  dsimp only at hc
  split_ifs at hc
  · exact isNumberChar_fracText digits scale c hc
  · exact isNumberChar_reprScientific (fun d hd => isNumberChar_decimalDigits hd) c hc

theorem isWordChar_repr (x : PyFloat) : ∀ c ∈ x.repr, isWordChar c = true := by
  have hsigned : ∀ negative {text : List Char}, (∀ c ∈ text, isNumberChar c = true) →
      ∀ c ∈ signText negative ++ text, isWordChar c = true := by
    intro negative text htext c hc
    apply isWordChar_of_isNumberChar
    rcases List.mem_append.mp hc with hsign | hc
    · exact isNumberChar_signText negative c hsign
    · exact htext c hc
  match x with
  | .negativeZero => exact forall_mem_of_all (by decide)
  | .number (.int value) => exact hsigned _ (isNumberChar_reprInt value.natAbs)
  | .number (.frac value) => exact hsigned _ (isNumberChar_reprFrac value.digits value.scale)
  | .number (.infinity true) => exact forall_mem_of_all (by decide)
  | .number (.infinity false) => exact forall_mem_of_all (by decide)

theorem isWordChar_dumps (x : PyNumber) : ∀ c ∈ x.dumps, isWordChar c = true := by
  cases x with
  | int value =>
      intro c hc
      apply isWordChar_of_isNumberChar
      rcases List.mem_append.mp hc with hsign | hdigit
      · exact isNumberChar_signText _ c hsign
      · exact isNumberChar_decimalDigits hdigit
  | float value => exact isWordChar_repr value

/-! ## Reading a number back -/

/-- The characters of an `int`. -/
def isIntChar (c : Char) : Bool := c.isDigit || c == '-'

def readInt (text : List Char) : ℤ :=
  if text.head? = some '-' then -(digitsValue text.tail : ℤ) else digitsValue text

def readFloat (text : List Char) : Option PyFloat :=
  if text = "Infinity".toList then some (.number (.infinity false))
  else if text = "-Infinity".toList then some (.number (.infinity true))
  else (parse? text).map fun n =>
    if text.head? = some '-' ∧ n = .int 0 then .negativeZero else .number n

/-- The number of which a text was written. -/
def readNumber (text : List Char) : Option PyNumber :=
  if text.all isIntChar then some (.int (readInt text))
  else (readFloat text).map .float

theorem head_decimalDigits_ne_minus (n : ℕ) : (decimalDigits n).head? ≠ some '-' := by
  intro hhead
  have hmem : '-' ∈ decimalDigits n := List.mem_of_mem_head? hhead
  exact absurd (isDigit_decimalDigits hmem) (by decide)

theorem readNumber_intRepr (value : ℤ) : readNumber (intRepr value) = some (.int value) := by
  have hdigits : ∀ n : ℕ, (decimalDigits n).all isIntChar = true := by
    intro n
    rw [List.all_eq_true]
    intro c hc
    simp [isIntChar, isDigit_decimalDigits hc]
  have hall : (intRepr value).all isIntChar = true := by
    rw [intRepr, List.all_append, hdigits, Bool.and_true]
    unfold signText
    split_ifs <;> rfl
  rw [readNumber, if_pos hall, Option.some.injEq, PyNumber.int.injEq]
  by_cases hneg : value < 0
  · have htext : intRepr value = '-' :: decimalDigits value.natAbs := by
      simp [intRepr, signText, hneg]
    rw [htext, readInt, List.head?_cons, if_pos rfl, List.tail_cons, digitsValue_decimalDigits]
    omega
  · have htext : intRepr value = decimalDigits value.natAbs := by
      simp [intRepr, signText, hneg]
    rw [htext, readInt, if_neg (head_decimalDigits_ne_minus _), digitsValue_decimalDigits]
    omega

/-! ### Doubles -/

/-- With any sign before it, the text is read as a decimal of the value. -/
def ParsesAs (text : List Char) (x : ℚ) : Prop :=
  ∀ negative, ∃ (d : ℕ) (e : ℤ),
    parse? (signText negative ++ text) = some (JsNumber.ofDecimal negative d e) ∧
      (d : ℚ) * 10 ^ e = x

theorem parseExponent_repr (exponent : ℤ) :
    parseExponent (reprExponent exponent) = some exponent := by
  have hall : ∀ digits : List Char, (∀ c ∈ digits, c = '0') →
      (digits ++ decimalDigits exponent.natAbs).all Char.isDigit = true := by
    intro digits hzeros
    rw [List.all_eq_true]
    intro c hc
    rcases List.mem_append.mp hc with hzero | hdigit
    · rw [hzeros c hzero]
      decide
    · exact isDigit_decimalDigits hdigit
  have hread : ∀ digits : List Char,
      digitsValue (digits ++ decimalDigits exponent.natAbs) = exponent.natAbs →
      (∀ c ∈ digits, c = '0') → parseExponent (['e', if exponent < 0 then '-' else '+'] ++
        (digits ++ decimalDigits exponent.natAbs)) = some exponent := by
    intro digits hvalue hzeros
    have hguard : digits ++ decimalDigits exponent.natAbs ≠ [] ∧
        (digits ++ decimalDigits exponent.natAbs).all Char.isDigit = true :=
      ⟨List.append_ne_nil_of_right_ne_nil _ (decimalDigits_ne_nil _), hall digits hzeros⟩
    generalize digits ++ decimalDigits exponent.natAbs = text at hvalue hguard ⊢
    by_cases hneg : exponent < 0
    · have hsign : -(digitsValue text : ℤ) = exponent := by omega
      simp [parseExponent, splitExponentSign, hneg, guard, hguard, hsign, -List.all_eq_true]
    · have hsign : (digitsValue text : ℤ) = exponent := by omega
      simp [parseExponent, splitExponentSign, hneg, guard, hguard, hsign, -List.all_eq_true]
  rw [reprExponent]
  apply hread
  · split_ifs
    · have hzeros := digitsValue_zeros 1 (decimalDigits exponent.natAbs)
      rw [digitsValue_decimalDigits] at hzeros
      exact hzeros
    · exact digitsValue_decimalDigits _
  · split_ifs <;> simp

theorem parsesAs_reprScientific {digits : List Char} (hne : digits ≠ [])
    (hdigits : ∀ c ∈ digits, c.isDigit = true) (hhead : digits.head? ≠ some '0')
    (exponent : ℤ) :
    ParsesAs (reprScientific digits exponent)
      ((digitsValue digits : ℚ) * 10 ^ (exponent - (digits.length - 1 : ℕ))) := by
  obtain ⟨c, rest, rfl⟩ := List.exists_cons_of_ne_nil hne
  intro negative
  have hwhole : ∀ d ∈ [c], d.isDigit = true := by
    intro d hd
    exact hdigits d (List.mem_cons.mpr (.inl (List.mem_singleton.mp hd)))
  have hrest : ∀ d ∈ rest, d.isDigit = true :=
    fun d hd => hdigits d (List.mem_cons_of_mem _ hd)
  have hmark : ∀ d ∈ (reprExponent exponent).head?, d = 'e' := by
    intro d hd
    exact (Option.some.inj hd).symm
  have hparse := parse?_parts negative (List.cons_ne_nil c []) hwhole (fun _ => rfl) hrest
    hmark (parseExponent_repr exponent)
  refine ⟨_, _, hparse, ?_⟩
  simp

theorem parsesAs_reprInt (magnitude : ℕ) : ParsesAs (reprInt magnitude) magnitude := by
  unfold reprInt
  dsimp only
  split_ifs with hshort
  · have hwrites : WritesDecimal (decimalDigits magnitude ++ ['.', '0']) magnitude := by
      refine ⟨decimalDigits magnitude, ['0'], none, by simp [fractionText, exponentText],
        decimalDigits_ne_nil _, fun c hc => isDigit_decimalDigits hc, ?_,
        forall_mem_of_all (by decide), ?_⟩
      · intro hhead
        rcases Nat.eq_zero_or_pos magnitude with rfl | hpos
        · rfl
        · exact absurd hhead (head_decimalDigits hpos)
      · have hzero : digitsValue ['0'] = 0 := rfl
        rw [digitsValue_append, digitsValue_decimalDigits, hzero]
        norm_num
        ring
    exact fun negative => hwrites.parse? negative
  · have hpos : 0 < magnitude := by
      apply Nat.pos_of_ne_zero
      rintro rfl
      exact hshort (by decide)
    obtain ⟨k, hne, hdigits, hhead, hlength, hvalue⟩ := trimZeros_spec hpos
    have hparses := parsesAs_reprScientific hne hdigits hhead
      ((decimalDigits magnitude).length - 1)
    have htrimmed : 0 < (trimZeros (decimalDigits magnitude)).length :=
      List.length_pos_iff.mpr hne
    have hexponent : ((decimalDigits magnitude).length : ℤ) - 1 -
        ((trimZeros (decimalDigits magnitude)).length - 1 : ℕ) = k := by omega
    have hcast : (digitsValue (trimZeros (decimalDigits magnitude)) : ℚ) * 10 ^ k =
        magnitude := by
      exact_mod_cast hvalue.symm
    rwa [hexponent, zpow_natCast, hcast] at hparses

theorem parsesAs_reprFrac {digits scale : ℕ} (hd : 0 < digits) (hscale : 0 < scale) :
    ParsesAs (reprFrac digits scale) ((digits : ℚ) / 10 ^ scale) := by
  unfold reprFrac
  dsimp only
  split_ifs with hpoint
  · exact fun negative => (writesDecimal_fracText hd hscale).parse? negative
  · have hne := decimalDigits_ne_nil digits
    have hparses := parsesAs_reprScientific hne (fun c hc => isDigit_decimalDigits hc)
      (head_decimalDigits hd) (((decimalDigits digits).length : ℤ) - scale - 1)
    have hlength : 0 < (decimalDigits digits).length := List.length_pos_iff.mpr hne
    have hexponent : ((decimalDigits digits).length : ℤ) - scale - 1 -
        ((decimalDigits digits).length - 1 : ℕ) = -(scale : ℤ) := by omega
    rwa [hexponent, digitsValue_decimalDigits, zpow_neg, zpow_natCast, ← div_eq_mul_inv]
      at hparses

/-- A finite double that was read is read back from its text. -/
theorem parse?_repr {n : JsNumber} {negative : Bool} {digits : ℕ} {exponent : ℤ}
    (hn : n = JsNumber.ofDecimal negative digits exponent) (hfinite : n.isFinite = true) :
    parse? (PyFloat.number n).repr = some n := by
  cases n with
  | int value =>
      obtain ⟨d, e, hparse, hvalue⟩ := parsesAs_reprInt value.natAbs (decide (value < 0))
      have habs : ((value.natAbs : ℕ) : ℚ) = |(int value).toRat| := by
        rw [Nat.cast_natAbs, Int.cast_abs, toRat]
      rw [habs] at hvalue
      exact hparse.trans (congrArg some (ofDecimal_of_value hn hfinite hvalue))
  | frac value =>
      have hd : 0 < value.digits := by
        have hlast := value.lowest.2
        omega
      obtain ⟨d, e, hparse, hvalue⟩ :=
        parsesAs_reprFrac hd value.lowest.1 value.negative
      rw [← abs_toRat_frac] at hvalue
      exact hparse.trans (congrArg some (ofDecimal_of_value hn hfinite hvalue))
  | infinity negative => cases hfinite

/-- The text of a double shows that it is no integer. -/
theorem exists_mark_scientific (digits : List Char) (exponent : ℤ) :
    'e' ∈ reprScientific digits exponent := by
  simp [reprScientific, reprExponent]

theorem exists_mark_reprInt (magnitude : ℕ) :
    ∃ c ∈ reprInt magnitude, isIntChar c = false := by
  unfold reprInt
  dsimp only
  split_ifs
  · exact ⟨'.', by simp, by decide⟩
  · exact ⟨'e', exists_mark_scientific _ _, by decide⟩

theorem exists_mark_reprFrac (digits scale : ℕ) :
    ∃ c ∈ reprFrac digits scale, isIntChar c = false := by
  unfold reprFrac
  dsimp only
  split_ifs
  · unfold fracText
    dsimp only
    split_ifs
    · exact ⟨'.', by simp, by decide⟩
    · exact ⟨'.', by simp, by decide⟩
    · exact ⟨'e', by simp [scientific], by decide⟩
  · exact ⟨'e', exists_mark_scientific _ _, by decide⟩

theorem exists_mark_repr {n : JsNumber} (hfinite : n.isFinite = true) :
    ∃ c ∈ (PyFloat.number n).repr, isIntChar c = false := by
  cases n with
  | int value =>
      obtain ⟨c, hc, hmark⟩ := exists_mark_reprInt value.natAbs
      exact ⟨c, List.mem_append_right _ hc, hmark⟩
  | frac value =>
      obtain ⟨c, hc, hmark⟩ := exists_mark_reprFrac value.digits value.scale
      exact ⟨c, List.mem_append_right _ hc, hmark⟩
  | infinity negative => cases hfinite

theorem PyNumber.dumps_ne_nil (x : PyNumber) : x.dumps ≠ [] := by
  match x with
  | .int value => exact List.append_ne_nil_of_right_ne_nil _ (decimalDigits_ne_nil _)
  | .float .negativeZero => exact List.cons_ne_nil _ _
  | .float (.number n) =>
      cases hfinite : n.isFinite with
      | true =>
          obtain ⟨c, hc, -⟩ := exists_mark_repr hfinite
          exact List.ne_nil_of_mem hc
      | false =>
          cases n with
          | infinity negative => exact List.append_ne_nil_of_right_ne_nil _ (by decide)
          | int value => cases hfinite
          | frac value => cases hfinite

theorem readFloat_repr {n : JsNumber} {negative : Bool} {digits : ℕ} {exponent : ℤ}
    (hn : n = JsNumber.ofDecimal negative digits exponent) (hfinite : n.isFinite = true) :
    readFloat (PyFloat.number n).repr = some (.number n) := by
  have hparse := parse?_repr hn hfinite
  have hne : ∀ word, parse? word = none → (PyFloat.number n).repr ≠ word := by
    intro word hnone hsame
    rw [hsame, hnone] at hparse
    cases hparse
  have hzero : ¬((PyFloat.number n).repr.head? = some '-' ∧ n = .int 0) := by
    rintro ⟨hhead, rfl⟩
    exact absurd hhead (by decide)
  rw [readFloat, if_neg (hne _ (by decide +kernel)), if_neg (hne _ (by decide +kernel)), hparse,
    Option.map_some, if_neg hzero]

theorem readNumber_repr (negative : Bool) (digits : ℕ) (exponent : ℤ) :
    readNumber (PyFloat.ofDecimal negative digits exponent).repr =
      some (.float (.ofDecimal negative digits exponent)) := by
  unfold PyFloat.ofDecimal
  dsimp only
  split_ifs with hzero
  · decide +kernel
  · cases hfinite : (JsNumber.ofDecimal negative digits exponent).isFinite with
    | true =>
        obtain ⟨c, hc, hmark⟩ := exists_mark_repr hfinite
        have hall : ¬(PyFloat.number (.ofDecimal negative digits exponent)).repr.all
            isIntChar = true := by
          intro hall
          rw [List.all_eq_true.mp hall c hc] at hmark
          cases hmark
        rw [readNumber, if_neg hall, readFloat_repr rfl hfinite]
        rfl
    | false =>
        generalize JsNumber.ofDecimal negative digits exponent = n at hfinite
        match n with
        | .infinity true => decide +kernel
        | .infinity false => decide +kernel
        | .int _ => cases hfinite
        | .frac _ => cases hfinite

/-- A number that Python read is read back from its text. -/
theorem readNumber_dumps (literal : JsonLiteral) :
    readNumber literal.pyNumber.dumps = some literal.pyNumber := by
  cases literal with
  | integer negative digits => exact readNumber_intRepr _
  | decimal negative digits exponent => exact readNumber_repr negative digits exponent

end AgentSkeptic.Support

import AgentSkeptic.Support.JsNumberText
import AgentSkeptic.Support.JsonText

/-!
# Writing JSON and reading it back

`JSON.stringify(v)` and `JSON.stringify(v, null, gap)` as texts of characters,
and what `JSON.parse` makes of them.  A text that a value renders to is lexed to
the tokens of the value, whatever the gap, and the tokens parse to the value:
`parseJson_render`.

The values are those that `JSON.parse` returns (`Json.WellFormed`).
-/

namespace AgentSkeptic.Support

/-! ## UTF-8 -/

/-- A byte in the range of the next one continues the character. -/
theorem utf8DecodeFrom_continue {state : Utf8State} {b : UInt8} {bs : Bytes}
    (howed : state.owed ≠ 0) (hlow : state.low ≤ b.toNat)
    (hhigh : b.toNat ≤ state.high) :
    utf8DecodeFrom state (b :: bs) =
      if state.owed = 1 then
        Char.ofNat (state.point * 64 + (b.toNat - 0x80)) ::
          utf8DecodeFrom .start bs
      else
        utf8DecodeFrom
          ⟨state.owed - 1, state.point * 64 + (b.toNat - 0x80), 0x80, 0xBF⟩ bs := by
  rw [utf8DecodeFrom, utf8Step, if_neg howed, if_pos ⟨hlow, hhigh⟩]
  split_ifs
  · rfl
  · rfl

theorem utf8DecodeFrom_start (b : UInt8) (bs : Bytes) :
    utf8DecodeFrom .start (b :: bs) =
      (utf8First b.toNat).1 ++ utf8DecodeFrom (utf8First b.toNat).2 bs := rfl

theorem toNat_ofNat_of_lt {n : ℕ} (h : n < 256) : (UInt8.ofNat n).toNat = n := by
  rw [UInt8.toNat_ofNat']
  omega

/-- A continuation byte of the six bits `n % 64`. -/
theorem utf8DecodeFrom_bits {owed point n : ℕ} {bs : Bytes} :
    utf8DecodeFrom ⟨owed + 2, point, 0x80, 0xBF⟩
        (UInt8.ofNat (n % 0x40 + 0x80) :: bs) =
      utf8DecodeFrom ⟨owed + 1, point * 64 + n % 64, 0x80, 0xBF⟩ bs := by
  have hbyte : (UInt8.ofNat (n % 0x40 + 0x80)).toNat = n % 64 + 0x80 :=
    toNat_ofNat_of_lt (by omega)
  rw [utf8DecodeFrom_continue (Nat.succ_ne_zero _) (by rw [hbyte]; dsimp only; omega)
    (by rw [hbyte]; dsimp only; omega), if_neg (by dsimp only; omega), hbyte,
    Nat.add_sub_cancel]
  rfl

theorem utf8DecodeFrom_lastBits {point n : ℕ} {bs : Bytes} :
    utf8DecodeFrom ⟨1, point, 0x80, 0xBF⟩ (UInt8.ofNat (n % 0x40 + 0x80) :: bs) =
      Char.ofNat (point * 64 + n % 64) :: utf8DecodeFrom .start bs := by
  have hbyte : (UInt8.ofNat (n % 0x40 + 0x80)).toNat = n % 64 + 0x80 :=
    toNat_ofNat_of_lt (by omega)
  rw [utf8DecodeFrom_continue Nat.one_ne_zero (by rw [hbyte]; dsimp only; omega)
    (by rw [hbyte]; dsimp only; omega), if_pos rfl, hbyte, Nat.add_sub_cancel]

theorem utf8First_one {n : ℕ} (h : n < 0x80) :
    utf8First n = ([Char.ofNat n], .start) := by
  rw [utf8First, if_pos h]

theorem utf8First_two {n : ℕ} (h : 2 ≤ n) (hn : n < 0x20) :
    utf8First (n + 0xc0) = ([], ⟨1, n, 0x80, 0xBF⟩) := by
  rw [utf8First, if_neg (by omega), if_pos (by omega), Nat.add_sub_cancel]

theorem utf8First_three {n : ℕ} (hn : n < 0x10) :
    utf8First (n + 0xe0) = ([], ⟨2, n, if n = 0 then 0xA0 else 0x80,
      if n = 0xd then 0x9F else 0xBF⟩) := by
  rw [utf8First, if_neg (by omega), if_neg (by omega), if_pos (by omega),
    Nat.add_sub_cancel]
  simp

theorem utf8First_four {n : ℕ} (hn : n < 5) :
    utf8First (n + 0xf0) = ([], ⟨3, n, if n = 0 then 0x90 else 0x80,
      if n = 4 then 0x8F else 0xBF⟩) := by
  rw [utf8First, if_neg (by omega), if_neg (by omega), if_neg (by omega),
    if_pos (by omega), Nat.add_sub_cancel]
  simp

theorem utf8Decode_char (c : Char) (bs : Bytes) :
    utf8DecodeFrom .start (String.utf8EncodeChar c ++ bs) =
      c :: utf8DecodeFrom .start bs := by
  have hrange := toNat_ranges c
  have hval : c.val.toNat = c.toNat := rfl
  have hchar : Char.ofNat c.toNat = c := Char.ofNat_toNat c
  unfold String.utf8EncodeChar
  simp only [hval]
  split_ifs with hone htwo hthree
  · have hfirst : (UInt8.ofNat c.toNat).toNat = c.toNat :=
      toNat_ofNat_of_lt (by omega)
    rw [List.singleton_append, utf8DecodeFrom_start, hfirst,
      utf8First_one (by omega), hchar]
    rfl
  · have hlead : c.toNat / 64 % 0x20 = c.toNat / 64 := by omega
    have hfirst : (UInt8.ofNat (c.toNat / 64 + 0xc0)).toNat = c.toNat / 64 + 0xc0 :=
      toNat_ofNat_of_lt (by omega)
    have hpoint : c.toNat / 64 * 64 + c.toNat % 64 = c.toNat := by omega
    rw [hlead, List.cons_append, utf8DecodeFrom_start, hfirst,
      utf8First_two (by omega) (by omega), List.nil_append, List.singleton_append,
      utf8DecodeFrom_lastBits, hpoint, hchar]
  · have hlead : c.toNat / 4096 % 0x10 = c.toNat / 4096 := by omega
    have hfirst : (UInt8.ofNat (c.toNat / 4096 + 0xe0)).toNat =
        c.toNat / 4096 + 0xe0 := toNat_ofNat_of_lt (by omega)
    have hsecond : (UInt8.ofNat (c.toNat / 64 % 0x40 + 0x80)).toNat =
        c.toNat / 64 % 64 + 0x80 := toNat_ofNat_of_lt (by omega)
    have hpoint : (c.toNat / 4096 * 64 + c.toNat / 64 % 64) * 64 + c.toNat % 64 =
        c.toNat := by omega
    rw [hlead, List.cons_append, utf8DecodeFrom_start, hfirst,
      utf8First_three (by omega), List.nil_append, List.cons_append,
      utf8DecodeFrom_continue (by dsimp only; decide)
        (by rw [hsecond]; dsimp only; split_ifs <;> omega)
        (by rw [hsecond]; dsimp only; split_ifs <;> omega),
      if_neg (by dsimp only; decide), hsecond, Nat.add_sub_cancel,
      List.singleton_append]
    dsimp only
    rw [utf8DecodeFrom_lastBits, hpoint, hchar]
  · have hlead : c.toNat / 262144 % 0x08 = c.toNat / 262144 := by omega
    have hfirst : (UInt8.ofNat (c.toNat / 262144 + 0xf0)).toNat =
        c.toNat / 262144 + 0xf0 := toNat_ofNat_of_lt (by omega)
    have hsecond : (UInt8.ofNat (c.toNat / 4096 % 0x40 + 0x80)).toNat =
        c.toNat / 4096 % 64 + 0x80 := toNat_ofNat_of_lt (by omega)
    have hpoint : ((c.toNat / 262144 * 64 + c.toNat / 4096 % 64) * 64 +
        c.toNat / 64 % 64) * 64 + c.toNat % 64 = c.toNat := by omega
    rw [hlead, List.cons_append, utf8DecodeFrom_start, hfirst,
      utf8First_four (by omega), List.nil_append, List.cons_append,
      utf8DecodeFrom_continue (by dsimp only; decide)
        (by rw [hsecond]; dsimp only; split_ifs <;> omega)
        (by rw [hsecond]; dsimp only; split_ifs <;> omega),
      if_neg (by dsimp only; decide), hsecond, Nat.add_sub_cancel,
      List.cons_append, List.singleton_append]
    dsimp only
    rw [utf8DecodeFrom_bits, utf8DecodeFrom_lastBits, hpoint, hchar]

/-- A text that is encoded is decoded to itself. -/
theorem utf8Decode_utf8Encode (text : List Char) :
    utf8Decode (utf8Encode text) = text := by
  unfold utf8Decode utf8Encode
  induction text with
  | nil => rfl
  | cons c cs ih => rw [List.flatMap_cons, utf8Decode_char, ih]

/-! ## UTF-16 -/

theorem ofUtf16_unit {unit : ℕ} (h : ¬ (0xD800 ≤ unit ∧ unit ≤ 0xDFFF))
    (units : List ℕ) : ofUtf16 (unit :: units) = Char.ofNat unit :: ofUtf16 units := by
  cases units with
  | nil => simp [ofUtf16, h]
  | cons next rest =>
      rw [ofUtf16, if_neg h, if_neg]
      omega

/-- Texts survive the change to UTF-16 code units and back. -/
theorem ofUtf16_flatMap (cs : List Char) : ofUtf16 (cs.flatMap utf16Char) = cs := by
  induction cs with
  | nil => rfl
  | cons c cs ih =>
      have hrange := toNat_ranges c
      rw [List.flatMap_cons, utf16Char]
      split_ifs with hsmall
      · rw [List.singleton_append, ofUtf16_unit (by omega), ih, Char.ofNat_toNat]
      · have hpoint : 0x10000 + (0xD800 + (c.toNat - 0x10000) / 0x400 - 0xD800) * 0x400 +
            (0xDC00 + (c.toNat - 0x10000) % 0x400 - 0xDC00) = c.toNat := by omega
        rw [List.cons_append, List.singleton_append, ofUtf16, if_pos (by omega), ih,
          hpoint, Char.ofNat_toNat]

/-! ## Lexing a text -/

theorem lex_cons {state next : LexState} {c : Char} {tokens : List Token}
    (h : lexStep state c = some (next, tokens)) (cs : List Char) :
    lex state (c :: cs) = (lex next cs).map (tokens ++ ·) := by
  rw [lex, h]

theorem lex_cons_silent {state next : LexState} {c : Char}
    (h : lexStep state c = some (next, [])) (cs : List Char) :
    lex state (c :: cs) = lex next cs := by
  rw [lex_cons h]
  simp

theorem hexValue?_hexDigit {k : ℕ} (h : k < 16) : hexValue? (hexDigit k) = some k := by
  have hall : ∀ k : Fin 16, hexValue? (hexDigit k) = some (k : ℕ) := by decide
  exact hall ⟨k, h⟩

/-- A quoted character adds the code units of the character. -/
theorem lex_quoteChar (units : List ℕ) (c : Char) (cs : List Char) :
    lex (.text units) (quoteChar c ++ cs) =
      lex (.text ((utf16Char c).reverse ++ units)) cs := by
  unfold quoteChar
  split
  · rw [List.cons_append, lex_cons_silent rfl]
    exact lex_cons_silent rfl cs
  · rw [List.cons_append, lex_cons_silent rfl]
    exact lex_cons_silent rfl cs
  · rw [List.cons_append, lex_cons_silent rfl]
    exact lex_cons_silent rfl cs
  · rw [List.cons_append, lex_cons_silent rfl]
    exact lex_cons_silent rfl cs
  · rw [List.cons_append, lex_cons_silent rfl]
    exact lex_cons_silent rfl cs
  · rename_i hquote hbackslash _ _ _
    have hunit : c.toNat < 32 → utf16Char c = [c.toNat] := by
      intro hlt
      rw [utf16Char, if_pos (by omega)]
    split_ifs with hb hf hcontrol
    · rw [hunit (by omega), hb, List.cons_append, lex_cons_silent rfl]
      exact lex_cons_silent rfl cs
    · rw [hunit (by omega), hf, List.cons_append, lex_cons_silent rfl]
      exact lex_cons_silent rfl cs
    · have hhigh := hexValue?_hexDigit (k := c.toNat / 16) (by omega)
      have hlow := hexValue?_hexDigit (k := c.toNat % 16) (by omega)
      have hsum : c.toNat / 16 * 16 + c.toNat % 16 = c.toNat := by omega
      rw [hunit hcontrol]
      simp only [List.cons_append, List.nil_append]
      have hzero : ∀ owed, lexStep (.unicode units (owed + 2) 0) '0' =
          some (.unicode units (owed + 1) 0, []) := fun _ => rfl
      rw [lex_cons_silent rfl, lex_cons_silent rfl, lex_cons_silent (hzero 2),
        lex_cons_silent (hzero 1)]
      have hthird : lexStep (.unicode units 2 0) (hexDigit (c.toNat / 16)) =
          some (.unicode units 1 (c.toNat / 16), []) := by
        simp [lexStep, hhigh]
      have hfourth : lexStep (.unicode units 1 (c.toNat / 16))
          (hexDigit (c.toNat % 16)) = some (.text (c.toNat :: units), []) := by
        simp [lexStep, hlow, hsum]
      rw [lex_cons_silent hthird, lex_cons_silent hfourth]
      rfl
    · have hplain : lexStep (.text units) c =
          some (.text ((utf16Char c).reverse ++ units), []) := by
        unfold lexStep
        dsimp only
        rw [if_neg hquote, if_neg hbackslash, if_neg hcontrol]
      rw [List.singleton_append, lex_cons_silent hplain]

/-- Each character of a text is written as something that adds its code units. -/
def Quotes (quoteOf : Char → List Char) : Prop :=
  ∀ units c cs, lex (.text units) (quoteOf c ++ cs) =
    lex (.text ((utf16Char c).reverse ++ units)) cs

theorem lex_quotedChars {quoteOf : Char → List Char} (h : Quotes quoteOf) (units : List ℕ)
    (text cs : List Char) :
    lex (.text units) (text.flatMap quoteOf ++ '"' :: cs) =
      (lex .idle cs).map
        ([.text (String.ofList (ofUtf16 (units.reverse ++
          text.flatMap utf16Char)))] ++ ·) := by
  induction text generalizing units with
  | nil =>
      rw [List.flatMap_nil, List.nil_append, lex_cons rfl]
      simp
  | cons c text ih =>
      rw [List.flatMap_cons, List.append_assoc, h, ih]
      simp

theorem lex_quoted {quoteOf : Char → List Char} (h : Quotes quoteOf) (s : String)
    (cs : List Char) :
    lex .idle ('"' :: s.toList.flatMap quoteOf ++ ['"'] ++ cs) =
      (lex .idle cs).map ([.text s] ++ ·) := by
  rw [List.append_assoc, List.cons_append, lex_cons_silent rfl, List.singleton_append,
    lex_quotedChars h, List.reverse_nil, List.nil_append, ofUtf16_flatMap, String.ofList_toList]

/-- `JSON.stringify` of a string is lexed as that text. -/
theorem lex_quote (s : String) (cs : List Char) :
    lex .idle ((quote s).toList ++ cs) = (lex .idle cs).map ([.text s] ++ ·) := by
  rw [quote, String.toList_ofList]
  exact lex_quoted lex_quoteChar s cs

/-! ## Lexing a word -/

/-- A character of a word: no white space, punctuation or quotation mark. -/
def isWordChar (c : Char) : Bool := !isJsonSpace c && !isPunct c && c != '"'

/-- What may follow a word. -/
def Delimited (cs : List Char) : Prop := ∀ c ∈ cs.head?, isWordChar c = false

theorem lexIdle_ended (c : Char) (ended : List Token) :
    lexIdle c ended = ((lexIdle c []).1, ended ++ (lexIdle c []).2) := by
  unfold lexIdle
  split_ifs
  · simp
  · simp
  · simp
  · simp

theorem lex_word_append {word : List Char} (h : ∀ c ∈ word, isWordChar c = true)
    (chars : List Char) {cs : List Char} (hcs : Delimited cs) :
    lex (.word chars) (word ++ cs) =
      (lex .idle cs).map ([.word (chars.reverse ++ word)] ++ ·) := by
  induction word generalizing chars with
  | nil =>
      cases cs with
      | nil => simp [lex]
      | cons c cs =>
          have hdelimiter : isJsonSpace c = true ∨ isPunct c = true ∨ c = '"' := by
            have hchar := hcs c (by simp)
            simp only [isWordChar, Bool.and_eq_false_iff, Bool.not_eq_false',
              bne_eq_false_iff_eq] at hchar
            exact or_assoc.mp hchar
          have hword : lexStep (.word chars) c =
              some (lexIdle c [.word chars.reverse]) := if_pos hdelimiter
          have hidle : lexStep .idle c =
              some ((lexIdle c []).1, (lexIdle c []).2) := rfl
          rw [lexIdle_ended] at hword
          rw [List.nil_append, lex_cons hword, lex_cons hidle, Option.map_map]
          simp [Function.comp_def]
  | cons c word ih =>
      obtain ⟨hc, hword⟩ := List.forall_mem_cons.mp h
      have hstep : lexStep (.word chars) c = some (.word (c :: chars), []) := by
        simp only [isWordChar, Bool.and_eq_true, Bool.not_eq_true',
          bne_iff_ne] at hc
        simp [lexStep, hc]
      rw [List.cons_append, lex_cons_silent hstep, ih hword]
      simp

theorem lex_word {word : List Char} (h : ∀ c ∈ word, isWordChar c = true)
    (hne : word ≠ []) {cs : List Char} (hcs : Delimited cs) :
    lex .idle (word ++ cs) = (lex .idle cs).map ([.word word] ++ ·) := by
  obtain ⟨c, word, rfl⟩ := List.exists_cons_of_ne_nil hne
  obtain ⟨hc, hword⟩ := List.forall_mem_cons.mp h
  have hstep : lexStep .idle c = some (.word [c], []) := by
    simp only [isWordChar, Bool.and_eq_true, Bool.not_eq_true', bne_iff_ne] at hc
    simp [lexStep, lexIdle, hc]
  rw [List.cons_append, lex_cons_silent hstep, lex_word_append hword [c] hcs]
  simp

/-! ## Numbers -/

theorem isWordChar_of_isDigit {c : Char} (h : c.isDigit = true) :
    isWordChar c = true := by
  have hrange : 48 ≤ c.toNat ∧ c.toNat ≤ 57 := by
    simp only [Char.isDigit, Bool.and_eq_true, decide_eq_true_eq] at h
    exact h
  have hne : ∀ d : Char, d.toNat < 48 ∨ 57 < d.toNat → (c == d) = false := by
    intro d hd
    have hcd : c ≠ d := by
      rintro rfl
      omega
    simpa using hcd
  simp [isWordChar, isJsonSpace, isPunct, bne, hne, Char.toNat]

/-- The characters of the text of a finite number. -/
def isNumberChar (c : Char) : Bool :=
  c.isDigit || c == '-' || c == '+' || c == '.' || c == 'e'

theorem isWordChar_of_isNumberChar {c : Char} (h : isNumberChar c = true) :
    isWordChar c = true := by
  simp only [isNumberChar, Bool.or_eq_true, beq_iff_eq] at h
  rcases h with (((hdigit | rfl) | rfl) | rfl) | rfl
  · exact isWordChar_of_isDigit hdigit
  · decide
  · decide
  · decide
  · decide

theorem isNumberChar_decimalDigits {n : ℕ} {c : Char}
    (h : c ∈ JsNumber.decimalDigits n) : isNumberChar c = true := by
  have hdigit := Nat.isDigit_of_mem_toDigits (by decide) (by decide) h
  simp [isNumberChar, hdigit]

theorem isNumberChar_scientific {digits : List Char} {exponent : ℤ}
    (h : ∀ c ∈ digits, isNumberChar c = true) :
    ∀ c ∈ JsNumber.scientific digits exponent, isNumberChar c = true := by
  intro c hc
  have hsign : isNumberChar (if exponent < 0 then '-' else '+') = true := by
    split_ifs
    · decide
    · decide
  simp only [JsNumber.scientific, List.mem_append, List.mem_cons,
    List.not_mem_nil, or_false] at hc
  rcases hc with ((hc | hc) | (rfl | rfl)) | hc
  · exact h c (List.mem_of_mem_take hc)
  · split_ifs at hc with hlength
    · cases hc
    · rcases List.mem_cons.mp hc with rfl | hc
      · decide
      · exact h c (List.mem_of_mem_drop hc)
  · decide
  · exact hsign
  · exact isNumberChar_decimalDigits hc

theorem isNumberChar_intText (n : ℕ) :
    ∀ c ∈ JsNumber.intText n, isNumberChar c = true := by
  intro c hc
  dsimp only [JsNumber.intText] at hc
  split_ifs at hc with hlength
  · exact isNumberChar_decimalDigits hc
  · refine isNumberChar_scientific ?_ c hc
    intro d hd
    have hmem : d ∈ JsNumber.decimalDigits n := by
      have hdrop := List.mem_reverse.mp hd
      exact List.mem_reverse.mp ((List.dropWhile_sublist _).mem hdrop)
    exact isNumberChar_decimalDigits hmem

theorem isNumberChar_fracText (digits scale : ℕ) :
    ∀ c ∈ JsNumber.fracText digits scale, isNumberChar c = true := by
  intro c hc
  dsimp only [JsNumber.fracText] at hc
  have hdigits : ∀ d ∈ JsNumber.decimalDigits digits, isNumberChar d = true :=
    fun d hd => isNumberChar_decimalDigits hd
  split_ifs at hc with hpoint hsmall
  · simp only [List.mem_append, List.mem_singleton] at hc
    rcases hc with (hc | rfl) | hc
    · exact hdigits c (List.mem_of_mem_take hc)
    · decide
    · exact hdigits c (List.mem_of_mem_drop hc)
  · simp only [List.mem_append, List.mem_cons, List.not_mem_nil, or_false] at hc
    rcases hc with ((rfl | rfl) | hc) | hc
    · decide
    · decide
    · obtain rfl := List.eq_of_mem_replicate hc
      decide
    · exact hdigits c hc
  · exact isNumberChar_scientific hdigits c hc

theorem isNumberChar_stringify {n : JsNumber} (h : n.isFinite = true) :
    ∀ c ∈ n.stringify.toList, isNumberChar c = true := by
  intro c hc
  cases n with
  | int value =>
      simp only [JsNumber.stringify, JsNumber.isFinite, if_true, JsNumber.toText,
        String.toList_ofList, List.mem_append] at hc
      rcases hc with hc | hc
      · split_ifs at hc
        · obtain rfl := List.mem_singleton.mp hc
          decide
        · cases hc
      · exact isNumberChar_intText _ c hc
  | frac value =>
      simp only [JsNumber.stringify, JsNumber.isFinite, if_true, JsNumber.toText,
        String.toList_ofList, List.mem_append] at hc
      rcases hc with hc | hc
      · split_ifs at hc
        · obtain rfl := List.mem_singleton.mp hc
          decide
        · cases hc
      · exact isNumberChar_fracText _ _ c hc
  | infinity negative => cases h

theorem isWordChar_stringify (n : JsNumber) :
    ∀ c ∈ n.stringify.toList, isWordChar c = true := by
  intro c hc
  cases hfinite : n.isFinite with
  | true => exact isWordChar_of_isNumberChar (isNumberChar_stringify hfinite c hc)
  | false =>
      have hnull : n.stringify = "null" := by
        rw [JsNumber.stringify, hfinite]
        rfl
      have hall : ∀ c ∈ "null".toList, isWordChar c = true := forall_mem_of_all (by decide)
      rw [hnull] at hc
      exact hall c hc

/-- The number is a double: its text reads back as itself. -/
def JsNumber.Readable (n : JsNumber) : Prop :=
  JsNumber.parse? n.stringify.toList = some n

theorem JsNumber.Readable.stringify_ne_nil {n : JsNumber} (h : n.Readable) :
    n.stringify.toList ≠ [] := by
  intro hnil
  rw [JsNumber.Readable, hnil] at h
  cases h

theorem JsNumber.stringify_ne_nil (n : JsNumber) : n.stringify.toList ≠ [] := by
  rw [JsNumber.stringify]
  split_ifs with hfinite
  · obtain ⟨d, e, hparse, -⟩ := JsNumber.parse?_toText hfinite
    intro hnil
    rw [hnil] at hparse
    cases hparse
  · decide

theorem JsNumber.Readable.isFinite {n : JsNumber} (h : n.Readable) :
    n.isFinite = true := by
  cases n with
  | int value => rfl
  | frac value => rfl
  | infinity negative =>
      have hnull : JsNumber.parse? "null".toList = none := by decide
      rw [JsNumber.Readable] at h
      exact absurd (h.symm.trans hnull) (by simp)

theorem JsNumber.readable_ofDecimal {negative : Bool} {digits : ℕ} {e : ℤ}
    (hfinite : (ofDecimal negative digits e).isFinite = true) :
    (ofDecimal negative digits e).Readable := by
  obtain ⟨d, e', hparse, hvalue⟩ := parse?_toText hfinite
  rw [Readable, stringify, if_pos hfinite, hparse, ofDecimal_of_value rfl hfinite hvalue]

theorem JsNumber.Readable.wordValue {n : JsNumber} (h : n.Readable) :
    Support.wordValue n.stringify.toList = some (.num n) := by
  have hne : ∀ word, JsNumber.parse? word = none → n.stringify.toList ≠ word := by
    rintro word hword heq
    rw [JsNumber.Readable, heq, hword] at h
    cases h
  unfold Support.wordValue
  rw [if_neg (hne _ (by decide)), if_neg (hne _ (by decide)),
    if_neg (hne _ (by decide)), h]
  rfl

/-! ## Values -/

mutual

/-- A value that `JSON.parse` can return: its numbers are doubles, the keys of an
object are distinct and stand in property order. -/
def Json.WellFormed : Json → Prop
  | .null | .bool _ | .str _ => True
  | .num value => value.Readable
  | .arr items => Json.WellFormedItems items
  | .obj members =>
      (members.map Prod.fst).Nodup ∧ propertyOrder members = members ∧
        Json.WellFormedMembers members

def Json.WellFormedItems : List Json → Prop
  | [] => True
  | item :: items => Json.WellFormed item ∧ Json.WellFormedItems items

def Json.WellFormedMembers : List (String × Json) → Prop
  | [] => True
  | (_, value) :: members => Json.WellFormed value ∧ Json.WellFormedMembers members

end

mutual

/-- A value whose finite numbers are doubles and whose objects have distinct keys. -/
def Json.Decoded : Json → Prop
  | .null | .bool _ | .str _ => True
  | .num value => value.isFinite = true → value.Readable
  | .arr items => Json.DecodedItems items
  | .obj members => (members.map Prod.fst).Nodup ∧ Json.DecodedMembers members

def Json.DecodedItems : List Json → Prop
  | [] => True
  | item :: items => Json.Decoded item ∧ Json.DecodedItems items

def Json.DecodedMembers : List (String × Json) → Prop
  | [] => True
  | (_, value) :: members => Json.Decoded value ∧ Json.DecodedMembers members

end

mutual

/-- `JSON.parse(JSON.stringify(v))`: a number that is not finite becomes `null`, and an
object gets its property order. -/
def Json.reread : Json → Json
  | .null => .null
  | .bool value => .bool value
  | .num value => if value.isFinite then .num value else .null
  | .str value => .str value
  | .arr items => .arr (Json.rereadItems items)
  | .obj members => .obj (propertyOrder (Json.rereadMembers members))

def Json.rereadItems : List Json → List Json
  | [] => []
  | item :: items => Json.reread item :: Json.rereadItems items

def Json.rereadMembers : List (String × Json) → List (String × Json)
  | [] => []
  | (key, value) :: members => (key, Json.reread value) :: Json.rereadMembers members

end

mutual

/-- A value that `JSON.parse` can return is its own copy. -/
theorem Json.WellFormed.reread : ∀ {v : Json}, v.WellFormed → v.reread = v
  | .null, _ => rfl
  | .bool _, _ => rfl
  | .num value, h => by
      rw [Json.reread, if_pos (JsNumber.Readable.isFinite h)]
  | .str _, _ => rfl
  | .arr items, h => by
      rw [Json.reread, rereadItems_of_wellFormed h]
  | .obj members, h => by
      rw [Json.reread, rereadMembers_of_wellFormed h.2.2, h.2.1]

theorem rereadItems_of_wellFormed : ∀ {items : List Json},
    Json.WellFormedItems items → Json.rereadItems items = items
  | [], _ => rfl
  | _ :: _, h => by
      rw [Json.rereadItems, h.1.reread, rereadItems_of_wellFormed h.2]

theorem rereadMembers_of_wellFormed : ∀ {members : List (String × Json)},
    Json.WellFormedMembers members → Json.rereadMembers members = members
  | [], _ => rfl
  | (_, _) :: _, h => by
      rw [Json.rereadMembers, h.1.reread, rereadMembers_of_wellFormed h.2]

end

mutual

theorem Json.WellFormed.decoded : ∀ {v : Json}, v.WellFormed → v.Decoded
  | .null, _ => trivial
  | .bool _, _ => trivial
  | .num _, h => fun _ => h
  | .str _, _ => trivial
  | .arr _, h => decodedItems_of_wellFormed h
  | .obj _, h => ⟨h.1, decodedMembers_of_wellFormed h.2.2⟩

theorem decodedItems_of_wellFormed : ∀ {items : List Json},
    Json.WellFormedItems items → Json.DecodedItems items
  | [], _ => trivial
  | _ :: _, h => ⟨h.1.decoded, decodedItems_of_wellFormed h.2⟩

theorem decodedMembers_of_wellFormed : ∀ {members : List (String × Json)},
    Json.WellFormedMembers members → Json.DecodedMembers members
  | [], _ => trivial
  | (_, _) :: _, h => ⟨h.1.decoded, decodedMembers_of_wellFormed h.2⟩

end

theorem keys_rereadMembers (members : List (String × Json)) :
    (Json.rereadMembers members).map Prod.fst = members.map Prod.fst := by
  induction members with
  | nil => rfl
  | cons m members ih => simp [Json.rereadMembers, ih]

/-- A line break and the indentation of a depth; nothing without a gap. -/
def lineBreak (gap : List Char) (depth : ℕ) : List Char :=
  if gap = [] then [] else '\n' :: (List.replicate depth gap).flatten

def colonText (gap : List Char) : List Char :=
  if gap = [] then [':'] else [':', ' ']

/-- The parts of an array or object between its brackets. -/
def renderParts (gap : List Char) (depth : ℕ) (opening closing : Char)
    (parts : List (List Char)) : List Char :=
  if parts = [] then [opening, closing]
  else
    opening :: lineBreak gap (depth + 1) ++
      (',' :: lineBreak gap (depth + 1)).intercalate parts ++
      lineBreak gap depth ++ [closing]

mutual

/-- `JSON.stringify(v, null, gap)` of a value at a depth. -/
def Json.render (gap : List Char) (depth : ℕ) : Json → List Char
  | .null => "null".toList
  | .bool value => (if value then "true" else "false").toList
  | .num value => value.stringify.toList
  | .str value => (quote value).toList
  | .arr items => renderParts gap depth '[' ']' (Json.renderItems gap (depth + 1) items)
  | .obj members =>
      renderParts gap depth '\x7b' '\x7d' (Json.renderMembers gap (depth + 1) members)

def Json.renderItems (gap : List Char) (depth : ℕ) : List Json → List (List Char)
  | [] => []
  | item :: items => Json.render gap depth item :: Json.renderItems gap depth items

def Json.renderMembers (gap : List Char) (depth : ℕ) :
    List (String × Json) → List (List Char)
  | [] => []
  | (key, value) :: members =>
      ((quote key).toList ++ colonText gap ++ Json.render gap depth value) ::
        Json.renderMembers gap depth members

end

theorem renderParts_nil_gap (depth : ℕ) (opening closing : Char)
    (parts : List (List Char)) :
    renderParts [] depth opening closing parts =
      opening :: [','].intercalate parts ++ [closing] := by
  unfold renderParts
  split_ifs with hparts
  · rw [hparts]
    rfl
  · simp [lineBreak]

mutual

/-- Without a gap, the text is that of `JSON.stringify(v)`. -/
theorem render_nil_gap (depth : ℕ) :
    ∀ v : Json, v.render [] depth = v.stringify.toList
  | .null => rfl
  | .bool _ => rfl
  | .num _ => rfl
  | .str _ => rfl
  | .arr items => by
      rw [Json.render, renderParts_nil_gap, renderItems_nil_gap, Json.stringify]
      simp
  | .obj members => by
      rw [Json.render, renderParts_nil_gap, renderMembers_nil_gap, Json.stringify]
      simp

theorem renderItems_nil_gap (depth : ℕ) : ∀ items : List Json,
    Json.renderItems [] depth items = (Json.stringifyItems items).map String.toList
  | [] => rfl
  | item :: items => by
      rw [Json.renderItems, render_nil_gap, renderItems_nil_gap, Json.stringifyItems]
      rfl

theorem renderMembers_nil_gap (depth : ℕ) : ∀ members : List (String × Json),
    Json.renderMembers [] depth members =
      (Json.stringifyMembers members).map String.toList
  | [] => rfl
  | (key, value) :: members => by
      rw [Json.renderMembers, render_nil_gap, renderMembers_nil_gap,
        Json.stringifyMembers, List.map_cons, String.toList_append,
        String.toList_append]
      rfl

end

/-! ## The tokens of a value -/

def bracketTokens (opening closing : Char) (parts : List (List Token)) : List Token :=
  .punct opening :: [Token.punct ','].intercalate parts ++ [.punct closing]

mutual

def Json.tokens : Json → List Token
  | .null => [.word "null".toList]
  | .bool value => [.word (if value then "true" else "false").toList]
  | .num value => [.word value.stringify.toList]
  | .str value => [.text value]
  | .arr items => bracketTokens '[' ']' (Json.itemTokens items)
  | .obj members => bracketTokens '\x7b' '\x7d' (Json.memberTokens members)

def Json.itemTokens : List Json → List (List Token)
  | [] => []
  | item :: items => Json.tokens item :: Json.itemTokens items

def Json.memberTokens : List (String × Json) → List (List Token)
  | [] => []
  | (key, value) :: members =>
      (.text key :: .punct ':' :: Json.tokens value) :: Json.memberTokens members

end

section Lexing

variable {gap : List Char}

/-- Lexing `text` yields `tokens`, whatever follows at a delimiter. -/
def Lexes (text : List Char) (tokens : List Token) : Prop :=
  ∀ cs, Delimited cs → lex .idle (text ++ cs) = (lex .idle cs).map (tokens ++ ·)

theorem delimited_cons {c : Char} (cs : List Char) (h : isWordChar c = false) :
    Delimited (c :: cs) := by
  intro d hd
  obtain rfl : c = d := by simpa using hd
  exact h

theorem lex_spaces {spaces : List Char} (h : ∀ c ∈ spaces, isJsonSpace c = true)
    (cs : List Char) : lex .idle (spaces ++ cs) = lex .idle cs := by
  induction spaces with
  | nil => rfl
  | cons c spaces ih =>
      obtain ⟨hc, hspaces⟩ := List.forall_mem_cons.mp h
      have hstep : lexStep .idle c = some (.idle, []) := by
        simp [lexStep, lexIdle, hc]
      rw [List.cons_append, lex_cons_silent hstep, ih hspaces]

theorem lex_punct {c : Char} (hspace : isJsonSpace c = false)
    (hpunct : isPunct c = true) (cs : List Char) :
    lex .idle (c :: cs) = (lex .idle cs).map ([.punct c] ++ ·) := by
  have hstep : lexStep .idle c = some (.idle, [.punct c]) := by
    simp [lexStep, lexIdle, hspace, hpunct]
  exact lex_cons hstep cs

theorem Lexes.append {a b : List Char} {as bs : List Token} (ha : Lexes a as)
    (hb : Lexes b bs) (hdelimited : ∀ cs, Delimited cs → Delimited (b ++ cs)) :
    Lexes (a ++ b) (as ++ bs) := by
  intro cs hcs
  rw [List.append_assoc, ha _ (hdelimited cs hcs), hb cs hcs, Option.map_map]
  simp [Function.comp_def]

theorem isJsonSpace_lineBreak (hgap : ∀ c ∈ gap, isJsonSpace c = true) (depth : ℕ) :
    ∀ c ∈ lineBreak gap depth, isJsonSpace c = true := by
  intro c hc
  unfold lineBreak at hc
  split_ifs at hc
  · cases hc
  · rcases List.mem_cons.mp hc with rfl | hc
    · rfl
    · obtain ⟨line, hline, hmem⟩ := List.mem_flatten.mp hc
      rw [List.eq_of_mem_replicate hline] at hmem
      exact hgap c hmem

theorem delimited_lineBreak (depth : ℕ) {cs : List Char} (h : Delimited cs) :
    Delimited (lineBreak gap depth ++ cs) := by
  unfold lineBreak
  split_ifs
  · exact h
  · exact delimited_cons _ (by decide)

theorem lexes_word {word : List Char} (h : ∀ c ∈ word, isWordChar c = true)
    (hne : word ≠ []) : Lexes word [.word word] := fun _ hcs => lex_word h hne hcs

/-- The parts, separated by commas. -/
theorem lexes_intercalate (hgap : ∀ c ∈ gap, isJsonSpace c = true) (depth : ℕ)
    {parts : List (List Char)} {tokens : List (List Token)}
    (h : List.Forall₂ Lexes parts tokens) :
    Lexes ((',' :: lineBreak gap depth).intercalate parts)
      ([Token.punct ','].intercalate tokens) := by
  induction h with
  | nil =>
      intro cs _
      simp
  | @cons part token parts tokens hpart hrest ih =>
      cases hrest with
      | nil => simpa using hpart
      | @cons part' token' parts' tokens' hpart' hrest' =>
          rw [List.intercalate_cons_cons, List.intercalate_cons_cons]
          have hcomma : Lexes ((',' :: lineBreak gap depth) ++
              (',' :: lineBreak gap depth).intercalate (part' :: parts'))
              ([Token.punct ','] ++
                [Token.punct ','].intercalate (token' :: tokens')) := by
            intro cs hcs
            rw [List.cons_append, List.cons_append, lex_punct rfl rfl,
              List.append_assoc, lex_spaces (isJsonSpace_lineBreak hgap depth),
              ih cs hcs, Option.map_map]
            simp [Function.comp_def]
          have hjoin := hpart.append hcomma fun cs _ => delimited_cons _ (by decide)
          simpa using hjoin

theorem lexes_renderParts (hgap : ∀ c ∈ gap, isJsonSpace c = true) (depth : ℕ)
    {opening closing : Char} (hopening : isJsonSpace opening = false)
    (hopening' : isPunct opening = true) (hclosing : isJsonSpace closing = false)
    (hclosing' : isPunct closing = true)
    {parts : List (List Char)} {tokens : List (List Token)}
    (h : List.Forall₂ Lexes parts tokens) :
    Lexes (renderParts gap depth opening closing parts)
      (bracketTokens opening closing tokens) := by
  intro cs _
  have hclose : Delimited (closing :: cs) := by
    apply delimited_cons
    simp [isWordChar, hclosing']
  unfold renderParts bracketTokens
  split_ifs with hparts
  · subst hparts
    cases h
    rw [List.cons_append, lex_punct hopening hopening', List.singleton_append,
      lex_punct hclosing hclosing', Option.map_map]
    simp [Function.comp_def]
  · simp only [List.cons_append, List.append_assoc, List.nil_append]
    rw [lex_punct hopening hopening', lex_spaces (isJsonSpace_lineBreak hgap _),
      lexes_intercalate hgap (depth + 1) h _ (delimited_lineBreak depth hclose),
      lex_spaces (isJsonSpace_lineBreak hgap depth), lex_punct hclosing hclosing',
      Option.map_map, Option.map_map]
    simp [Function.comp_def]

mutual

/-- The text of a value is lexed to its tokens, whatever the gap. -/
theorem lexes_render (hgap : ∀ c ∈ gap, isJsonSpace c = true) (depth : ℕ) :
    ∀ v : Json, Lexes (v.render gap depth) v.tokens
  | .null => (lexes_word (forall_mem_of_all (by decide)) (by decide) : Lexes "null".toList _)
  | .bool true => (lexes_word (forall_mem_of_all (by decide)) (by decide) : Lexes "true".toList _)
  | .bool false => (lexes_word (forall_mem_of_all (by decide)) (by decide) : Lexes "false".toList _)
  | .num value => lexes_word (isWordChar_stringify value) value.stringify_ne_nil
  | .str value => fun cs _ => lex_quote value cs
  | .arr items => by
      rw [Json.render, Json.tokens]
      exact lexes_renderParts hgap depth rfl rfl rfl rfl
        (lexes_renderItems hgap (depth + 1) items)
  | .obj members => by
      rw [Json.render, Json.tokens]
      exact lexes_renderParts hgap depth rfl rfl rfl rfl
        (lexes_renderMembers hgap (depth + 1) members)

theorem lexes_renderItems (hgap : ∀ c ∈ gap, isJsonSpace c = true) (depth : ℕ) :
    ∀ items : List Json,
      List.Forall₂ Lexes (Json.renderItems gap depth items) (Json.itemTokens items)
  | [] => .nil
  | item :: items =>
      .cons (lexes_render hgap depth item) (lexes_renderItems hgap depth items)

theorem lexes_renderMembers (hgap : ∀ c ∈ gap, isJsonSpace c = true) (depth : ℕ) :
    ∀ members : List (String × Json),
      List.Forall₂ Lexes (Json.renderMembers gap depth members)
        (Json.memberTokens members)
  | [] => .nil
  | (key, value) :: members => by
      have hvalue := lexes_render hgap depth value
      have hmember : Lexes ((quote key).toList ++ colonText gap ++
          value.render gap depth) (.text key :: .punct ':' :: value.tokens) := by
        intro cs hcs
        rw [List.append_assoc, List.append_assoc, lex_quote]
        unfold colonText
        split_ifs
        · rw [List.singleton_append, lex_punct rfl rfl, hvalue cs hcs,
            Option.map_map, Option.map_map]
          simp [Function.comp_def]
        · rw [List.cons_append, lex_punct rfl rfl, lex_spaces (forall_mem_of_all (by decide)),
            hvalue cs hcs, Option.map_map, Option.map_map]
          simp [Function.comp_def]
      exact .cons hmember (lexes_renderMembers hgap depth members)

end

end Lexing

/-! ## Parsing the tokens -/

/-- The first token of a value closes nothing. -/
theorem exists_tokens_cons (v : Json) : ∃ token rest, v.tokens = token :: rest ∧
    token ≠ .punct ']' ∧ token ≠ .punct '\x7d' := by
  cases v with
  | null => exact ⟨_, _, rfl, by simp, by simp⟩
  | bool value => exact ⟨_, _, rfl, by simp, by simp⟩
  | num value => exact ⟨_, _, rfl, by simp, by simp⟩
  | str value => exact ⟨_, _, rfl, by simp, by simp⟩
  | arr items => exact ⟨_, _, rfl, by simp, by simp⟩
  | obj members => exact ⟨_, _, rfl, by simp, by simp⟩

theorem parseValue_array {fuel : ℕ} {token : Token} {rest : List Token}
    (h : token ≠ .punct ']') :
    parseValue (fuel + 1) (.punct '[' :: token :: rest) =
      parseItems fuel [] (token :: rest) := by
  rw [parseValue]
  intro tail htail
  exact h (List.cons.inj htail).1

theorem parseValue_object {fuel : ℕ} {token : Token} {rest : List Token}
    (h : token ≠ .punct '\x7d') :
    parseValue (fuel + 1) (.punct '\x7b' :: token :: rest) =
      parseMembers fuel [] (token :: rest) := by
  rw [parseValue]
  intro tail htail
  exact h (List.cons.inj htail).1

theorem parseItems_next {fuel : ℕ} {read : List Json} {tokens rest : List Token}
    {item : Json} (h : parseValue fuel tokens = some (item, .punct ',' :: rest)) :
    parseItems (fuel + 1) read tokens = parseItems fuel (read ++ [item]) rest := by
  rw [parseItems, h]
  rfl

theorem parseItems_last {fuel : ℕ} {read : List Json} {tokens rest : List Token}
    {item : Json} (h : parseValue fuel tokens = some (item, .punct ']' :: rest)) :
    parseItems (fuel + 1) read tokens = some (.arr (read ++ [item]), rest) := by
  rw [parseItems, h]
  rfl

theorem parseMembers_next {fuel : ℕ} {read : List (String × Json)} {key : String}
    {tokens rest : List Token} {value : Json}
    (h : parseValue fuel tokens = some (value, .punct ',' :: rest)) :
    parseMembers (fuel + 1) read (.text key :: .punct ':' :: tokens) =
      parseMembers fuel (setMember read key value) rest := by
  rw [parseMembers, h]
  rfl

theorem parseMembers_last {fuel : ℕ} {read : List (String × Json)} {key : String}
    {tokens rest : List Token} {value : Json}
    (h : parseValue fuel tokens = some (value, .punct '\x7d' :: rest)) :
    parseMembers (fuel + 1) read (.text key :: .punct ':' :: tokens) =
      some (.obj (propertyOrder (setMember read key value)), rest) := by
  rw [parseMembers, h]
  rfl

/-- With enough fuel, the tokens are read as the copy of the value. -/
def Parses (v : Json) : Prop :=
  ∀ fuel rest, v.tokens.length ≤ fuel →
    parseValue fuel (v.tokens ++ rest) = some (v.reread, rest)

theorem parseItems_tokens {items : List Json} (h : ∀ v ∈ items, Parses v)
    (hne : items ≠ []) (read : List Json) (rest : List Token) (fuel : ℕ)
    (hfuel : ([Token.punct ','].intercalate (Json.itemTokens items)).length + 1 ≤
      fuel) :
    parseItems fuel read ([Token.punct ','].intercalate (Json.itemTokens items) ++
      .punct ']' :: rest) = some (.arr (read ++ Json.rereadItems items), rest) := by
  induction items generalizing read fuel with
  | nil => exact absurd rfl hne
  | cons v items ih =>
      obtain ⟨hv, hitems⟩ := List.forall_mem_cons.mp h
      obtain ⟨fuel, rfl⟩ : ∃ n, fuel = n + 1 := ⟨fuel - 1, by omega⟩
      cases items with
      | nil =>
          simp only [Json.itemTokens, List.intercalate_singleton] at hfuel ⊢
          exact parseItems_last (hv fuel _ (by omega))
      | cons w items =>
          simp only [Json.itemTokens, List.intercalate_cons_cons,
            List.length_append, List.length_singleton] at hfuel ih ⊢
          rw [List.append_assoc, List.append_assoc, List.singleton_append,
            parseItems_next (hv fuel _ (by omega)),
            ih hitems (List.cons_ne_nil _ _) _ _ (by omega), List.append_assoc,
            List.singleton_append]
          rfl

theorem setMember_new {members : List (String × Json)} {key : String} (value : Json)
    (h : key ∉ members.map Prod.fst) :
    setMember members key value = members ++ [(key, value)] := by
  unfold setMember
  rw [if_neg]
  intro hany
  obtain ⟨m, hm, hkey⟩ := List.any_eq_true.mp hany
  exact h (List.mem_map.mpr ⟨m, hm, by simpa using hkey⟩)

theorem parseMembers_tokens {members : List (String × Json)}
    (h : ∀ m ∈ members, Parses m.2) (hne : members ≠ [])
    (read : List (String × Json))
    (hnodup : (read.map Prod.fst ++ members.map Prod.fst).Nodup) (rest : List Token)
    (fuel : ℕ)
    (hfuel : ([Token.punct ','].intercalate
      (Json.memberTokens members)).length + 1 ≤ fuel) :
    parseMembers fuel read ([Token.punct ','].intercalate
        (Json.memberTokens members) ++ .punct '\x7d' :: rest) =
      some (.obj (propertyOrder (read ++ Json.rereadMembers members)), rest) := by
  induction members generalizing read fuel with
  | nil => exact absurd rfl hne
  | cons m members ih =>
      obtain ⟨key, value⟩ := m
      obtain ⟨hvalue, hmembers⟩ := List.forall_mem_cons.mp h
      obtain ⟨fuel, rfl⟩ : ∃ n, fuel = n + 1 := ⟨fuel - 1, by omega⟩
      have hnew : key ∉ read.map Prod.fst := by
        have hdisjoint := (List.nodup_append.mp hnodup).2.2
        intro hmem
        exact hdisjoint key hmem key List.mem_cons_self rfl
      cases members with
      | nil =>
          simp only [Json.memberTokens, List.intercalate_singleton,
            List.length_cons] at hfuel ⊢
          rw [List.cons_append, List.cons_append,
            parseMembers_last (hvalue fuel _ (by dsimp only; omega)),
            setMember_new value.reread hnew]
          rfl
      | cons m' members =>
          have hkeys : ((read ++ [(key, value.reread)]).map Prod.fst ++
              (m' :: members).map Prod.fst).Nodup := by simpa using hnodup
          simp only [Json.memberTokens, List.intercalate_cons_cons,
            List.length_append, List.length_cons, List.length_nil] at hfuel ih ⊢
          simp only [List.append_assoc, List.cons_append, List.nil_append] at ih ⊢
          rw [parseMembers_next (hvalue fuel _ (by dsimp only; omega)),
            setMember_new value.reread hnew]
          have hrest := ih hmembers (List.cons_ne_nil _ _) _ hkeys fuel (by omega)
          rw [List.append_assoc, List.singleton_append] at hrest
          exact hrest

theorem itemTokens_ne_nil {items : List Json} (h : items ≠ []) : ∃ token rest,
    [Token.punct ','].intercalate (Json.itemTokens items) = token :: rest ∧
      token ≠ .punct ']' := by
  obtain ⟨v, items, rfl⟩ := List.exists_cons_of_ne_nil h
  obtain ⟨token, rest, htokens, hclosing, -⟩ := exists_tokens_cons v
  cases items with
  | nil =>
      rw [Json.itemTokens, htokens, Json.itemTokens, List.intercalate_singleton]
      exact ⟨token, rest, rfl, hclosing⟩
  | cons w items =>
      rw [Json.itemTokens, htokens, Json.itemTokens, List.intercalate_cons_cons]
      exact ⟨token, _, rfl, hclosing⟩

theorem memberTokens_ne_nil {members : List (String × Json)} (h : members ≠ []) :
    ∃ key rest, [Token.punct ','].intercalate (Json.memberTokens members) =
      .text key :: rest := by
  obtain ⟨⟨key, value⟩, members, rfl⟩ := List.exists_cons_of_ne_nil h
  cases members with
  | nil =>
      rw [Json.memberTokens, Json.memberTokens, List.intercalate_singleton]
      exact ⟨key, _, rfl⟩
  | cons m members =>
      rw [Json.memberTokens, Json.memberTokens, List.intercalate_cons_cons]
      exact ⟨key, _, rfl⟩

theorem parses_array {items : List Json} (h : ∀ v ∈ items, Parses v) :
    Parses (.arr items) := by
  intro fuel rest hfuel
  rw [Json.tokens, bracketTokens] at hfuel ⊢
  obtain ⟨fuel, rfl⟩ : ∃ n, fuel = n + 1 := by
    refine ⟨fuel - 1, ?_⟩
    simp only [List.cons_append, List.length_cons] at hfuel
    omega
  by_cases hne : items = []
  · subst hne
    rfl
  · obtain ⟨token, tokens, htokens, hclosing⟩ := itemTokens_ne_nil hne
    have hitems := parseItems_tokens h hne [] rest fuel (by
      simp only [List.cons_append, List.length_cons, List.length_append,
        List.length_nil] at hfuel
      omega)
    rw [htokens] at hitems ⊢
    simp only [List.cons_append, List.append_assoc, List.nil_append] at hitems ⊢
    rw [parseValue_array hclosing]
    exact hitems

theorem parses_object {members : List (String × Json)}
    (h : ∀ m ∈ members, Parses m.2) (hnodup : (members.map Prod.fst).Nodup) :
    Parses (.obj members) := by
  intro fuel rest hfuel
  rw [Json.tokens, bracketTokens] at hfuel ⊢
  obtain ⟨fuel, rfl⟩ : ∃ n, fuel = n + 1 := by
    refine ⟨fuel - 1, ?_⟩
    simp only [List.cons_append, List.length_cons] at hfuel
    omega
  by_cases hne : members = []
  · subst hne
    have hempty : (Json.obj []).reread = .obj [] := by
      simp [Json.reread, Json.rereadMembers, propertyOrder]
    rw [hempty]
    rfl
  · obtain ⟨key, tokens, htokens⟩ := memberTokens_ne_nil hne
    have hmembers := parseMembers_tokens h hne [] hnodup rest fuel (by
        simp only [List.cons_append, List.length_cons, List.length_append,
          List.length_nil] at hfuel
        omega)
    rw [htokens] at hmembers ⊢
    simp only [List.cons_append, List.append_assoc, List.nil_append] at hmembers ⊢
    rw [parseValue_object (by simp)]
    exact hmembers

theorem parseValue_word {chars : List Char} {v : Json} (h : wordValue chars = some v)
    (fuel : ℕ) (rest : List Token) :
    parseValue fuel (.word chars :: rest) = some (v, rest) := by
  cases fuel with
  | zero => rw [parseValue, h, Option.map_some]
  | succ fuel => rw [parseValue, h, Option.map_some]

mutual

theorem parses : ∀ v : Json, v.Decoded → Parses v
  | .null, _ => fun fuel rest _ => parseValue_word rfl fuel rest
  | .bool true, _ => fun fuel rest _ => parseValue_word rfl fuel rest
  | .bool false, _ => fun fuel rest _ => parseValue_word rfl fuel rest
  | .num value, h => fun fuel rest _ => by
      cases hfinite : value.isFinite with
      | true =>
          rw [Json.reread, if_pos hfinite]
          exact parseValue_word (JsNumber.Readable.wordValue (h hfinite)) fuel rest
      | false =>
          have hnull : value.stringify = "null" := by
            rw [JsNumber.stringify, hfinite]
            rfl
          rw [Json.reread, hfinite, Json.tokens, hnull]
          exact parseValue_word rfl fuel rest
  | .str value, _ => fun fuel rest _ => by
      cases fuel with
      | zero => rfl
      | succ fuel => rfl
  | .arr items, h => parses_array (parses_items items h)
  | .obj members, h => parses_object (parses_members members h.2) h.1

theorem parses_items : ∀ items : List Json, Json.DecodedItems items →
    ∀ v ∈ items, Parses v
  | [], _ => by
      intro v hv
      cases hv
  | item :: items, h =>
      List.forall_mem_cons.mpr ⟨parses item h.1, parses_items items h.2⟩

theorem parses_members : ∀ members : List (String × Json),
    Json.DecodedMembers members → ∀ m ∈ members, Parses m.2
  | [], _ => by
      intro m hm
      cases hm
  | (_, value) :: members, h =>
      List.forall_mem_cons.mpr ⟨parses value h.1, parses_members members h.2⟩

end

/-! ## The round trip -/

theorem parseJson_of_lex {text : List Char} {v : Json} (hv : v.Decoded)
    (h : lex .idle text = some v.tokens) : parseJson text = some v.reread := by
  have hparse := parses v hv (2 * v.tokens.length + 1) [] (by omega)
  rw [List.append_nil] at hparse
  rw [parseJson, h]
  dsimp only
  rw [hparse]

/-- The copy of a value is read from its text, whatever white space the gap is made of
and wherever white space follows. -/
theorem parseJson_render_decoded {gap trailing : List Char} {v : Json}
    (hgap : ∀ c ∈ gap, isJsonSpace c = true)
    (htrailing : ∀ c ∈ trailing, isJsonSpace c = true) (hv : v.Decoded) :
    parseJson (v.render gap 0 ++ trailing) = some v.reread := by
  have hdelimited : Delimited trailing := by
    intro c hc
    have hspace := htrailing c (List.mem_of_mem_head? hc)
    simp [isWordChar, hspace]
  have hend : lex .idle trailing = some [] := by
    have hspaces := lex_spaces htrailing []
    rw [List.append_nil] at hspaces
    rw [hspaces]
    rfl
  apply parseJson_of_lex hv
  rw [lexes_render hgap 0 v trailing hdelimited, hend]
  simp

/-- A value that `JSON.parse` can return is read back itself. -/
theorem parseJson_render {gap trailing : List Char} {v : Json}
    (hgap : ∀ c ∈ gap, isJsonSpace c = true)
    (htrailing : ∀ c ∈ trailing, isJsonSpace c = true) (hv : v.WellFormed) :
    parseJson (v.render gap 0 ++ trailing) = some v := by
  rw [parseJson_render_decoded hgap htrailing hv.decoded, hv.reread]

theorem parseJson_stringify_decoded {v : Json} (hv : v.Decoded) :
    parseJson v.stringify.toList = some v.reread := by
  have hparse := @parseJson_render_decoded [] [] v (by simp) (by simp) hv
  rw [render_nil_gap 0, List.append_nil] at hparse
  exact hparse

/-- `JSON.parse(JSON.stringify(v))`, also with white space behind the text. -/
theorem parseJson_stringify {v : Json} (hv : v.WellFormed) {trailing : List Char}
    (htrailing : ∀ c ∈ trailing, isJsonSpace c = true) :
    parseJson (v.stringify.toList ++ trailing) = some v := by
  rw [← render_nil_gap 0]
  exact parseJson_render (by simp) htrailing hv

/-- A text with tokens behind a value is no JSON text. -/
theorem parseJson_trailing {text : List Char} {v : Json} (hv : v.WellFormed)
    {more : List Token} (h : lex .idle text = some (v.tokens ++ more))
    (hne : more ≠ []) : parseJson text = none := by
  obtain ⟨token, rest, rfl⟩ := List.exists_cons_of_ne_nil hne
  have hparse := parses v hv.decoded (2 * (v.tokens ++ token :: rest).length + 1)
    (token :: rest) (by rw [List.length_append]; omega)
  rw [parseJson, h]
  dsimp only
  rw [hparse]

/-- Two values in one text are no JSON text. -/
theorem parseJson_two {gap gap' cs : List Char} {v w : Json}
    (hgap : ∀ c ∈ gap, isJsonSpace c = true) (hgap' : ∀ c ∈ gap', isJsonSpace c = true)
    (hv : v.WellFormed) (hcs : Delimited cs) :
    parseJson (v.render gap 0 ++ '\n' :: (w.render gap' 0 ++ cs)) = none := by
  have hbreak : lex .idle ('\n' :: (w.render gap' 0 ++ cs)) =
      lex .idle (w.render gap' 0 ++ cs) := lex_cons_silent rfl _
  have hlex := lexes_render hgap 0 v ('\n' :: (w.render gap' 0 ++ cs))
    (fun c hc => by
      obtain rfl : '\n' = c := by simpa using hc
      rfl)
  rw [hbreak, lexes_render hgap' 0 w cs hcs] at hlex
  cases hrest : lex .idle cs with
  | none =>
      rw [hrest] at hlex
      rw [parseJson, hlex]
      rfl
  | some tokens =>
      rw [hrest] at hlex
      apply parseJson_trailing hv hlex
      obtain ⟨token, more, htokens, -, -⟩ := exists_tokens_cons w
      simp [htokens]

end AgentSkeptic.Support

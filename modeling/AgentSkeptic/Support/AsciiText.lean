import AgentSkeptic.Support.JsonRoundTrip

/-!
# JSON texts in ASCII

`json.dumps` escapes every character that is not printable ASCII, characters beyond U+FFFF as
two surrogates.  A JSON reader reads the text back (`lex_asciiQuote`).
-/

namespace AgentSkeptic.Support

/-- `\uXXXX`. -/
def unicodeEscape (unit : ℕ) : List Char :=
  ['\\', 'u', hexDigit (unit / 4096), hexDigit (unit / 256 % 16), hexDigit (unit / 16 % 16),
    hexDigit (unit % 16)]

def asciiQuoteChar (c : Char) : List Char :=
  if c.toNat < 127 then quoteChar c else (utf16Char c).flatMap unicodeEscape

def asciiQuote (s : String) : String :=
  String.ofList ('"' :: s.toList.flatMap asciiQuoteChar ++ ['"'])

example : asciiQuote "é😀" = "\"\\u00e9\\ud83d\\ude00\"" := by
  decide

theorem lexStep_hexDigit {units : List ℕ} {owed unit digit : ℕ} (howed : 1 < owed)
    (hdigit : digit < 16) : lexStep (.unicode units owed unit) (hexDigit digit) =
      some (.unicode units (owed - 1) (unit * 16 + digit), []) := by
  simp [lexStep, hexValue?_hexDigit hdigit, Nat.not_le_of_lt howed]

theorem lexStep_lastHexDigit {units : List ℕ} {unit digit : ℕ} (hdigit : digit < 16) :
    lexStep (.unicode units 1 unit) (hexDigit digit) =
      some (.text ((unit * 16 + digit) :: units), []) := by
  simp [lexStep, hexValue?_hexDigit hdigit]

theorem lex_unicodeEscape {unit : ℕ} (hunit : unit < 65536) (units : List ℕ)
    (cs : List Char) :
    lex (.text units) (unicodeEscape unit ++ cs) = lex (.text (unit :: units)) cs := by
  have hsum : (((0 * 16 + unit / 4096) * 16 + unit / 256 % 16) * 16 + unit / 16 % 16) * 16 +
      unit % 16 = unit := by omega
  simp only [unicodeEscape, List.cons_append, List.nil_append]
  rw [lex_cons_silent rfl, lex_cons_silent rfl,
    lex_cons_silent (lexStep_hexDigit (by decide) (by omega)),
    lex_cons_silent (lexStep_hexDigit (by decide) (by omega)),
    lex_cons_silent (lexStep_hexDigit (by decide) (by omega)),
    lex_cons_silent (lexStep_lastHexDigit (by omega)), hsum]

theorem lex_unicodeEscapes {escaped : List ℕ} (h : ∀ unit ∈ escaped, unit < 65536)
    (units : List ℕ) (cs : List Char) :
    lex (.text units) (escaped.flatMap unicodeEscape ++ cs) =
      lex (.text (escaped.reverse ++ units)) cs := by
  induction escaped generalizing units with
  | nil => rfl
  | cons unit escaped ih =>
      have hrest : ∀ u ∈ escaped, u < 65536 := fun u hu => h u (List.mem_cons_of_mem _ hu)
      rw [List.flatMap_cons, List.append_assoc,
        lex_unicodeEscape (h unit List.mem_cons_self), ih hrest]
      simp

theorem utf16Char_lt (c : Char) : ∀ unit ∈ utf16Char c, unit < 65536 := by
  have hrange := toNat_ranges c
  intro unit hunit
  unfold utf16Char at hunit
  split_ifs at hunit
  · rw [List.mem_singleton.mp hunit]
    omega
  · rcases List.mem_cons.mp hunit with rfl | hunit
    · omega
    · rw [List.mem_singleton.mp hunit]
      omega

theorem quotes_asciiQuoteChar : Quotes asciiQuoteChar := by
  intro units c cs
  unfold asciiQuoteChar
  split_ifs
  · exact lex_quoteChar units c cs
  · exact lex_unicodeEscapes (utf16Char_lt c) units cs

/-- A text in ASCII is lexed as the text. -/
theorem lex_asciiQuote (s : String) (cs : List Char) :
    lex .idle ((asciiQuote s).toList ++ cs) = (lex .idle cs).map ([.text s] ++ ·) := by
  rw [asciiQuote, String.toList_ofList]
  exact lex_quoted quotes_asciiQuoteChar s cs

end AgentSkeptic.Support

import AgentSkeptic.Support.Json

/-!
# Reading JSON from bytes

`Buffer.toString("utf8")`, `JSON.parse` and the LF-canonical form of a text.
`JSON.parse` is a lexer, one character at a time, and a parser over its tokens.
Since a line break is white space to the lexer and an error inside a string,
`parseJson_lfCanonical` holds: a text that parses reads the same after every
CR LF is replaced by LF.
-/

namespace AgentSkeptic.Support

abbrev Bytes := List UInt8

/-! ## UTF-8 -/

/-- What the decoder has read of a character: the bytes still owed, the code
point so far and the range of the next byte. -/
structure Utf8State where
  owed : ℕ
  point : ℕ
  low : ℕ
  high : ℕ

def Utf8State.start : Utf8State := ⟨0, 0, 0x80, 0xBF⟩

/-- The first byte of a character: the characters it completes and the state. -/
def utf8First (b : ℕ) : List Char × Utf8State :=
  if b < 0x80 then ([Char.ofNat b], .start)
  else if 0xC2 ≤ b ∧ b ≤ 0xDF then ([], ⟨1, b - 0xC0, 0x80, 0xBF⟩)
  else if 0xE0 ≤ b ∧ b ≤ 0xEF then
    ([], ⟨2, b - 0xE0, if b = 0xE0 then 0xA0 else 0x80,
      if b = 0xED then 0x9F else 0xBF⟩)
  else if 0xF0 ≤ b ∧ b ≤ 0xF4 then
    ([], ⟨3, b - 0xF0, if b = 0xF0 then 0x90 else 0x80,
      if b = 0xF4 then 0x8F else 0xBF⟩)
  else (['\uFFFD'], .start)

def utf8Step (state : Utf8State) (b : ℕ) : List Char × Utf8State :=
  if state.owed = 0 then utf8First b
  else if state.low ≤ b ∧ b ≤ state.high then
    let point := state.point * 64 + (b - 0x80)
    if state.owed = 1 then ([Char.ofNat point], .start)
    else ([], ⟨state.owed - 1, point, 0x80, 0xBF⟩)
  else
    -- The byte that breaks a sequence off starts the next character.
    let (cs, next) := utf8First b
    ('\uFFFD' :: cs, next)

def utf8DecodeFrom (state : Utf8State) : Bytes → List Char
  | [] => if state.owed = 0 then [] else ['\uFFFD']
  | b :: bs =>
      let (cs, next) := utf8Step state b.toNat
      cs ++ utf8DecodeFrom next bs

/-- `bytes.toString("utf8")`. -/
def utf8Decode (bytes : Bytes) : List Char := utf8DecodeFrom .start bytes

/-- `Buffer.from(text, "utf8")`. -/
def utf8Encode (text : List Char) : Bytes := text.flatMap String.utf8EncodeChar

theorem utf8Encode_injective : Function.Injective utf8Encode := by
  intro text text' h
  have hbytes : (String.ofList text).toByteArray =
      (String.ofList text').toByteArray := by
    rw [String.toByteArray_ofList, String.toByteArray_ofList]
    exact congrArg List.toByteArray h
  exact String.ofList_inj.mp (String.toByteArray_inj.mp hbytes)

/-- `text.replace(/\r\n/g, "\n")`. -/
def lfCanonical : List Char → List Char
  | [] => []
  | '\r' :: '\n' :: rest => '\n' :: lfCanonical rest
  | c :: rest => c :: lfCanonical rest

/-! ## Tokens -/

inductive Token where
  | punct (c : Char)
  | text (value : String)
  | word (chars : List Char)

/-- Where the lexer stands; texts and words are kept in reverse, texts as UTF-16
code units. -/
inductive LexState where
  | idle
  | word (chars : List Char)
  | text (units : List ℕ)
  | escape (units : List ℕ)
  | unicode (units : List ℕ) (owed : ℕ) (unit : ℕ)

def isJsonSpace (c : Char) : Bool :=
  c == ' ' || c == '\t' || c == '\n' || c == '\r'

def isPunct (c : Char) : Bool :=
  c == '{' || c == '}' || c == '[' || c == ']' || c == ':' || c == ','

def hexValue? (c : Char) : Option ℕ :=
  if c.isDigit then some (c.toNat - '0'.toNat)
  else if 'a' ≤ c ∧ c ≤ 'f' then some (c.toNat - 'a'.toNat + 10)
  else if 'A' ≤ c ∧ c ≤ 'F' then some (c.toNat - 'A'.toNat + 10)
  else none

/-- Characters of UTF-16 code units; an unpaired surrogate reads as U+FFFD. -/
def ofUtf16 : List ℕ → List Char
  | [] => []
  | [unit] => [if 0xD800 ≤ unit ∧ unit ≤ 0xDFFF then '\uFFFD' else Char.ofNat unit]
  | unit :: next :: rest =>
      if 0xD800 ≤ unit ∧ unit ≤ 0xDBFF ∧ 0xDC00 ≤ next ∧ next ≤ 0xDFFF then
        Char.ofNat (0x10000 + (unit - 0xD800) * 0x400 + (next - 0xDC00)) ::
          ofUtf16 rest
      else
        (if 0xD800 ≤ unit ∧ unit ≤ 0xDFFF then '\uFFFD' else Char.ofNat unit) ::
          ofUtf16 (next :: rest)

/-- A character outside texts, after the tokens that it ends. -/
def lexIdle (c : Char) (ended : List Token) : LexState × List Token :=
  if isJsonSpace c then (.idle, ended)
  else if isPunct c then (.idle, ended ++ [.punct c])
  else if c = '"' then (.text [], ended)
  else (.word [c], ended)

def lexEscape (units : List ℕ) : Char → Option LexState
  | '"' => some (.text ('"'.toNat :: units))
  | '\\' => some (.text ('\\'.toNat :: units))
  | '/' => some (.text ('/'.toNat :: units))
  | 'b' => some (.text (8 :: units))
  | 'f' => some (.text (12 :: units))
  | 'n' => some (.text (10 :: units))
  | 'r' => some (.text (13 :: units))
  | 't' => some (.text (9 :: units))
  | 'u' => some (.unicode units 4 0)
  | _ => none

def lexStep (state : LexState) (c : Char) : Option (LexState × List Token) :=
  match state with
  | .idle => some (lexIdle c [])
  | .word chars =>
      if isJsonSpace c ∨ isPunct c ∨ c = '"' then
        some (lexIdle c [.word chars.reverse])
      else some (.word (c :: chars), [])
  | .text units =>
      if c = '"' then
        some (.idle, [.text (String.ofList (ofUtf16 units.reverse))])
      else if c = '\\' then some (.escape units, [])
      else if c.toNat < 32 then none
      else some (.text ((utf16Char c).reverse ++ units), [])
  | .escape units => (lexEscape units c).map (·, [])
  | .unicode units owed unit => do
      let digit ← hexValue? c
      let unit := unit * 16 + digit
      if owed ≤ 1 then some (.text (unit :: units), [])
      else some (.unicode units (owed - 1) unit, [])

def lex (state : LexState) : List Char → Option (List Token)
  | [] =>
      match state with
      | .idle => some []
      | .word chars => some [.word chars.reverse]
      | _ => none
  | c :: cs =>
      match lexStep state c with
      | none => none
      | some (next, tokens) => (lex next cs).map (tokens ++ ·)

/-! ## `JSON.parse` -/

def isIndexKey (key : String) : Bool :=
  (arrayIndex? key).any (· < 2 ^ 32 - 1)

/-- A later member of the same key replaces the value of the earlier one. -/
def setMember (members : List (String × Json)) (key : String) (value : Json) :
    List (String × Json) :=
  if members.any (·.1 == key) then
    members.map fun m => if m.1 = key then (key, value) else m
  else members ++ [(key, value)]

/-- Property order: integer keys ascending, then insertion order. -/
def propertyOrder (members : List (String × Json)) : List (String × Json) :=
  (members.filter (isIndexKey ·.1)).mergeSort
      (fun a b => (arrayIndex? a.1).getD 0 ≤ (arrayIndex? b.1).getD 0) ++
    members.filter (!isIndexKey ·.1)

def wordValue (chars : List Char) : Option Json :=
  if chars = ['n', 'u', 'l', 'l'] then some .null
  else if chars = ['t', 'r', 'u', 'e'] then some (.bool true)
  else if chars = ['f', 'a', 'l', 's', 'e'] then some (.bool false)
  else (JsNumber.parse? chars).map .num

mutual

def parseValue : ℕ → List Token → Option (Json × List Token)
  | _, .text value :: rest => some (.str value, rest)
  | _, .word chars :: rest => (wordValue chars).map (·, rest)
  | _ + 1, .punct '[' :: .punct ']' :: rest => some (.arr [], rest)
  | _ + 1, .punct '{' :: .punct '}' :: rest => some (.obj [], rest)
  | fuel + 1, .punct '[' :: rest => parseItems fuel [] rest
  | fuel + 1, .punct '{' :: rest => parseMembers fuel [] rest
  | _, _ => none

def parseItems : ℕ → List Json → List Token → Option (Json × List Token)
  | 0, _, _ => none
  | fuel + 1, items, tokens =>
      match parseValue fuel tokens with
      | some (item, .punct ',' :: rest) => parseItems fuel (items ++ [item]) rest
      | some (item, .punct ']' :: rest) => some (.arr (items ++ [item]), rest)
      | _ => none

def parseMembers :
    ℕ → List (String × Json) → List Token → Option (Json × List Token)
  | fuel + 1, members, .text key :: .punct ':' :: tokens =>
      match parseValue fuel tokens with
      | some (value, .punct ',' :: rest) =>
          parseMembers fuel (setMember members key value) rest
      | some (value, .punct '}' :: rest) =>
          some (.obj (propertyOrder (setMember members key value)), rest)
      | _ => none
  | _, _, _ => none

end

/-- `JSON.parse`; `none` when it throws. -/
def parseJson (text : List Char) : Option Json :=
  match lex .idle text with
  | none => none
  | some tokens =>
      match parseValue (2 * tokens.length + 1) tokens with
      | some (value, []) => some value
      | _ => none

/-! ## Line breaks -/

/-- Outside texts, CR LF acts as LF does; inside, CR is an error. -/
theorem lexStep_crlf {state next : LexState} {tokens : List Token}
    (h : lexStep state '\r' = some (next, tokens)) :
    lexStep state '\n' = some (next, tokens) ∧
      lexStep next '\n' = some (next, []) := by
  cases state with
  | idle =>
      obtain ⟨rfl, rfl⟩ := Prod.mk.inj (Option.some.inj h)
      exact ⟨rfl, rfl⟩
  | word chars =>
      obtain ⟨rfl, rfl⟩ := Prod.mk.inj (Option.some.inj h)
      exact ⟨rfl, rfl⟩
  | text units => cases h
  | escape units => cases h
  | unicode units owed unit => cases h

theorem lex_lfCanonical {state : LexState} {text : List Char}
    {tokens : List Token} (h : lex state text = some tokens) :
    lex state (lfCanonical text) = some tokens := by
  induction text using lfCanonical.induct generalizing state tokens with
  | case1 => exact h
  | case2 rest ih =>
      rw [lfCanonical]
      rw [lex] at h
      cases hcr : lexStep state '\r' with
      | none =>
          rw [hcr] at h
          cases h
      | some step =>
          obtain ⟨next, first⟩ := step
          obtain ⟨hlf, hsecond⟩ := lexStep_crlf hcr
          rw [hcr] at h
          obtain ⟨tail, htail, rfl⟩ := Option.map_eq_some_iff.mp h
          rw [lex, hsecond] at htail
          obtain ⟨last, hlast, rfl⟩ := Option.map_eq_some_iff.mp htail
          simp only [lex, hlf, ih hlast, Option.map_some, List.nil_append]
  | case3 c rest hcr ih =>
      rw [lfCanonical]
      · rw [lex] at h ⊢
        cases hstep : lexStep state c with
        | none =>
            rw [hstep] at h
            cases h
        | some step =>
            rw [hstep] at h
            obtain ⟨tail, htail, rfl⟩ := Option.map_eq_some_iff.mp h
            simp only [ih htail, Option.map_some]
      · exact hcr

/-- A text that parses reads the same in LF-canonical form. -/
theorem parseJson_lfCanonical {text : List Char} {value : Json}
    (h : parseJson text = some value) :
    parseJson (lfCanonical text) = some value := by
  unfold parseJson at h ⊢
  cases htokens : lex .idle text with
  | none =>
      rw [htokens] at h
      cases h
  | some tokens =>
      rw [htokens] at h
      rw [lex_lfCanonical htokens]
      exact h

end AgentSkeptic.Support

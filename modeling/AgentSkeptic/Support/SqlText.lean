import Mathlib.Data.List.Basic
import Mathlib.Data.Nat.Notation

/-!
# Statements with names and placeholders

A statement is written from fixed texts, names between delimiters, and placeholders for
values that stand apart from the text.  The reader takes a text apart again; of a statement
that is spaced it finds the fixed words, the names as they were given, and the placeholders
in the order of the values (`lexSql_render`).
-/

namespace AgentSkeptic.Support

/-! ## Reading -/

inductive SqlToken where
  | name (id : String)
  | placeholder (number : Option ℕ)
  | word (text : String)
  | symbol (c : Char)
  deriving DecidableEq

def isSqlWordChar (c : Char) : Bool :=
  c.isAlphanum || c == '_' || c == '$' || c == '@'

/-- White space, or a symbol that stands by itself. -/
def isSqlSeparator (c : Char) : Bool :=
  c == ' ' || c == '(' || c == ')' || c == '*' || c == ',' || c == '.' || c == '='

/-- The characters outside of names. -/
def isSqlPlain (c : Char) : Bool :=
  c == '?' || isSqlWordChar c || isSqlSeparator c

/-- The delimiters of a name, of which the closing one is doubled inside. -/
structure Quoting where
  opening : Char
  closing : Char
  opening_special : isSqlPlain opening = false
  closing_special : isSqlPlain closing = false

/-- A word that ends in a number, which is that of a placeholder. -/
def numberedToken (chars digits : List Char) : SqlToken :=
  if digits ≠ [] ∧ digits.all Char.isDigit = true then
    .placeholder (some (Nat.ofDigitChars 10 digits 0))
  else .word (String.ofList chars)

def wordToken : List Char → SqlToken
  | '$' :: digits => numberedToken ('$' :: digits) digits
  | '@' :: 'p' :: digits => numberedToken ('@' :: 'p' :: digits) digits
  | chars => .word (String.ofList chars)

/-- Where the reader stands; words and names are kept in reverse. -/
inductive SqlLexState where
  | idle
  | word (chars : List Char)
  | name (chars : List Char)
  | closing (chars : List Char)

/-- The state and the tokens read so far, the last one first. -/
abbrev SqlLexer := SqlLexState × List SqlToken

/-- The tokens once the text ends; `none` inside a name. -/
def flush : SqlLexer → Option (List SqlToken)
  | (.idle, read) => some read
  | (.word chars, read) => some (wordToken chars.reverse :: read)
  | (.closing chars, read) => some (.name (String.ofList chars.reverse) :: read)
  | (.name _, _) => none

def idleStep (q : Quoting) (read : List SqlToken) (c : Char) : Option SqlLexer :=
  if c = ' ' then some (.idle, read)
  else if c = '?' then some (.idle, .placeholder none :: read)
  else if isSqlWordChar c then some (.word [c], read)
  else if isSqlSeparator c then some (.idle, .symbol c :: read)
  else if c = q.opening then some (.name [], read)
  else none

def sqlStep (q : Quoting) (lexer : SqlLexer) (c : Char) : Option SqlLexer :=
  match lexer with
  | (.idle, read) => idleStep q read c
  | (.word chars, read) =>
      if isSqlWordChar c then some (.word (c :: chars), read)
      else idleStep q (wordToken chars.reverse :: read) c
  | (.name chars, read) =>
      if c = q.closing then some (.closing chars, read)
      else some (.name (c :: chars), read)
  | (.closing chars, read) =>
      -- A second delimiter stands for the character itself.
      if c = q.closing then some (.name (c :: chars), read)
      else idleStep q (.name (String.ofList chars.reverse) :: read) c

def sqlRun (q : Quoting) (lexer : SqlLexer) (text : List Char) : Option SqlLexer :=
  text.foldlM (sqlStep q) lexer

/-- The tokens of a text. -/
def lexSql (q : Quoting) (text : List Char) : Option (List SqlToken) :=
  ((sqlRun q (.idle, []) text).bind flush).map List.reverse

def placeholderNumber? : SqlToken → Option (Option ℕ)
  | .placeholder number => some number
  | _ => none

/-- The placeholders of a statement. -/
def placeholders (tokens : List SqlToken) : List (Option ℕ) :=
  tokens.filterMap placeholderNumber?

def name? : SqlToken → Option String
  | .name id => some id
  | _ => none

/-- The names in a statement. -/
def namesIn (tokens : List SqlToken) : List String := tokens.filterMap name?

/-! ## Writing -/

/-- A name between its delimiters. -/
def quoteName (q : Quoting) (id : String) : List Char :=
  q.opening :: id.toList.flatMap (fun c => if c = q.closing then [c, c] else [c]) ++ [q.closing]

/-- How the placeholders of a statement are written, and numbered. -/
structure PlaceholderStyle where
  text : ℕ → List Char
  number : ℕ → Option ℕ
  reads : ∀ q read n, ∃ lexer, sqlRun q (.idle, read) (text n) = some lexer ∧
    flush lexer = some (.placeholder (number n) :: read)

/-- What a column belongs to: a table, or a table by another name. -/
inductive SqlOwner where
  | table (path : List String)
  | correlation (name : String)

/-- A part of a statement; a bound part is an equality with a placeholder. -/
inductive SqlPart where
  | text (chars : String)
  | names (path : List String)
  | bound (owner : SqlOwner) (column value : String)

/-- Names with points between them. -/
def pathChars (q : Quoting) : List String → List Char
  | [] => []
  | [id] => quoteName q id
  | id :: next :: rest => quoteName q id ++ '.' :: pathChars q (next :: rest)

def pathTokens : List String → List SqlToken
  | [] => []
  | [id] => [.name id]
  | id :: next :: rest => .name id :: .symbol '.' :: pathTokens (next :: rest)

def ownerChars (q : Quoting) : SqlOwner → List Char
  | .table path => pathChars q path
  | .correlation name => name.toList

/-- `"` on both sides. -/
def doubleQuotes : Quoting := ⟨'"', '"', by decide, by decide⟩

/-- The tokens of a text without names. -/
def textTokens (chars : List Char) : List SqlToken :=
  (lexSql doubleQuotes chars).getD []

def ownerTokens : SqlOwner → List SqlToken
  | .table path => pathTokens path
  | .correlation name => textTokens name.toList

section Statements

variable (q : Quoting) (style : PlaceholderStyle)

/-- The text of a statement, with placeholders numbered from `n` on. -/
def render (n : ℕ) : List SqlPart → List Char
  | [] => []
  | .text chars :: parts => chars.toList ++ render n parts
  | .names path :: parts => pathChars q path ++ render n parts
  | .bound owner column _ :: parts =>
      ownerChars q owner ++ '.' :: (quoteName q column ++
        (' ' :: '=' :: ' ' :: (style.text n ++ render (n + 1) parts)))

/-- The tokens that the parts stand for. -/
def partTokens (n : ℕ) : List SqlPart → List SqlToken
  | [] => []
  | .text chars :: parts => textTokens chars.toList ++ partTokens n parts
  | .names path :: parts => pathTokens path ++ partTokens n parts
  | .bound owner column _ :: parts =>
      ownerTokens owner ++ .symbol '.' :: .name column :: .symbol '=' ::
        .placeholder (style.number n) :: partTokens (n + 1) parts

end Statements

/-- The bound values in order. -/
def boundValues : List SqlPart → List String
  | [] => []
  | .bound _ _ value :: parts => value :: boundValues parts
  | _ :: parts => boundValues parts

/-! ## Spaced statements -/

/-- A fixed text ends so that a name may follow. -/
def endsIdle (chars : List Char) : Bool :=
  match sqlRun doubleQuotes (.idle, []) chars with
  | some (.idle, _) => true
  | _ => false

/-- A fixed text starts so that it may follow a name. -/
def startsSeparated (chars : List Char) : Bool := chars.head?.any isSqlSeparator

def isSpacedOwner : SqlOwner → Bool
  | .table path => path ≠ []
  | .correlation name => name.toList.all isSqlWordChar && name.toList ≠ []

/-- Names and placeholders stand between fixed texts that keep them apart; `ready` says
whether a name may follow. -/
def spaced : Bool → List SqlPart → Bool
  | _, [] => true
  | ready, .text chars :: parts =>
      chars.toList.all isSqlPlain && (ready || startsSeparated chars.toList) &&
        spaced (endsIdle chars.toList) parts
  | ready, .names path :: parts => ready && path ≠ [] && spaced false parts
  | ready, .bound owner _ _ :: parts =>
      ready && isSpacedOwner owner && spaced false parts

section Lexing

variable {q : Quoting}

theorem sqlRun_append (lexer : SqlLexer) (text rest : List Char) :
    sqlRun q lexer (text ++ rest) = (sqlRun q lexer text).bind (sqlRun q · rest) :=
  List.foldlM_append

theorem sqlRun_cons (lexer : SqlLexer) (c : Char) (rest : List Char) :
    sqlRun q lexer (c :: rest) = (sqlStep q lexer c).bind (sqlRun q · rest) := rfl

/-! ### Names -/

theorem sqlRun_nameChars (id : List Char) (chars : List Char) (read : List SqlToken) :
    sqlRun q (.name chars, read)
        (id.flatMap fun c => if c = q.closing then [c, c] else [c]) =
      some (.name (id.reverse ++ chars), read) := by
  induction id generalizing chars with
  | nil => rfl
  | cons c id ih =>
      rw [List.flatMap_cons, sqlRun_append]
      have hchar : sqlRun q (.name chars, read) (if c = q.closing then [c, c] else [c]) =
          some (.name (c :: chars), read) := by
        split_ifs with hclosing
        · simp [sqlRun, sqlStep, hclosing]
        · simp [sqlRun, sqlStep, hclosing]
      rw [hchar, Option.bind_some, ih, List.reverse_cons, List.append_assoc]
      rfl

theorem plain_ne {c d : Char} (hc : isSqlPlain c = true) (hd : isSqlPlain d = false) :
    c ≠ d := by
  rintro rfl
  rw [hc] at hd
  cases hd

theorem idleStep_opening (read : List SqlToken) :
    idleStep q read q.opening = some (.name [], read) := by
  have hspecial := q.opening_special
  have hspace : q.opening ≠ ' ' := (plain_ne (by decide) hspecial).symm
  have hmark : q.opening ≠ '?' := (plain_ne (by decide) hspecial).symm
  simp only [isSqlPlain, Bool.or_eq_false_iff] at hspecial
  rw [idleStep, if_neg hspace, if_neg hmark, if_neg (by simp [hspecial.1.2]),
    if_neg (by simp [hspecial.2]), if_pos rfl]

/-- A quoted name is read up to its closing delimiter. -/
theorem sqlRun_quoteName (id : String) (read : List SqlToken) :
    sqlRun q (.idle, read) (quoteName q id) = some (.closing id.toList.reverse, read) := by
  rw [quoteName, List.cons_append, sqlRun_cons, sqlStep, idleStep_opening, Option.bind_some,
    sqlRun_append, sqlRun_nameChars, Option.bind_some, List.append_nil]
  simp [sqlRun, sqlStep]

/-! ### Separators -/

theorem isSqlPlain_separator {c : Char} (h : isSqlSeparator c = true) :
    isSqlPlain c = true := by
  simp [isSqlPlain, h]

theorem not_word_of_separator {c : Char} (h : isSqlSeparator c = true) :
    isSqlWordChar c = false := by
  simp only [isSqlSeparator, Bool.or_eq_true, beq_iff_eq] at h
  rcases h with (((((rfl | rfl) | rfl) | rfl) | rfl) | rfl) | rfl
  · decide
  · decide
  · decide
  · decide
  · decide
  · decide
  · decide

/-- A separator ends what is being read. -/
theorem sqlStep_separator {lexer : SqlLexer} {read : List SqlToken} {c : Char}
    (hflush : flush lexer = some read) (hc : isSqlSeparator c = true) :
    sqlStep q lexer c = sqlStep q (.idle, read) c := by
  obtain ⟨state, before⟩ := lexer
  cases state with
  | idle =>
      obtain rfl := Option.some.inj hflush
      rfl
  | word chars =>
      obtain rfl := Option.some.inj hflush
      have hword := not_word_of_separator hc
      exact if_neg (by simp [hword])
  | name chars => cases hflush
  | closing chars =>
      obtain rfl := Option.some.inj hflush
      have hclosing : c ≠ q.closing := plain_ne (isSqlPlain_separator hc) q.closing_special
      exact if_neg hclosing

/-! ### Fixed texts -/

/-- The reader is outside of names. -/
def Outside : SqlLexer → Prop
  | (.idle, _) => True
  | (.word _, _) => True
  | _ => False

/-- A plain character is read alike whatever the delimiters and the tokens before it. -/
theorem sqlStep_plain {lexer : SqlLexer} (houtside : Outside lexer) {c : Char}
    (hc : isSqlPlain c = true) :
    ∃ next, Outside next ∧ sqlStep doubleQuotes lexer c = some next ∧
      ∀ read, sqlStep q (lexer.1, lexer.2 ++ read) c = some (next.1, next.2 ++ read) := by
  have hidle : ∀ before : List SqlToken, ∃ next, Outside next ∧
      idleStep doubleQuotes before c = some next ∧
        ∀ read, idleStep q (before ++ read) c = some (next.1, next.2 ++ read) := by
    intro before
    unfold idleStep
    by_cases hspace : c = ' '
    · simp only [if_pos hspace]
      exact ⟨(.idle, before), trivial, rfl, fun _ => rfl⟩
    by_cases hmark : c = '?'
    · simp only [if_neg hspace, if_pos hmark]
      exact ⟨(.idle, .placeholder none :: before), trivial, rfl, fun _ => rfl⟩
    by_cases hword : isSqlWordChar c = true
    · simp only [if_neg hspace, if_neg hmark, if_pos hword]
      exact ⟨(.word [c], before), trivial, rfl, fun _ => rfl⟩
    have hseparator : isSqlSeparator c = true := by
      simpa [isSqlPlain, hmark, hword] using hc
    simp only [if_neg hspace, if_neg hmark, if_neg hword, if_pos hseparator]
    exact ⟨(.idle, .symbol c :: before), trivial, rfl, fun _ => rfl⟩
  obtain ⟨state, before⟩ := lexer
  cases state with
  | idle => exact hidle before
  | word chars =>
      by_cases hword : isSqlWordChar c = true
      · refine ⟨(.word (c :: chars), before), trivial, if_pos hword, ?_⟩
        exact fun _ => if_pos hword
      · obtain ⟨next, hnext, hstep, hall⟩ := hidle (wordToken chars.reverse :: before)
        refine ⟨next, hnext, (if_neg hword).trans hstep, ?_⟩
        exact fun read => (if_neg hword).trans (hall read)
  | name chars => cases houtside
  | closing chars => cases houtside

theorem sqlRun_plain {lexer : SqlLexer} (houtside : Outside lexer) {text : List Char}
    (htext : text.all isSqlPlain = true) :
    ∃ next, Outside next ∧ sqlRun doubleQuotes lexer text = some next ∧
      ∀ read, sqlRun q (lexer.1, lexer.2 ++ read) text = some (next.1, next.2 ++ read) := by
  induction text generalizing lexer with
  | nil => exact ⟨lexer, houtside, rfl, fun _ => rfl⟩
  | cons c text ih =>
      rw [List.all_cons, Bool.and_eq_true] at htext
      obtain ⟨next, hnext, hstep, hall⟩ := @sqlStep_plain q lexer houtside c htext.1
      obtain ⟨last, hlast, hrun, hrunAll⟩ := ih hnext htext.2
      refine ⟨last, hlast, ?_, ?_⟩
      · rw [sqlRun_cons, hstep, Option.bind_some, hrun]
      · intro read
        rw [sqlRun_cons, hall, Option.bind_some, hrunAll]

theorem flush_append {lexer : SqlLexer} (houtside : Outside lexer) (read : List SqlToken) :
    flush (lexer.1, lexer.2 ++ read) = (flush lexer).map (· ++ read) := by
  obtain ⟨state, before⟩ := lexer
  cases state with
  | idle => rfl
  | word chars => rfl
  | name chars => cases houtside
  | closing chars => cases houtside

/-- A fixed text is read as its tokens, wherever names may follow. -/
theorem sqlRun_text {text : List Char} (htext : text.all isSqlPlain = true)
    (read : List SqlToken) :
    ∃ lexer, sqlRun q (.idle, read) text = some lexer ∧
      flush lexer = some ((textTokens text).reverse ++ read) ∧
        (endsIdle text = true → lexer.1 = .idle) := by
  obtain ⟨next, hnext, hrun, hall⟩ := @sqlRun_plain q (.idle, []) trivial text htext
  obtain ⟨tokens, htokens⟩ : ∃ tokens, flush next = some tokens := by
    obtain ⟨state, before⟩ := next
    cases state with
    | idle => exact ⟨_, rfl⟩
    | word chars => exact ⟨_, rfl⟩
    | name chars => cases hnext
    | closing chars => cases hnext
  have htextTokens : textTokens text = tokens.reverse := by
    rw [textTokens, lexSql, hrun, Option.bind_some, htokens]
    rfl
  refine ⟨(next.1, next.2 ++ read), hall read, ?_, ?_⟩
  · rw [flush_append hnext, htokens, htextTokens, List.reverse_reverse]
    rfl
  · intro hidle
    unfold endsIdle at hidle
    rw [hrun] at hidle
    obtain ⟨state, before⟩ := next
    cases state with
    | idle => rfl
    | word chars => cases hidle
    | name chars => cases hnext
    | closing chars => cases hnext

/-! ### Names with points -/

theorem sqlRun_point (chars : List Char) (read : List SqlToken) :
    sqlRun q (.closing chars, read) ['.'] =
      some (.idle, .symbol '.' :: .name (String.ofList chars.reverse) :: read) := by
  have hstep : sqlStep q (.closing chars, read) '.' =
      sqlStep q (.idle, .name (String.ofList chars.reverse) :: read) '.' :=
    sqlStep_separator rfl (by decide)
  rw [sqlRun_cons, hstep]
  rfl

theorem sqlRun_path {path : List String} (hne : path ≠ []) (read : List SqlToken) :
    ∃ chars before, sqlRun q (.idle, read) (pathChars q path) = some (.closing chars, before) ∧
      flush (.closing chars, before) = some ((pathTokens path).reverse ++ read) := by
  induction path generalizing read with
  | nil => exact absurd rfl hne
  | cons id rest ih =>
      cases rest with
      | nil =>
          refine ⟨id.toList.reverse, read, sqlRun_quoteName id read, ?_⟩
          simp [flush, pathTokens]
      | cons next rest =>
          obtain ⟨chars, before, hrun, hflush⟩ :=
            ih (List.cons_ne_nil _ _) (.symbol '.' :: .name id :: read)
          refine ⟨chars, before, ?_, ?_⟩
          · have hpoint := @sqlRun_point q id.toList.reverse read
            rw [List.reverse_reverse, String.ofList_toList] at hpoint
            rw [pathChars, sqlRun_append, sqlRun_quoteName, Option.bind_some,
              ← List.singleton_append, sqlRun_append, hpoint, Option.bind_some, hrun]
          · rw [hflush]
            simp [pathTokens]

/-- A column's owner and the point behind it. -/
theorem sqlRun_owner {owner : SqlOwner} (howner : isSpacedOwner owner = true)
    (read : List SqlToken) :
    sqlRun q (.idle, read) (ownerChars q owner ++ ['.']) =
      some (.idle, .symbol '.' :: ((ownerTokens owner).reverse ++ read)) := by
  have hpoint {lexer : SqlLexer} {tokens : List SqlToken}
      (hflush : flush lexer = some tokens) :
      sqlRun q lexer ['.'] = some (.idle, .symbol '.' :: tokens) := by
    rw [sqlRun_cons, sqlStep_separator hflush (by decide)]
    rfl
  rw [sqlRun_append]
  cases owner with
  | table path =>
      have hne : path ≠ [] := of_decide_eq_true howner
      obtain ⟨chars, before, hrun, hflush⟩ := @sqlRun_path q path hne read
      rw [ownerChars, hrun, Option.bind_some, hpoint hflush, ownerTokens]
  | correlation name =>
      rw [isSpacedOwner, Bool.and_eq_true] at howner
      have hplain : name.toList.all isSqlPlain = true := by
        rw [List.all_eq_true] at howner ⊢
        intro c hc
        simp [isSqlPlain, howner.1 c hc]
      obtain ⟨lexer, hrun, hflush, -⟩ := @sqlRun_text q name.toList hplain read
      rw [ownerChars, hrun, Option.bind_some, hpoint hflush, ownerTokens]

/-- An equality with a placeholder. -/
theorem sqlRun_bound (style : PlaceholderStyle) {owner : SqlOwner}
    (howner : isSpacedOwner owner = true) (column : String) (n : ℕ)
    (read : List SqlToken) :
    ∃ lexer, sqlRun q (.idle, read) (ownerChars q owner ++ '.' :: (quoteName q column ++
        (' ' :: '=' :: ' ' :: style.text n))) = some lexer ∧
      flush lexer = some (.placeholder (style.number n) :: .symbol '=' :: .name column ::
        .symbol '.' :: ((ownerTokens owner).reverse ++ read)) := by
  have hequals (chars : List Char) (before : List SqlToken) :
      sqlRun q (.closing chars, before) [' ', '=', ' '] =
        some (.idle, .symbol '=' :: .name (String.ofList chars.reverse) :: before) := by
    have hstep : sqlStep q (.closing chars, before) ' ' =
        sqlStep q (.idle, .name (String.ofList chars.reverse) :: before) ' ' :=
      sqlStep_separator rfl (by decide)
    rw [sqlRun_cons, hstep]
    rfl
  obtain ⟨lexer, hrun, hflush⟩ := style.reads q (.symbol '=' :: .name column ::
    .symbol '.' :: ((ownerTokens owner).reverse ++ read)) n
  refine ⟨lexer, ?_, hflush⟩
  have hsplit : ownerChars q owner ++ '.' :: (quoteName q column ++
      (' ' :: '=' :: ' ' :: style.text n)) = (ownerChars q owner ++ ['.']) ++
        (quoteName q column ++ ([' ', '=', ' '] ++ style.text n)) := by
    simp
  rw [hsplit, sqlRun_append, sqlRun_owner howner, Option.bind_some, sqlRun_append,
    sqlRun_quoteName, Option.bind_some, sqlRun_append, hequals, Option.bind_some,
    List.reverse_reverse, String.ofList_toList, hrun]

/-! ### Statements -/

/-- The reader finds the tokens of the parts, the last of which may be open. -/
theorem sqlRun_render (style : PlaceholderStyle) {parts : List SqlPart} {ready : Bool}
    (hspaced : spaced ready parts = true) {lexer : SqlLexer} {read : List SqlToken}
    (hflush : flush lexer = some read) (hready : ready = true → lexer.1 = .idle) (n : ℕ) :
    ∃ last, sqlRun q lexer (render q style n parts) = some last ∧
      flush last = some ((partTokens style n parts).reverse ++ read) := by
  have hidle : ready = true → lexer = (.idle, read) := by
    intro h
    obtain ⟨state, before⟩ := lexer
    obtain rfl : state = .idle := hready h
    rw [Option.some.inj hflush]
  induction parts generalizing ready lexer read n with
  | nil => exact ⟨lexer, rfl, hflush⟩
  | cons part parts ih =>
      cases part with
      | text chars =>
          simp only [spaced, Bool.and_eq_true] at hspaced
          obtain ⟨⟨hplain, hstart⟩, hparts⟩ := hspaced
          have hfrom : sqlRun q lexer chars.toList = sqlRun q (.idle, read) chars.toList := by
            rcases Bool.or_eq_true_iff.mp hstart with h | hseparated
            · rw [hidle h]
            · cases htext : chars.toList with
              | nil =>
                  rw [htext] at hseparated
                  cases hseparated
              | cons c rest =>
                  rw [htext] at hseparated
                  rw [sqlRun_cons, sqlRun_cons, sqlStep_separator hflush hseparated]
          obtain ⟨next, hrun, hnext, hend⟩ := @sqlRun_text q chars.toList hplain read
          have hnextIdle : endsIdle chars.toList = true →
              next = (.idle, (textTokens chars.toList).reverse ++ read) := by
            intro h
            obtain ⟨state, before⟩ := next
            obtain rfl : state = .idle := hend h
            rw [Option.some.inj hnext]
          obtain ⟨last, hlast, hflushLast⟩ := ih hparts hnext hend n hnextIdle
          refine ⟨last, ?_, ?_⟩
          · rw [render, sqlRun_append, hfrom, hrun, Option.bind_some, hlast]
          · rw [hflushLast, partTokens, List.reverse_append, List.append_assoc]
      | names path =>
          simp only [spaced, Bool.and_eq_true, decide_eq_true_eq] at hspaced
          obtain ⟨⟨h, hne⟩, hparts⟩ := hspaced
          obtain ⟨chars, before, hrun, hnext⟩ := @sqlRun_path q path hne read
          obtain ⟨last, hlast, hflushLast⟩ := ih hparts hnext (by simp) n (by simp)
          refine ⟨last, ?_, ?_⟩
          · rw [render, sqlRun_append, hidle h, hrun, Option.bind_some, hlast]
          · rw [hflushLast, partTokens, List.reverse_append, List.append_assoc]
      | bound owner column value =>
          simp only [spaced, Bool.and_eq_true] at hspaced
          obtain ⟨⟨h, howner⟩, hparts⟩ := hspaced
          obtain ⟨next, hrun, hnext⟩ := @sqlRun_bound q style owner howner column n read
          obtain ⟨last, hlast, hflushLast⟩ := ih hparts hnext (by simp) (n + 1) (by simp)
          refine ⟨last, ?_, ?_⟩
          · have hsplit : render q style n (.bound owner column value :: parts) =
                (ownerChars q owner ++ '.' :: (quoteName q column ++
                  (' ' :: '=' :: ' ' :: style.text n))) ++ render q style (n + 1) parts := by
              simp [render]
            rw [hsplit, sqlRun_append, hidle h, hrun, Option.bind_some, hlast]
          · rw [hflushLast, partTokens]
            simp

/-- A spaced statement is read as its parts. -/
theorem lexSql_render (style : PlaceholderStyle) {parts : List SqlPart}
    (hspaced : spaced true parts = true) :
    lexSql q (render q style 1 parts) = some (partTokens style 1 parts) := by
  obtain ⟨last, hrun, hflush⟩ := @sqlRun_render q style parts true hspaced (.idle, []) [] rfl
    (fun _ => rfl) 1
  rw [lexSql, hrun, Option.bind_some, hflush, List.append_nil, Option.map_some,
    List.reverse_reverse]

end Lexing

end AgentSkeptic.Support

import AgentSkeptic.Support.BoundStatements
import AgentSkeptic.Support.SqlQueries

/-!
# Reading queries

A statement is a text and the values of its placeholders.  Its tokens, with the values in
their places, are read as a query: what a query is written as is read back
(`readQuery_tokens`).
-/

namespace AgentSkeptic.Support

/-- A token, or the value that stands where a placeholder was. -/
inductive BoundToken where
  | token (token : SqlToken)
  | value (text : String)
  deriving DecidableEq

/-- The tokens with values for the placeholders; a placeholder without a number takes the
value after those read before it. -/
def bindTokens (values : List String) : ℕ → List SqlToken → Option (List BoundToken)
  | _, [] => some []
  | n, .placeholder number :: rest => do
      let value ← values[number.elim n (· - 1)]?
      let bound ← bindTokens values (n + 1) rest
      some (.value value :: bound)
  | n, token :: rest => (bindTokens values n rest).map (.token token :: ·)

/-! ## Written queries -/

def keyword (text : String) : BoundToken := .token (.word text)

def mark (c : Char) : BoundToken := .token (.symbol c)

def SqlQualifier.token : SqlQualifier → BoundToken
  | table name => .token (.name name)
  | correlation name => keyword name

def SqlColumn.tokens (column : SqlColumn) : List BoundToken :=
  [column.qualifier.token, mark '.', .token (.name column.name)]

def SqlCondition.tokens : SqlCondition → List BoundToken
  | equalColumns left right => left.tokens ++ mark '=' :: right.tokens
  | equalsValue column value => column.tokens ++ [mark '=', .value value]
  | isNull column => column.tokens ++ [keyword "IS", keyword "NULL"]

/-- Items with a token between them. -/
def separated (separator : BoundToken) : List (List BoundToken) → List BoundToken
  | [] => []
  | item :: items => item ++ items.flatMap (separator :: ·)

def conditionsTokens (conditions : List SqlCondition) : List BoundToken :=
  separated (keyword "AND") (conditions.map SqlCondition.tokens)

def SqlJoin.token : SqlJoin → BoundToken
  | inner => keyword "INNER"
  | left => keyword "LEFT"

def SqlSource.tokens : SqlSource → List BoundToken
  | table name => [.token (.name name)]
  | join kind leftTable leftAlias rightTable rightAlias on =>
      [.token (.name leftTable), keyword "AS", keyword leftAlias, kind.token, keyword "JOIN",
        .token (.name rightTable), keyword "AS", keyword rightAlias, keyword "ON"] ++
          conditionsTokens on

def countTokens : List BoundToken :=
  [keyword "COUNT", mark '(', mark '*', mark ')', keyword "AS"]

def sumStart : List BoundToken := [keyword "COALESCE", mark '(', keyword "SUM", mark '(']

def sumEnd : List BoundToken := [mark ')', mark ',', keyword "0", mark ')', keyword "AS"]

def SqlSelection.tokens : SqlSelection → List BoundToken
  | count column => countTokens ++ [keyword column]
  | sum summed column =>
      sumStart ++ .token (.name summed) :: (sumEnd ++ [keyword column])
  | columns shown => separated (mark ',') (shown.map SqlColumn.tokens)
  | one => [keyword "1"]

def whereTokens (conditions : List SqlCondition) : List BoundToken :=
  if conditions.isEmpty = true then []
  else keyword "WHERE" :: conditionsTokens conditions

def limitTokens (limit : Option ℕ) : List BoundToken :=
  limit.elim [] fun n => [keyword "LIMIT", keyword (String.ofList (Nat.toDigits 10 n))]

def SqlSelect.tokens (s : SqlSelect) : List BoundToken :=
  keyword "SELECT" :: (s.selection.tokens ++ keyword "FROM" ::
    (s.source.tokens ++ (whereTokens s.conditions ++ limitTokens s.limit)))

def existsStart : List BoundToken := [keyword "SELECT", keyword "EXISTS", mark '(']

def existsEnd : List BoundToken := [mark ')', keyword "AS"]

def SqlQuery.tokens : SqlQuery → List BoundToken
  | rows s => s.tokens
  | existence s column => existsStart ++ (s.tokens ++ (existsEnd ++ [keyword column]))

/-! ## Reading -/

/-- What is read first, and the tokens behind it. -/
abbrev SqlReader (α : Type) := List BoundToken → Option (α × List BoundToken)

def dropToken (t : BoundToken) : List BoundToken → Option (List BoundToken)
  | [] => none
  | first :: rest => if first = t then some rest else none

def dropTokens : List BoundToken → List BoundToken → Option (List BoundToken)
  | [], tokens => some tokens
  | t :: ts, tokens => (dropToken t tokens).bind (dropTokens ts)

def readName : SqlReader String
  | .token (.name name) :: rest => some (name, rest)
  | _ => none

def readWord : SqlReader String
  | .token (.word text) :: rest => some (text, rest)
  | _ => none

def readQualifier : SqlReader SqlQualifier
  | .token (.name name) :: rest => some (.table name, rest)
  | .token (.word name) :: rest => some (.correlation name, rest)
  | _ => none

def readColumn : SqlReader SqlColumn := fun tokens => do
  let (qualifier, rest) ← readQualifier tokens
  let rest ← dropToken (mark '.') rest
  let (name, rest) ← readName rest
  some (⟨qualifier, name⟩, rest)

def readCondition : SqlReader SqlCondition := fun tokens => do
  let (column, rest) ← readColumn tokens
  match dropToken (mark '=') rest with
  | some (.value value :: rest) => some (.equalsValue column value, rest)
  | some rest => (readColumn rest).map fun right => (.equalColumns column right.1, right.2)
  | none =>
      (dropTokens [keyword "IS", keyword "NULL"] rest).map fun rest => (.isNull column, rest)

/-- Up to `n` items with a token between them. -/
def readSeparated {α : Type} (separator : BoundToken) (read : SqlReader α) :
    ℕ → SqlReader (List α)
  | 0, _ => none
  | n + 1, tokens => do
      let (item, rest) ← read tokens
      match dropToken separator rest with
      | none => some ([item], rest)
      | some rest => do
          let (items, rest) ← readSeparated separator read n rest
          some (item :: items, rest)

def readConditions : SqlReader (List SqlCondition) := fun tokens =>
  readSeparated (keyword "AND") readCondition tokens.length tokens

def readJoinKind : SqlReader SqlJoin
  | [] => none
  | first :: rest =>
      if first = keyword "LEFT" then some (.left, rest)
      else if first = keyword "INNER" then some (.inner, rest)
      else none

/-- A join, behind the `AS` of its first table. -/
def readJoin (leftTable : String) : SqlReader SqlSource := fun tokens => do
  let (leftAlias, rest) ← readWord tokens
  let (kind, rest) ← readJoinKind rest
  let rest ← dropToken (keyword "JOIN") rest
  let (rightTable, rest) ← readName rest
  let rest ← dropToken (keyword "AS") rest
  let (rightAlias, rest) ← readWord rest
  let rest ← dropToken (keyword "ON") rest
  let (on, rest) ← readConditions rest
  some (.join kind leftTable leftAlias rightTable rightAlias on, rest)

def readSource : SqlReader SqlSource := fun tokens => do
  let (name, rest) ← readName tokens
  match dropToken (keyword "AS") rest with
  | none => some (.table name, rest)
  | some rest => readJoin name rest

def readSum : SqlReader SqlSelection := fun tokens => do
  let (summed, rest) ← readName tokens
  let rest ← dropTokens sumEnd rest
  let (column, rest) ← readWord rest
  some (.sum summed column, rest)

def readSelection : SqlReader SqlSelection := fun tokens =>
  match dropTokens countTokens tokens, dropTokens sumStart tokens with
  | some rest, _ => (readWord rest).map fun column => (.count column.1, column.2)
  | none, some rest => readSum rest
  | none, none =>
      match readSeparated (mark ',') readColumn tokens.length tokens with
      | some (shown, rest) => some (.columns shown, rest)
      | none => (dropToken (keyword "1") tokens).map fun rest => (.one, rest)

def readWhere : SqlReader (List SqlCondition) := fun tokens =>
  match dropToken (keyword "WHERE") tokens with
  | none => some ([], tokens)
  | some rest => readConditions rest

def readLimit : SqlReader (Option ℕ) := fun tokens =>
  match dropToken (keyword "LIMIT") tokens with
  | none => some (none, tokens)
  | some rest => do
      let (text, rest) ← readWord rest
      if text.toList ≠ [] ∧ text.toList.all Char.isDigit = true then
        some (some (Nat.ofDigitChars 10 text.toList 0), rest)
      else none

def readSelect : SqlReader SqlSelect := fun tokens => do
  let rest ← dropToken (keyword "SELECT") tokens
  let (selection, rest) ← readSelection rest
  let rest ← dropToken (keyword "FROM") rest
  let (source, rest) ← readSource rest
  let (conditions, rest) ← readWhere rest
  let (limit, rest) ← readLimit rest
  some (⟨selection, source, conditions, limit⟩, rest)

/-- The query that the tokens are. -/
def readQuery (tokens : List BoundToken) : Option SqlQuery :=
  match dropTokens existsStart tokens with
  | some rest => do
      let (s, rest) ← readSelect rest
      let rest ← dropTokens existsEnd rest
      let (column, rest) ← readWord rest
      if rest.isEmpty = true then some (.existence s column) else none
  | none => do
      let (s, rest) ← readSelect tokens
      if rest.isEmpty = true then some (.rows s) else none

/-- The query that a text with values is. -/
def readStatement (q : Quoting) (text : String) (values : List String) : Option SqlQuery := do
  let tokens ← lexSql q text.toList
  let bound ← bindTokens values 0 tokens
  readQuery bound

/-! ## What is written is read back -/

section Reading

@[simp] theorem dropToken_cons (t : BoundToken) (rest : List BoundToken) :
    dropToken t (t :: rest) = some rest := if_pos rfl

theorem dropToken_ne {t first : BoundToken} (h : first ≠ t) (rest : List BoundToken) :
    dropToken t (first :: rest) = none := if_neg h

@[simp] theorem dropTokens_append (ts rest : List BoundToken) :
    dropTokens ts (ts ++ rest) = some rest := by
  induction ts with
  | nil => rfl
  | cons t ts ih => rw [dropTokens, List.cons_append, dropToken_cons, Option.bind_some, ih]

/-- The first token, if there is one, is among these. -/
def StartsIn (starts tokens : List BoundToken) : Prop := ∀ t ∈ tokens.head?, t ∈ starts

theorem dropToken_of_startsIn {starts tokens : List BoundToken} {t : BoundToken}
    (hstarts : StartsIn starts tokens) (ht : t ∉ starts) : dropToken t tokens = none := by
  cases tokens with
  | nil => rfl
  | cons first rest =>
      have hfirst : first ∈ starts := hstarts first rfl
      apply dropToken_ne
      rintro rfl
      exact ht hfirst

theorem readQualifier_token (qualifier : SqlQualifier) (rest : List BoundToken) :
    readQualifier (qualifier.token :: rest) = some (qualifier, rest) := by
  cases qualifier with
  | table name => rfl
  | correlation name => rfl

theorem readColumn_tokens (column : SqlColumn) (rest : List BoundToken) :
    readColumn (column.tokens ++ rest) = some (column, rest) := by
  simp [readColumn, SqlColumn.tokens, readQualifier_token, readName]

theorem readCondition_tokens (condition : SqlCondition) (rest : List BoundToken) :
    readCondition (condition.tokens ++ rest) = some (condition, rest) := by
  cases condition with
  | equalColumns left right =>
      have hright : ∀ value tail, right.tokens ++ rest ≠ .value value :: tail := by
        intro value tail h
        have hhead := congrArg List.head? h
        rcases hq : right.qualifier with _ | _
        · simp [SqlColumn.tokens, hq, SqlQualifier.token] at hhead
        · simp [SqlColumn.tokens, hq, SqlQualifier.token, keyword] at hhead
      have hread := readColumn_tokens right rest
      have hsplit : (SqlCondition.equalColumns left right).tokens ++ rest =
          left.tokens ++ mark '=' :: (right.tokens ++ rest) := by
        simp [SqlCondition.tokens]
      rw [hsplit, readCondition, readColumn_tokens, Option.bind_eq_bind, Option.bind_some]
      dsimp only
      rw [dropToken_cons]
      split
      · rename_i value tail h
        exact absurd (Option.some.inj h) (hright value tail)
      · rename_i tail _ h
        rw [← Option.some.inj h, hread]
        rfl
      · rename_i h
        cases h
  | equalsValue column value =>
      simp [readCondition, SqlCondition.tokens, readColumn_tokens]
  | isNull column =>
      have hequals (tail : List BoundToken) :
          dropToken (mark '=') (keyword "IS" :: tail) = none := dropToken_ne (by decide) tail
      have hnull := dropTokens_append [keyword "IS", keyword "NULL"] rest
      simp only [List.cons_append, List.nil_append] at hnull
      simp [readCondition, SqlCondition.tokens, readColumn_tokens, hequals, hnull]

theorem readSeparated_tokens {α : Type} {separator : BoundToken} {read : SqlReader α}
    {tokens : α → List BoundToken}
    (hread : ∀ item rest, read (tokens item ++ rest) = some (item, rest))
    {items : List α} (hne : items ≠ []) {rest : List BoundToken}
    (hrest : dropToken separator rest = none) {n : ℕ} (hn : items.length ≤ n) :
    readSeparated separator read n (separated separator (items.map tokens) ++ rest) =
      some (items, rest) := by
  induction items generalizing n with
  | nil => exact absurd rfl hne
  | cons item items ih =>
      obtain ⟨m, rfl⟩ : ∃ m, n = m + 1 := ⟨n - 1, by simp at hn; omega⟩
      cases items with
      | nil => simp [readSeparated, separated, hread, hrest]
      | cons next items =>
          have hlater := @ih (List.cons_ne_nil _ _) m (by simpa using hn)
          simp only [separated, List.map_cons, List.flatMap_cons, List.cons_append,
            List.append_assoc] at hlater ⊢
          simp [readSeparated, hread, hlater]

theorem length_le_separated {α : Type} {separator : BoundToken} {tokens : α → List BoundToken}
    (hne : ∀ item, tokens item ≠ []) (items : List α) (rest : List BoundToken) :
    items.length ≤ (separated separator (items.map tokens) ++ rest).length := by
  have hlength (item : α) : 0 < (tokens item).length := List.length_pos_iff.mpr (hne item)
  have htail (items : List α) :
      items.length ≤ ((items.map tokens).flatMap (separator :: ·)).length := by
    induction items with
    | nil => exact Nat.le_refl 0
    | cons item items ih =>
        simp only [List.map_cons, List.flatMap_cons, List.length_append, List.length_cons]
        omega
  cases items with
  | nil => exact Nat.zero_le _
  | cons item items =>
      have hitem := hlength item
      have hitems := htail items
      simp only [separated, List.map_cons, List.length_append, List.length_cons]
      omega

theorem SqlColumn.tokens_ne_nil (column : SqlColumn) : column.tokens ≠ [] :=
  List.cons_ne_nil _ _

theorem SqlCondition.tokens_ne_nil (condition : SqlCondition) : condition.tokens ≠ [] := by
  cases condition with
  | equalColumns left right => exact List.cons_ne_nil _ _
  | equalsValue column value => exact List.cons_ne_nil _ _
  | isNull column => exact List.cons_ne_nil _ _

theorem readConditions_tokens {conditions : List SqlCondition} (hne : conditions ≠ [])
    {rest : List BoundToken} (hrest : dropToken (keyword "AND") rest = none) :
    readConditions (conditionsTokens conditions ++ rest) = some (conditions, rest) :=
  readSeparated_tokens readCondition_tokens hne hrest
    (length_le_separated SqlCondition.tokens_ne_nil conditions rest)

/-! ### Clauses -/

/-- What a selection may stand before. -/
def clauseStarts : List BoundToken := [keyword "WHERE", keyword "LIMIT", mark ')']

theorem readWhere_tokens {conditions : List SqlCondition} {rest : List BoundToken}
    (hrest : StartsIn [keyword "LIMIT", mark ')'] rest) :
    readWhere (whereTokens conditions ++ rest) = some (conditions, rest) := by
  have hwhere : dropToken (keyword "WHERE") rest = none :=
    dropToken_of_startsIn hrest (by decide)
  have hand : dropToken (keyword "AND") rest = none :=
    dropToken_of_startsIn hrest (by decide)
  cases conditions with
  | nil => simp [readWhere, whereTokens, hwhere]
  | cons condition conditions =>
      have hread := @readConditions_tokens (condition :: conditions) (List.cons_ne_nil _ _)
        rest hand
      simp [readWhere, whereTokens, hread]

theorem readLimit_tokens {limit : Option ℕ} {rest : List BoundToken}
    (hrest : StartsIn [mark ')'] rest) :
    readLimit (limitTokens limit ++ rest) = some (limit, rest) := by
  cases limit with
  | none =>
      have hlimit : dropToken (keyword "LIMIT") rest = none :=
        dropToken_of_startsIn hrest (by decide)
      simp [readLimit, limitTokens, hlimit]
  | some n =>
      have hdigits : (Nat.toDigits 10 n).all Char.isDigit = true :=
        List.all_eq_true.mpr fun c h => Nat.isDigit_of_mem_toDigits (by decide) (by decide) h
      have hword : readWord (keyword (String.ofList (Nat.toDigits 10 n)) :: rest) =
          some (String.ofList (Nat.toDigits 10 n), rest) := rfl
      have hne : Nat.toDigits 10 n ≠ [] := Nat.toDigits_ne_nil
      simp only [limitTokens, Option.elim_some, List.cons_append, List.nil_append, readLimit,
        dropToken_cons, Option.bind_eq_bind, Option.bind_some, hword, String.toList_ofList,
        Nat.ofDigitChars_ten_toDigits]
      exact if_pos ⟨hne, hdigits⟩

theorem startsIn_limitTokens {limit : Option ℕ} {rest : List BoundToken}
    (hrest : StartsIn [mark ')'] rest) :
    StartsIn [keyword "LIMIT", mark ')'] (limitTokens limit ++ rest) := by
  cases limit with
  | none =>
      intro t ht
      have hmark := List.mem_singleton.mp (hrest t ht)
      simp [hmark]
  | some n =>
      intro t ht
      have hlimit : t = keyword "LIMIT" := by simpa [limitTokens] using ht.symm
      simp [hlimit]

theorem startsIn_whereTokens {conditions : List SqlCondition} {rest : List BoundToken}
    (hrest : StartsIn [keyword "LIMIT", mark ')'] rest) :
    StartsIn clauseStarts (whereTokens conditions ++ rest) := by
  cases conditions with
  | nil =>
      intro t ht
      have hmem := hrest t ht
      exact List.mem_cons_of_mem _ hmem
  | cons condition conditions =>
      intro t ht
      have hwhere : t = keyword "WHERE" := by simpa [whereTokens] using ht.symm
      simp [hwhere, clauseStarts]

/-! ### Sources and selections -/

/-- A join has conditions, and a list of columns has one. -/
def SqlSource.IsWritten : SqlSource → Prop
  | table _ => True
  | join _ _ _ _ _ on => on ≠ []

def SqlSelection.IsWritten : SqlSelection → Prop
  | columns shown => shown ≠ []
  | _ => True

def SqlSelect.IsWritten (s : SqlSelect) : Prop :=
  s.selection.IsWritten ∧ s.source.IsWritten

def SqlQuery.IsWritten : SqlQuery → Prop
  | rows s => s.IsWritten
  | existence s _ => s.IsWritten

theorem readSource_tokens {source : SqlSource} (hwritten : source.IsWritten)
    {rest : List BoundToken} (hrest : StartsIn clauseStarts rest) :
    readSource (source.tokens ++ rest) = some (source, rest) := by
  cases source with
  | table name =>
      have has : dropToken (keyword "AS") rest = none :=
        dropToken_of_startsIn hrest (by decide)
      simp [readSource, SqlSource.tokens, readName, has]
  | join kind leftTable leftAlias rightTable rightAlias on =>
      have hand : dropToken (keyword "AND") rest = none :=
        dropToken_of_startsIn hrest (by decide)
      have hkind (tail : List BoundToken) :
          readJoinKind (kind.token :: tail) = some (kind, tail) := by
        cases kind with
        | inner => rfl
        | left => rfl
      have hword (text : String) (tail : List BoundToken) :
          readWord (keyword text :: tail) = some (text, tail) := rfl
      have hon := readConditions_tokens hwritten hand
      simp [readSource, readJoin, SqlSource.tokens, readName, hword, hkind, hon]

/-- Columns do not start as a function does. -/
theorem dropTokens_shown {shown : List SqlColumn} (hne : shown ≠ []) (t : BoundToken)
    (ts rest : List BoundToken) :
    dropTokens (t :: mark '(' :: ts)
      (separated (mark ',') (shown.map SqlColumn.tokens) ++ rest) = none := by
  obtain ⟨first, tail, htokens⟩ : ∃ first tail, separated (mark ',')
      (shown.map SqlColumn.tokens) ++ rest = first :: mark '.' :: tail := by
    cases shown with
    | nil => exact absurd rfl hne
    | cons column shown => exact ⟨_, _, rfl⟩
  have hmark : dropToken (mark '(') (mark '.' :: tail) = none := dropToken_ne (by decide) tail
  rw [htokens, dropTokens, dropToken]
  split_ifs
  · rw [Option.bind_some, dropTokens, hmark, Option.bind_none]
  · rfl

theorem readSelection_tokens {selection : SqlSelection} (hwritten : selection.IsWritten)
    (rest : List BoundToken) :
    readSelection (selection.tokens ++ keyword "FROM" :: rest) =
      some (selection, keyword "FROM" :: rest) := by
  have hword (text : String) (tail : List BoundToken) :
      readWord (keyword text :: tail) = some (text, tail) := rfl
  cases selection with
  | count column => simp [readSelection, SqlSelection.tokens, hword]
  | sum summed column =>
      have hcount (tail : List BoundToken) :
          dropTokens countTokens (sumStart ++ tail) = none := rfl
      simp [readSelection, SqlSelection.tokens, hcount, readSum, readName, hword]
  | columns shown =>
      have hcomma : dropToken (mark ',') (keyword "FROM" :: rest) = none :=
        dropToken_ne (by decide) rest
      have hlength := @length_le_separated _ (mark ',') _ SqlColumn.tokens_ne_nil shown
        (keyword "FROM" :: rest)
      have hshown := readSeparated_tokens readColumn_tokens hwritten hcomma hlength
      have hcount : dropTokens countTokens _ = none :=
        dropTokens_shown hwritten (keyword "COUNT") _ (keyword "FROM" :: rest)
      have hsum : dropTokens sumStart _ = none :=
        dropTokens_shown hwritten (keyword "COALESCE") _ (keyword "FROM" :: rest)
      simp only [readSelection, SqlSelection.tokens, hcount, hsum, hshown]
  | one =>
      have hcolumn : ∀ n, readSeparated (mark ',') readColumn n
          (keyword "1" :: keyword "FROM" :: rest) = none := by
        rintro (_ | n)
        · rfl
        · rfl
      have hcount : dropTokens countTokens (keyword "1" :: keyword "FROM" :: rest) = none := rfl
      have hsum : dropTokens sumStart (keyword "1" :: keyword "FROM" :: rest) = none := rfl
      have htokens : SqlSelection.one.tokens ++ keyword "FROM" :: rest =
          keyword "1" :: keyword "FROM" :: rest := rfl
      simp only [readSelection, htokens, hcount, hsum, hcolumn, dropToken_cons, Option.map_some]

theorem readSelect_tokens {s : SqlSelect} (hwritten : s.IsWritten) {rest : List BoundToken}
    (hrest : StartsIn [mark ')'] rest) : readSelect (s.tokens ++ rest) = some (s, rest) := by
  have hlimit := @startsIn_limitTokens s.limit rest hrest
  have hwhere := @startsIn_whereTokens s.conditions _ hlimit
  simp [readSelect, SqlSelect.tokens, readSelection_tokens hwritten.1,
    readSource_tokens hwritten.2 hwhere, readWhere_tokens hlimit, readLimit_tokens hrest]

/-- A selection does not start as `EXISTS` does. -/
theorem dropTokens_existsStart {s : SqlSelect} (hwritten : s.IsWritten)
    (rest : List BoundToken) : dropTokens existsStart (s.tokens ++ rest) = none := by
  have hselection (tail : List BoundToken) :
      dropTokens [keyword "EXISTS", mark '('] (s.selection.tokens ++ tail) = none := by
    have hshown : s.selection.IsWritten := hwritten.1
    cases hs : s.selection with
    | count column => rfl
    | sum summed column => rfl
    | columns shown =>
        rw [hs] at hshown
        exact dropTokens_shown hshown _ _ _
    | one => rfl
  have hselect : dropTokens existsStart (s.tokens ++ rest) =
      dropTokens [keyword "EXISTS", mark '('] (s.selection.tokens ++ keyword "FROM" ::
        (s.source.tokens ++ (whereTokens s.conditions ++ limitTokens s.limit)) ++ rest) := by
    rw [existsStart, SqlSelect.tokens, List.cons_append, dropTokens, dropToken_cons,
      Option.bind_some]
  rw [hselect, List.append_assoc, hselection]

/-- What a query is written as is read back. -/
theorem readQuery_tokens {query : SqlQuery} (hwritten : query.IsWritten) :
    readQuery query.tokens = some query := by
  cases query with
  | rows s =>
      have hstart := dropTokens_existsStart hwritten []
      have hread := @readSelect_tokens s hwritten [] (by simp [StartsIn])
      rw [List.append_nil] at hstart hread
      simp only [readQuery, SqlQuery.tokens, hstart, hread, Option.bind_eq_bind,
        Option.bind_some]
      rfl
  | existence s column =>
      have hread := @readSelect_tokens s hwritten (existsEnd ++ [keyword column])
        (by simp [StartsIn, existsEnd])
      simp only [readQuery, SqlQuery.tokens, dropTokens_append, hread, Option.bind_eq_bind,
        Option.bind_some]
      rfl

end Reading

/-! ## Statements in parts -/

def partBound : SqlPart → List BoundToken
  | .text chars => (textTokens chars.toList).map .token
  | .names path => (pathTokens path).map .token
  | .bound owner column value =>
      (ownerTokens owner).map .token ++ [mark '.', .token (.name column), mark '=', .value value]

section Binding

variable {style : PlaceholderStyle} {values : List String}

theorem bindTokens_free {tokens : List SqlToken} (h : placeholders tokens = [])
    (n : ℕ) (rest : List SqlToken) :
    bindTokens values n (tokens ++ rest) =
      (bindTokens values n rest).map (tokens.map .token ++ ·) := by
  induction tokens with
  | nil => simp
  | cons token tokens ih =>
      cases token with
      | placeholder number => cases h
      | name id =>
          rw [List.cons_append, bindTokens, ih h, Option.map_map]
          · rfl
          · simp
      | word text =>
          rw [List.cons_append, bindTokens, ih h, Option.map_map]
          · rfl
          · simp
      | symbol c =>
          rw [List.cons_append, bindTokens, ih h, Option.map_map]
          · rfl
          · simp

/-- Placeholders that are numbered in order, or not at all, take the values in order. -/
theorem bindTokens_partTokens
    (hstyle : ∀ m, style.number m = none ∨ style.number m = some m) {fixed : List SqlToken}
    (hall : fixed.all isFixed = true) {parts : List SqlPart}
    (hparts : ∀ part ∈ parts, PartFixed fixed part) {n : ℕ}
    (hvalues : values.drop n = (partBindings parts).map SqlBinding.value) :
    bindTokens values n (partTokens style (n + 1) parts) =
      some (parts.flatMap partBound) := by
  induction parts generalizing n with
  | nil => rfl
  | cons part parts ih =>
      have hrest : ∀ p ∈ parts, PartFixed fixed p :=
        fun p hp => hparts p (List.mem_cons_of_mem _ hp)
      have hpart := hparts part List.mem_cons_self
      cases part with
      | text chars =>
          have hfree := (fixed_words hall hpart).1
          rw [partTokens, bindTokens_free hfree, ih hrest hvalues]
          rfl
      | names path =>
          rw [partTokens, bindTokens_free (placeholders_pathTokens path), ih hrest hvalues]
          rfl
      | bound owner column value =>
          rw [partBindings, List.map_cons] at hvalues
          have hvalue : values[n]? = some value := by
            rw [← Nat.add_zero n, ← List.getElem?_drop, hvalues]
            rfl
          have hdrop : values.drop (n + 1) = (partBindings parts).map SqlBinding.value := by
            rw [← List.drop_drop, hvalues]
            rfl
          have hfree : placeholders (ownerTokens owner ++
              [.symbol '.', .name column, .symbol '=']) = [] := by
            rw [placeholders_append]
            cases owner with
            | table path =>
                rw [ownerTokens, placeholders_pathTokens]
                rfl
            | correlation name =>
                rw [ownerTokens, (fixed_words hall hpart).1]
                rfl
          have hnumber : (style.number (n + 1)).elim n (· - 1) = n := by
            rcases hstyle (n + 1) with h | h
            · rw [h]
              rfl
            · rw [h]
              exact Nat.add_sub_cancel n 1
          have hsplit : partTokens style (n + 1) (.bound owner column value :: parts) =
              (ownerTokens owner ++ [.symbol '.', .name column, .symbol '=']) ++
                .placeholder (style.number (n + 1)) :: partTokens style (n + 1 + 1) parts := by
            simp [partTokens]
          rw [hsplit, bindTokens_free hfree, bindTokens, hnumber, hvalue, ih hrest hdrop]
          simp [partBound, mark]

end Binding

end AgentSkeptic.Support

import AgentSkeptic.Quick.Ingest
import AgentSkeptic.Support.JsonLayout

/-!
# The lines of an ingested text

The specification of the third rung: `actionsOf` is what a value holds without the
limit, and `ingestLines_spec` says which actions the lines of a text give and how many
of them are malformed.  A line of an indented JSON text has no action, since no prefix
of a log line is there to be salvaged (`noPrefix_linePart`) and what is there is not an
object with members.
-/

namespace AgentSkeptic.Quick

open AgentSkeptic.Support

/-! ## The actions of a value -/

mutual

/-- All actions of a value, without the limit. -/
def actionsOf : Json → List RawAction
  | .arr items => itemActions items
  | .obj members => toolCallActions members ++ (ownAction members).toList
  | _ => []

def itemActions : List Json → List RawAction
  | [] => []
  | item :: items => actionsOf item ++ itemActions items

def toolCallActions : List (String × Json) → List RawAction
  | [] => []
  | (key, .arr items) :: members =>
      if key = "tool_calls" then itemActions items else toolCallActions members
  | (key, _) :: members =>
      if key = "tool_calls" then [] else toolCallActions members

end

mutual

theorem extractActions_eq : ∀ (v : Json) (ctx : IngestContext),
    extractActions ctx v = (actionsOf v).foldl pushAction ctx
  | .arr items, ctx => by
      rw [extractActions, actionsOf, extractItems_eq items ctx]
  | .obj members, ctx => by
      rw [extractActions, actionsOf, extractToolCalls_eq members ctx, List.foldl_append]
      cases ownAction members with
      | none => rfl
      | some action => rfl
  | .null, _ => rfl
  | .bool _, _ => rfl
  | .num _, _ => rfl
  | .str _, _ => rfl

theorem extractItems_eq : ∀ (items : List Json) (ctx : IngestContext),
    extractItems ctx items = (itemActions items).foldl pushAction ctx
  | [], _ => rfl
  | item :: items, ctx => by
      rw [extractItems, itemActions, extractActions_eq item, extractItems_eq items,
        List.foldl_append]

theorem extractToolCalls_eq : ∀ (members : List (String × Json)) (ctx : IngestContext),
    extractToolCalls ctx members = (toolCallActions members).foldl pushAction ctx
  | [], _ => rfl
  | (key, .arr items) :: members, ctx => by
      rw [extractToolCalls, toolCallActions]
      split_ifs
      · exact extractItems_eq items ctx
      · exact extractToolCalls_eq members ctx
  | (key, .null) :: members, ctx => by
      simp only [extractToolCalls, toolCallActions]
      split_ifs
      · rfl
      · exact extractToolCalls_eq members ctx
  | (key, .bool _) :: members, ctx => by
      simp only [extractToolCalls, toolCallActions]
      split_ifs
      · rfl
      · exact extractToolCalls_eq members ctx
  | (key, .num _) :: members, ctx => by
      simp only [extractToolCalls, toolCallActions]
      split_ifs
      · rfl
      · exact extractToolCalls_eq members ctx
  | (key, .str _) :: members, ctx => by
      simp only [extractToolCalls, toolCallActions]
      split_ifs
      · rfl
      · exact extractToolCalls_eq members ctx
  | (key, .obj _) :: members, ctx => by
      simp only [extractToolCalls, toolCallActions]
      split_ifs
      · rfl
      · exact extractToolCalls_eq members ctx

end

/-- Pushing keeps the first actions up to the limit and counts no line. -/
theorem pushActions (actions : List RawAction) {ctx : IngestContext}
    (h : ctx.actions.length ≤ maxActions) :
    (actions.foldl pushAction ctx).actions =
        (ctx.actions ++ actions).take maxActions ∧
      (actions.foldl pushAction ctx).malformedLineCount = ctx.malformedLineCount := by
  induction actions generalizing ctx with
  | nil =>
      rw [List.append_nil, List.take_of_length_le h]
      exact ⟨rfl, rfl⟩
  | cons action actions ih =>
      rw [List.foldl_cons]
      by_cases hfull : maxActions ≤ ctx.actions.length
      · have hsame : (pushAction ctx action).actions = ctx.actions ∧
            (pushAction ctx action).malformedLineCount = ctx.malformedLineCount := by
          rw [pushAction, if_pos hfull]
          split_ifs
          · exact ⟨rfl, rfl⟩
          · exact ⟨rfl, rfl⟩
        obtain ⟨hactions, hcount⟩ := @ih (pushAction ctx action)
          (by rw [hsame.1]; exact h)
        have hlength : ctx.actions.length = maxActions := le_antisymm h hfull
        rw [hactions, hcount, hsame.1, hsame.2]
        refine ⟨?_, rfl⟩
        rw [List.take_append_of_le_length hlength.ge,
          List.take_append_of_le_length hlength.ge]
      · have hpush : pushAction ctx action =
            { ctx with actions := ctx.actions ++ [action] } := if_neg hfull
        obtain ⟨hactions, hcount⟩ := @ih (pushAction ctx action) (by
          rw [hpush]
          simp only [List.length_append, List.length_singleton]
          omega)
        rw [hactions, hcount, hpush]
        refine ⟨?_, rfl⟩
        simp

theorem ingestWhole_of_parse {buf : List Char} {v : Json} (h : parseJson buf = some v) :
    (ingestWhole buf).map (·.actions) =
      if (actionsOf v).take maxActions = [] then none
      else some ((actionsOf v).take maxActions) := by
  obtain ⟨hactions, -⟩ := @pushActions (actionsOf v) createIngestContext (Nat.zero_le _)
  have hempty : createIngestContext.actions ++ actionsOf v = actionsOf v := rfl
  rw [hempty] at hactions
  rw [ingestWhole, h]
  simp only [Option.bind_eq_bind, Option.bind_some, extractActions_eq, hactions]
  split_ifs
  · rfl
  · simp only [Option.map_some, hactions]

theorem ingestWhole_of_not_parse {buf : List Char} (h : parseJson buf = none) :
    ingestWhole buf = none := by
  rw [ingestWhole, h]
  rfl

/-! ## The actions of the lines -/

/-- The actions of one line of the third rung. -/
def lineActions (line : List Char) : List RawAction :=
  (tryParseLineWithSalvage line).elim [] actionsOf

/-- A line that the third rung counts. -/
def isMalformedLine (line : List Char) : Bool :=
  trimChars line ≠ [] && (tryParseLineWithSalvage line).isNone

theorem tryParseLineWithSalvage_blank {line : List Char} (h : trimChars line = []) :
    tryParseLineWithSalvage line = none := by
  rw [tryParseLineWithSalvage, h]
  rfl

theorem ingestLine_spec (line : List Char) {ctx : IngestContext}
    (h : ctx.actions.length ≤ maxActions) :
    (ingestLine ctx line).actions = (ctx.actions ++ lineActions line).take maxActions ∧
      (ingestLine ctx line).malformedLineCount =
        ctx.malformedLineCount + [line].countP isMalformedLine := by
  have hkept : ctx.actions.take maxActions = ctx.actions := List.take_of_length_le h
  unfold ingestLine lineActions
  by_cases hblank : trimChars line = []
  · rw [if_pos hblank, tryParseLineWithSalvage_blank hblank]
    simp [isMalformedLine, hblank, hkept]
  · rw [if_neg hblank]
    cases hparse : tryParseLineWithSalvage line with
    | none => simp [isMalformedLine, hblank, hparse, hkept]
    | some v =>
        obtain ⟨hactions, hcount⟩ := pushActions (actionsOf v) h
        dsimp only
        rw [extractActions_eq, hactions, hcount]
        simp [isMalformedLine, hparse]

theorem foldl_ingestLine (lines : List (List Char)) {ctx : IngestContext}
    (h : ctx.actions.length ≤ maxActions) :
    (lines.foldl ingestLine ctx).actions =
        (ctx.actions ++ lines.flatMap lineActions).take maxActions ∧
      (lines.foldl ingestLine ctx).malformedLineCount =
        ctx.malformedLineCount + lines.countP isMalformedLine := by
  induction lines generalizing ctx with
  | nil =>
      rw [List.flatMap_nil, List.append_nil, List.take_of_length_le h]
      exact ⟨rfl, rfl⟩
  | cons line lines ih =>
      obtain ⟨hactions, hcount⟩ := ingestLine_spec line h
      have hlimit : (ingestLine ctx line).actions.length ≤ maxActions := by
        rw [hactions]
        exact List.length_take_le _ _
      obtain ⟨hrest, hrestCount⟩ := ih hlimit
      rw [List.foldl_cons, hrest, hrestCount, hactions, hcount]
      refine ⟨?_, ?_⟩
      · rw [List.flatMap_cons, ← List.append_assoc]
        rcases Nat.le_total (ctx.actions ++ lineActions line).length maxActions with
          hfits | hfull
        · rw [List.take_of_length_le hfits]
        · have hlength : ((ctx.actions ++ lineActions line).take maxActions).length =
              maxActions := List.length_take_of_le hfull
          rw [List.take_append_of_le_length hfull,
            List.take_append_of_le_length hlength.ge, List.take_take, Nat.min_self]
      · simp only [List.countP_cons, List.countP_nil]
        omega

/-- What the third rung finds in a text. -/
theorem ingestLines_spec (buf : List Char) :
    (ingestLines buf).actions =
        ((buf.splitOn '\n').flatMap lineActions).take maxActions ∧
      (ingestLines buf).malformedLineCount =
        (buf.splitOn '\n').countP isMalformedLine := by
  obtain ⟨hactions, hcount⟩ :=
    @foldl_ingestLine (buf.splitOn '\n') createIngestContext (Nat.zero_le _)
  refine ⟨?_, ?_⟩
  · rw [ingestLines, hactions]
    rfl
  · rw [ingestLines, hcount]
    exact Nat.zero_add _

/-! ## Lines without a prefix -/

theorem dropWord_of_ne {w c : Char} (h : c.toUpper ≠ w) (word cs : List Char) :
    dropWord (w :: word) (c :: cs) = none := if_neg h

/-- No prefix of a log line starts with the character. -/
structure StartsNoPrefix (c : Char) : Prop where
  digit : c.isDigit = false
  level : ∀ w ∈ ['D', 'I', 'W', 'E', 'T'], c.toUpper ≠ w
  bracket : c ≠ '['

theorem logPrefixTime_of_not_digit {c : Char} (h : c.isDigit = false)
    (cs : List Char) : logPrefixTime (c :: cs) = none := by
  simp [logPrefixTime, dropDigits, h]

theorem logPrefixLevel_of_ne {c : Char}
    (h : ∀ w ∈ ['D', 'I', 'W', 'E', 'T'], c.toUpper ≠ w) (cs : List Char) :
    logPrefixLevel (c :: cs) = none := by
  have hword : ∀ w ∈ ['D', 'I', 'W', 'E', 'T'], ∀ word,
      dropWord (w :: word) (c :: cs) = none :=
    fun w hw word => dropWord_of_ne (h w hw) word cs
  simp only [logPrefixLevel, List.findSome?_eq_none_iff]
  intro level hlevel
  simp only [List.mem_cons, List.not_mem_nil, or_false] at hlevel
  rcases hlevel with rfl | rfl | rfl | rfl | rfl | rfl
  · exact congrArg (Option.bind · dropSpaces) (hword 'D' (by decide) _)
  · exact congrArg (Option.bind · dropSpaces) (hword 'I' (by decide) _)
  · exact congrArg (Option.bind · dropSpaces) (hword 'W' (by decide) _)
  · exact congrArg (Option.bind · dropSpaces) (hword 'W' (by decide) _)
  · exact congrArg (Option.bind · dropSpaces) (hword 'E' (by decide) _)
  · exact congrArg (Option.bind · dropSpaces) (hword 'T' (by decide) _)

theorem logPrefixBracket_of_ne {c : Char} (h : c ≠ '[') (cs : List Char) :
    logPrefixBracket (c :: cs) = none := by
  unfold logPrefixBracket
  split
  · rename_i heq
    exact absurd (List.cons.inj heq).1 h
  · rfl

/-- None of the three prefixes is there. -/
def NoPrefix (line : List Char) : Prop :=
  logPrefixTime line = none ∧ logPrefixLevel line = none ∧ logPrefixBracket line = none

theorem StartsNoPrefix.noPrefix {c : Char} (h : StartsNoPrefix c) (cs : List Char) :
    NoPrefix (c :: cs) :=
  ⟨logPrefixTime_of_not_digit h.digit cs, logPrefixLevel_of_ne h.level cs,
    logPrefixBracket_of_ne h.bracket cs⟩

/-- Behind an indentation, a line without a prefix is parsed as it is. -/
theorem tryParseLineWithSalvage_part {indent part : List Char}
    (hindent : ∀ c ∈ indent, isIndent c = true) (hno : NoPrefix part)
    (hfirst : StartsVisible part) (hend : EndsVisible part) :
    tryParseLineWithSalvage (indent ++ part) = tryParse part := by
  obtain ⟨rest, last, rfl, hvisible⟩ := hend
  have hlast : ∀ c ∈ (rest ++ [last]).getLast?, isJsWhitespace c = false := by
    intro c hc
    rw [List.getLast?_append_cons, List.getLast?_singleton] at hc
    obtain rfl := Option.some.inj hc
    exact hvisible
  have hspaces : ∀ c ∈ indent, isJsWhitespace c = true := by
    intro c hc
    have hchar := hindent c hc
    simp only [isIndent, Bool.or_eq_true, beq_iff_eq] at hchar
    rcases hchar with rfl | rfl
    · decide
    · decide
  have htrim := trimChars_append hspaces hfirst hlast
  have htrim' := trimChars_append (List.forall_mem_nil _) hfirst hlast
  rw [List.nil_append] at htrim'
  obtain ⟨htime, hlevel, hbracket⟩ := hno
  unfold tryParseLineWithSalvage
  dsimp only
  rw [htrim, if_neg (by simp), htime, Option.getD_none, htrim', hlevel, hbracket]
  simp

/-! ## The lines of an indented record -/

theorem startsNoPrefix_quote : StartsNoPrefix '"' :=
  ⟨by decide, forall_mem_of_all (by decide), by decide⟩

theorem startsNoPrefix_brace : StartsNoPrefix '\x7b' :=
  ⟨by decide, forall_mem_of_all (by decide), by decide⟩

/-- The text of a number starts with a digit or a minus sign. -/
theorem number_head {c : Char} {cs : List Char} {n : JsNumber}
    (h : JsNumber.parse? (c :: cs) = some n) : c.isDigit = true ∨ c = '-' := by
  by_contra hneither
  obtain ⟨hdigit, hminus⟩ := not_or.mp hneither
  have hnone : JsNumber.parse? (c :: cs) = none := by
    simp [JsNumber.parse?, hminus, hdigit]
  rw [hnone] at h
  cases h

/-- No number starts with four digits and a minus sign. -/
theorem number_not_date {a b c d : Char} (ha : a.isDigit = true) (hb : b.isDigit = true)
    (hc : c.isDigit = true) (hd : d.isDigit = true) (cs : List Char) :
    JsNumber.parse? (a :: b :: c :: d :: '-' :: cs) = none := by
  have hminus : a ≠ '-' := by
    rintro rfl
    revert ha
    decide
  have hrest : Char.isDigit '-' = false := by decide
  simp [JsNumber.parse?, hminus, ha, hb, hc, hd, hrest]

theorem dropDigits_succ {n : ℕ} {cs rest : List Char}
    (h : dropDigits (n + 1) cs = some rest) :
    ∃ c tail, cs = c :: tail ∧ c.isDigit = true ∧ dropDigits n tail = some rest := by
  cases cs with
  | nil => cases h
  | cons c tail =>
      rw [dropDigits] at h
      split_ifs at h with hdigit
      exact ⟨c, tail, rfl, hdigit, h⟩

/-- A time stamp starts with four digits and a minus sign. -/
theorem logPrefixTime_date {line rest : List Char} (h : logPrefixTime line = some rest) :
    ∃ a b c d cs, line = a :: b :: c :: d :: '-' :: cs ∧ a.isDigit = true ∧
      b.isDigit = true ∧ c.isDigit = true ∧ d.isDigit = true := by
  obtain ⟨year, hyear, h⟩ := Option.bind_eq_some_iff.mp h
  obtain ⟨month, hmonth, -⟩ := Option.bind_eq_some_iff.mp h
  obtain ⟨a, as, rfl, ha, hyear⟩ := dropDigits_succ hyear
  obtain ⟨b, bs, rfl, hb, hyear⟩ := dropDigits_succ hyear
  obtain ⟨c, cs, rfl, hc, hyear⟩ := dropDigits_succ hyear
  obtain ⟨d, ds, rfl, hd, hyear⟩ := dropDigits_succ hyear
  obtain rfl := Option.some.inj hyear
  cases ds with
  | nil => cases hmonth
  | cons e es =>
      rw [dropOne] at hmonth
      split_ifs at hmonth with hminus
      obtain rfl := eq_of_beq hminus
      exact ⟨a, b, c, d, es, rfl, ha, hb, hc, hd⟩

/-- A number is no time stamp, also in front of a comma. -/
theorem logPrefixTime_number {text : List Char} {n : JsNumber}
    (h : JsNumber.parse? text = some n) {tail : List Char} (htail : LineTail tail) :
    logPrefixTime (text ++ tail) = none := by
  cases htime : logPrefixTime (text ++ tail) with
  | none => rfl
  | some rest =>
      obtain ⟨a, b, c, d, cs, hline, ha, hb, hc, hd⟩ := logPrefixTime_date htime
      have hcomma : Char.isDigit ',' = false := by decide
      obtain ⟨cs', htext⟩ : ∃ cs', text = a :: b :: c :: d :: '-' :: cs' := by
        rcases htail with rfl | rfl
        · exact ⟨cs, by simpa using hline⟩
        · -- a comma is neither a digit nor the minus sign
          rcases text with _ | ⟨a', _ | ⟨b', _ | ⟨c', _ | ⟨d', _ | ⟨e', cs'⟩⟩⟩⟩⟩
          · simp only [List.nil_append, List.cons.injEq] at hline
            rw [← hline.1, hcomma] at ha
            cases ha
          · simp only [List.cons_append, List.nil_append, List.cons.injEq] at hline
            rw [← hline.2.1, hcomma] at hb
            cases hb
          · simp only [List.cons_append, List.nil_append, List.cons.injEq] at hline
            rw [← hline.2.2.1, hcomma] at hc
            cases hc
          · simp only [List.cons_append, List.nil_append, List.cons.injEq] at hline
            rw [← hline.2.2.2.1, hcomma] at hd
            cases hd
          · simp at hline
          · simp only [List.cons_append, List.cons.injEq] at hline
            obtain ⟨rfl, rfl, rfl, rfl, rfl, -⟩ := hline
            exact ⟨cs', rfl⟩
      rw [htext, number_not_date ha hb hc hd] at h
      cases h

theorem noPrefix_number {text : List Char} {n : JsNumber}
    (h : JsNumber.parse? text = some n) {tail : List Char} (htail : LineTail tail) :
    NoPrefix (text ++ tail) := by
  cases text with
  | nil => cases h
  | cons c cs =>
      have hhead := number_head h
      have hsmall : c.toNat < 65 := by
        rcases hhead with hdigit | rfl
        · simp only [Char.isDigit, Bool.and_eq_true, decide_eq_true_eq] at hdigit
          have hrange : c.toNat ≤ 57 := hdigit.2
          omega
        · decide
      have hupper : c.toUpper = c := by
        unfold Char.toUpper
        rw [dif_neg]
        rintro ⟨hlow, -⟩
        have hlow' : 97 ≤ c.toNat := hlow
        omega
      refine ⟨logPrefixTime_number h htail, logPrefixLevel_of_ne ?_ _,
        logPrefixBracket_of_ne ?_ _⟩
      · intro w hw hsame
        rw [hupper] at hsame
        subst hsame
        have hletters : ∀ w ∈ ['D', 'I', 'W', 'E', 'T'], 65 ≤ w.toNat :=
          forall_mem_of_all (by decide)
        exact absurd (hletters c hw) (by omega)
      · rintro rfl
        revert hsmall
        decide

/-- A value without lines of its own has no prefix, also in front of a comma. -/
theorem noPrefix_leaf {v : Json} (hv : v.WellFormed) (hleaf : v.isLeaf = true)
    {tail : List Char} (htail : LineTail tail) : NoPrefix (v.render [] 0 ++ tail) := by
  cases v with
  | null =>
      show NoPrefix ("null".toList ++ tail)
      exact StartsNoPrefix.noPrefix ⟨by decide, forall_mem_of_all (by decide), by decide⟩ _
  | bool value =>
      cases value with
      | true =>
          show NoPrefix ("true".toList ++ tail)
          refine ⟨logPrefixTime_of_not_digit (by decide) _, ?_,
            logPrefixBracket_of_ne (by decide) _⟩
          rcases htail with rfl | rfl
          · decide
          · decide
      | false =>
          show NoPrefix ("false".toList ++ tail)
          exact StartsNoPrefix.noPrefix ⟨by decide, forall_mem_of_all (by decide), by decide⟩ _
  | num value => exact noPrefix_number hv htail
  | str value =>
      rw [Json.render, quote, String.toList_ofList]
      exact startsNoPrefix_quote.noPrefix _
  | arr items =>
      obtain rfl := List.isEmpty_iff.mp hleaf
      rcases htail with rfl | rfl
      · exact ⟨by decide, by decide, by decide⟩
      · exact ⟨by decide, by decide, by decide⟩
  | obj members =>
      obtain rfl := List.isEmpty_iff.mp hleaf
      exact startsNoPrefix_brace.noPrefix _

theorem noPrefix_linePart {part : List Char} (h : LinePart part) : NoPrefix part := by
  cases h with
  | leaf v hv hleaf =>
      have hno := noPrefix_leaf hv hleaf (.inl rfl)
      rw [List.append_nil] at hno
      exact hno
  | leafComma v hv hleaf => exact noPrefix_leaf hv hleaf (.inr rfl)
  | keyed key rest last =>
      rw [quote, String.toList_ofList]
      exact startsNoPrefix_quote.noPrefix _
  | bracket c hpunct hother =>
      simp only [isPunct, Bool.or_eq_true, beq_iff_eq] at hpunct
      rcases hpunct with ((((rfl | rfl) | rfl) | rfl) | rfl) | rfl
      · exact ⟨by decide, by decide, by decide⟩
      · exact ⟨by decide, by decide, by decide⟩
      · exact ⟨by decide, by decide, by decide⟩
      · exact ⟨by decide, by decide, by decide⟩
      · exact absurd rfl hother.1
      · exact absurd rfl hother.2
  | closing c hclosing =>
      rcases hclosing with rfl | rfl
      · exact ⟨by decide, by decide, by decide⟩
      · exact ⟨by decide, by decide, by decide⟩

theorem actionsOf_leaf {v : Json} (h : v.isLeaf = true) : actionsOf v = [] := by
  cases v with
  | arr items =>
      obtain rfl := List.isEmpty_iff.mp h
      rfl
  | obj members =>
      obtain rfl := List.isEmpty_iff.mp h
      rfl
  | null => rfl
  | bool value => rfl
  | num value => rfl
  | str value => rfl

theorem tryParse_actions {text : List Char} {v : Json} (h : parseJson text = some v) :
    (tryParse text).elim [] actionsOf = actionsOf v := by
  cases v with
  | null => simp [tryParse, h, actionsOf]
  | bool value => simp [tryParse, h]
  | num value => simp [tryParse, h]
  | str value => simp [tryParse, h]
  | arr items => simp [tryParse, h]
  | obj members => simp [tryParse, h]

theorem tryParse_none {text : List Char} (h : parseJson text = none) :
    tryParse text = none := by
  rw [tryParse, h]

theorem parseJson_leafComma {v : Json} (hv : v.WellFormed) :
    parseJson (v.render [] 0 ++ [',']) = none := by
  have hlex : lex .idle (v.render [] 0 ++ [',']) = some (v.tokens ++ [.punct ',']) := by
    rw [lexes_render (by simp) 0 v [','] (delimited_cons [] (by decide))]
    rfl
  exact parseJson_trailing hv hlex (List.cons_ne_nil _ _)

theorem parseJson_keyed (key : String) (rest : List Char) :
    parseJson ((quote key).toList ++ ':' :: rest) = none := by
  have hlex := lex_quote key (':' :: rest)
  rw [lex_punct rfl rfl, Option.map_map] at hlex
  cases hrest : lex .idle rest with
  | none =>
      rw [hrest] at hlex
      rw [parseJson, hlex]
      rfl
  | some tokens =>
      rw [hrest] at hlex
      have hkey : (Json.str key).WellFormed := trivial
      exact parseJson_trailing hkey hlex (by simp)

/-- No line of an indented text has an action. -/
theorem tryParse_linePart {part : List Char} (h : LinePart part) :
    (tryParse part).elim [] actionsOf = [] := by
  cases h with
  | leaf v hv hleaf =>
      have hparse := @parseJson_render [] [] v (by simp) (by simp) hv
      rw [List.append_nil] at hparse
      rw [tryParse_actions hparse, actionsOf_leaf hleaf]
  | leafComma v hv =>
      rw [tryParse_none (parseJson_leafComma hv)]
      rfl
  | keyed key rest last =>
      have hnone := parseJson_keyed key (' ' :: (rest ++ [last]))
      rw [tryParse_none (by simpa using hnone)]
      rfl
  | bracket c hpunct hother =>
      simp only [isPunct, Bool.or_eq_true, beq_iff_eq] at hpunct
      rcases hpunct with ((((rfl | rfl) | rfl) | rfl) | rfl) | rfl
      · rfl
      · rfl
      · rfl
      · rfl
      · exact absurd rfl hother.1
      · exact absurd rfl hother.2
  | closing c hclosing =>
      rcases hclosing with rfl | rfl
      · rfl
      · rfl

theorem lineActions_indented {indent part : List Char}
    (hindent : ∀ c ∈ indent, isIndent c = true) (h : LinePart part) :
    lineActions (indent ++ part) = [] := by
  obtain ⟨hfirst, hend⟩ := h.visible
  rw [lineActions, tryParseLineWithSalvage_part hindent (noPrefix_linePart h) hfirst hend,
    tryParse_linePart h]

end AgentSkeptic.Quick

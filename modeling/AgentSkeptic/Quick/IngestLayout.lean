import AgentSkeptic.Quick.IngestLines
import AgentSkeptic.Support.SortedJson

/-!
# Ingest and the layout of records

What `ingestActivityUtf8` makes of JSON objects that stand below each other, each
compact or indented.  A single object is read as the whole text.  Of several, only the
compact ones are lines of their own; without an action in them, the scan for balanced
braces stops at the first object with one.  `ingest_layout` says which actions are
kept, for every list of objects and every layout, and bounds the malformed lines of
every text.
-/

namespace AgentSkeptic.Quick

open AgentSkeptic.Support

/-! ## Records -/

/-- An object and the gap that it is written with: none is compact. -/
structure Record where
  members : List (String × Json)
  gap : List Char

def Record.json (r : Record) : Json := .obj r.members

def Record.text (r : Record) : List Char := r.json.render r.gap 0

/-- The object is a JSON value and the gap is made of spaces or tabs. -/
structure Record.Valid (r : Record) : Prop where
  wellFormed : r.json.WellFormed
  gap : ∀ c ∈ r.gap, isIndent c = true

/-- The texts of the records, joined with line breaks. -/
def recordsText (records : List Record) : List Char :=
  ['\n'].intercalate (records.map Record.text)

theorem isJsonSpace_of_isIndent {c : Char} (h : isIndent c = true) :
    isJsonSpace c = true := by
  simp only [isIndent, Bool.or_eq_true, beq_iff_eq] at h
  rcases h with rfl | rfl
  · rfl
  · rfl

theorem Record.text_eq (r : Record) : ∃ rest, r.text = '\x7b' :: rest := by
  rw [Record.text, Record.json, Json.render, renderParts]
  split_ifs
  · exact ⟨_, rfl⟩
  · exact ⟨_, rfl⟩

theorem Record.Valid.parseJson {r : Record} (h : r.Valid) :
    Support.parseJson r.text = some r.json := by
  have hparse := @parseJson_render r.gap [] r.json
    (fun c hc => isJsonSpace_of_isIndent (h.gap c hc)) (by simp) h.wellFormed
  rw [List.append_nil] at hparse
  exact hparse

/-- The lines of a record have its actions when it is compact, and none when it is
not. -/
theorem Record.Valid.lineActions {r : Record} (h : r.Valid) :
    (r.text.splitOn '\n').flatMap Quick.lineActions =
      if r.gap = [] then actionsOf r.json else [] := by
  split_ifs with hgap
  · have hline : '\n' ∉ r.text := by
      rw [Record.text, hgap]
      exact lineBreak_not_mem_compact h.wellFormed 0
    obtain ⟨rest, htext⟩ := r.text_eq
    have hsalvage : tryParseLineWithSalvage r.text = tryParse r.text := by
      have hno : NoPrefix r.text := by
        rw [htext]
        exact startsNoPrefix_brace.noPrefix rest
      exact tryParseLineWithSalvage_part (List.forall_mem_nil _) hno
        (startsVisible_render r.gap 0 h.wellFormed)
        (endsVisible_render r.gap 0 h.wellFormed)
    rw [List.splitOn_eq_singleton hline, List.flatMap_singleton, Quick.lineActions,
      hsalvage, tryParse_actions h.parseJson]
  · have hparts := lineParts_render h.gap hgap 0 r.json h.wellFormed [] []
      ⟨[], [], rfl, by simp, .inl rfl⟩ (.inl rfl)
    rw [List.nil_append, List.append_nil] at hparts
    rw [List.flatMap_eq_nil_iff]
    intro line hline
    obtain ⟨indent, part, rfl, hindent, hpart⟩ := hparts line hline
    exact lineActions_indented hindent hpart

/-! ## The braces of a record -/

/-- Inside a slice, the text is read without a change of the nesting. -/
def ScannedThrough (text : List Char) : Prop :=
  ∀ depth taken cs, 1 ≤ depth →
    scanFrom (some ⟨depth, none, false, taken⟩) (text ++ cs) =
      scanFrom (some ⟨depth, none, false, text.reverse ++ taken⟩) cs

theorem ScannedThrough.nil : ScannedThrough [] := fun _ _ _ _ => rfl

theorem ScannedThrough.append {a b : List Char} (ha : ScannedThrough a)
    (hb : ScannedThrough b) : ScannedThrough (a ++ b) := by
  intro depth taken cs hdepth
  rw [List.append_assoc, ha depth taken _ hdepth, hb depth _ cs hdepth,
    List.reverse_append, List.append_assoc]

theorem scanFrom_next {s : ScanState} {ch : Char} (h : (s.next ch).depth ≠ 0)
    (cs : List Char) : scanFrom (some s) (ch :: cs) = scanFrom (some (s.next ch)) cs :=
  if_neg h

/-- A character that is no brace and no quotation mark. -/
def isPlain (c : Char) : Bool :=
  c != '"' && c != '\'' && c != '\x7b' && c != '\x7d'

theorem ScannedThrough.of_plain {text : List Char}
    (h : ∀ c ∈ text, isPlain c = true) : ScannedThrough text := by
  induction text with
  | nil => exact .nil
  | cons c text ih =>
      obtain ⟨hc, htext⟩ := List.forall_mem_cons.mp h
      intro depth taken cs hdepth
      have hnext : ScanState.next ⟨depth, none, false, taken⟩ c =
          ⟨depth, none, false, c :: taken⟩ := by
        simp only [isPlain, Bool.and_eq_true, bne_iff_ne] at hc
        obtain ⟨⟨⟨hquote, hsingle⟩, hopen⟩, hclose⟩ := hc
        simp [ScanState.next, hquote, hsingle, hopen, hclose]
      have hstep := @scanFrom_next ⟨depth, none, false, taken⟩ c
        (by rw [hnext]; exact Nat.ne_of_gt hdepth) (text ++ cs)
      rw [List.cons_append, hstep, hnext, ih htext depth _ cs hdepth,
        List.reverse_cons, List.append_assoc, List.singleton_append]

/-- Inside a text of a slice. -/
def ScannedInText (text : List Char) : Prop :=
  ∀ depth taken cs, 1 ≤ depth →
    scanFrom (some ⟨depth, some '"', false, taken⟩) (text ++ cs) =
      scanFrom (some ⟨depth, some '"', false, text.reverse ++ taken⟩) cs

theorem ScannedInText.append {a b : List Char} (ha : ScannedInText a)
    (hb : ScannedInText b) : ScannedInText (a ++ b) := by
  intro depth taken cs hdepth
  rw [List.append_assoc, ha depth taken _ hdepth, hb depth _ cs hdepth,
    List.reverse_append, List.append_assoc]

theorem ScannedInText.of_ne {c : Char} (hquote : c ≠ '"') (hbackslash : c ≠ '\\') :
    ScannedInText [c] := by
  intro depth taken cs hdepth
  have hnext : ScanState.next ⟨depth, some '"', false, taken⟩ c =
      ⟨depth, some '"', false, c :: taken⟩ := by
    simp [ScanState.next, hquote, hbackslash]
  have hstep := @scanFrom_next ⟨depth, some '"', false, taken⟩ c
    (by rw [hnext]; exact Nat.ne_of_gt hdepth) cs
  rw [List.singleton_append, hstep, hnext]
  rfl

theorem ScannedInText.escaped (c : Char) : ScannedInText ['\\', c] := by
  intro depth taken cs hdepth
  have hfirst := @scanFrom_next ⟨depth, some '"', false, taken⟩ '\\'
    (Nat.ne_of_gt hdepth) (c :: cs)
  have hsecond := @scanFrom_next ⟨depth, some '"', true, '\\' :: taken⟩ c
    (Nat.ne_of_gt hdepth) cs
  exact hfirst.trans hsecond

theorem hexDigit_plain {n : ℕ} (h : n < 16) : hexDigit n ≠ '"' ∧ hexDigit n ≠ '\\' := by
  have hall : ∀ n : Fin 16, hexDigit n ≠ '"' ∧ hexDigit n ≠ '\\' := by decide
  exact hall ⟨n, h⟩

theorem scannedInText_quoteChar (c : Char) : ScannedInText (quoteChar c) := by
  unfold quoteChar
  split
  · exact .escaped '"'
  · exact .escaped '\\'
  · exact .escaped 'n'
  · exact .escaped 'r'
  · exact .escaped 't'
  · rename_i hquote hbackslash _ _ _
    split_ifs with hb hf hcontrol
    · exact .escaped 'b'
    · exact .escaped 'f'
    · obtain ⟨hhigh, hhigh'⟩ := @hexDigit_plain (c.toNat / 16) (by omega)
      obtain ⟨hlow, hlow'⟩ := @hexDigit_plain (c.toNat % 16) (by omega)
      have hzero : ScannedInText ['0'] := .of_ne (by decide) (by decide)
      exact (ScannedInText.escaped 'u').append (hzero.append (hzero.append
        ((ScannedInText.of_ne hhigh hhigh').append (.of_ne hlow hlow'))))
    · exact .of_ne hquote hbackslash

theorem scannedInText_quoteChars (text : List Char) :
    ScannedInText (text.flatMap quoteChar) := by
  induction text with
  | nil => exact fun _ _ _ _ => rfl
  | cons c text ih =>
      rw [List.flatMap_cons]
      exact (scannedInText_quoteChar c).append ih

theorem ScannedThrough.quote (s : String) :
    ScannedThrough (Support.quote s).toList := by
  intro depth taken cs hdepth
  have hopen := @scanFrom_next ⟨depth, none, false, taken⟩ '"' (Nat.ne_of_gt hdepth)
    (s.toList.flatMap quoteChar ++ '"' :: cs)
  have htext := scannedInText_quoteChars s.toList depth ('"' :: taken) ('"' :: cs) hdepth
  have hclose := @scanFrom_next
    ⟨depth, some '"', false, (s.toList.flatMap quoteChar).reverse ++ '"' :: taken⟩ '"'
    (Nat.ne_of_gt hdepth) cs
  rw [Support.quote, String.toList_ofList]
  simp only [List.cons_append, List.append_assoc, List.nil_append, List.reverse_cons,
    List.reverse_append, List.reverse_nil]
  exact hopen.trans (htext.trans hclose)

theorem ScannedThrough.braces {inner : List Char} (h : ScannedThrough inner) :
    ScannedThrough ('\x7b' :: inner ++ ['\x7d']) := by
  intro depth taken cs hdepth
  have hopen := @scanFrom_next ⟨depth, none, false, taken⟩ '\x7b'
    (Nat.succ_ne_zero depth) (inner ++ '\x7d' :: cs)
  have hinner := h (depth + 1) ('\x7b' :: taken) ('\x7d' :: cs) (Nat.le_add_left 1 depth)
  have hclose := @scanFrom_next
    ⟨depth + 1, none, false, inner.reverse ++ '\x7b' :: taken⟩ '\x7d'
    (Nat.ne_of_gt hdepth) cs
  simp only [List.cons_append, List.append_assoc, List.nil_append, List.reverse_cons,
    List.reverse_append, List.reverse_nil]
  exact hopen.trans (hinner.trans hclose)

/-- Between two slices, balanced braces are the next slice. -/
theorem scanFrom_braces {inner : List Char} (h : ScannedThrough inner) (cs : List Char) :
    scanFrom none ('\x7b' :: inner ++ '\x7d' :: cs) =
      ('\x7b' :: inner ++ ['\x7d']) :: scanFrom none cs := by
  have hinner := h 1 ['\x7b'] ('\x7d' :: cs) (Nat.le_refl 1)
  have hclose : scanFrom (some ⟨1, none, false, inner.reverse ++ ['\x7b']⟩)
      ('\x7d' :: cs) =
      ('\x7d' :: (inner.reverse ++ ['\x7b'])).reverse :: scanFrom none cs := rfl
  have hopen : scanFrom none ('\x7b' :: inner ++ '\x7d' :: cs) =
      scanFrom (some ⟨1, none, false, ['\x7b']⟩) (inner ++ '\x7d' :: cs) := rfl
  rw [hopen, hinner, hclose]
  simp

section Scan

variable {gap : List Char}

theorem scannedThrough_lineBreak (hgap : ∀ c ∈ gap, isIndent c = true) (depth : ℕ) :
    ScannedThrough (lineBreak gap depth) := by
  apply ScannedThrough.of_plain
  intro c hc
  have hindent : ∀ c, isIndent c = true → isPlain c = true := by
    intro c hc
    simp only [isIndent, Bool.or_eq_true, beq_iff_eq] at hc
    rcases hc with rfl | rfl
    · decide
    · decide
  unfold lineBreak at hc
  split_ifs at hc
  · cases hc
  · rcases List.mem_cons.mp hc with rfl | hc
    · decide
    · exact hindent c (isIndent_indentation hgap depth c hc)

theorem scannedThrough_intercalate {sep : List Char} (hsep : ScannedThrough sep)
    {parts : List (List Char)} (h : ∀ part ∈ parts, ScannedThrough part) :
    ScannedThrough (sep.intercalate parts) := by
  induction parts with
  | nil => exact .nil
  | cons part parts ih =>
      obtain ⟨hpart, hparts⟩ := List.forall_mem_cons.mp h
      cases parts with
      | nil => simpa using hpart
      | cons part' parts =>
          rw [List.intercalate_cons_cons]
          exact (hpart.append hsep).append (ih hparts)

/-- What stands between the brackets is read without a change of the nesting. -/
theorem exists_renderParts (hgap : ∀ c ∈ gap, isIndent c = true) (depth : ℕ)
    (opening closing : Char) {parts : List (List Char)}
    (h : ∀ part ∈ parts, ScannedThrough part) :
    ∃ inner, renderParts gap depth opening closing parts =
      opening :: inner ++ [closing] ∧ ScannedThrough inner := by
  unfold renderParts
  split_ifs
  · exact ⟨[], rfl, .nil⟩
  · have hcomma : ScannedThrough [','] := .of_plain (forall_mem_of_all (by decide))
    have hsep := hcomma.append (scannedThrough_lineBreak hgap (depth + 1))
    refine ⟨lineBreak gap (depth + 1) ++
      (',' :: lineBreak gap (depth + 1)).intercalate parts ++ lineBreak gap depth,
      by simp, ?_⟩
    exact ((scannedThrough_lineBreak hgap (depth + 1)).append
      (scannedThrough_intercalate hsep h)).append (scannedThrough_lineBreak hgap depth)

theorem isPlain_of_isNumberChar {c : Char} (h : isNumberChar c = true) :
    isPlain c = true := by
  have hne : ∀ d, isNumberChar d = false → c ≠ d := by
    rintro d hd rfl
    rw [h] at hd
    cases hd
  simp [isPlain, hne '"' (by decide), hne '\'' (by decide), hne '\x7b' (by decide),
    hne '\x7d' (by decide)]

mutual

theorem scannedThrough_render (hgap : ∀ c ∈ gap, isIndent c = true) (depth : ℕ) :
    ∀ v : Json, v.WellFormed → ScannedThrough (v.render gap depth)
  | .null, _ => (ScannedThrough.of_plain (forall_mem_of_all (by decide)) : ScannedThrough "null".toList)
  | .bool true, _ => (ScannedThrough.of_plain (forall_mem_of_all (by decide)) : ScannedThrough "true".toList)
  | .bool false, _ =>
      (ScannedThrough.of_plain (forall_mem_of_all (by decide)) : ScannedThrough "false".toList)
  | .num _, h => .of_plain fun c hc => isPlain_of_isNumberChar
      (isNumberChar_stringify (JsNumber.Readable.isFinite h) c hc)
  | .str value, _ => .quote value
  | .arr items, h => by
      obtain ⟨inner, hinner, hscan⟩ := exists_renderParts hgap depth '[' ']'
        (scannedThrough_renderItems hgap (depth + 1) items h)
      have hopen : ScannedThrough ['['] := .of_plain (forall_mem_of_all (by decide))
      have hclose : ScannedThrough [']'] := .of_plain (forall_mem_of_all (by decide))
      rw [Json.render, hinner]
      exact (hopen.append hscan).append hclose
  | .obj members, h => by
      obtain ⟨inner, hinner, hscan⟩ := exists_renderParts hgap depth '\x7b' '\x7d'
        (scannedThrough_renderMembers hgap (depth + 1) members h.2.2)
      rw [Json.render, hinner]
      exact hscan.braces

theorem scannedThrough_renderItems (hgap : ∀ c ∈ gap, isIndent c = true) (depth : ℕ) :
    ∀ items : List Json, Json.WellFormedItems items →
      ∀ part ∈ Json.renderItems gap depth items, ScannedThrough part
  | [], _ => by
      intro part hpart
      cases hpart
  | item :: items, h =>
      List.forall_mem_cons.mpr ⟨scannedThrough_render hgap depth item h.1,
        scannedThrough_renderItems hgap depth items h.2⟩

theorem scannedThrough_renderMembers (hgap : ∀ c ∈ gap, isIndent c = true)
    (depth : ℕ) : ∀ members : List (String × Json), Json.WellFormedMembers members →
      ∀ part ∈ Json.renderMembers gap depth members, ScannedThrough part
  | [], _ => by
      intro part hpart
      cases hpart
  | (key, value) :: members, h => by
      have hcolon : ScannedThrough (colonText gap) := by
        unfold colonText
        split_ifs
        · exact .of_plain (forall_mem_of_all (by decide))
        · exact .of_plain (forall_mem_of_all (by decide))
      have hmember := ((ScannedThrough.quote key).append hcolon).append
        (scannedThrough_render hgap depth value h.1)
      exact List.forall_mem_cons.mpr ⟨hmember,
        scannedThrough_renderMembers hgap depth members h.2⟩

end

end Scan

theorem Record.Valid.scanFrom {r : Record} (h : r.Valid) (cs : List Char) :
    Quick.scanFrom none (r.text ++ cs) = r.text :: Quick.scanFrom none cs := by
  obtain ⟨inner, hinner, hscan⟩ := exists_renderParts h.gap 0 '\x7b' '\x7d'
    (scannedThrough_renderMembers h.gap 1 r.members h.wellFormed.2.2)
  have htext : r.text = '\x7b' :: inner ++ ['\x7d'] := by
    rw [Record.text, Record.json, Json.render, hinner]
  rw [htext, List.append_assoc]
  exact scanFrom_braces hscan cs

/-- The slices of a text of records are the records. -/
theorem scanBalancedJsonObjects_records {records : List Record}
    (h : ∀ r ∈ records, r.Valid) :
    scanBalancedJsonObjects (recordsText records) = records.map Record.text := by
  unfold scanBalancedJsonObjects recordsText
  induction records with
  | nil => rfl
  | cons r records ih =>
      obtain ⟨hr, hrecords⟩ := List.forall_mem_cons.mp h
      cases records with
      | nil =>
          have hlast := hr.scanFrom []
          rw [List.append_nil] at hlast
          rw [List.map_singleton, List.intercalate_singleton, hlast]
          rfl
      | cons r' records =>
          have hbreak : ∀ cs, Quick.scanFrom none ('\n' :: cs) =
              Quick.scanFrom none cs := fun _ => rfl
          rw [List.map_cons, List.map_cons, List.intercalate_cons_cons,
            List.append_assoc, hr.scanFrom, List.singleton_append, hbreak,
            ← List.map_cons, ih hrecords]

/-! ## The text of some records -/

/-- The lines of the records, one after the other. -/
theorem recordsText_lines {records : List Record} (hne : records ≠ []) :
    (recordsText records).splitOn '\n' =
      records.flatMap fun r => r.text.splitOn '\n' := by
  unfold recordsText
  induction records with
  | nil => exact absurd rfl hne
  | cons r records ih =>
      cases records with
      | nil => simp
      | cons r' records =>
          rw [List.map_cons, List.map_cons, List.intercalate_cons_cons,
            List.append_assoc, List.singleton_append, List.splitOn_append_cons_self,
            ← List.map_cons, ih (List.cons_ne_nil _ _)]
          simp

/-- The actions of the compact records. -/
def compactActions (records : List Record) : List RawAction :=
  records.flatMap fun r => if r.gap = [] then actionsOf r.json else []

theorem lineActions_records {records : List Record} (hne : records ≠ [])
    (h : ∀ r ∈ records, r.Valid) :
    ((recordsText records).splitOn '\n').flatMap lineActions =
      compactActions records := by
  rw [recordsText_lines hne, List.flatMap_assoc]
  apply List.flatMap_congr
  intro r hr
  exact (h r hr).lineActions

/-- Two or more records are no JSON text. -/
theorem parseJson_records {r r' : Record} {records : List Record}
    (h : ∀ s ∈ r :: r' :: records, s.Valid) :
    parseJson (recordsText (r :: r' :: records)) = none := by
  have hr := h r (by simp)
  have hr' := h r' (by simp)
  have hspace : ∀ s : Record, s.Valid → ∀ c ∈ s.gap, isJsonSpace c = true :=
    fun s hs c hc => isJsonSpace_of_isIndent (hs.gap c hc)
  have htext : ∃ cs, recordsText (r :: r' :: records) =
      r.text ++ '\n' :: (r'.text ++ cs) ∧ Delimited cs := by
    cases records with
    | nil => exact ⟨[], by simp [recordsText, List.intercalate_cons_cons], by simp [Delimited]⟩
    | cons s records =>
        refine ⟨'\n' :: recordsText (s :: records), ?_, delimited_cons _ (by decide)⟩
        simp [recordsText, List.intercalate_cons_cons]
  obtain ⟨cs, htext, hcs⟩ := htext
  rw [htext]
  exact parseJson_two (hspace r hr) (hspace r' hr') hr.wellFormed hcs

theorem stripFrom_of_not_mem {cs : List Char} (h : '\u001b' ∉ cs) :
    stripFrom 0 cs = cs := by
  induction cs with
  | nil => rfl
  | cons c cs ih =>
      obtain ⟨hc, hcs⟩ := not_or.mp (mt List.mem_cons.mpr h)
      rw [stripFrom, if_neg (Ne.symm hc)]
      dsimp only
      rw [ih hcs]

theorem mem_recordsText {records : List Record} {c : Char}
    (h : c ∈ recordsText records) : c = '\n' ∨ ∃ r ∈ records, c ∈ r.text := by
  unfold recordsText at h
  induction records with
  | nil => simp at h
  | cons r records ih =>
      cases records with
      | nil =>
          right
          exact ⟨r, .head _, by simpa using h⟩
      | cons r' records =>
          rw [List.map_cons, List.map_cons, List.intercalate_cons_cons, List.mem_append,
            List.mem_append, ← List.map_cons] at h
          rcases h with (h | h) | h
          · exact .inr ⟨r, .head _, h⟩
          · exact .inl (List.mem_singleton.mp h)
          · rcases ih h with hbreak | ⟨s, hs, hmem⟩
            · exact .inl hbreak
            · exact .inr ⟨s, .tail _ hs, hmem⟩

/-- There is nothing to strip in a text of records, and it is not blank. -/
theorem ingestBuffer_records {r : Record} {records : List Record}
    (h : ∀ s ∈ r :: records, s.Valid) :
    ingestBuffer (recordsText (r :: records)) = recordsText (r :: records) ∧
      trimChars (recordsText (r :: records)) ≠ [] := by
  have hescape : '\u001b' ∉ recordsText (r :: records) := by
    intro hmem
    rcases mem_recordsText hmem with hbreak | ⟨s, hs, hchar⟩
    · revert hbreak
      decide
    · rcases layoutChar_render 0 s.json (h s hs).wellFormed _ hchar with
        hvisible | ⟨-, hbreak | hgap⟩
      · revert hvisible
        decide
      · revert hbreak
        decide
      · have hindent := (h s hs).gap _ hgap
        revert hindent
        decide
  obtain ⟨cs, hcs⟩ : ∃ cs, recordsText (r :: records) = '\x7b' :: cs := by
    obtain ⟨rest, hrest⟩ := r.text_eq
    cases records with
    | nil => exact ⟨rest, by simp [recordsText, hrest]⟩
    | cons r' records =>
        refine ⟨rest ++ '\n' :: recordsText (r' :: records), ?_⟩
        simp [recordsText, List.intercalate_cons_cons, hrest]
  refine ⟨?_, ?_⟩
  · have hstrip := stripFrom_of_not_mem hescape
    rw [hcs] at hstrip ⊢
    exact hstrip
  · intro hblank
    have hspace := (trimChars_eq_nil_iff _).mp hblank '\x7b' (by rw [hcs]; exact .head _)
    revert hspace
    decide

/-! ## The rungs -/

theorem take_maxActions_eq_nil {actions : List RawAction} :
    actions.take maxActions = [] ↔ actions = [] := by
  rw [List.take_eq_nil_iff]
  simp [maxActions]

/-- The actions of the first record that has one. -/
def firstActions (records : List Record) : List RawAction :=
  ((records.map fun r => actionsOf r.json).find? fun actions => !actions.isEmpty).getD []

theorem ingestSlices_records {records : List Record} (h : ∀ r ∈ records, r.Valid) :
    ((ingestSlices (recordsText records)).elim [] (·.actions)) =
      (firstActions records).take maxActions := by
  rw [ingestSlices, scanBalancedJsonObjects_records h]
  induction records with
  | nil => rfl
  | cons r records ih =>
      obtain ⟨hr, hrecords⟩ := List.forall_mem_cons.mp h
      have hwhole := ingestWhole_of_parse hr.parseJson
      rw [List.map_cons, List.findSome?_cons]
      by_cases hempty : actionsOf r.json = []
      · rw [if_pos (by rw [hempty]; rfl)] at hwhole
        rw [Option.map_eq_none_iff.mp hwhole]
        simpa [firstActions, hempty] using ih hrecords
      · rw [if_neg (mt take_maxActions_eq_nil.mp hempty)] at hwhole
        obtain ⟨ctx, hctx, hactions⟩ := Option.map_eq_some_iff.mp hwhole
        rw [hctx]
        simp [firstActions, hempty, hactions]

/-- What the ladder answers. -/
theorem ingestLadder_actions (buf : List Char) : (ingestLadder buf).actions =
    match ingestWhole buf with
    | some ctx => ctx.actions
    | none =>
        if (ingestLines buf).actions ≠ [] then (ingestLines buf).actions
        else (ingestSlices buf).elim [] (·.actions) := by
  unfold ingestLadder
  cases ingestWhole buf with
  | some ctx => rfl
  | none =>
      dsimp only
      split_ifs
      · rfl
      · cases ingestSlices buf with
        | none => rfl
        | some ctx => rfl

/-- The actions that the ladder keeps of some records. -/
def keptActions : List Record → List RawAction
  | [r] => actionsOf r.json
  | records =>
      if compactActions records ≠ [] then compactActions records
      else firstActions records

theorem ingestLadder_records {records : List Record} (hne : records ≠ [])
    (h : ∀ r ∈ records, r.Valid) :
    (ingestLadder (recordsText records)).actions =
      (keptActions records).take maxActions := by
  obtain ⟨hlines, -⟩ := ingestLines_spec (recordsText records)
  rw [lineActions_records hne h] at hlines
  rw [ingestLadder_actions, hlines, ingestSlices_records h]
  rcases records with _ | ⟨r, _ | ⟨r', records⟩⟩
  · exact absurd rfl hne
  · have hr := h r (.head _)
    have htext : recordsText [r] = r.text := by simp [recordsText]
    have hwhole := ingestWhole_of_parse hr.parseJson
    rw [htext, keptActions]
    by_cases hempty : actionsOf r.json = []
    · rw [if_pos (by rw [hempty]; rfl)] at hwhole
      rw [Option.map_eq_none_iff.mp hwhole]
      simp [compactActions, firstActions, hempty]
    · rw [if_neg (mt take_maxActions_eq_nil.mp hempty)] at hwhole
      obtain ⟨ctx, hctx, hactions⟩ := Option.map_eq_some_iff.mp hwhole
      rw [hctx]
      exact hactions
  · rw [ingestWhole_of_not_parse (parseJson_records h)]
    dsimp only [keptActions]
    by_cases hempty : compactActions (r :: r' :: records) = []
    · rw [hempty]
      simp
    · rw [if_pos (mt take_maxActions_eq_nil.mp hempty), if_pos hempty]

/-- What is ingested of records that are short enough to be read. -/
theorem ingestActivityUtf8_records {records : List Record} (h : ∀ r ∈ records, r.Valid)
    (hsize : (utf8Encode (recordsText records)).length ≤ maxInputBytes) :
    (ingestActivityUtf8 (recordsText records)).actions =
      (keptActions records).take maxActions := by
  unfold ingestActivityUtf8
  rw [if_neg (Nat.not_lt.mpr hsize)]
  cases records with
  | nil => rfl
  | cons r records =>
      obtain ⟨hbuffer, hblank⟩ := ingestBuffer_records h
      dsimp only
      rw [hbuffer, if_neg hblank]
      exact ingestLadder_records (List.cons_ne_nil _ _) h

/-- A single record and compact records are kept whole. -/
theorem keptActions_eq {records : List Record}
    (h : records.length ≤ 1 ∨ ∀ r ∈ records, r.gap = []) :
    keptActions records = records.flatMap fun r => actionsOf r.json := by
  have hcompact : ∀ records : List Record, (∀ r ∈ records, r.gap = []) →
      compactActions records = records.flatMap fun r => actionsOf r.json := by
    intro records hgaps
    apply List.flatMap_congr
    intro r hr
    rw [if_pos (hgaps r hr)]
  rcases records with _ | ⟨r, _ | ⟨r', records⟩⟩
  · rfl
  · simp [keptActions]
  · have hgaps : ∀ s ∈ r :: r' :: records, s.gap = [] := by
      rcases h with hlength | hgaps
      · simp at hlength
      · exact hgaps
    dsimp only [keptActions]
    rw [hcompact _ hgaps]
    split_ifs with hactions
    · rfl
    · have hnil : ∀ s ∈ r :: r' :: records, actionsOf s.json = [] := by
        rw [ne_eq, not_not, List.flatMap_eq_nil_iff] at hactions
        exact hactions
      have hfind : ((r :: r' :: records).map fun s => actionsOf s.json).find?
          (fun actions => !actions.isEmpty) = none := by
        rw [List.find?_eq_none]
        intro actions hmem
        obtain ⟨s, hs, rfl⟩ := List.mem_map.mp hmem
        simp [hnil s hs]
      rw [firstActions, hfind]
      exact (not_not.mp hactions).symm

/-! ## Malformed lines -/

/-- The texts that the salvage of a line tries: behind a time stamp, and from there
behind a level and behind a bracket. -/
def salvageTexts (line : List Char) : List (List Char) :=
  let s1 := trimChars ((logPrefixTime (trimChars line)).getD (trimChars line))
  s1 :: ((logPrefixLevel s1).toList ++ (logPrefixBracket s1).toList).map trimChars

/-- A line that is not blank and no JSON after the salvage. -/
def isBrokenLine (line : List Char) : Bool :=
  trimChars line ≠ [] && (salvageTexts line).all fun s => (parseJson s).isNone

/-- A line whose salvage reads `null`. -/
def isNullLine (line : List Char) : Bool :=
  trimChars line ≠ [] && (salvageTexts line).any fun s => parseJson s matches some .null

theorem tryParseLineWithSalvage_eq {line : List Char} (h : trimChars line ≠ []) :
    tryParseLineWithSalvage line = (salvageTexts line).findSome? tryParse := by
  unfold tryParseLineWithSalvage salvageTexts
  dsimp only
  rw [if_neg h]
  generalize trimChars ((logPrefixTime (trimChars line)).getD (trimChars line)) = s1
  rw [List.findSome?_cons]
  cases tryParse s1 with
  | some v => rfl
  | none =>
      cases logPrefixLevel s1 with
      | none =>
          cases logPrefixBracket s1 with
          | none => rfl
          | some s3 => simp
      | some s2 =>
          cases logPrefixBracket s1 with
          | none => simp
          | some s3 =>
              cases hlevel : tryParse (trimChars s2) with
              | none => simp [hlevel]
              | some v => simp [hlevel]

/-- What is not parsed is no JSON, or `null`. -/
theorem parseJson_of_tryParse {s : List Char} (h : tryParse s = none) :
    parseJson s = none ∨ parseJson s = some .null := by
  unfold tryParse at h
  split at h
  · exact .inr (by assumption)
  · exact .inl h

theorem isMalformedLine_of_broken {line : List Char} (h : isBrokenLine line = true) :
    isMalformedLine line = true := by
  obtain ⟨hblank, hall⟩ := Bool.and_eq_true_iff.mp h
  have hne : trimChars line ≠ [] := of_decide_eq_true hblank
  have hnone : tryParseLineWithSalvage line = none := by
    rw [tryParseLineWithSalvage_eq hne, List.findSome?_eq_none_iff]
    intro s hs
    have hparse := List.all_eq_true.mp hall s hs
    exact tryParse_none (Option.isNone_iff_eq_none.mp hparse)
  simp [isMalformedLine, hne, hnone]

theorem broken_or_null_of_malformed {line : List Char}
    (h : isMalformedLine line = true) :
    isBrokenLine line = true ∨ isNullLine line = true := by
  obtain ⟨hblank, hnone⟩ := Bool.and_eq_true_iff.mp h
  have hne : trimChars line ≠ [] := of_decide_eq_true hblank
  rw [Option.isNone_iff_eq_none, tryParseLineWithSalvage_eq hne,
    List.findSome?_eq_none_iff] at hnone
  by_cases hnull : isNullLine line = true
  · exact .inr hnull
  · left
    apply Bool.and_eq_true_iff.mpr
    refine ⟨hblank, List.all_eq_true.mpr fun s hs => ?_⟩
    rcases parseJson_of_tryParse (hnone s hs) with hparse | hparse
    · rw [hparse]
      rfl
    · refine absurd (Bool.and_eq_true_iff.mpr ⟨hblank, ?_⟩) hnull
      apply List.any_eq_true.mpr
      exact ⟨s, hs, by rw [hparse]⟩

def brokenLines (buf : List Char) : ℕ := (buf.splitOn '\n').countP isBrokenLine

def nullLines (buf : List Char) : ℕ := (buf.splitOn '\n').countP isNullLine

theorem malformedLines_bounds (lines : List (List Char)) :
    lines.countP isBrokenLine ≤ lines.countP isMalformedLine ∧
      lines.countP isMalformedLine ≤
        lines.countP isBrokenLine + lines.countP isNullLine := by
  refine ⟨List.countP_mono_left fun line _ => isMalformedLine_of_broken, ?_⟩
  induction lines with
  | nil => exact Nat.le_refl 0
  | cons line lines ih =>
      simp only [List.countP_cons]
      by_cases hmalformed : isMalformedLine line = true
      · rcases broken_or_null_of_malformed hmalformed with hbroken | hnull
        · rw [if_pos hmalformed, if_pos hbroken]
          omega
        · rw [if_pos hmalformed, if_pos hnull]
          omega
      · rw [if_neg hmalformed]
        omega

theorem ingestLadder_malformed {buf : List Char} (h : ingestWhole buf = none) :
    (ingestLadder buf).malformedLineCount = (buf.splitOn '\n').countP isMalformedLine := by
  obtain ⟨-, hcount⟩ := ingestLines_spec buf
  unfold ingestLadder
  rw [h]
  dsimp only
  split_ifs
  · exact hcount
  · cases ingestSlices buf with
    | none => exact hcount
    | some ctx => exact hcount

theorem ingestLadder_whole {buf : List Char} (h : (ingestWhole buf).isSome = true) :
    (ingestLadder buf).malformedLineCount = 0 := by
  unfold ingestLadder
  cases hwhole : ingestWhole buf with
  | none =>
      rw [hwhole] at h
      cases h
  | some ctx =>
      dsimp only
      obtain ⟨root, -, hctx⟩ := Option.bind_eq_some_iff.mp hwhole
      obtain ⟨-, hcount⟩ := @pushActions (actionsOf root) createIngestContext
        (Nat.zero_le _)
      dsimp only at hctx
      split_ifs at hctx
      obtain rfl := Option.some.inj hctx
      rw [extractActions_eq, hcount]
      rfl

theorem mem_intercalate {sep : List Char} {lines : List (List Char)} {line : List Char}
    (h : line ∈ lines) {c : Char} (hc : c ∈ line) : c ∈ sep.intercalate lines := by
  induction lines with
  | nil => cases h
  | cons first lines ih =>
      cases lines with
      | nil =>
          obtain rfl := List.mem_singleton.mp h
          simpa using hc
      | cons second lines =>
          rw [List.intercalate_cons_cons, List.mem_append, List.mem_append]
          rcases List.mem_cons.mp h with rfl | hrest
          · exact .inl (.inl hc)
          · exact .inr (ih hrest)

/-- A blank text has no malformed line. -/
theorem malformedLines_blank {buf : List Char} (h : trimChars buf = []) :
    (buf.splitOn '\n').countP isMalformedLine = 0 := by
  rw [List.countP_eq_zero]
  intro line hline hmalformed
  obtain ⟨hblank, -⟩ := Bool.and_eq_true_iff.mp hmalformed
  have hne : trimChars line ≠ [] := of_decide_eq_true hblank
  apply hne
  rw [trimChars_eq_nil_iff] at h ⊢
  intro c hc
  apply h
  rw [← @List.intercalate_splitOn _ buf _ _ '\n']
  exact mem_intercalate hline hc

/-- The ladder keeps of some records what `keptActions` says, so everything of a
single record and of compact ones; and it counts the lines that are no JSON after the
salvage, unless the whole text is JSON with an action. -/
theorem ingest_layout :
    (∀ records : List Record, (∀ r ∈ records, r.Valid) →
      (utf8Encode (recordsText records)).length ≤ maxInputBytes →
      (ingestActivityUtf8 (recordsText records)).actions =
          (keptActions records).take maxActions ∧
        ((records.length ≤ 1 ∨ ∀ r ∈ records, r.gap = []) →
          keptActions records = records.flatMap fun r => actionsOf r.json)) ∧
    ∀ text : List Char, (utf8Encode text).length ≤ maxInputBytes →
      let buf := ingestBuffer text
      let count := (ingestActivityUtf8 text).malformedLineCount
      if (ingestWhole buf).isSome then count = 0
      else brokenLines buf ≤ count ∧ count ≤ brokenLines buf + nullLines buf := by
  refine ⟨fun records h hsize => ⟨ingestActivityUtf8_records h hsize, keptActions_eq⟩, ?_⟩
  intro text hsize
  dsimp only
  unfold ingestActivityUtf8
  rw [if_neg (Nat.not_lt.mpr hsize)]
  dsimp only
  have hbounds := malformedLines_bounds ((ingestBuffer text).splitOn '\n')
  by_cases hblank : trimChars (ingestBuffer text) = []
  · rw [if_pos hblank]
    dsimp only
    rw [malformedLines_blank hblank] at hbounds
    split_ifs
    · rfl
    · exact hbounds
  · rw [if_neg hblank]
    split_ifs with hwhole
    · exact ingestLadder_whole hwhole
    · rw [ingestLadder_malformed (Option.not_isSome_iff_eq_none.mp hwhole)]
      exact hbounds

/-! ## Two records -/

def recordA (gap : List Char) : Record := ⟨[("toolId", .str "a")], gap⟩

def recordB (gap : List Char) : Record := ⟨[("toolId", .str "b")], gap⟩

theorem twoRecords_valid {gap : List Char} (hgap : ∀ c ∈ gap, isIndent c = true) :
    ∀ r ∈ [recordA gap, recordB gap], r.Valid := by
  have hobject : ∀ toolId : String,
      (Json.obj [("toolId", .str toolId)]).WellFormed := by
    intro toolId
    exact wellFormed_obj ["toolId"] rfl (by decide) (by simp [Json.WellFormed])
  intro r hr
  rcases List.mem_cons.mp hr with rfl | hr
  · exact ⟨hobject "a", hgap⟩
  · obtain rfl := List.mem_singleton.mp hr
    exact ⟨hobject "b", hgap⟩

/-- Both actions of two compact records are kept. -/
theorem compactRecords_kept :
    (ingestActivityUtf8 (recordsText [recordA [], recordB []])).actions =
      [⟨"a", []⟩, ⟨"b", []⟩] := by
  have hkept := ingest_layout.1 [recordA [], recordB []] (twoRecords_valid (by simp))
    (by decide +kernel)
  rw [hkept.1, hkept.2 (.inr (by decide))]
  rfl

/-- Indented, the second record vanishes. -/
theorem indentedRecords_lost :
    (ingestActivityUtf8 (recordsText [recordA [' ', ' '], recordB [' ', ' ']])).actions =
        [⟨"a", []⟩] ∧
      (ingestActivityUtf8 (recordsText [recordA [], recordB []])).actions =
        [⟨"a", []⟩, ⟨"b", []⟩] ∧
      ([recordA [' ', ' '], recordB [' ', ' ']].flatMap fun r =>
        actionsOf r.json).take maxActions = [⟨"a", []⟩, ⟨"b", []⟩] := by
  refine ⟨?_, ?_, rfl⟩
  · rw [ingestActivityUtf8_records (twoRecords_valid (forall_mem_of_all (by decide))) (by decide +kernel)]
    rfl
  · rw [ingestActivityUtf8_records (twoRecords_valid (by simp)) (by decide +kernel)]
    rfl

end AgentSkeptic.Quick

import AgentSkeptic.Support.JsonRoundTrip

/-!
# The lines of a JSON text

What a reader sees that takes a text apart at its line breaks.  A compact text is one
line.  Of an indented text, with a gap of spaces or tabs, every line is an indentation
and a `LinePart`: an opening or closing bracket, or a value without lines of its own,
behind a key or in front of a comma.  `lineParts_render` says so for every value and
every depth.
-/

namespace AgentSkeptic.Support

/-! ## The characters of a text -/

theorem quoteChar_chars (c : Char) : ∀ d ∈ quoteChar c, 32 ≤ d.toNat := by
  have hhex : ∀ n : Fin 16, 32 ≤ (hexDigit n).toNat := by decide
  intro d hd
  unfold quoteChar at hd
  split at hd
  · revert d
    exact forall_mem_of_all (by decide)
  · revert d
    exact forall_mem_of_all (by decide)
  · revert d
    exact forall_mem_of_all (by decide)
  · revert d
    exact forall_mem_of_all (by decide)
  · revert d
    exact forall_mem_of_all (by decide)
  · split_ifs at hd with hb hf hcontrol
    · revert d
      exact forall_mem_of_all (by decide)
    · revert d
      exact forall_mem_of_all (by decide)
    · have hhigh := hhex ⟨c.toNat / 16, by omega⟩
      have hlow := hhex ⟨c.toNat % 16, by omega⟩
      simp only [List.mem_cons, List.not_mem_nil, or_false] at hd
      rcases hd with rfl | rfl | rfl | rfl | rfl | rfl
      · decide
      · decide
      · decide
      · decide
      · exact hhigh
      · exact hlow
    · obtain rfl := List.mem_singleton.mp hd
      omega

theorem quote_chars (s : String) : ∀ d ∈ (quote s).toList, 32 ≤ d.toNat := by
  intro d hd
  rw [quote, String.toList_ofList] at hd
  simp only [List.cons_append, List.mem_cons, List.mem_append, List.mem_flatMap,
    List.not_mem_nil, or_false] at hd
  rcases hd with rfl | ⟨c, -, hd⟩ | rfl
  · decide
  · exact quoteChar_chars c d hd
  · decide

theorem isNumberChar_visible {c : Char} (h : isNumberChar c = true) :
    32 ≤ c.toNat ∧ isJsWhitespace c = false := by
  simp only [isNumberChar, Bool.or_eq_true, beq_iff_eq] at h
  rcases h with (((hdigit | rfl) | rfl) | rfl) | rfl
  · have hrange : 48 ≤ c.toNat ∧ c.toNat ≤ 57 := by
      simp only [Char.isDigit, Bool.and_eq_true, decide_eq_true_eq] at hdigit
      exact hdigit
    refine ⟨by omega, ?_⟩
    simp [isJsWhitespace]
    omega
  · decide
  · decide
  · decide
  · decide

section Characters

variable {gap : List Char}

/-- A character of an indented text: a visible one, or one of a line break. -/
def LayoutChar (gap : List Char) (c : Char) : Prop :=
  32 ≤ c.toNat ∨ (gap ≠ [] ∧ (c = '\n' ∨ c ∈ gap))

theorem layoutChar_lineBreak (depth : ℕ) :
    ∀ c ∈ lineBreak gap depth, LayoutChar gap c := by
  intro c hc
  unfold lineBreak at hc
  split_ifs at hc with hgap
  · cases hc
  · rcases List.mem_cons.mp hc with rfl | hc
    · exact .inr ⟨hgap, .inl rfl⟩
    · obtain ⟨line, hline, hmem⟩ := List.mem_flatten.mp hc
      rw [List.eq_of_mem_replicate hline] at hmem
      exact .inr ⟨hgap, .inr hmem⟩

theorem layoutChar_intercalate {sep : List Char} (hsep : ∀ c ∈ sep, LayoutChar gap c)
    {parts : List (List Char)} (h : ∀ part ∈ parts, ∀ c ∈ part, LayoutChar gap c) :
    ∀ c ∈ sep.intercalate parts, LayoutChar gap c := by
  induction parts with
  | nil => simp
  | cons part parts ih =>
      obtain ⟨hpart, hparts⟩ := List.forall_mem_cons.mp h
      cases parts with
      | nil => simpa using hpart
      | cons part' parts =>
          intro c hc
          rw [List.intercalate_cons_cons, List.mem_append, List.mem_append] at hc
          rcases hc with (hc | hc) | hc
          · exact hpart c hc
          · exact hsep c hc
          · exact ih hparts c hc

theorem layoutChar_renderParts (depth : ℕ) {opening closing : Char}
    (hopening : 32 ≤ opening.toNat) (hclosing : 32 ≤ closing.toNat)
    {parts : List (List Char)} (h : ∀ part ∈ parts, ∀ c ∈ part, LayoutChar gap c) :
    ∀ c ∈ renderParts gap depth opening closing parts, LayoutChar gap c := by
  have hcomma : ∀ c ∈ ',' :: lineBreak gap (depth + 1), LayoutChar gap c := by
    intro c hc
    rcases List.mem_cons.mp hc with rfl | hc
    · exact .inl (by decide)
    · exact layoutChar_lineBreak _ c hc
  intro c hc
  unfold renderParts at hc
  split_ifs at hc
  · simp only [List.mem_cons, List.not_mem_nil, or_false] at hc
    rcases hc with rfl | rfl
    · exact .inl hopening
    · exact .inl hclosing
  · simp only [List.cons_append, List.mem_cons, List.mem_append, List.not_mem_nil,
      or_false] at hc
    rcases hc with rfl | ((hc | hc) | hc) | rfl
    · exact .inl hopening
    · exact layoutChar_lineBreak _ c hc
    · exact layoutChar_intercalate hcomma h c hc
    · exact layoutChar_lineBreak _ c hc
    · exact .inl hclosing

mutual

theorem layoutChar_render (depth : ℕ) : ∀ v : Json, v.WellFormed →
    ∀ c ∈ v.render gap depth, LayoutChar gap c
  | .null, _ => fun c hc =>
      .inl (@forall_mem_of_all (32 ≤ ·.toNat) _ "null".toList (by decide) c hc)
  | .bool true, _ => fun c hc =>
      .inl (@forall_mem_of_all (32 ≤ ·.toNat) _ "true".toList (by decide) c hc)
  | .bool false, _ => fun c hc =>
      .inl (@forall_mem_of_all (32 ≤ ·.toNat) _ "false".toList (by decide) c hc)
  | .num _, h => fun c hc =>
      .inl (isNumberChar_visible
        (isNumberChar_stringify (JsNumber.Readable.isFinite h) c hc)).1
  | .str value, _ => fun c hc => .inl (quote_chars value c hc)
  | .arr items, h => by
      rw [Json.render]
      exact layoutChar_renderParts depth (by decide) (by decide)
        (layoutChar_renderItems (depth + 1) items h)
  | .obj members, h => by
      rw [Json.render]
      exact layoutChar_renderParts depth (by decide) (by decide)
        (layoutChar_renderMembers (depth + 1) members h.2.2)

theorem layoutChar_renderItems (depth : ℕ) : ∀ items : List Json,
    Json.WellFormedItems items →
    ∀ part ∈ Json.renderItems gap depth items, ∀ c ∈ part, LayoutChar gap c
  | [], _ => by
      intro part hpart
      cases hpart
  | item :: items, h =>
      List.forall_mem_cons.mpr ⟨layoutChar_render depth item h.1,
        layoutChar_renderItems depth items h.2⟩

theorem layoutChar_renderMembers (depth : ℕ) : ∀ members : List (String × Json),
    Json.WellFormedMembers members →
    ∀ part ∈ Json.renderMembers gap depth members, ∀ c ∈ part, LayoutChar gap c
  | [], _ => by
      intro part hpart
      cases hpart
  | (key, value) :: members, h => by
      have hcolon : ∀ c ∈ colonText gap, 32 ≤ c.toNat := by
        unfold colonText
        split_ifs
        · exact forall_mem_of_all (by decide)
        · exact forall_mem_of_all (by decide)
      have hmember : ∀ c ∈ (quote key).toList ++ colonText gap ++
          value.render gap depth, LayoutChar gap c := by
        intro c hc
        simp only [List.mem_append] at hc
        rcases hc with (hc | hc) | hc
        · exact .inl (quote_chars key c hc)
        · exact .inl (hcolon c hc)
        · exact layoutChar_render depth value h.1 c hc
      exact List.forall_mem_cons.mpr ⟨hmember,
        layoutChar_renderMembers depth members h.2⟩

end

/-- A compact text is one line. -/
theorem lineBreak_not_mem_compact {v : Json} (h : v.WellFormed) (depth : ℕ) :
    '\n' ∉ v.render [] depth := by
  intro hmem
  rcases layoutChar_render depth v h '\n' hmem with hvisible | ⟨hgap, -⟩
  · revert hvisible
    decide
  · exact hgap rfl

end Characters

/-! ## The lines of an indented text -/

/-- A value that is rendered without line breaks. -/
def Json.isLeaf : Json → Bool
  | .arr items => items.isEmpty
  | .obj members => members.isEmpty
  | _ => true

/-- What a line of an indented text holds behind its indentation. -/
inductive LinePart : List Char → Prop where
  | leaf (v : Json) (wellFormed : v.WellFormed) (leaf : v.isLeaf = true) :
      LinePart (v.render [] 0)
  | leafComma (v : Json) (wellFormed : v.WellFormed) (leaf : v.isLeaf = true) :
      LinePart (v.render [] 0 ++ [','])
  | keyed (key : String) (rest : List Char) (last : Char)
      (visible : isJsWhitespace last = false) :
      LinePart ((quote key).toList ++ [':', ' '] ++ rest ++ [last])
  | bracket (c : Char) (bracket : isPunct c = true) (other : c ≠ ':' ∧ c ≠ ',') :
      LinePart [c]
  | closing (c : Char) (closing : c = ']' ∨ c = '\x7d') : LinePart [c, ',']

def isIndent (c : Char) : Bool := c == ' ' || c == '\t'

/-- Every line of the text is an indentation and a part. -/
def HasLineParts (text : List Char) : Prop :=
  ∀ line ∈ text.splitOn '\n', ∃ indent part,
    line = indent ++ part ∧ (∀ c ∈ indent, isIndent c = true) ∧ LinePart part

theorem HasLineParts.break {a b : List Char} (ha : HasLineParts a)
    (hb : HasLineParts b) : HasLineParts (a ++ '\n' :: b) := by
  intro line hline
  rw [List.splitOn_append_cons_self] at hline
  rcases List.mem_append.mp hline with hmem | hmem
  · exact ha line hmem
  · exact hb line hmem

theorem HasLineParts.of_part {indent part : List Char}
    (hindent : ∀ c ∈ indent, isIndent c = true) (hpart : LinePart part)
    (hline : '\n' ∉ part) : HasLineParts (indent ++ part) := by
  have hindent' : '\n' ∉ indent := by
    intro hmem
    have hchar := hindent _ hmem
    revert hchar
    decide
  intro line hmem
  rw [List.splitOn_eq_singleton (by simp [hindent', hline])] at hmem
  obtain rfl := List.mem_singleton.mp hmem
  exact ⟨indent, part, rfl, hindent, hpart⟩

/-- A text that ends in a visible character. -/
def EndsVisible (text : List Char) : Prop :=
  ∃ rest last, text = rest ++ [last] ∧ isJsWhitespace last = false

theorem EndsVisible.snoc (rest : List Char) {last : Char}
    (h : isJsWhitespace last = false) : EndsVisible (rest ++ [last]) :=
  ⟨rest, last, rfl, h⟩

theorem endsVisible_of_all {text : List Char} (hne : text ≠ [])
    (h : ∀ c ∈ text, isJsWhitespace c = false) : EndsVisible text := by
  refine ⟨text.dropLast, text.getLast hne, ?_, h _ (List.getLast_mem hne)⟩
  exact (List.dropLast_append_getLast hne).symm

theorem endsVisible_renderParts (gap : List Char) (depth : ℕ) (opening : Char)
    {closing : Char} (h : isJsWhitespace closing = false) (parts : List (List Char)) :
    EndsVisible (renderParts gap depth opening closing parts) := by
  unfold renderParts
  split_ifs
  · exact .snoc [opening] h
  · exact .snoc _ h

theorem endsVisible_render (gap : List Char) (depth : ℕ) {v : Json}
    (hv : v.WellFormed) : EndsVisible (v.render gap depth) := by
  cases v with
  | null =>
      show EndsVisible "null".toList
      exact endsVisible_of_all (by decide) (forall_mem_of_all (by decide))
  | bool value =>
      cases value with
      | true =>
          show EndsVisible "true".toList
          exact endsVisible_of_all (by decide) (forall_mem_of_all (by decide))
      | false =>
          show EndsVisible "false".toList
          exact endsVisible_of_all (by decide) (forall_mem_of_all (by decide))
  | num value =>
      have hnumber := isNumberChar_stringify (JsNumber.Readable.isFinite hv)
      exact endsVisible_of_all (JsNumber.Readable.stringify_ne_nil hv)
        fun c hc => (isNumberChar_visible (hnumber c hc)).2
  | str value =>
      rw [Json.render, quote, String.toList_ofList]
      exact .snoc _ (by decide)
  | arr items =>
      rw [Json.render]
      exact endsVisible_renderParts gap depth _ (by decide) _
  | obj members =>
      rw [Json.render]
      exact endsVisible_renderParts gap depth _ (by decide) _

/-- A text that is empty or starts with a visible character. -/
def StartsVisible (text : List Char) : Prop :=
  ∀ c ∈ text.head?, isJsWhitespace c = false

theorem StartsVisible.cons {c : Char} (h : isJsWhitespace c = false) (rest : List Char) :
    StartsVisible (c :: rest) := by
  intro d hd
  obtain rfl : c = d := by simpa using hd
  exact h

theorem StartsVisible.append {text : List Char} (h : StartsVisible text)
    (hne : text ≠ []) (rest : List Char) : StartsVisible (text ++ rest) := by
  obtain ⟨c, cs, rfl⟩ := List.exists_cons_of_ne_nil hne
  exact .cons (h c rfl) _

theorem startsVisible_render (gap : List Char) (depth : ℕ) {v : Json}
    (hv : v.WellFormed) : StartsVisible (v.render gap depth) := by
  cases v with
  | null => exact .cons (by decide) _
  | bool value =>
      cases value with
      | true => exact .cons (by decide) _
      | false => exact .cons (by decide) _
  | num value =>
      have hnumber := isNumberChar_stringify (JsNumber.Readable.isFinite hv)
      intro c hc
      exact (isNumberChar_visible (hnumber c (List.mem_of_mem_head? hc))).2
  | str value =>
      rw [Json.render, quote, String.toList_ofList]
      exact .cons (by decide) _
  | arr items =>
      rw [Json.render, renderParts]
      split_ifs
      · exact .cons (by decide) _
      · exact .cons (by decide) _
  | obj members =>
      rw [Json.render, renderParts]
      split_ifs
      · exact .cons (by decide) _
      · exact .cons (by decide) _

/-- A part of a line is visible at both ends. -/
theorem LinePart.visible {part : List Char} (h : LinePart part) :
    StartsVisible part ∧ EndsVisible part := by
  cases h with
  | leaf v hv =>
      exact ⟨startsVisible_render [] 0 hv, endsVisible_render [] 0 hv⟩
  | leafComma v hv =>
      obtain ⟨rest, last, htext, -⟩ := endsVisible_render [] 0 hv
      exact ⟨(startsVisible_render [] 0 hv).append (by simp [htext]) _,
        .snoc _ (by decide)⟩
  | keyed key rest last hlast =>
      refine ⟨?_, .snoc _ hlast⟩
      rw [quote, String.toList_ofList]
      exact .cons (by decide) _
  | bracket c hpunct hother =>
      have hvisible : isJsWhitespace c = false := by
        simp only [isPunct, Bool.or_eq_true, beq_iff_eq] at hpunct
        rcases hpunct with ((((rfl | rfl) | rfl) | rfl) | rfl) | rfl
        · decide
        · decide
        · decide
        · decide
        · decide
        · decide
      exact ⟨.cons hvisible _, .snoc [] hvisible⟩
  | closing c hclosing =>
      refine ⟨.cons ?_ _, .snoc [c] (by decide)⟩
      rcases hclosing with rfl | rfl
      · decide
      · decide

/-- What stands in front of a value on its first line: an indentation, and the key of
a member. -/
def LineHead (head : List Char) : Prop :=
  ∃ indent key, head = indent ++ key ∧ (∀ c ∈ indent, isIndent c = true) ∧
    (key = [] ∨ ∃ name, key = (quote name).toList ++ [':', ' '])

theorem LineHead.hasLineParts {head part : List Char} (h : LineHead head)
    (hpart : LinePart part) (hend : EndsVisible part) (hline : '\n' ∉ part) :
    HasLineParts (head ++ part) := by
  obtain ⟨indent, key, rfl, hindent, hkey⟩ := h
  rw [List.append_assoc]
  rcases hkey with rfl | ⟨name, rfl⟩
  · exact .of_part hindent hpart hline
  · obtain ⟨rest, last, rfl, hlast⟩ := hend
    have hkeyed := LinePart.keyed name rest last hlast
    rw [List.append_assoc] at hkeyed
    apply HasLineParts.of_part hindent hkeyed
    intro hmem
    rcases List.mem_append.mp hmem with hname | hrest
    · rcases List.mem_append.mp hname with hquote | hcolon
      · have hvisible := quote_chars name '\n' hquote
        revert hvisible
        decide
      · revert hcolon
        decide
    · exact hline hrest

/-- What may follow a value on its last line. -/
def LineTail (tail : List Char) : Prop := tail = [] ∨ tail = [',']

section Lines

variable {gap : List Char}

def indentation (gap : List Char) (depth : ℕ) : List Char :=
  (List.replicate depth gap).flatten

theorem isIndent_indentation (hgap : ∀ c ∈ gap, isIndent c = true) (depth : ℕ) :
    ∀ c ∈ indentation gap depth, isIndent c = true := by
  intro c hc
  obtain ⟨line, hline, hmem⟩ := List.mem_flatten.mp hc
  rw [List.eq_of_mem_replicate hline] at hmem
  exact hgap c hmem

theorem LineHead.indentation (hgap : ∀ c ∈ gap, isIndent c = true) (depth : ℕ) :
    LineHead (Support.indentation gap depth) :=
  ⟨_, [], by simp, isIndent_indentation hgap depth, .inl rfl⟩

/-- The parts of a bracket, each on lines of its own. -/
theorem hasLineParts_intercalate {indent rest : List Char} {parts : List (List Char)}
    (hne : parts ≠ [])
    (h : ∀ part ∈ parts, ∀ tail, LineTail tail → HasLineParts (indent ++ part ++ tail))
    (hrest : HasLineParts rest) :
    HasLineParts (indent ++ (',' :: '\n' :: indent).intercalate parts ++
      '\n' :: rest) := by
  induction parts with
  | nil => exact absurd rfl hne
  | cons part parts ih =>
      obtain ⟨hpart, hparts⟩ := List.forall_mem_cons.mp h
      cases parts with
      | nil =>
          have hlast := hpart [] (.inl rfl)
          rw [List.append_nil] at hlast
          rw [List.intercalate_singleton]
          exact hlast.break hrest
      | cons part' parts =>
          have hfirst := hpart [','] (.inr rfl)
          have hnext := hfirst.break (ih (List.cons_ne_nil _ _) hparts)
          rw [List.intercalate_cons_cons]
          simpa using hnext

theorem hasLineParts_renderParts (hgap : ∀ c ∈ gap, isIndent c = true)
    (hne : gap ≠ []) (depth : ℕ) {opening closing : Char}
    (hopening : opening = '[' ∨ opening = '\x7b')
    (hclosing : closing = ']' ∨ closing = '\x7d') {parts : List (List Char)}
    (hparts : parts ≠ [])
    (h : ∀ part ∈ parts, ∀ tail, LineTail tail →
      HasLineParts (indentation gap (depth + 1) ++ part ++ tail))
    {head tail : List Char} (hhead : LineHead head) (htail : LineTail tail) :
    HasLineParts (head ++ renderParts gap depth opening closing parts ++ tail) := by
  have hbreak : ∀ depth, lineBreak gap depth = '\n' :: indentation gap depth := by
    intro depth
    rw [lineBreak, if_neg hne]
    rfl
  have hfirst : HasLineParts (head ++ [opening]) := by
    apply hhead.hasLineParts
    · rcases hopening with rfl | rfl
      · exact .bracket _ (by decide) (by decide)
      · exact .bracket _ (by decide) (by decide)
    · rcases hopening with rfl | rfl
      · exact .snoc [] (by decide)
      · exact .snoc [] (by decide)
    · rcases hopening with rfl | rfl
      · decide
      · decide
  have hlast : HasLineParts (indentation gap depth ++ closing :: tail) := by
    have hindent := isIndent_indentation hgap depth
    rcases htail with rfl | rfl
    · rcases hclosing with rfl | rfl
      · exact .of_part hindent (.bracket _ (by decide) (by decide)) (by decide)
      · exact .of_part hindent (.bracket _ (by decide) (by decide)) (by decide)
    · rcases hclosing with rfl | rfl
      · exact .of_part hindent (.closing _ (.inl rfl)) (by decide)
      · exact .of_part hindent (.closing _ (.inr rfl)) (by decide)
  have hinside := hfirst.break (hasLineParts_intercalate hparts h hlast)
  rw [renderParts, if_neg hparts, hbreak, hbreak]
  simpa using hinside

theorem hasLineParts_leaf (depth : ℕ) {v : Json} (hv : v.WellFormed)
    (hleaf : v.isLeaf = true) (hsame : v.render gap depth = v.render [] 0)
    {head tail : List Char} (hhead : LineHead head) (htail : LineTail tail) :
    HasLineParts (head ++ v.render gap depth ++ tail) := by
  have hline := lineBreak_not_mem_compact hv 0
  rw [hsame, List.append_assoc]
  rcases htail with rfl | rfl
  · rw [List.append_nil]
    exact hhead.hasLineParts (.leaf v hv hleaf) (endsVisible_render [] 0 hv) hline
  · apply hhead.hasLineParts (.leafComma v hv hleaf) (.snoc _ (by decide))
    simp [hline]

mutual

/-- The lines of a value, behind the head of its first line and in front of the tail
of its last one. -/
theorem lineParts_render (hgap : ∀ c ∈ gap, isIndent c = true) (hne : gap ≠ [])
    (depth : ℕ) : ∀ v : Json, v.WellFormed → ∀ head tail, LineHead head →
      LineTail tail → HasLineParts (head ++ v.render gap depth ++ tail)
  | .null, h => fun _ _ => hasLineParts_leaf depth h rfl rfl
  | .bool _, h => fun _ _ => hasLineParts_leaf depth h rfl rfl
  | .num _, h => fun _ _ => hasLineParts_leaf depth h rfl rfl
  | .str _, h => fun _ _ => hasLineParts_leaf depth h rfl rfl
  | .arr [], h => fun _ _ => hasLineParts_leaf depth h rfl rfl
  | .obj [], h => fun _ _ => hasLineParts_leaf depth h rfl rfl
  | .arr (item :: items), h => fun head tail hhead htail => by
      rw [Json.render]
      exact hasLineParts_renderParts hgap hne depth (.inl rfl) (.inl rfl)
        (List.cons_ne_nil _ _)
        (lineParts_renderItems hgap hne (depth + 1) (item :: items) h) hhead htail
  | .obj (m :: members), h => fun head tail hhead htail => by
      rw [Json.render]
      exact hasLineParts_renderParts hgap hne depth (.inr rfl) (.inr rfl)
        (List.cons_ne_nil _ _)
        (lineParts_renderMembers hgap hne (depth + 1) (m :: members) h.2.2) hhead htail

theorem lineParts_renderItems (hgap : ∀ c ∈ gap, isIndent c = true) (hne : gap ≠ [])
    (depth : ℕ) : ∀ items : List Json, Json.WellFormedItems items →
      ∀ part ∈ Json.renderItems gap depth items, ∀ tail, LineTail tail →
        HasLineParts (indentation gap depth ++ part ++ tail)
  | [], _ => by
      intro part hpart
      cases hpart
  | item :: items, h =>
      List.forall_mem_cons.mpr
        ⟨fun tail htail => lineParts_render hgap hne depth item h.1 _ tail
            (LineHead.indentation hgap depth) htail,
          lineParts_renderItems hgap hne depth items h.2⟩

theorem lineParts_renderMembers (hgap : ∀ c ∈ gap, isIndent c = true) (hne : gap ≠ [])
    (depth : ℕ) : ∀ members : List (String × Json), Json.WellFormedMembers members →
      ∀ part ∈ Json.renderMembers gap depth members, ∀ tail, LineTail tail →
        HasLineParts (indentation gap depth ++ part ++ tail)
  | [], _ => by
      intro part hpart
      cases hpart
  | (key, value) :: members, h => by
      have hkey : LineHead (indentation gap depth ++
          ((quote key).toList ++ [':', ' '])) :=
        ⟨_, _, rfl, isIndent_indentation hgap depth, .inr ⟨key, rfl⟩⟩
      have hmember : ∀ tail, LineTail tail → HasLineParts (indentation gap depth ++
          ((quote key).toList ++ colonText gap ++ value.render gap depth) ++ tail) := by
        intro tail htail
        have hvalue := lineParts_render hgap hne depth value h.1 _ tail hkey htail
        rw [colonText, if_neg hne]
        simpa using hvalue
      exact List.forall_mem_cons.mpr ⟨hmember,
        lineParts_renderMembers hgap hne depth members h.2⟩

end

end Lines

end AgentSkeptic.Support

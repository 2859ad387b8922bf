import AgentSkeptic.Engine.CanonicalText
import AgentSkeptic.Kernel.SupportCore

/-!
# Canonical parameters in both languages

`canonicalParams.ts` and its port both render a document with sorted members, and both texts
tell documents apart that are not the same: JavaScript those with the same doubles, Python
those with the same integers and doubles (`canonicalText_eq_iff`).
-/

namespace AgentSkeptic.Kernel

open AgentSkeptic.Support

/-! ## Words -/

def nullWord : Word :=
  ⟨['n', 'u', 'l', 'l'], forall_mem_of_all (by decide), List.cons_ne_nil _ _⟩

def boolWord (value : Bool) : Word where
  chars := (if value then "true" else "false").toList
  wordChars := by
    cases value with
    | true => exact forall_mem_of_all (by decide)
    | false => exact forall_mem_of_all (by decide)
  ne_nil := by
    cases value with
    | true => decide
    | false => decide

def jsNumberWord (n : JsNumber) : Word where
  chars := n.stringify.toList
  wordChars := isWordChar_stringify n
  ne_nil := n.stringify_ne_nil

def pyNumberWord (n : PyNumber) : Word where
  chars := n.dumps
  wordChars := isWordChar_dumps n
  ne_nil := n.dumps_ne_nil

/-! ## Members -/

section Members

variable (order : KeyOrder) (keyText : KeyText)

theorem renderMembers_eq_map (members : List (String × JsonTree Atom)) :
    JsonTree.renderMembers keyText members =
      members.map fun m => keyText.chars m.1 ++ ':' :: m.2.render keyText := by
  induction members with
  | nil => rfl
  | cons m members ih => rw [JsonTree.renderMembers, ih, List.map_cons]

/-- The parts between the braces, when the members have the same texts. -/
theorem keyedParts_eq {quoteKey : String → String}
    (hquote : ∀ key, (quoteKey key).toList = keyText.chars key)
    {texts : List (String × String)} {members : List (String × JsonTree Atom)}
    (h : texts.map (fun m => (m.1, m.2.toList)) =
      members.map fun m => (m.1, m.2.render keyText)) :
    ((keySort order texts).map fun m => quoteKey m.1 ++ ":" ++ m.2).map String.toList =
      JsonTree.renderMembers keyText (keySort order members) := by
  have hsorted := (map_keySort order String.toList texts).trans
    ((congrArg (keySort order) h).trans
      (map_keySort order (JsonTree.render keyText) members).symm)
  have hparts := congrArg
    (List.map fun m : String × List Char => keyText.chars m.1 ++ ':' :: m.2) hsorted
  rw [List.map_map, List.map_map] at hparts
  rw [List.map_map, renderMembers_eq_map]
  refine Eq.trans (List.map_congr_left fun m _ => ?_) hparts
  simp [hquote]

end Members

/-! ## JavaScript -/

/-- A scalar of which `JSON.stringify` writes a text: no number that is not finite. -/
inductive JsScalar where
  | null
  | bool (value : Bool)
  | num (value : JsNumber)
  | str (value : String)
  deriving DecidableEq

/-- A scalar as JavaScript reads it and writes it again. -/
def jsScalar : JsonScalar → JsScalar
  | .null => .null
  | .bool value => .bool value
  | .num literal => if literal.jsNumber.isFinite then .num literal.jsNumber else .null
  | .str value => .str value

def JsScalar.atom : JsScalar → Atom
  | .null => .word nullWord
  | .bool value => .word (boolWord value)
  | .num value => .word (jsNumberWord value)
  | .str value => .text value

def jsAtom (value : JsonScalar) : Atom := (jsScalar value).atom

/-- The same document for JavaScript. -/
def JsSame (x y : JsonDoc) : Prop :=
  (x.resolved.map jsScalar).SameAs (y.resolved.map jsScalar)

/-- Keys as `JSON.stringify` writes them. -/
def jsKeys : KeyText where
  chars key := (quote key).toList
  lexes := lex_quote

theorem canonicalJsonForParams_scalar (value : JsonScalar) :
    (Engine.canonicalJsonForParams value.toJson).toList = (jsAtom value).chars := by
  cases value with
  | null => rfl
  | bool value => rfl
  | num literal =>
      have htext : (Engine.canonicalJsonForParams (.num literal.jsNumber)).toList =
          literal.jsNumber.stringify.toList := rfl
      unfold jsAtom jsScalar
      dsimp only
      split_ifs with hfinite
      · rfl
      · rw [JsonScalar.toJson, htext, JsNumber.stringify, if_neg hfinite]
        rfl
  | str value => rfl

theorem canonicalMembers_eq_map (members : List (String × Json)) :
    Engine.canonicalMembers members =
      members.map fun m => (m.1, Engine.canonicalJsonForParams m.2) := by
  induction members with
  | nil => rfl
  | cons m members ih => rw [Engine.canonicalMembers, ih, List.map_cons]

theorem readMembers_eq_map (members : List (String × JsonDoc)) :
    readMembers members = members.map fun m => (m.1, readJson m.2) := by
  induction members with
  | nil => rfl
  | cons m members ih => rw [readMembers, ih, List.map_cons]

/-- The keyed texts of an object's members, sorted: `propertyOrder` does not matter. -/
theorem keyedTexts_eq {members : List (String × JsonDoc)}
    (h : (members.map Prod.fst).Nodup) :
    (Engine.canonicalMembers (propertyOrder (readMembers members))).insertionSort
        (fun a b => utf16Le a.1 b.1 = true) =
      keySort utf16Order
        (members.map fun m => (m.1, Engine.canonicalJsonForParams (readJson m.2))) := by
  have htexts : Engine.canonicalMembers (readMembers members) =
      members.map fun m => (m.1, Engine.canonicalJsonForParams (readJson m.2)) := by
    rw [readMembers_eq_map, canonicalMembers_eq_map, List.map_map]
    rfl
  rw [← htexts]
  apply (keySort_eq_of_perm utf16Order _ _).symm
  · rw [canonicalMembers_eq_map, canonicalMembers_eq_map]
    exact ((propertyOrder_perm _).map _).symm
  · rw [htexts, List.map_map]
    exact h

mutual

/-- The canonical text of what JavaScript reads. -/
theorem canonicalJsonForParams_readJson : ∀ {x : JsonDoc}, x.Distinct →
    (Engine.canonicalJsonForParams (readJson x)).toList =
      ((x.map jsAtom).sorted utf16Order).render jsKeys
  | .scalar value, _ => canonicalJsonForParams_scalar value
  | .arr items, h => by
      rw [readJson, Engine.canonicalJsonForParams, JsonTree.map, JsonTree.sorted,
        JsonTree.render, ← canonicalItems_readItems h]
      simp [String.toList_intercalate]
  | .obj members, h => by
      rw [readJson, Engine.canonicalJsonForParams, JsonTree.map, JsonTree.sorted,
        JsonTree.render]
      simp only [keyedTexts_eq h.1]
      rw [← keyedParts_eq utf16Order jsKeys (fun _ => rfl) (canonicalMembers_readMembers h.2)]
      simp [String.toList_intercalate]

theorem canonicalItems_readItems : ∀ {items : List JsonDoc}, JsonTree.DistinctItems items →
    (Engine.canonicalItems (readItems items)).map String.toList =
      JsonTree.renderItems jsKeys
        (JsonTree.sortedItems utf16Order (JsonTree.mapItems jsAtom items))
  | [], _ => rfl
  | _ :: _, h => by
      rw [readItems, Engine.canonicalItems, List.map_cons,
        canonicalJsonForParams_readJson h.1, canonicalItems_readItems h.2, JsonTree.mapItems,
        JsonTree.sortedItems, JsonTree.renderItems]

theorem canonicalMembers_readMembers : ∀ {members : List (String × JsonDoc)},
    JsonTree.DistinctMembers members →
      (members.map fun m => (m.1, Engine.canonicalJsonForParams (readJson m.2))).map
          (fun m => (m.1, m.2.toList)) =
        (JsonTree.sortedMembers utf16Order (JsonTree.mapMembers jsAtom members)).map
          fun m => (m.1, m.2.render jsKeys)
  | [], _ => rfl
  | (_, _) :: _, h => by
      rw [List.map_cons, List.map_cons, canonicalJsonForParams_readJson h.1,
        canonicalMembers_readMembers h.2, JsonTree.mapMembers, JsonTree.sortedMembers,
        List.map_cons]

end

/-- The scalar of which an atom was written. -/
def readJsAtom : Atom → JsScalar
  | .text value => .str value
  | .word word =>
      match wordValue word.chars with
      | some (.bool value) => .bool value
      | some (.num value) => .num value
      | _ => .null

theorem jsNumber_readable {literal : JsonLiteral} (h : literal.jsNumber.isFinite = true) :
    literal.jsNumber.Readable := by
  obtain ⟨negative, digits, e, hn⟩ : ∃ negative digits e,
      literal.jsNumber = .ofDecimal negative digits e := by
    cases literal with
    | integer negative digits => exact ⟨negative, digits, 0, by rw [JsonLiteral.jsNumber]⟩
    | decimal negative digits exponent =>
        exact ⟨negative, digits, exponent, by rw [JsonLiteral.jsNumber]⟩
  rw [hn] at h ⊢
  exact JsNumber.readable_ofDecimal h

theorem readJsAtom_jsAtom (value : JsonScalar) : readJsAtom (jsAtom value) = jsScalar value := by
  cases value with
  | null => rfl
  | bool value =>
      cases value with
      | true => rfl
      | false => rfl
  | num literal =>
      unfold jsAtom jsScalar
      dsimp only
      split_ifs with hfinite
      · have hword := (jsNumber_readable hfinite).wordValue
        simp only [JsScalar.atom, readJsAtom, jsNumberWord, hword]
      · rfl
  | str value => rfl

/-- JavaScript's canonical texts tell documents apart. -/
theorem jsCanonical_eq_iff (x y : JsonDoc) :
    Engine.canonicalJsonForParams x.toJson = Engine.canonicalJsonForParams y.toJson ↔
      JsSame x y := by
  have hx := resolved_distinct x
  have hy := resolved_distinct y
  rw [← String.toList_inj, JsonDoc.toJson, JsonDoc.toJson, canonicalJsonForParams_readJson hx,
    canonicalJsonForParams_readJson hy,
    render_sorted_eq_iff jsKeys utf16Order (distinct_map jsAtom hx) (distinct_map jsAtom hy)]
  exact sameAs_written_iff readJsAtom_jsAtom

/-! ## Python -/

/-- The same document for Python. -/
def PySame (x y : JsonDoc) : Prop :=
  (x.resolved.map JsonScalar.toPy).SameAs (y.resolved.map JsonScalar.toPy)

/-- Keys as `json.dumps` writes them. -/
def pyKeys : KeyText where
  chars key := (asciiQuote key).toList
  lexes := lex_asciiQuote

def pyAtom : PyScalar → Atom
  | .none => .word nullWord
  | .bool value => .word (boolWord value)
  | .num value => .word (pyNumberWord value)
  | .str value => .text value

theorem dumpsScalar_eq (value : PyScalar) : (dumpsScalar value).toList = (pyAtom value).chars := by
  cases value with
  | none => rfl
  | bool value => rfl
  | num value => exact String.toList_ofList
  | str value => rfl

mutual

/-- The canonical text of a Python value. -/
theorem pyCanonical_eq_render : ∀ x : PyValue,
    (canonicalJsonForParams x).toList =
      ((x.map pyAtom).sorted codePointOrder).render pyKeys
  | .scalar value => dumpsScalar_eq value
  | .arr items => by
      rw [canonicalJsonForParams, JsonTree.map, JsonTree.sorted, JsonTree.render,
        ← pyItems_eq_render items]
      simp [String.toList_intercalate]
  | .obj members => by
      rw [canonicalJsonForParams, JsonTree.map, JsonTree.sorted, JsonTree.render,
        ← keyedParts_eq codePointOrder pyKeys (fun _ => rfl) (pyMembers_eq_render members)]
      simp [String.toList_intercalate]

theorem pyItems_eq_render : ∀ items : List PyValue,
    (canonicalItems items).map String.toList =
      JsonTree.renderItems pyKeys
        (JsonTree.sortedItems codePointOrder (JsonTree.mapItems pyAtom items))
  | [] => rfl
  | item :: items => by
      rw [canonicalItems, List.map_cons, pyCanonical_eq_render item, pyItems_eq_render items,
        JsonTree.mapItems, JsonTree.sortedItems, JsonTree.renderItems]

theorem pyMembers_eq_render : ∀ members : List (String × PyValue),
    (canonicalMembers members).map (fun m => (m.1, m.2.toList)) =
      (JsonTree.sortedMembers codePointOrder (JsonTree.mapMembers pyAtom members)).map
        fun m => (m.1, m.2.render pyKeys)
  | [] => rfl
  | (key, value) :: members => by
      rw [canonicalMembers, List.map_cons, pyCanonical_eq_render value,
        pyMembers_eq_render members, JsonTree.mapMembers, JsonTree.sortedMembers,
        List.map_cons]

end

def readPyAtom : Atom → PyScalar
  | .text value => .str value
  | .word word =>
      match readNumber word.chars with
      | some value => .num value
      | none =>
          match wordValue word.chars with
          | some (.bool value) => .bool value
          | _ => .none

theorem readPyAtom_toPy (value : JsonScalar) : readPyAtom (pyAtom value.toPy) = value.toPy := by
  cases value with
  | null => decide
  | bool value =>
      cases value with
      | true => decide
      | false => decide
  | num literal => simp only [JsonScalar.toPy, pyAtom, readPyAtom, pyNumberWord, readNumber_dumps]
  | str value => rfl

/-- Python's canonical texts tell documents apart. -/
theorem pyCanonical_eq_iff (x y : JsonDoc) :
    canonicalJsonForParams x.toPy = canonicalJsonForParams y.toPy ↔ PySame x y := by
  have hx := distinct_map JsonScalar.toPy (resolved_distinct x)
  have hy := distinct_map JsonScalar.toPy (resolved_distinct y)
  rw [← String.toList_inj, pyCanonical_eq_render, pyCanonical_eq_render, JsonDoc.toPy,
    JsonDoc.toPy, render_sorted_eq_iff pyKeys codePointOrder (distinct_map pyAtom hx)
      (distinct_map pyAtom hy), map_map_tree, map_map_tree]
  exact sameAs_written_iff readPyAtom_toPy

/-! ## Both -/

/-- What JavaScript reads of what Python read. -/
def jsOfPy : PyScalar → JsScalar
  | .none => .null
  | .bool value => .bool value
  | .num (.int value) => jsScalar (.num (.integer (decide (value < 0)) value.natAbs))
  | .num (.float .negativeZero) => .num (.int 0)
  | .num (.float (.number value)) => if value.isFinite then .num value else .null
  | .str value => .str value

theorem jsNumber_pyInt (negative : Bool) (digits : ℕ) {value : ℤ}
    (h : value = if negative then -(digits : ℤ) else digits) :
    (JsonLiteral.integer (decide (value < 0)) value.natAbs).jsNumber =
      (JsonLiteral.integer negative digits).jsNumber := by
  rw [JsonLiteral.jsNumber, JsonLiteral.jsNumber]
  rcases Nat.eq_zero_or_pos digits with rfl | hpos
  · have hzero : value.natAbs = 0 := by
      rw [h]
      split_ifs <;> rfl
    rw [hzero, JsNumber.ofDecimal, JsNumber.ofDecimal, if_pos rfl, if_pos rfl]
  · have habs : value.natAbs = digits := by
      rw [h]
      split_ifs
      · exact Int.natAbs_neg _
      · rfl
    have hsign : decide (value < 0) = negative := by
      rw [h]
      cases negative with
      | true => simp [hpos]
      | false => simp
    rw [habs, hsign]

theorem jsOfPy_toPy (value : JsonScalar) : jsOfPy value.toPy = jsScalar value := by
  cases value with
  | null => rfl
  | bool value => rfl
  | num literal =>
      cases literal with
      | integer negative digits =>
          have hsame := jsNumber_pyInt negative digits rfl
          simp only [JsonScalar.toPy, JsonLiteral.pyNumber, jsOfPy, jsScalar, hsame]
      | decimal negative digits exponent =>
          simp only [JsonScalar.toPy, JsonLiteral.pyNumber, PyFloat.ofDecimal]
          split_ifs with hzero
          · simp only [jsOfPy, jsScalar, JsonLiteral.jsNumber, hzero.2]
            rfl
          · rfl
  | str value => rfl

/-- What Python takes for the same, JavaScript does too. -/
theorem JsSame.of_pySame {x y : JsonDoc} (h : PySame x y) : JsSame x y := by
  have hmap := JsonTree.SameAs.map h jsOfPy
  rw [map_map_tree, map_map_tree] at hmap
  have hcomp : jsOfPy ∘ JsonScalar.toPy = jsScalar := funext jsOfPy_toPy
  rwa [hcomp] at hmap

end AgentSkeptic.Kernel

import AgentSkeptic.Engine.Recurrence
import AgentSkeptic.Support.JsonRoundTrip

/-!
# What a logical step key identifies

`logicalStepKeyFromStep` of `runComparison.ts` joins the parts of a request without
escaping them.  The target of a request determines its key, and the other way round where
no part holds a delimiter.
-/

namespace AgentSkeptic.Engine

open AgentSkeptic.Support

/-! ## Targets -/

/-- The same pairs; those of one column stand in one order. -/
def SamePairs (ps qs : List IdentityEqPair) : Prop :=
  ∀ column, ps.filter (·.column = column) = qs.filter (·.column = column)

def SameEffectTarget (e f : ResolvedEffect) : Prop :=
  e.id = f.id ∧ e.request.table = f.request.table ∧
    SamePairs e.request.identityEq f.request.identityEq

/-- The same check of the same tables; its numbers are printed alike. -/
def SameCheckBody : ResolvedRelationalBody → ResolvedRelationalBody → Prop
  | .relatedExists childTable matchEq, .relatedExists childTable' matchEq' =>
      childTable = childTable' ∧ SamePairs matchEq matchEq'
  | .aggregate table fn sumColumn whereEq expectOp expectValue,
      .aggregate table' fn' sumColumn' whereEq' expectOp' expectValue' =>
      table = table' ∧ fn = fn' ∧ sumColumn = sumColumn' ∧ whereEq.Perm whereEq' ∧
        expectOp = expectOp' ∧ expectValue.toText = expectValue'.toText
  | .joinCount leftTable rightTable leftJoinColumn rightJoinColumn whereEq expectOp expectValue,
      .joinCount leftTable' rightTable' leftJoinColumn' rightJoinColumn' whereEq' expectOp'
        expectValue' =>
      leftTable = leftTable' ∧ rightTable = rightTable' ∧ leftJoinColumn = leftJoinColumn' ∧
        rightJoinColumn = rightJoinColumn' ∧ whereEq.Perm whereEq' ∧ expectOp = expectOp' ∧
          expectValue.toText = expectValue'.toText
  | .antiJoin anchorTable lookupTable anchorColumn lookupColumn lookupPresenceColumn
        filterEqAnchor filterEqLookup,
      .antiJoin anchorTable' lookupTable' anchorColumn' lookupColumn' lookupPresenceColumn'
        filterEqAnchor' filterEqLookup' =>
      anchorTable = anchorTable' ∧ lookupTable = lookupTable' ∧ anchorColumn = anchorColumn' ∧
        lookupColumn = lookupColumn' ∧ lookupPresenceColumn = lookupPresenceColumn' ∧
          SamePairs filterEqAnchor filterEqAnchor' ∧ SamePairs filterEqLookup filterEqLookup'
  | _, _ => False

def SameCheck (c d : ResolvedRelationalCheck) : Prop :=
  c.id = d.id ∧ SameCheckBody c.body d.body

/-- The address of a witness, without the namespace of a vector. -/
def SameWitnessAddress : StateWitnessRequest → StateWitnessRequest → Prop
  | .vectorDocument a, .vectorDocument b =>
      a.provider = b.provider ∧ a.indexName = b.indexName ∧ a.documentId = b.documentId
  | .objectStorageObject a, .objectStorageObject b => a.bucket = b.bucket ∧ a.key = b.key
  | .httpWitness a, .httpWitness b =>
      a.method = b.method ∧ a.url = b.url ∧ a.expectedStatus.toText = b.expectedStatus.toText
  | .mongoDocument a, .mongoDocument b => a.collection = b.collection ∧ a.filter = b.filter
  | _, _ => False

/-- One kind and one target, without the namespace of a vector. -/
def SameAddress : ResolvedRequest → ResolvedRequest → Prop
  | .sqlRow a, .sqlRow b => a.table = b.table ∧ SamePairs a.identityEq b.identityEq
  | .sqlRowAbsent a, .sqlRowAbsent b =>
      a.table = b.table ∧ SamePairs a.identityEq b.identityEq ∧ SamePairs a.filterEq b.filterEq
  | .sqlEffects xs, .sqlEffects ys => ∀ id, List.Forall₂ SameEffectTarget
      (xs.filter (·.id = id)) (ys.filter (·.id = id))
  | .sqlRelational xs, .sqlRelational ys => ∀ id, List.Forall₂ SameCheck
      (xs.filter (·.id = id)) (ys.filter (·.id = id))
  | .stateWitness a, .stateWitness b => SameWitnessAddress a b
  | _, _ => False

def vectorNamespace : ResolvedRequest → Option String
  | .stateWitness (.vectorDocument a) => a.namespace_
  | _ => none

def SameTarget (r r' : ResolvedRequest) : Prop :=
  SameAddress r r' ∧ vectorNamespace r = vectorNamespace r'

/-! ## Requests without delimiters -/

/-- A pair whose text is cut where it was joined. -/
def PlainPair (p : IdentityEqPair) : Prop :=
  '=' ∉ p.column.toList ∧ '&' ∉ p.column.toList ∧ '&' ∉ p.value.toList

def PlainJoinPair (p : JoinEqPair) : Prop :=
  '=' ∉ p.column.toList ∧ '&' ∉ p.column.toList ∧ '&' ∉ p.value.toList

def BarFree (s : String) : Prop := '|' ∉ s.toList

def BarFreePair (p : IdentityEqPair) : Prop := BarFree p.column ∧ BarFree p.value

def PlainEffect (e : ResolvedEffect) : Prop :=
  BarFree e.id ∧ BarFree e.request.table ∧
    ∀ p ∈ e.request.identityEq, PlainPair p ∧ BarFreePair p

def PlainCheckBody : ResolvedRelationalBody → Prop
  | .relatedExists childTable matchEq =>
      BarFree childTable ∧ ∀ p ∈ matchEq, PlainPair p ∧ BarFreePair p
  | .aggregate table _ sumColumn whereEq _ _ =>
      BarFree table ∧ (∀ column ∈ sumColumn, column ≠ "" ∧ BarFree column) ∧
        ∀ p ∈ whereEq, PlainPair p ∧ BarFreePair p
  | .joinCount leftTable rightTable leftJoinColumn rightJoinColumn whereEq _ _ =>
      BarFree leftTable ∧ BarFree rightTable ∧ BarFree leftJoinColumn ∧
        BarFree rightJoinColumn ∧
          ∀ p ∈ whereEq, PlainJoinPair p ∧ BarFree p.column ∧ BarFree p.value
  | .antiJoin anchorTable lookupTable anchorColumn lookupColumn lookupPresenceColumn
      filterEqAnchor filterEqLookup =>
      BarFree anchorTable ∧ BarFree lookupTable ∧ BarFree anchorColumn ∧
        BarFree lookupColumn ∧ BarFree lookupPresenceColumn ∧
          (∀ p ∈ filterEqAnchor, PlainPair p ∧ BarFreePair p) ∧
            ∀ p ∈ filterEqLookup, PlainPair p ∧ BarFreePair p

def PlainCheck (c : ResolvedRelationalCheck) : Prop := BarFree c.id ∧ PlainCheckBody c.body

def PlainWitness : StateWitnessRequest → Prop
  | .vectorDocument a => BarFree a.indexName
  | .objectStorageObject a => BarFree a.bucket
  | .httpWitness _ => True
  | .mongoDocument a => BarFree a.collection ∧ ∃ v : Json, a.filter = .json v ∧ v.WellFormed

/-- No part holds a delimiter that another part could be read from. -/
def PlainRequest : ResolvedRequest → Prop
  | .sqlRow a => BarFree a.table ∧ ∀ p ∈ a.identityEq, PlainPair p
  | .sqlRowAbsent a =>
      BarFree a.table ∧ (∀ p ∈ a.identityEq, PlainPair p ∧ BarFreePair p) ∧
        ∀ p ∈ a.filterEq, PlainPair p
  | .sqlEffects effects => ∀ e ∈ effects, PlainEffect e
  | .sqlRelational checks => ∀ c ∈ checks, PlainCheck c
  | .stateWitness a => PlainWitness a

/-! ## Pairs -/

def pairText (p : IdentityEqPair) : List Char := p.column.toList ++ '=' :: p.value.toList

theorem toList_canonicalEqKey (ps : List IdentityEqPair) :
    (canonicalEqKey ps).toList =
      ['&'].intercalate ((sortBy IdentityEqPair.column ps).map pairText) := by
  have hpair : ∀ p : IdentityEqPair, (p.column ++ "=" ++ p.value).toList = pairText p := by
    intro p
    simp only [String.toList_append, pairText, List.append_assoc]
    rfl
  rw [canonicalEqKey, String.toList_intercalate, List.map_map]
  congr 1
  apply List.map_congr_left
  intro p _
  exact hpair p

theorem pairText_injective {p q : IdentityEqPair} (hp : PlainPair p) (hq : PlainPair q)
    (h : pairText p = pairText q) : p = q := by
  obtain ⟨hcolumn, hvalue⟩ := cut_unique hp.1 hq.1 h
  cases p
  cases q
  rw [IdentityEqPair.mk.injEq]
  exact ⟨String.toList_injective hcolumn, String.toList_injective hvalue⟩

theorem pairText_plain {p : IdentityEqPair} (hp : PlainPair p) :
    pairText p ≠ [] ∧ '&' ∉ pairText p := by
  obtain ⟨-, hcolumn, hvalue⟩ := hp
  constructor
  · simp [pairText]
  · simp [pairText, hcolumn, hvalue]

theorem canonicalEqKey_eq {ps qs : List IdentityEqPair} (h : SamePairs ps qs) :
    canonicalEqKey ps = canonicalEqKey qs := by
  have hsorted : sortBy IdentityEqPair.column ps = sortBy IdentityEqPair.column qs :=
    (sortBy_eq_iff _).mpr h
  apply String.toList_injective
  rw [toList_canonicalEqKey, toList_canonicalEqKey, hsorted]

theorem canonicalEqKey_injective {ps qs : List IdentityEqPair} (hps : ∀ p ∈ ps, PlainPair p)
    (hqs : ∀ q ∈ qs, PlainPair q) (h : canonicalEqKey ps = canonicalEqKey qs) :
    SamePairs ps qs := by
  have hmem : ∀ {zs : List IdentityEqPair} {z}, z ∈ sortBy IdentityEqPair.column zs → z ∈ zs :=
    fun hz => (sortBy_perm _ _).mem_iff.mp hz
  have hparts : ∀ {zs : List IdentityEqPair}, (∀ z ∈ zs, PlainPair z) →
      ∀ x ∈ (sortBy IdentityEqPair.column zs).map pairText, x ≠ [] ∧ '&' ∉ x := by
    intro zs hzs x hx
    obtain ⟨z, hz, rfl⟩ := List.mem_map.mp hx
    exact pairText_plain (hzs z (hmem hz))
  have hlist := congrArg String.toList h
  rw [toList_canonicalEqKey, toList_canonicalEqKey] at hlist
  have hmap := intercalate_unique_of_ne_nil (hparts hps) (hparts hqs) hlist
  have hsorted : List.Forall₂ (· = ·) (sortBy IdentityEqPair.column ps)
      (sortBy IdentityEqPair.column qs) := by
    refine forall₂_of_map_eq ?_ hmap
    intro p hp q hq
    exact pairText_injective (hps p (hmem hp)) (hqs q (hmem hq))
  exact (sortBy_eq_iff _).mp (List.forall₂_eq_eq_eq ▸ hsorted)

theorem barFree_canonicalEqKey {ps : List IdentityEqPair} (h : ∀ p ∈ ps, BarFreePair p) :
    BarFree (canonicalEqKey ps) := by
  rw [BarFree, toList_canonicalEqKey]
  intro hmem
  rcases mem_of_mem_intercalate hmem with hsep | ⟨x, hx, hbar⟩
  · exact absurd hsep (by decide)
  · obtain ⟨p, hp, rfl⟩ := List.mem_map.mp hx
    obtain ⟨hcolumn, hvalue⟩ := h p ((sortBy_perm _ _).mem_iff.mp hp)
    rw [BarFree] at hcolumn hvalue
    simp [pairText, hcolumn, hvalue] at hbar

/-! ## Conditions -/

theorem sortedConditions_eq {xs ys : List String} (h : xs.Perm ys) :
    sortedConditions xs = sortedConditions ys := by
  have hsorted : sortBy id xs = sortBy id ys := sortBy_id_eq_iff.mpr h
  exact congrArg ("&".intercalate ·) hsorted

theorem sortedConditions_injective {xs ys : List String}
    (hxs : ∀ x ∈ xs, x ≠ "" ∧ '&' ∉ x.toList) (hys : ∀ y ∈ ys, y ≠ "" ∧ '&' ∉ y.toList)
    (h : sortedConditions xs = sortedConditions ys) : xs.Perm ys := by
  have htext : ∀ zs : List String, (sortedConditions zs).toList =
      ['&'].intercalate ((sortBy id zs).map String.toList) := by
    intro zs
    exact String.toList_intercalate
  have hparts : ∀ {zs : List String}, (∀ z ∈ zs, z ≠ "" ∧ '&' ∉ z.toList) →
      ∀ x ∈ (sortBy id zs).map String.toList, x ≠ [] ∧ '&' ∉ x := by
    intro zs hzs x hx
    obtain ⟨z, hz, rfl⟩ := List.mem_map.mp hx
    obtain ⟨hne, hfree⟩ := hzs z ((sortBy_perm _ _).mem_iff.mp hz)
    exact ⟨fun hnil => hne (String.toList_eq_nil_iff.mp hnil), hfree⟩
  have hlist := congrArg String.toList h
  rw [htext, htext] at hlist
  have hmap := intercalate_unique_of_ne_nil (hparts hxs) (hparts hys) hlist
  have hinj : Function.Injective String.toList := fun _ _ => String.toList_injective
  exact sortBy_id_eq_iff.mp (List.map_injective_iff.mpr hinj hmap)

def conditionText (p : IdentityEqPair) : String := p.column ++ "=" ++ p.value

def joinConditionText (p : JoinEqPair) : String :=
  p.side.text ++ "." ++ p.column ++ "=" ++ p.value

theorem toList_conditionText (p : IdentityEqPair) : (conditionText p).toList = pairText p := by
  simp only [conditionText, String.toList_append, pairText, List.append_assoc]
  rfl

theorem toList_joinConditionText (p : JoinEqPair) : (joinConditionText p).toList =
    p.side.text.toList ++ '.' :: pairText ⟨p.column, p.value⟩ := by
  simp only [joinConditionText, String.toList_append, pairText, List.append_assoc]
  rfl

theorem conditionText_plain {p : IdentityEqPair} (hp : PlainPair p) :
    conditionText p ≠ "" ∧ '&' ∉ (conditionText p).toList := by
  have hplain := pairText_plain hp
  rw [← toList_conditionText] at hplain
  exact ⟨fun hempty => hplain.1 (String.toList_eq_nil_iff.mpr hempty), hplain.2⟩

theorem TableSide.text_plain (side : TableSide) :
    '.' ∉ side.text.toList ∧ '&' ∉ side.text.toList ∧ '|' ∉ side.text.toList := by
  cases side <;> decide

theorem TableSide.text_injective : Function.Injective TableSide.text := by
  intro a b h
  cases a <;> cases b <;> first | rfl | exact absurd h (by decide)

theorem joinConditionText_plain {p : JoinEqPair} (hp : PlainJoinPair p) :
    joinConditionText p ≠ "" ∧ '&' ∉ (joinConditionText p).toList := by
  have hpair := @pairText_plain ⟨p.column, p.value⟩ hp
  constructor
  · intro hempty
    have hlist := toList_joinConditionText p
    rw [hempty] at hlist
    simp at hlist
  · rw [toList_joinConditionText]
    simp [hpair.2, p.side.text_plain.2.1]

theorem conditionText_injOn : Set.InjOn conditionText {p | PlainPair p} := by
  intro p hp q hq h
  apply pairText_injective hp hq
  rw [← toList_conditionText, ← toList_conditionText, h]

theorem joinConditionText_injOn : Set.InjOn joinConditionText {p | PlainJoinPair p} := by
  intro p hp q hq h
  have hlist := congrArg String.toList h
  rw [toList_joinConditionText, toList_joinConditionText] at hlist
  obtain ⟨hside, hrest⟩ := cut_unique p.side.text_plain.1 q.side.text_plain.1 hlist
  have hpair := @pairText_injective ⟨p.column, p.value⟩ ⟨q.column, q.value⟩ hp hq hrest
  obtain ⟨side, column, value⟩ := p
  obtain ⟨side', column', value'⟩ := q
  obtain ⟨rfl, rfl⟩ := IdentityEqPair.mk.inj hpair
  obtain rfl := TableSide.text_injective (String.toList_injective hside)
  rfl

/-! ## Bar-free texts -/

theorem toList_barred {a b a' b' : String} (h : a ++ "|" ++ b = a' ++ "|" ++ b') :
    a.toList ++ '|' :: b.toList = a'.toList ++ '|' :: b'.toList := by
  have hlist := congrArg String.toList h
  simpa using hlist

theorem bar_cut {a b a' b' : String} (ha : BarFree a) (ha' : BarFree a')
    (h : a ++ "|" ++ b = a' ++ "|" ++ b') : a = a' ∧ b = b' := by
  obtain ⟨hfirst, hrest⟩ := cut_unique ha ha' (toList_barred h)
  exact ⟨String.toList_injective hfirst, String.toList_injective hrest⟩

/-- The cut before a last part without a bar. -/
theorem bar_cut_last {a b a' b' : String} (hb : BarFree b) (hb' : BarFree b')
    (h : a ++ "|" ++ b = a' ++ "|" ++ b') : a = a' ∧ b = b' := by
  obtain ⟨hfirst, hrest⟩ := cut_last_unique hb hb' (toList_barred h)
  exact ⟨String.toList_injective hfirst, String.toList_injective hrest⟩

theorem BarFree.append {a b : String} (ha : BarFree a) (hb : BarFree b) : BarFree (a ++ b) := by
  rw [BarFree] at ha hb ⊢
  rw [String.toList_append, List.mem_append]
  exact fun hmem => hmem.elim ha hb

theorem barFree_toText (n : JsNumber) : BarFree n.toText := by
  by_cases hfinite : n.isFinite = true
  · intro hmem
    have hchar := isNumberChar_stringify hfinite '|'
    rw [JsNumber.stringify, if_pos hfinite] at hchar
    exact absurd (hchar hmem) (by decide)
  · cases n with
    | int value => exact absurd rfl hfinite
    | frac value => exact absurd rfl hfinite
    | infinity negative => cases negative <;> rw [BarFree] <;> decide

theorem barFree_sortedConditions {xs : List String} (h : ∀ x ∈ xs, BarFree x) :
    BarFree (sortedConditions xs) := by
  have htext : (sortedConditions xs).toList =
      ['&'].intercalate ((sortBy id xs).map String.toList) := String.toList_intercalate
  rw [BarFree, htext]
  intro hmem
  rcases mem_of_mem_intercalate hmem with hsep | ⟨x, hx, hbar⟩
  · exact absurd hsep (by decide)
  · obtain ⟨z, hz, rfl⟩ := List.mem_map.mp hx
    exact h z ((sortBy_perm _ _).mem_iff.mp hz) hbar

theorem barFree_conditionText {p : IdentityEqPair} (hp : BarFreePair p) :
    BarFree (conditionText p) :=
  (hp.1.append (by rw [BarFree]; decide)).append hp.2

theorem barFree_joinConditionText {p : JoinEqPair} (hcolumn : BarFree p.column)
    (hvalue : BarFree p.value) : BarFree (joinConditionText p) := by
  have hside : BarFree p.side.text := p.side.text_plain.2.2
  have hdot : BarFree "." := by rw [BarFree]; decide
  have hequals : BarFree "=" := by rw [BarFree]; decide
  exact (((hside.append hdot).append hcolumn).append hequals).append hvalue

/-! ## Segments -/

theorem AggregateFn.text_injective : Function.Injective AggregateFn.text := by
  intro a b h
  cases a <;> cases b <;> first | rfl | exact absurd h (by decide)

theorem ExpectOp.text_injective : Function.Injective ExpectOp.text := by
  intro a b h
  cases a <;> cases b <;> first | rfl | exact absurd h (by decide)

theorem AggregateFn.barFree_text (fn : AggregateFn) : BarFree fn.text := by
  rw [BarFree]
  cases fn <;> decide

theorem ExpectOp.barFree_text (op : ExpectOp) : BarFree op.text := by
  rw [BarFree]
  cases op <;> decide

theorem ResolvedRelationalBody.barFree_checkKind (body : ResolvedRelationalBody) :
    BarFree body.checkKind := by
  rw [BarFree]
  cases body <;> rw [checkKind] <;> decide

/-- Fields, a bar behind each. -/
def endedText (fields : List String) : List Char :=
  (fields.map String.toList).flatMap fun x => x ++ ['|']

theorem endedText_injective {xs ys : List String} (hxs : ∀ x ∈ xs, BarFree x)
    (hys : ∀ y ∈ ys, BarFree y) (h : endedText xs = endedText ys) : xs = ys := by
  have hinj : Function.Injective String.toList := fun _ _ => String.toList_injective
  have hfree : ∀ {zs : List String}, (∀ z ∈ zs, BarFree z) →
      ∀ x ∈ zs.map String.toList, '|' ∉ x := by
    intro zs hzs x hx
    obtain ⟨z, hz, rfl⟩ := List.mem_map.mp hx
    exact hzs z hz
  exact List.map_injective_iff.mpr hinj (ended_unique (hfree hxs) (hfree hys) h)

theorem toList_join_segments {ι : Type} {segment : ι → String} {fields : ι → List String}
    (hsegment : ∀ i, (segment i).toList = endedText (fields i)) (is : List ι) :
    (String.join (is.map segment)).toList = endedText (is.flatMap fields) := by
  induction is with
  | nil => rfl
  | cons i is ih =>
      have happend : ∀ xs ys : List String, endedText (xs ++ ys) = endedText xs ++ endedText ys := by
        intro xs ys
        simp only [endedText, List.map_append, List.flatMap_append]
      rw [List.map_cons, String.join_cons, String.toList_append, ih, hsegment,
        List.flatMap_cons, happend]

def effectFields (ef : ResolvedEffect) : List String :=
  ["id", ef.id, ef.request.table, canonicalEqKey ef.request.identityEq]

theorem toList_effectSegment (ef : ResolvedEffect) :
    (effectSegment ef).toList = endedText (effectFields ef) := by
  simp [effectSegment, endedText, effectFields, String.toList_append]

/-- The fields behind the kind of a check. -/
def bodyFields : ResolvedRelationalBody → List String
  | .relatedExists childTable matchEq => [childTable, canonicalEqKey matchEq]
  | .aggregate table fn sumColumn whereEq expectOp expectValue =>
      [table, fn.text, sumColumn.getD "", expectOp.text, expectValue.toText,
        sortedConditions (whereEq.map conditionText)]
  | .joinCount leftTable rightTable leftJoinColumn rightJoinColumn whereEq expectOp
      expectValue =>
      [leftTable, rightTable, leftJoinColumn, rightJoinColumn, expectOp.text,
        expectValue.toText, sortedConditions (whereEq.map joinConditionText)]
  | .antiJoin anchorTable lookupTable anchorColumn lookupColumn lookupPresenceColumn
      filterEqAnchor filterEqLookup =>
      [anchorTable, lookupTable, anchorColumn, lookupColumn, lookupPresenceColumn,
        "fa:" ++ canonicalEqKey filterEqAnchor, "fl:" ++ canonicalEqKey filterEqLookup]

def checkFields (c : ResolvedRelationalCheck) : List String :=
  "id" :: c.id :: c.body.checkKind :: bodyFields c.body

theorem toList_relationalSegment (c : ResolvedRelationalCheck) :
    (relationalSegment c).toList = endedText (checkFields c) := by
  obtain ⟨id, body⟩ := c
  cases body with
  | relatedExists childTable matchEq =>
      simp [relationalSegment, endedText, checkFields, bodyFields,
        ResolvedRelationalBody.checkKind, String.toList_append]
  | aggregate table fn sumColumn whereEq expectOp expectValue =>
      simp [relationalSegment, endedText, checkFields, bodyFields,
        ResolvedRelationalBody.checkKind, String.toList_append]
      rfl
  | joinCount leftTable rightTable leftJoinColumn rightJoinColumn whereEq expectOp expectValue =>
      simp [relationalSegment, endedText, checkFields, bodyFields,
        ResolvedRelationalBody.checkKind, String.toList_append]
      rfl
  | antiJoin anchorTable lookupTable anchorColumn lookupColumn lookupPresenceColumn
      filterEqAnchor filterEqLookup =>
      simp [relationalSegment, endedText, checkFields, bodyFields,
        ResolvedRelationalBody.checkKind, String.toList_append]

theorem length_bodyFields (body : ResolvedRelationalBody) :
    (bodyFields body).length = if body.checkKind = "related_exists" then 2 else
      if body.checkKind = "aggregate" then 6 else 7 := by
  cases body <;> simp [bodyFields, ResolvedRelationalBody.checkKind]

theorem prefixCode_effectFields : PrefixCode effectFields :=
  prefixCode_of_length fun _ _ => rfl

/-- The kind says how many fields follow. -/
theorem prefixCode_checkFields : PrefixCode checkFields := by
  intro c d rest rest' h
  apply List.append_inj h
  have hkind : c.body.checkKind = d.body.checkKind := by
    rw [checkFields, checkFields] at h
    injection h with _ htail
    injection htail with _ htail
    injection htail
  have hlength : (bodyFields c.body).length = (bodyFields d.body).length := by
    rw [length_bodyFields, length_bodyFields, hkind]
  simp only [checkFields, List.length_cons, hlength]

/-! ## What the fields say -/

theorem effectFields_eq {e f : ResolvedEffect} (h : SameEffectTarget e f) :
    effectFields e = effectFields f := by
  obtain ⟨hid, htable, hpairs⟩ := h
  rw [effectFields, effectFields, hid, htable, canonicalEqKey_eq hpairs]

theorem effectFields_injective {e f : ResolvedEffect} (he : PlainEffect e) (hf : PlainEffect f)
    (h : effectFields e = effectFields f) : SameEffectTarget e f := by
  simp only [effectFields, List.cons.injEq, true_and, and_true] at h
  obtain ⟨hid, htable, hpairs⟩ := h
  refine ⟨hid, htable, canonicalEqKey_injective ?_ ?_ hpairs⟩
  · exact fun p hp => (he.2.2 p hp).1
  · exact fun p hp => (hf.2.2 p hp).1

theorem barFree_effectFields {e : ResolvedEffect} (he : PlainEffect e) :
    ∀ x ∈ effectFields e, BarFree x := by
  have hkey := barFree_canonicalEqKey fun p hp => (he.2.2 p hp).2
  have hname : BarFree "id" := by rw [BarFree]; decide
  simp only [effectFields, List.forall_mem_cons, List.not_mem_nil, false_imp_iff,
    forall_const, and_true]
  exact ⟨hname, he.1, he.2.1, hkey⟩

theorem bodyFields_eq {b b' : ResolvedRelationalBody} (h : SameCheckBody b b') :
    b.checkKind = b'.checkKind ∧ bodyFields b = bodyFields b' := by
  unfold SameCheckBody at h
  split at h
  · obtain ⟨rfl, hpairs⟩ := h
    exact ⟨rfl, by rw [bodyFields, bodyFields, canonicalEqKey_eq hpairs]⟩
  · obtain ⟨rfl, rfl, rfl, hwhere, rfl, hvalue⟩ := h
    refine ⟨rfl, ?_⟩
    rw [bodyFields, bodyFields, hvalue, sortedConditions_eq (hwhere.map _)]
  · obtain ⟨rfl, rfl, rfl, rfl, hwhere, rfl, hvalue⟩ := h
    refine ⟨rfl, ?_⟩
    rw [bodyFields, bodyFields, hvalue, sortedConditions_eq (hwhere.map _)]
  · obtain ⟨rfl, rfl, rfl, rfl, rfl, hanchor, hlookup⟩ := h
    refine ⟨rfl, ?_⟩
    rw [bodyFields, bodyFields, canonicalEqKey_eq hanchor, canonicalEqKey_eq hlookup]
  · exact h.elim

/-- Conditions of plain pairs are permuted only as the pairs are. -/
theorem whereEq_perm {ps qs : List IdentityEqPair} (hps : ∀ p ∈ ps, PlainPair p)
    (hqs : ∀ q ∈ qs, PlainPair q)
    (h : sortedConditions (ps.map conditionText) = sortedConditions (qs.map conditionText)) :
    ps.Perm qs := by
  have htexts : ∀ {rs : List IdentityEqPair}, (∀ r ∈ rs, PlainPair r) →
      ∀ x ∈ rs.map conditionText, x ≠ "" ∧ '&' ∉ x.toList := by
    intro rs hrs x hx
    obtain ⟨r, hr, rfl⟩ := List.mem_map.mp hx
    exact conditionText_plain (hrs r hr)
  have : Nonempty IdentityEqPair := ⟨⟨"", ""⟩⟩
  exact perm_of_map_perm conditionText_injOn hps hqs
    (sortedConditions_injective (htexts hps) (htexts hqs) h)

theorem joinWhereEq_perm {ps qs : List JoinEqPair} (hps : ∀ p ∈ ps, PlainJoinPair p)
    (hqs : ∀ q ∈ qs, PlainJoinPair q)
    (h : sortedConditions (ps.map joinConditionText) =
      sortedConditions (qs.map joinConditionText)) : ps.Perm qs := by
  have htexts : ∀ {rs : List JoinEqPair}, (∀ r ∈ rs, PlainJoinPair r) →
      ∀ x ∈ rs.map joinConditionText, x ≠ "" ∧ '&' ∉ x.toList := by
    intro rs hrs x hx
    obtain ⟨r, hr, rfl⟩ := List.mem_map.mp hx
    exact joinConditionText_plain (hrs r hr)
  have : Nonempty JoinEqPair := ⟨⟨.left, "", ""⟩⟩
  exact perm_of_map_perm joinConditionText_injOn hps hqs
    (sortedConditions_injective (htexts hps) (htexts hqs) h)

theorem getD_empty_injective {a b : Option String} (ha : ∀ x ∈ a, x ≠ "") (hb : ∀ x ∈ b, x ≠ "")
    (h : a.getD "" = b.getD "") : a = b := by
  cases a with
  | none =>
      cases b with
      | none => rfl
      | some y => exact absurd h.symm (hb y rfl)
  | some x =>
      cases b with
      | none => exact absurd h (ha x rfl)
      | some y => exact congrArg some h

theorem bodyFields_injective {b b' : ResolvedRelationalBody} (hb : PlainCheckBody b)
    (hb' : PlainCheckBody b') (hkind : b.checkKind = b'.checkKind)
    (h : bodyFields b = bodyFields b') : SameCheckBody b b' := by
  unfold SameCheckBody
  split
  · simp only [bodyFields, List.cons.injEq, and_true] at h
    refine ⟨h.1, canonicalEqKey_injective ?_ ?_ h.2⟩
    · exact fun p hp => (hb.2 p hp).1
    · exact fun p hp => (hb'.2 p hp).1
  · simp only [bodyFields, List.cons.injEq, and_true] at h
    obtain ⟨htable, hfn, hcolumn, hop, hvalue, hwhere⟩ := h
    refine ⟨htable, AggregateFn.text_injective hfn, ?_, ?_, ExpectOp.text_injective hop, hvalue⟩
    · exact getD_empty_injective (fun x hx => (hb.2.1 x hx).1) (fun x hx => (hb'.2.1 x hx).1)
        hcolumn
    · exact whereEq_perm (fun p hp => (hb.2.2 p hp).1) (fun p hp => (hb'.2.2 p hp).1) hwhere
  · simp only [bodyFields, List.cons.injEq, and_true] at h
    obtain ⟨hleft, hright, hleftColumn, hrightColumn, hop, hvalue, hwhere⟩ := h
    refine ⟨hleft, hright, hleftColumn, hrightColumn, ?_, ExpectOp.text_injective hop, hvalue⟩
    exact joinWhereEq_perm (fun p hp => (hb.2.2.2.2 p hp).1)
      (fun p hp => (hb'.2.2.2.2 p hp).1) hwhere
  · simp only [bodyFields, List.cons.injEq, and_true] at h
    obtain ⟨hanchor, hlookup, hanchorColumn, hlookupColumn, hpresence, hfa, hfl⟩ := h
    obtain ⟨-, -, -, -, -, hplainA, hplainL⟩ := hb
    obtain ⟨-, -, -, -, -, hplainA', hplainL'⟩ := hb'
    refine ⟨hanchor, hlookup, hanchorColumn, hlookupColumn, hpresence, ?_, ?_⟩
    · exact canonicalEqKey_injective (fun p hp => (hplainA p hp).1)
        (fun p hp => (hplainA' p hp).1) ((String.append_right_inj _).mp hfa)
    · exact canonicalEqKey_injective (fun p hp => (hplainL p hp).1)
        (fun p hp => (hplainL' p hp).1) ((String.append_right_inj _).mp hfl)
  · -- two checks of different kinds
    cases b <;> cases b' <;> grind [ResolvedRelationalBody.checkKind]

theorem checkFields_eq {c d : ResolvedRelationalCheck} (h : SameCheck c d) :
    checkFields c = checkFields d := by
  obtain ⟨hkind, hbody⟩ := bodyFields_eq h.2
  rw [checkFields, checkFields, h.1, hkind, hbody]

theorem checkFields_injective {c d : ResolvedRelationalCheck} (hc : PlainCheck c)
    (hd : PlainCheck d) (h : checkFields c = checkFields d) : SameCheck c d := by
  simp only [checkFields, List.cons.injEq, true_and] at h
  obtain ⟨hid, hkind, hbody⟩ := h
  exact ⟨hid, bodyFields_injective hc.2 hd.2 hkind hbody⟩

theorem barFree_bodyFields {b : ResolvedRelationalBody} (hb : PlainCheckBody b) :
    ∀ x ∈ bodyFields b, BarFree x := by
  have hkeys : ∀ {ps : List IdentityEqPair}, (∀ p ∈ ps, PlainPair p ∧ BarFreePair p) →
      BarFree (canonicalEqKey ps) :=
    fun hps => barFree_canonicalEqKey fun p hp => (hps p hp).2
  cases b with
  | relatedExists childTable matchEq =>
      obtain ⟨htable, hpairs⟩ := hb
      simpa [bodyFields] using ⟨htable, hkeys hpairs⟩
  | aggregate table fn sumColumn whereEq expectOp expectValue =>
      obtain ⟨htable, hcolumn, hpairs⟩ := hb
      have hsum : BarFree (sumColumn.getD "") := by
        cases sumColumn with
        | none => rw [BarFree]; decide
        | some column => exact (hcolumn column rfl).2
      have hwhere : BarFree (sortedConditions (whereEq.map conditionText)) := by
        apply barFree_sortedConditions
        intro x hx
        obtain ⟨p, hp, rfl⟩ := List.mem_map.mp hx
        exact barFree_conditionText (hpairs p hp).2
      simpa [bodyFields] using
        ⟨htable, fn.barFree_text, hsum, expectOp.barFree_text, barFree_toText _, hwhere⟩
  | joinCount leftTable rightTable leftJoinColumn rightJoinColumn whereEq expectOp expectValue =>
      obtain ⟨hleft, hright, hleftColumn, hrightColumn, hpairs⟩ := hb
      have hwhere : BarFree (sortedConditions (whereEq.map joinConditionText)) := by
        apply barFree_sortedConditions
        intro x hx
        obtain ⟨p, hp, rfl⟩ := List.mem_map.mp hx
        exact barFree_joinConditionText (hpairs p hp).2.1 (hpairs p hp).2.2
      simpa [bodyFields] using ⟨hleft, hright, hleftColumn, hrightColumn,
        expectOp.barFree_text, barFree_toText _, hwhere⟩
  | antiJoin anchorTable lookupTable anchorColumn lookupColumn lookupPresenceColumn
      filterEqAnchor filterEqLookup =>
      obtain ⟨hanchor, hlookup, hanchorColumn, hlookupColumn, hpresence, hfa, hfl⟩ := hb
      have hA : BarFree "fa:" := by rw [BarFree]; decide
      have hL : BarFree "fl:" := by rw [BarFree]; decide
      simpa [bodyFields] using ⟨hanchor, hlookup, hanchorColumn, hlookupColumn, hpresence,
        hA.append (hkeys hfa), hL.append (hkeys hfl)⟩

theorem barFree_checkFields {c : ResolvedRelationalCheck} (hc : PlainCheck c) :
    ∀ x ∈ checkFields c, BarFree x := by
  have hname : BarFree "id" := by rw [BarFree]; decide
  rw [checkFields]
  simp only [List.forall_mem_cons]
  exact ⟨hname, hc.1, c.body.barFree_checkKind, barFree_bodyFields hc.2⟩

/-! ## Requests -/

def witnessKind : StateWitnessRequest → String
  | .vectorDocument _ => "vector_document"
  | .objectStorageObject _ => "object_storage_object"
  | .httpWitness _ => "http_witness"
  | .mongoDocument _ => "mongo_document"

def witnessBody : StateWitnessRequest → String
  | .vectorDocument req => req.provider.text ++ "|" ++ (req.indexName ++ "|" ++ req.documentId)
  | .objectStorageObject req => req.bucket ++ "|" ++ req.key
  | .httpWitness req => req.method.text ++ "|" ++ (req.url ++ "|" ++ req.expectedStatus.toText)
  | .mongoDocument req => req.collection ++ "|" ++ stringifyFilter req.filter

/-- The text before the first bar. -/
def requestKind : ResolvedRequest → String
  | .sqlRow _ => "sql_row"
  | .sqlRowAbsent _ => "sql_row_absent"
  | .sqlRelational _ => "sql_relational"
  | .sqlEffects _ => "sql_effects"
  | .stateWitness vr => witnessKind vr

/-- The text behind it. -/
def requestBody : ResolvedRequest → String
  | .sqlRow vr => vr.table ++ "|" ++ canonicalEqKey vr.identityEq
  | .sqlRowAbsent vr =>
      vr.table ++ "|" ++ (canonicalEqKey vr.identityEq ++ "|" ++ canonicalEqKey vr.filterEq)
  | .sqlRelational checks =>
      String.join ((sortBy ResolvedRelationalCheck.id checks).map relationalSegment)
  | .sqlEffects effects => String.join ((sortBy ResolvedEffect.id effects).map effectSegment)
  | .stateWitness vr => witnessBody vr

/-- A kind with the bar behind it, and two parts. -/
theorem kind_bar {kind kindBar : String} (h : kindBar.toList = kind.toList ++ ['|'])
    (a b : String) : kindBar ++ a ++ "|" ++ b = kind ++ "|" ++ (a ++ "|" ++ b) := by
  apply String.toList_injective
  simp [String.toList_append, h]

theorem kind_bar_bar {kind kindBar : String} (h : kindBar.toList = kind.toList ++ ['|'])
    (a b c : String) :
    kindBar ++ a ++ "|" ++ b ++ "|" ++ c = kind ++ "|" ++ (a ++ "|" ++ (b ++ "|" ++ c)) := by
  rw [← kind_bar h]
  simp only [String.append_assoc]

theorem witnessKey_eq_kind_body (vr : StateWitnessRequest) :
    witnessKey vr = witnessKind vr ++ "|" ++ witnessBody vr := by
  cases vr with
  | vectorDocument req => exact kind_bar_bar (by rw [witnessKind]; decide) _ _ _
  | objectStorageObject req => exact kind_bar (by rw [witnessKind]; decide) _ _
  | httpWitness req => exact kind_bar_bar (by rw [witnessKind]; decide) _ _ _
  | mongoDocument req => exact kind_bar (by rw [witnessKind]; decide) _ _

theorem requestKey_eq_kind_body (r : ResolvedRequest) :
    requestKey r = requestKind r ++ "|" ++ requestBody r := by
  cases r with
  | sqlRow vr => exact kind_bar (by rw [requestKind]; decide) _ _
  | sqlRowAbsent vr => exact kind_bar_bar (by rw [requestKind]; decide) _ _ _
  | sqlRelational checks => rfl
  | sqlEffects effects => rfl
  | stateWitness vr => exact witnessKey_eq_kind_body vr

theorem barFree_requestKind (r : ResolvedRequest) : BarFree (requestKind r) := by
  rw [BarFree]
  cases r with
  | stateWitness vr => cases vr <;> rw [requestKind, witnessKind] <;> decide
  | _ => rw [requestKind]; decide

theorem requestKey_eq_iff {r r' : ResolvedRequest} : requestKey r = requestKey r' ↔
    requestKind r = requestKind r' ∧ requestBody r = requestBody r' := by
  rw [requestKey_eq_kind_body, requestKey_eq_kind_body]
  constructor
  · exact bar_cut (barFree_requestKind r) (barFree_requestKind r')
  · rintro ⟨hkind, hbody⟩
    rw [hkind, hbody]

/-- Segments of bar-free fields are determined by the text that they are joined to. -/
theorem segments_injective {ι : Type} {key : ι → String} {segment : ι → String}
    {fields : ι → List String} (hsegment : ∀ i, (segment i).toList = endedText (fields i))
    (hcode : PrefixCode fields) (hne : ∀ i, fields i ≠ []) {is js : List ι}
    (his : ∀ i ∈ is, ∀ x ∈ fields i, BarFree x) (hjs : ∀ j ∈ js, ∀ x ∈ fields j, BarFree x)
    (h : String.join ((sortBy key is).map segment) = String.join ((sortBy key js).map segment)) :
    (sortBy key is).map fields = (sortBy key js).map fields := by
  have hfree : ∀ {ks : List ι}, (∀ k ∈ ks, ∀ x ∈ fields k, BarFree x) →
      ∀ x ∈ (sortBy key ks).flatMap fields, BarFree x := by
    intro ks hks x hx
    obtain ⟨k, hk, hxk⟩ := List.mem_flatMap.mp hx
    exact hks k ((sortBy_perm _ _).mem_iff.mp hk) x hxk
  have hlist := congrArg String.toList h
  rw [toList_join_segments hsegment, toList_join_segments hsegment] at hlist
  exact hcode.map_eq hne (endedText_injective (hfree his) (hfree hjs) hlist)

theorem segments_eq {ι : Type} {segment : ι → String} {fields : ι → List String}
    (hsegment : ∀ i, (segment i).toList = endedText (fields i)) {i j : ι}
    (h : fields i = fields j) : segment i = segment j := by
  apply String.toList_injective
  rw [hsegment, hsegment, h]

theorem VectorProvider.text_injective : Function.Injective VectorProvider.text := by
  intro a b h
  cases a <;> cases b <;> first | rfl | exact absurd h (by decide)

theorem HttpMethod.text_injective : Function.Injective HttpMethod.text := by
  intro a b h
  cases a <;> cases b <;> first | rfl | exact absurd h (by decide)

theorem witnessKind_body_eq {a b : StateWitnessRequest} (h : SameWitnessAddress a b) :
    witnessKind a = witnessKind b ∧ witnessBody a = witnessBody b := by
  unfold SameWitnessAddress at h
  split at h
  · obtain ⟨hprovider, hindex, hdocument⟩ := h
    refine ⟨rfl, ?_⟩
    rw [witnessBody, witnessBody, hprovider, hindex, hdocument]
  · obtain ⟨hbucket, hkey⟩ := h
    refine ⟨rfl, ?_⟩
    rw [witnessBody, witnessBody, hbucket, hkey]
  · obtain ⟨hmethod, hurl, hstatus⟩ := h
    refine ⟨rfl, ?_⟩
    rw [witnessBody, witnessBody, hmethod, hurl, hstatus]
  · obtain ⟨hcollection, hfilter⟩ := h
    refine ⟨rfl, ?_⟩
    rw [witnessBody, witnessBody, hcollection, hfilter]
  · exact h.elim

/-- The address decides the key. -/
theorem requestKey_eq {r r' : ResolvedRequest} (h : SameAddress r r') :
    requestKey r = requestKey r' := by
  rw [requestKey_eq_iff]
  unfold SameAddress at h
  split at h
  · obtain ⟨htable, hpairs⟩ := h
    refine ⟨rfl, ?_⟩
    rw [requestBody, requestBody, htable, canonicalEqKey_eq hpairs]
  · obtain ⟨htable, hidentity, hfilter⟩ := h
    refine ⟨rfl, ?_⟩
    rw [requestBody, requestBody, htable, canonicalEqKey_eq hidentity, canonicalEqKey_eq hfilter]
  · have hsame : ∀ e f, SameEffectTarget e f → e.id = f.id ∧ effectSegment e = effectSegment f :=
      fun e f hef => ⟨hef.1, segments_eq toList_effectSegment (effectFields_eq hef)⟩
    have hmap := map_sortBy_eq_of_forall₂ ResolvedEffect.id hsame h
    exact ⟨rfl, congrArg String.join hmap⟩
  · have hsame : ∀ c d, SameCheck c d → c.id = d.id ∧ relationalSegment c = relationalSegment d :=
      fun c d hcd => ⟨hcd.1, segments_eq toList_relationalSegment (checkFields_eq hcd)⟩
    have hmap := map_sortBy_eq_of_forall₂ ResolvedRelationalCheck.id hsame h
    exact ⟨rfl, congrArg String.join hmap⟩
  · exact witnessKind_body_eq h
  · exact h.elim

theorem stringifyFilter_injective {v w : Json} (hv : v.WellFormed) (hw : w.WellFormed)
    (h : stringifyFilter (.json v) = stringifyFilter (.json w)) : v = w := by
  have hread : ∀ {u : Json}, u.WellFormed → parseJson u.stringify.toList = some u := by
    intro u hu
    have hparse := @parseJson_stringify u hu [] (by simp)
    rwa [List.append_nil] at hparse
  have hsome := (hread hv).symm.trans ((congrArg (fun s => parseJson s.toList) h).trans (hread hw))
  exact Option.some.inj hsome

theorem witnessBody_injective {a b : StateWitnessRequest} (ha : PlainWitness a)
    (hb : PlainWitness b) (hkind : witnessKind a = witnessKind b)
    (h : witnessBody a = witnessBody b) : SameWitnessAddress a b := by
  unfold SameWitnessAddress
  split
  · obtain ⟨hprovider, hrest⟩ := bar_cut
      (by rw [BarFree]; rename_i x y; cases x.provider <;> decide)
      (by rw [BarFree]; rename_i x y; cases y.provider <;> decide) h
    obtain ⟨hindex, hdocument⟩ := bar_cut ha hb hrest
    exact ⟨VectorProvider.text_injective hprovider, hindex, hdocument⟩
  · exact bar_cut ha hb h
  · obtain ⟨hmethod, hrest⟩ := bar_cut
      (by rw [BarFree]; rename_i x y; cases x.method <;> decide)
      (by rw [BarFree]; rename_i x y; cases y.method <;> decide) h
    obtain ⟨hurl, hstatus⟩ := bar_cut_last (barFree_toText _) (barFree_toText _) hrest
    exact ⟨HttpMethod.text_injective hmethod, hurl, hstatus⟩
  · obtain ⟨hcollection, hfilter⟩ := bar_cut ha.1 hb.1 h
    obtain ⟨v, hv, hwell⟩ := ha.2
    obtain ⟨w, hw, hwell'⟩ := hb.2
    rw [hv, hw] at hfilter
    exact ⟨hcollection, by rw [hv, hw, stringifyFilter_injective hwell hwell' hfilter]⟩
  · -- two witnesses of different kinds
    cases a <;> cases b <;> grind [witnessKind]

/-- Without delimiters in the parts the key decides the address. -/
theorem sameAddress_of_requestKey {r r' : ResolvedRequest} (hr : PlainRequest r)
    (hr' : PlainRequest r') (h : requestKey r = requestKey r') : SameAddress r r' := by
  obtain ⟨hkind, hbody⟩ := requestKey_eq_iff.mp h
  unfold SameAddress
  split
  · obtain ⟨htable, hpairs⟩ := bar_cut hr.1 hr'.1 hbody
    exact ⟨htable, canonicalEqKey_injective hr.2 hr'.2 hpairs⟩
  · obtain ⟨htable, hrest⟩ := bar_cut hr.1 hr'.1 hbody
    obtain ⟨hidentity, hfilter⟩ := bar_cut
      (barFree_canonicalEqKey fun p hp => (hr.2.1 p hp).2)
      (barFree_canonicalEqKey fun p hp => (hr'.2.1 p hp).2) hrest
    refine ⟨htable, ?_, canonicalEqKey_injective hr.2.2 hr'.2.2 hfilter⟩
    exact canonicalEqKey_injective (fun p hp => (hr.2.1 p hp).1)
      (fun p hp => (hr'.2.1 p hp).1) hidentity
  · have hmap := segments_injective toList_effectSegment prefixCode_effectFields
      (fun _ => List.cons_ne_nil _ _) (fun e he => barFree_effectFields (hr e he))
      (fun e he => barFree_effectFields (hr' e he)) hbody
    apply forall₂_filter_of_map_sortBy ResolvedEffect.id _ hmap
    intro e he f hf hfields
    have hsame := effectFields_injective (hr e he) (hr' f hf) hfields
    exact ⟨hsame.1, hsame⟩
  · have hmap := segments_injective toList_relationalSegment prefixCode_checkFields
      (fun _ => List.cons_ne_nil _ _) (fun c hc => barFree_checkFields (hr c hc))
      (fun c hc => barFree_checkFields (hr' c hc)) hbody
    apply forall₂_filter_of_map_sortBy ResolvedRelationalCheck.id _ hmap
    intro c hc d hd hfields
    have hsame := checkFields_injective (hr c hc) (hr' d hd) hfields
    exact ⟨hsame.1, hsame⟩
  · exact witnessBody_injective hr hr' hkind hbody
  · -- two requests of different kinds
    cases r with
    | stateWitness a => cases a <;> cases r' <;> grind [requestKind, witnessKind]
    | _ =>
        cases r' with
        | stateWitness b => cases b <;> grind [requestKind, witnessKind]
        | _ => grind [requestKind]

/-- Steps of one target have one key.  Where no part holds a delimiter, steps of one key have
one address. -/
theorem logicalStepKey_identifies_target {a b : StepOutcome} {r r' : ResolvedRequest}
    (ha : a.verificationRequest = some r) (hb : b.verificationRequest = some r') :
    (SameTarget r r' → logicalStepKeyFromStep a = logicalStepKeyFromStep b) ∧
      (PlainRequest r → PlainRequest r' →
        logicalStepKeyFromStep a = logicalStepKeyFromStep b → SameAddress r r') := by
  rw [logicalStepKeyFromStep, logicalStepKeyFromStep, ha, hb, Option.map_some, Option.map_some]
  constructor
  · intro hsame
    rw [requestKey_eq hsame.1]
  · intro hr hr' hkey
    exact sameAddress_of_requestKey hr hr' (Option.some.inj hkey)

/-! ## One row in two orders, and targets that are not told apart -/

def requestStep (r : ResolvedRequest) : StepOutcome :=
  { contactStep 0 .verified [] with verificationRequest := some r }

def rowRequest (identityEq : List IdentityEqPair) : ResolvedRequest :=
  .sqlRow { table := "contacts", identityEq := identityEq, requiredFields := [] }

theorem logicalStepKey_two_orders :
    SameAddress (rowRequest [⟨"id", "7"⟩, ⟨"org", "acme"⟩])
      (rowRequest [⟨"org", "acme"⟩, ⟨"id", "7"⟩]) := by
  have hplain : ∀ p ∈ [(⟨"id", "7"⟩ : IdentityEqPair), ⟨"org", "acme"⟩], PlainPair p := by
    simp only [List.forall_mem_cons, PlainPair]
    decide
  have hplain' : ∀ p ∈ [(⟨"org", "acme"⟩ : IdentityEqPair), ⟨"id", "7"⟩], PlainPair p := by
    simp only [List.forall_mem_cons, PlainPair]
    decide
  have htable : BarFree "contacts" := by
    rw [BarFree]
    decide
  have hkey : logicalStepKeyFromStep (requestStep (rowRequest [⟨"id", "7"⟩, ⟨"org", "acme"⟩])) =
      logicalStepKeyFromStep (requestStep (rowRequest [⟨"org", "acme"⟩, ⟨"id", "7"⟩])) := by
    decide +kernel
  exact (logicalStepKey_identifies_target rfl rfl).2 ⟨htable, hplain⟩ ⟨htable, hplain'⟩ hkey

def vectorRequest (namespace_ : String) : ResolvedRequest :=
  .stateWitness (.vectorDocument
    { provider := .pinecone
      documentId := "d"
      indexName := "i"
      namespace_ := some namespace_
      host := none
      metadataSubset := none
      expectPayloadSha256 := none })

def mongoRequest (filter : List (String × Json)) : ResolvedRequest :=
  .stateWitness (.mongoDocument
    { collection := "c", filter := .json (.obj filter), requiredFields := [] })

/-- An ampersand in a value and two namespaces give one key, two orders of members two. -/
theorem logicalStepKey_delimiters :
    (logicalStepKeyFromStep (requestStep (rowRequest [⟨"id", "7&org=acme"⟩])) =
        logicalStepKeyFromStep (requestStep (rowRequest [⟨"id", "7"⟩, ⟨"org", "acme"⟩])) ∧
      ¬ SameAddress (rowRequest [⟨"id", "7&org=acme"⟩])
        (rowRequest [⟨"id", "7"⟩, ⟨"org", "acme"⟩])) ∧
    (logicalStepKeyFromStep (requestStep (vectorRequest "a")) =
        logicalStepKeyFromStep (requestStep (vectorRequest "b")) ∧
      vectorNamespace (vectorRequest "a") ≠ vectorNamespace (vectorRequest "b")) ∧
    [("a", Json.null), ("b", .null)].Perm [("b", Json.null), ("a", .null)] ∧
      logicalStepKeyFromStep (requestStep (mongoRequest [("a", .null), ("b", .null)])) ≠
        logicalStepKeyFromStep (requestStep (mongoRequest [("b", .null), ("a", .null)])) := by
  refine ⟨⟨by decide +kernel, fun h => ?_⟩, ⟨by decide +kernel, by decide⟩,
    List.Perm.swap _ _ _, by decide +kernel⟩
  have hpairs := h.2 "org"
  exact absurd hpairs (by decide)

end AgentSkeptic.Engine

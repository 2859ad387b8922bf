import AgentSkeptic.Engine.RowRequests
import AgentSkeptic.Quick.ExportParams

/-!
# Resolving an exported row

An export by constants resolves exactly when its table and columns are identifiers
(`resolve_const_iff`); an export by pointers was resolved before it was made, and the
parameters of its line resolve it again (`resolvesTo_recoded`).  In both cases the
request that comes out has the fingerprint of the one that went in.
-/

namespace AgentSkeptic.Quick

open AgentSkeptic.Support AgentSkeptic.Engine

/-! ## Fingerprints -/

theorem setEntry_new {k : String} {v : FlatScalar} {es : List (String × FlatScalar)}
    (h : k ∉ es.map Prod.fst) : InsertionMap.setEntry k v es = es ++ [(k, v)] := by
  induction es with
  | nil => rfl
  | cons e es ih =>
      rw [List.map_cons, List.mem_cons, not_or] at h
      rw [InsertionMap.setEntry, if_neg (Ne.symm h.1), ih h.2, List.cons_append]

/-- The fields that an assignment makes. -/
def ordinaryFields (fields : ScalarFields) : ScalarFields :=
  fields.filter (·.1 ≠ "__proto__")

theorem foldl_set_entries {fields : ScalarFields} (hnodup : (fields.map Prod.fst).Nodup)
    {record : ScalarRecord}
    (hnew : ∀ f ∈ fields, f.1 ∉ record.entries.entries.map Prod.fst)
    (hbare : "__proto__" ∈ fields.map Prod.fst → record.bare = false) :
    (fields.foldl (fun record m => record.set m.1 m.2) record).entries.entries =
      record.entries.entries ++ ordinaryFields fields := by
  induction fields generalizing record with
  | nil => simp [ordinaryFields]
  | cons f fields ih =>
      obtain ⟨hf, hfields⟩ := List.nodup_cons.mp hnodup
      obtain ⟨hfnew, hrest⟩ := List.forall_mem_cons.mp hnew
      rw [List.foldl_cons]
      by_cases hproto : f.1 = "__proto__"
      · have hskip : (record.set f.1 f.2).entries = record.entries := by
          have hcond : f.1 = "__proto__" ∧ record.bare = false :=
            ⟨hproto, hbare (by simp [hproto])⟩
          rw [ScalarRecord.set, if_pos hcond]
        have hfields' : ordinaryFields (f :: fields) = ordinaryFields fields := by
          simp [ordinaryFields, hproto]
        rw [ih hfields (by rw [hskip]; exact hrest) (fun hmem => absurd (hproto ▸ hmem) hf),
          hskip, hfields']
      · have hset : (record.set f.1 f.2).entries.entries =
            record.entries.entries ++ [f] := by
          rw [ScalarRecord.set, if_neg (fun hcond => hproto hcond.1)]
          exact setEntry_new hfnew
        have hkeep : (record.set f.1 f.2).bare = record.bare := by
          rw [ScalarRecord.set, if_neg (fun hcond => hproto hcond.1)]
        have hfields' : ordinaryFields (f :: fields) = f :: ordinaryFields fields := by
          simp [ordinaryFields, hproto]
        have hnext : ∀ g ∈ fields, g.1 ∉
            (record.set f.1 f.2).entries.entries.map Prod.fst := by
          intro g hg hmem
          rw [hset, List.map_append, List.mem_append] at hmem
          rcases hmem with hold | hkey
          · exact hrest g hg hold
          · have hgf : g.1 = f.1 := by simpa using hkey
            exact hf (hgf ▸ List.mem_map_of_mem hg)
        rw [ih hfields hnext (fun hmem => hkeep ▸ hbare (List.mem_cons_of_mem _ hmem)),
          hset, hfields', List.append_assoc, List.singleton_append]

theorem sortedRecord_entries {fields : ScalarFields}
    (hnodup : (fields.map Prod.fst).Nodup) :
    (sortedRecord fields).entries.entries = sortBy Prod.fst (ordinaryFields fields) := by
  have hperm := sortBy_perm Prod.fst fields
  have hkeys : ((sortBy Prod.fst fields).map Prod.fst).Nodup :=
    (hperm.map Prod.fst).nodup_iff.mpr hnodup
  have hentries : (sortedRecord fields).entries.entries =
      ordinaryFields (sortBy Prod.fst fields) := by
    rw [sortedRecord, foldl_set_entries hkeys (by simp [ScalarRecord.empty,
      InsertionMap.empty]) (fun _ => rfl)]
    rfl
  have hsorted : sortBy Prod.fst (ordinaryFields (sortBy Prod.fst fields)) =
      ordinaryFields (sortBy Prod.fst fields) :=
    sortBy_of_pairwise ((pairwise_sortBy Prod.fst fields).filter _)
  rw [hentries, ← hsorted]
  apply sortBy_eq_of_perm (hperm.filter _)
  exact (List.filter_sublist.map Prod.fst).nodup hkeys

/-- The fingerprint does not see the order of the pairs and the fields. -/
theorem fingerprint_congr {req req' : VerificationRequest} (htable : req.table = req'.table)
    (hidentity : sortBy IdentityEqPair.column req.identityEq =
      sortBy IdentityEqPair.column req'.identityEq)
    (hnodup : (req.requiredFields.map Prod.fst).Nodup)
    (hnodup' : (req'.requiredFields.map Prod.fst).Nodup)
    (hfields : (ordinaryFields req.requiredFields).Perm
      (ordinaryFields req'.requiredFields)) :
    normalizedSqlRowRequestFingerprint req = normalizedSqlRowRequestFingerprint req' := by
  have hentries : (sortedRecord req.requiredFields).entries.entries =
      (sortedRecord req'.requiredFields).entries.entries := by
    rw [sortedRecord_entries hnodup, sortedRecord_entries hnodup']
    exact sortBy_eq_of_perm hfields ((List.filter_sublist.map Prod.fst).nodup hnodup)
  have hjson : (sortedRecord req.requiredFields).json =
      (sortedRecord req'.requiredFields).json := by
    rw [ScalarRecord.json, hentries, ScalarRecord.json]
  unfold normalizedSqlRowRequestFingerprint
  dsimp only
  unfold sortBy at hidentity
  rw [htable, hidentity, hjson]

/-! ## Columns -/

theorem resolveEqualityPair_const {params : Json} {labelPrefix name : String}
    {p q : IdentityEqPair} {i : ℕ} :
    resolveEqualityPair params labelPrefix name [] (constPair p, i) = .ok q ↔
      isIdent p.column = true ∧ q = p := by
  have hempty : isIdent "" = false := rfl
  constructor
  · intro h
    obtain ⟨column, hcolumn, hrest⟩ := bind_eq_ok.mp h
    obtain ⟨value, hvalue, hident⟩ := bind_eq_ok.mp hcolumn
    have hne : p.column ≠ "" := by
      intro hnil
      rw [constPair, resolveStringSpec, if_pos hnil] at hvalue
      cases hvalue
    rw [constPair, resolveStringSpec, if_neg hne] at hvalue
    cases hvalue
    split_ifs at hident with hcol
    · cases hident
      obtain ⟨text, htext, hq⟩ := bind_eq_ok.mp hrest
      cases htext
      cases hq
      exact ⟨hcol, rfl⟩
    · cases hident
  · rintro ⟨hident, rfl⟩
    have hne : q.column ≠ "" := by
      intro hnil
      rw [hnil, hempty] at hident
      cases hident
    simp [resolveEqualityPair, constPair, resolveIdentSpec, resolveStringSpec, hne, hident,
      resolveKeyValue, VerificationScalar.toText, bind, Except.bind]

theorem resolveEqualityPairs_const {params : Json} {labelPrefix name : String}
    {pairs qs : List IdentityEqPair} :
    resolveEqualityPairs (pairs.map constPair) params labelPrefix name [] = .ok qs ↔
      (∀ p ∈ pairs, isIdent p.column = true) ∧ qs = pairs := by
  have hrun : ∀ n, ((pairs.map constPair).zipIdx n).mapM
      (resolveEqualityPair params labelPrefix name []) = .ok qs ↔
        (∀ p ∈ pairs, isIdent p.column = true) ∧ qs = pairs := by
    intro n
    rw [mapM_eq_ok]
    induction pairs generalizing n qs with
    | nil => simp
    | cons p pairs ih =>
        rw [List.map_cons, List.zipIdx_cons, List.forall_mem_cons]
        constructor
        · intro h
          cases h with
          | cons hp hrest =>
              obtain ⟨hident, rfl⟩ := resolveEqualityPair_const.mp hp
              obtain ⟨hall, rfl⟩ := (ih (n + 1)).mp hrest
              exact ⟨⟨hident, hall⟩, rfl⟩
        · rintro ⟨⟨hident, hall⟩, rfl⟩
          exact .cons (resolveEqualityPair_const.mpr ⟨hident, rfl⟩)
            ((ih (n + 1)).mpr ⟨hall, rfl⟩)
  exact hrun 0

theorem resolveRegistryEqualityList_const {params : Json} {pairs qs : List IdentityEqPair} :
    resolveRegistryEqualityList (pairs.map constPair) params "" = .ok qs ↔
      (∀ p ∈ pairs, isIdent p.column = true) ∧
        (pairs.map IdentityEqPair.column).Nodup ∧
          qs = sortBy IdentityEqPair.column pairs := by
  unfold resolveRegistryEqualityList
  rw [bind_eq_ok]
  constructor
  · rintro ⟨raw, hraw, hsorted⟩
    obtain ⟨hall, rfl⟩ := resolveEqualityPairs_const.mp hraw
    exact ⟨hall, normalizeSortedIdentityEq_eq_ok.mp hsorted⟩
  · rintro ⟨hall, hsorted⟩
    exact ⟨pairs, resolveEqualityPairs_const.mpr ⟨hall, rfl⟩,
      normalizeSortedIdentityEq_eq_ok.mpr hsorted⟩

/-! ## Exports by constants -/

/-- The table and the columns of a request are identifiers, and no column of the identity
stands twice. -/
structure Replayable (req : VerificationRequest) : Prop where
  table : isIdent req.table = true
  columns : ∀ p ∈ req.identityEq, isIdent p.column = true
  distinct : (req.identityEq.map IdentityEqPair.column).Nodup
  fields : ∀ f ∈ req.requiredFields, isIdent f.1 = true

theorem pointerValue_qvFields {members : List (String × Json)} {value : Json}
    (h : ownMember members "__qvFields" = some value) :
    pointerValue (.obj members) "/__qvFields" = .ok (.json value) := by
  have htokens : (("__qvFields".toList.splitOn '/').map pointerToken) =
      ["__qvFields"] := by
    decide +kernel
  have hget : getPointer (.obj members) "/__qvFields" =
      .ok ((("__qvFields".toList.splitOn '/').map pointerToken).foldl pointerStep
        (.json (.obj members))) := rfl
  rw [pointerValue, hget, htokens]
  simp [pointerStep, Json.member, h]

theorem jsonScalar?_scalarJson (v : FlatScalar) : jsonScalar? (scalarJson v) = some v := by
  cases v with
  | str value => rfl
  | num value => rfl
  | bool value => rfl
  | null => rfl

/-- The members of the object that carries the required fields. -/
def fieldMembers (fields : ScalarFields) : List (String × Json) :=
  propertyOrder ((sortedRecord fields).entries.entries.map fun e => (e.1, scalarJson e.2))

/-- The fields that the entry resolves to on the line. -/
def resolvedFields (fields : ScalarFields) : ScalarFields :=
  (recodedMembers (fieldMembers fields)).filterMap scalarField

theorem fieldMembers_perm {fields : ScalarFields} (h : ExactFields fields) :
    (fieldMembers fields).Perm
      ((ordinaryFields fields).map fun f => (f.1, scalarJson f.2)) := by
  rw [fieldMembers, sortedRecord_entries h.nodup]
  exact (propertyOrder_perm _).trans ((sortBy_perm Prod.fst _).map _)

theorem fieldMembers_exact {fields : ScalarFields} (h : ExactFields fields) :
    (Json.obj (fieldMembers fields)).Exact :=
  (sortedRecord_all h.exact).json_exact

theorem resolvedFields_perm {fields : ScalarFields} (h : ExactFields fields) :
    (resolvedFields fields).Perm (ordinaryFields fields) := by
  have hrecoded : (resolvedFields fields).Perm
      ((fieldMembers fields).filterMap scalarField) :=
    scalarFields_recoded (fieldMembers_exact h)
  have hfields : ((ordinaryFields fields).map fun f => (f.1, scalarJson f.2)).filterMap
      scalarField = ordinaryFields fields := by
    rw [List.filterMap_map]
    conv_rhs => rw [← List.filterMap_some (l := ordinaryFields fields)]
    apply List.filterMap_congr
    intro f hf
    have hproto : f.1 ≠ "__proto__" := by simpa using (List.mem_filter.mp hf).2
    simp [scalarField, hproto, jsonScalar?_scalarJson]
  rw [← hfields]
  exact hrecoded.trans ((fieldMembers_perm h).filterMap scalarField)

/-- The object resolves when its keys are identifiers; `__proto__` is one. -/
theorem scalarMembers_fieldMembers {fields : ScalarFields} (h : ExactFields fields) :
    ScalarMembers true (recodedMembers (fieldMembers fields)) ↔
      ∀ f ∈ fields, isIdent f.1 = true := by
  have hperm := recodedMembers_perm (fieldMembers fields)
  have hmembers := fieldMembers_perm h
  constructor
  · intro hall f hf
    by_cases hproto : f.1 = "__proto__"
    · rw [hproto]
      decide
    · have hordinary : f ∈ ordinaryFields fields :=
        List.mem_filter.mpr ⟨hf, by simpa using hproto⟩
      have hmem := hmembers.mem_iff.mpr (List.mem_map.mpr ⟨f, hordinary, rfl⟩)
      have hread := hperm.mem_iff.mpr (List.mem_map.mpr ⟨_, hmem, rfl⟩)
      exact (hall _ hread).1 rfl
  · intro hall m hm
    obtain ⟨n, hn, rfl⟩ := List.mem_map.mp (hperm.mem_iff.mp hm)
    obtain ⟨f, hf, rfl⟩ := List.mem_map.mp (hmembers.mem_iff.mp hn)
    refine ⟨fun _ => hall f (List.mem_filter.mp hf).1, ?_⟩
    rw [jsonScalar?_recoded ((exact_obj.mp (fieldMembers_exact h)).2 _ hn),
      jsonScalar?_scalarJson]
    rfl

theorem resolveScalarRecord_fields {members : List (String × Json)} {fields : ScalarFields}
    (h : ExactFields fields) {label kinds : String} {fields' : ScalarFields}
    (hown : ownMember members "__qvFields" =
      some (recoded (sortedRecord fields).json)) :
    resolveScalarRecord true (.obj members) "/__qvFields" label kinds = .ok fields' ↔
      (∀ f ∈ fields, isIdent f.1 = true) ∧ fields' = resolvedFields fields := by
  have hjson : recoded (sortedRecord fields).json =
      .obj (recodedMembers (fieldMembers fields)) := recoded_obj _
  have hobject : resolveObject (.obj members) "/__qvFields" label =
      .ok (.json (recoded (sortedRecord fields).json),
        recodedMembers (fieldMembers fields)) := by
    rw [hjson] at hown ⊢
    rw [resolveObject, pointerValue_qvFields hown]
    rfl
  have hnodup : ((recodedMembers (fieldMembers fields)).map Prod.fst).Nodup :=
    (keys_recodedMembers _).nodup_iff.mpr (exact_obj.mp (fieldMembers_exact h)).1
  have hrun : resolveScalarRecord true (.obj members) "/__qvFields" label kinds =
      (recodedMembers (fieldMembers fields)).foldlM
        (resolveScalarMember true label kinds) [] := by
    rw [resolveScalarRecord, hobject]
    rfl
  rw [hrun, foldlM_scalarMembers hnodup (by simp), scalarMembers_fieldMembers h,
    List.nil_append]
  rfl

theorem resolveTableIdent_const {table table' label : String} {params : Json} :
    resolveTableIdent (.const table) params label = .ok table' ↔
      isIdent table = true ∧ table' = table := by
  unfold resolveTableIdent
  by_cases hident : isIdent table = true
  · simp [hident, bind, Except.bind, eq_comm]
  · simp [hident, bind, Except.bind, fail]

/-- What an entry resolves to against the parameters of a line. -/
def ReplaysTo (entry : ToolRegistryEntry) (params : Json) (req : VerificationRequest) :
    Prop :=
  ∃ resolved, resolveVerificationRequest entry params none = .ok (.sqlRow resolved) ∧
    normalizedSqlRowRequestFingerprint resolved = normalizedSqlRowRequestFingerprint req

theorem rowTool_resolves {tid table : String} {pairs : List RegistryEqualityPair}
    {params : Json} {resolved : VerificationRequest} :
    resolveVerificationRequest (rowTool tid table pairs) params none =
        .ok (.sqlRow resolved) ↔
      resolveSqlRowSpec params ⟨.const table, pairs, "/__qvFields"⟩ "" = .ok resolved := by
  have hentry : resolveVerificationRequest (rowTool tid table pairs) params none = (do
      let request ← resolveSqlRowSpec params ⟨.const table, pairs, "/__qvFields"⟩ ""
      .ok (.sqlRow request)) := rfl
  rw [hentry, bind_eq_ok]
  constructor
  · rintro ⟨request, hrequest, heq⟩
    cases heq
    exact hrequest
  · intro h
    exact ⟨resolved, h, rfl⟩

/-- An export by constants replays exactly when its names are identifiers. -/
theorem replaysTo_const_iff {params : List (String × Json)}
    (hparams : (Json.obj params).Decoded) {req : VerificationRequest}
    (hfields : ExactFields req.requiredFields) (tid : String) :
    ReplaysTo (exportSqlRowTool tid req) (recoded (.obj (buildSyntheticRowParams params
      (sortedRecord req.requiredFields)))) req ↔ Replayable req := by
  have hexact := buildSyntheticRowParams_exact hparams hfields
  have hown : ownMember (recodedMembers (buildSyntheticRowParams params
      (sortedRecord req.requiredFields))) "__qvFields" =
        some (recoded (sortedRecord req.requiredFields).json) := by
    rw [ownMember_recodedMembers (exact_obj.mp hexact).1, buildSyntheticRowParams,
      ownMember_setMember]
    rfl
  rw [recoded_obj]
  constructor
  · rintro ⟨resolved, hresolved, -⟩
    obtain ⟨table, htable, hrest⟩ := bind_eq_ok.mp (rowTool_resolves.mp hresolved)
    obtain ⟨identityEq, hidentity, hrest⟩ := bind_eq_ok.mp hrest
    obtain ⟨fields, hrecord, -⟩ := bind_eq_ok.mp hrest
    obtain ⟨hcolumns, hdistinct, -⟩ := resolveRegistryEqualityList_const.mp hidentity
    obtain ⟨hall, -⟩ := (resolveScalarRecord_fields hfields hown).mp hrecord
    exact ⟨(resolveTableIdent_const.mp htable).1, hcolumns, hdistinct, hall⟩
  · intro h
    refine ⟨⟨req.table, sortBy IdentityEqPair.column req.identityEq,
      resolvedFields req.requiredFields⟩, rowTool_resolves.mpr ?_, ?_⟩
    · unfold resolveSqlRowSpec
      apply bind_eq_ok.mpr
      refine ⟨_, resolveTableIdent_const.mpr ⟨h.table, rfl⟩, bind_eq_ok.mpr ?_⟩
      refine ⟨_, resolveRegistryEqualityList_const.mpr ⟨h.columns, h.distinct, rfl⟩, ?_⟩
      apply bind_eq_ok.mpr
      exact ⟨_, (resolveScalarRecord_fields hfields hown).mpr ⟨h.fields, rfl⟩, rfl⟩
    · have hperm := resolvedFields_perm hfields
      have hkeys : ((resolvedFields req.requiredFields).map Prod.fst).Nodup := by
        rw [(hperm.map Prod.fst).nodup_iff]
        exact (List.filter_sublist.map Prod.fst).nodup hfields.nodup
      refine fingerprint_congr rfl
        (sortBy_of_pairwise (pairwise_sortBy IdentityEqPair.column _)) hkeys hfields.nodup ?_
      have hordinary : ordinaryFields (resolvedFields req.requiredFields) =
          resolvedFields req.requiredFields := by
        apply List.filter_eq_self.mpr
        intro f hf
        exact (List.mem_filter.mp (hperm.mem_iff.mp hf)).2
      dsimp only
      rw [hordinary]
      exact hperm

/-! ## Exports by pointers -/

/-- What resolved before the export resolves on the line. -/
theorem replaysTo_of_resolvesTo {entry : ToolRegistryEntry} {spec : SqlRowVerificationSpec}
    (hentry : entry.verification = .sqlRow spec) {params : List (String × Json)}
    (hexact : (Json.obj params).Exact) {req : VerificationRequest}
    (h : resolvesTo entry params req = true) :
    ReplaysTo entry (recoded (.obj params)) req := by
  have hrow : ∀ params resolved, resolveVerificationRequest entry params none =
      .ok (.sqlRow resolved) ↔ resolveSqlRowSpec params spec "" = .ok resolved := by
    intro params resolved
    unfold resolveVerificationRequest
    rw [hentry]
    dsimp only
    rw [bind_eq_ok]
    constructor
    · rintro ⟨request, hrequest, heq⟩
      cases heq
      exact hrequest
    · intro hok
      exact ⟨resolved, hok, rfl⟩
  unfold resolvesTo at h
  split at h
  · rename_i resolved hresolved
    obtain ⟨fields, hfields, hperm, hnodup⟩ :=
      resolveSqlRowSpec_recoded hexact ((hrow _ _).mp hresolved)
    refine ⟨_, (hrow _ _).mpr hfields, ?_⟩
    rw [← of_decide_eq_true h]
    exact fingerprint_congr rfl rfl ((hperm.map Prod.fst).nodup_iff.mpr hnodup) hnodup
      (hperm.filter _)
  · cases h

end AgentSkeptic.Quick

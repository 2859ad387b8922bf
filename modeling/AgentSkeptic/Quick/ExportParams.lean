import AgentSkeptic.Quick.UnitCoverage
import AgentSkeptic.Engine.CanonicalText

/-!
# Parameters of an exported row

The parameters of an action were read by `JSON.parse`, so the scalars of its flat record
and the required fields of its requests are read back from their own texts, and the
parameters of an export are an exact value.
-/

namespace AgentSkeptic.Quick

open AgentSkeptic.Support AgentSkeptic.Engine

/-! ## Actions -/

theorem Decoded.ownMember {obj : List (String × Json)} (h : (Json.obj obj).Decoded)
    {key : String} {v : Json} (hv : ownMember obj key = some v) : v.Decoded :=
  (decoded_obj.mp h).2 _ (ownMember_eq_some hv)

def DecodedBag (bag : Option (List (String × Json))) : Prop :=
  ∀ members, bag = some members → (Json.obj members).Decoded

theorem DecodedBag.or {bag bag' : Option (List (String × Json))} (h : DecodedBag bag)
    (h' : DecodedBag bag') : DecodedBag (bag.or bag') := by
  intro members hmembers
  cases bag with
  | none => exact h' members hmembers
  | some _ => exact h members hmembers

theorem objectMembers_decoded {v : Option Json} (h : ∀ w, v = some w → w.Decoded) :
    DecodedBag (objectMembers v) := by
  intro members hmembers
  unfold objectMembers at hmembers
  split at hmembers
  · cases hmembers
    exact h _ rfl
  · cases hmembers

theorem paramBag_decoded {v : Option Json} (h : ∀ w, v = some w → w.Decoded) :
    DecodedBag (paramBag v) := by
  intro members hmembers
  unfold paramBag at hmembers
  split at hmembers
  · cases hmembers
    exact h _ rfl
  · split at hmembers
    · exact objectMembers_decoded (fun w hw => parseJson_decoded hw) members hmembers
    · cases hmembers
  · cases hmembers

theorem getParamsObject_decoded {obj : List (String × Json)}
    (h : (Json.obj obj).Decoded) : (Json.obj (getParamsObject obj)).Decoded := by
  have hmember : ∀ key w, ownMember obj key = some w → w.Decoded :=
    fun key w hw => Decoded.ownMember h hw
  have harguments : ∀ fn, objectMembers (ownMember obj "function") = some fn →
      DecodedBag (tryParseFunctionArgumentsField fn) := by
    intro fn hfn
    have hdecoded := objectMembers_decoded (hmember "function") fn hfn
    exact paramBag_decoded fun w hw => Decoded.ownMember hdecoded hw
  have hcall : DecodedBag (tryOpenAiToolCallParamBag obj) := by
    intro members hmembers
    simp only [tryOpenAiToolCallParamBag, Option.bind_eq_bind,
      Option.bind_eq_some_iff] at hmembers
    obtain ⟨fn, hfn, -, -, hbag⟩ := hmembers
    exact harguments fn hfn members hbag
  have hfunction : DecodedBag ((objectMembers (ownMember obj "function")).bind
      tryParseFunctionArgumentsField) := by
    intro members hmembers
    obtain ⟨fn, hfn, hbag⟩ := Option.bind_eq_some_iff.mp hmembers
    exact harguments fn hfn members hbag
  have hbags := hcall.or ((paramBag_decoded (hmember "params")).or
    ((paramBag_decoded (hmember "arguments")).or
      ((paramBag_decoded (hmember "input")).or hfunction)))
  unfold getParamsObject
  generalize (tryOpenAiToolCallParamBag obj).or _ = bag at hbags ⊢
  cases bag with
  | some members => exact hbags members rfl
  | none =>
      obtain ⟨hnodup, hall⟩ := decoded_obj.mp h
      apply decoded_obj.mpr
      refine ⟨(List.filter_sublist.map Prod.fst).nodup hnodup, ?_⟩
      intro m hm
      exact hall m (List.mem_filter.mp hm).1

def RawAction.Decoded (a : RawAction) : Prop := (Json.obj a.params).Decoded

mutual

theorem actionsOf_decoded : ∀ v : Json, v.Decoded → ∀ a ∈ actionsOf v, a.Decoded
  | .null, _ => by simp [actionsOf]
  | .bool _, _ => by simp [actionsOf]
  | .num _, _ => by simp [actionsOf]
  | .str _, _ => by simp [actionsOf]
  | .arr items, h => itemActions_decoded items h
  | .obj members, h => by
      intro a ha
      rcases List.mem_append.mp ha with hcall | hown
      · exact toolCallActions_decoded members h.2 a hcall
      · obtain ⟨toolName, -, rfl⟩ := Option.map_eq_some_iff.mp (Option.mem_toList.mp hown)
        exact getParamsObject_decoded h

theorem itemActions_decoded : ∀ items : List Json, Json.DecodedItems items →
    ∀ a ∈ itemActions items, a.Decoded
  | [], _ => by simp [itemActions]
  | item :: items, h => by
      intro a ha
      rcases List.mem_append.mp ha with hitem | hitems
      · exact actionsOf_decoded item h.1 a hitem
      · exact itemActions_decoded items h.2 a hitems

theorem toolCallActions_decoded : ∀ members : List (String × Json),
    Json.DecodedMembers members → ∀ a ∈ toolCallActions members, a.Decoded
  | [], _ => by simp [toolCallActions]
  | (key, value) :: members, h => by
      intro a ha
      have hrest := toolCallActions_decoded members h.2
      cases value with
      | arr items =>
          rw [toolCallActions] at ha
          split_ifs at ha
          · exact itemActions_decoded items h.1 a ha
          · exact hrest a ha
      | _ =>
          simp only [toolCallActions] at ha
          split_ifs at ha
          · cases ha
          · exact hrest a ha

end

theorem tryParse_decoded {s : List Char} {v : Json} (h : tryParse s = some v) :
    v.Decoded := by
  unfold tryParse at h
  split at h
  · cases h
  · exact parseJson_decoded h

theorem lineActions_decoded (line : List Char) : ∀ a ∈ lineActions line, a.Decoded := by
  have hsalvage : ∀ v, tryParseLineWithSalvage line = some v → v.Decoded := by
    intro v hv
    unfold tryParseLineWithSalvage at hv
    dsimp only at hv
    split_ifs at hv
    rcases Option.or_eq_some_iff.mp hv with hwhole | ⟨-, hrest⟩
    · exact tryParse_decoded hwhole
    · rcases Option.or_eq_some_iff.mp hrest with hlevel | ⟨-, hbracket⟩
      · obtain ⟨s2, -, hparse⟩ := Option.bind_eq_some_iff.mp hlevel
        exact tryParse_decoded hparse
      · obtain ⟨s3, -, hparse⟩ := Option.bind_eq_some_iff.mp hbracket
        exact tryParse_decoded hparse
  intro a ha
  unfold lineActions at ha
  cases hline : tryParseLineWithSalvage line with
  | none =>
      rw [hline] at ha
      cases ha
  | some v =>
      rw [hline] at ha
      exact actionsOf_decoded v (hsalvage v hline) a ha

theorem wholeActions_decoded (buf : List Char) : ∀ a ∈ wholeActions buf, a.Decoded := by
  intro a ha
  unfold wholeActions at ha
  cases hparse : parseJson buf with
  | none =>
      rw [hparse] at ha
      cases ha
  | some v =>
      rw [hparse] at ha
      exact actionsOf_decoded v (parseJson_decoded hparse) a ha

/-- The parameters of every ingested action were read by `JSON.parse`. -/
theorem ingestActivityUtf8_decoded {inputUtf8 : List Char} {a : RawAction}
    (ha : a ∈ (ingestActivityUtf8 inputUtf8).actions) : a.Decoded := by
  cases hlarge : (ingestActivityUtf8 inputUtf8).inputTooLarge with
  | true =>
      unfold ingestActivityUtf8 at ha hlarge
      split_ifs at ha hlarge
      · cases ha
      · dsimp only at hlarge
        split_ifs at hlarge
        rw [ingestLadder_inputTooLarge] at hlarge
        cases hlarge
  | false =>
      rw [ingestActivityUtf8_take hlarge] at ha
      have hmem := List.mem_of_mem_take ha
      unfold structuredActions ladderActions at hmem
      dsimp only at hmem
      split_ifs at hmem
      · cases hmem
      · exact wholeActions_decoded _ a hmem
      · obtain ⟨line, -, hline⟩ := List.mem_flatMap.mp hmem
        exact lineActions_decoded line a hline
      · unfold sliceActions at hmem
        cases hfind : ((scanBalancedJsonObjects (ingestBuffer inputUtf8)).map
            wholeActions).find? (!·.isEmpty) with
        | none =>
            rw [hfind] at hmem
            cases hmem
        | some actions =>
            rw [hfind] at hmem
            obtain ⟨slice, -, rfl⟩ := List.mem_map.mp (List.mem_of_find?_eq_some hfind)
            exact wholeActions_decoded slice a hmem

/-! ## Flat records -/

/-- Every scalar of the record satisfies `P`. -/
def ScalarRecord.All (P : FlatScalar → Prop) (record : ScalarRecord) : Prop :=
  ∀ e ∈ record.entries.entries, P e.2

namespace ScalarRecord

variable {P : FlatScalar → Prop}

theorem all_empty : All P empty := fun _ he => absurd he List.not_mem_nil

theorem mem_setEntry {k : String} {v : FlatScalar} {es : List (String × FlatScalar)}
    {e : String × FlatScalar} (h : e ∈ InsertionMap.setEntry k v es) :
    e = (k, v) ∨ e ∈ es := by
  induction es with
  | nil => exact .inl (List.mem_singleton.mp h)
  | cons e' es ih =>
      rw [InsertionMap.setEntry] at h
      split_ifs at h
      · rcases List.mem_cons.mp h with rfl | hrest
        · exact .inl rfl
        · exact .inr (List.mem_cons_of_mem _ hrest)
      · rcases List.mem_cons.mp h with rfl | hrest
        · exact .inr List.mem_cons_self
        · rcases ih hrest with rfl | hold
          · exact .inl rfl
          · exact .inr (List.mem_cons_of_mem _ hold)

theorem All.set {record : ScalarRecord} (h : record.All P) (key : String)
    {value : FlatScalar} (hvalue : P value) : (record.set key value).All P := by
  unfold ScalarRecord.set
  split_ifs
  · exact h
  · intro e he
    rcases mem_setEntry he with rfl | hold
    · exact hvalue
    · exact h e hold

theorem All.get? {record : ScalarRecord} (h : record.All P) {key : String}
    {value : FlatScalar} (hget : record.get? key = some value) : P value :=
  h _ (InsertionMap.get?_eq_some.mp hget)

end ScalarRecord

def DecodedScalar (v : FlatScalar) : Prop := (scalarJson v).Decoded

def ExactScalar (v : FlatScalar) : Prop := (scalarJson v).Exact

theorem all_enter {P : FlatScalar → Prop} {s : FlattenState} (depth : ℕ)
    {inside : FlattenState → FlattenState} (h : s.flat.All P)
    (hinside : ∀ s : FlattenState, s.flat.All P → (inside s).flat.All P) :
    (s.enter depth inside).flat.All P := by
  unfold FlattenState.enter
  dsimp only
  split_ifs
  · exact h
  · exact h
  · exact hinside _ h

theorem all_setFlat {P : FlatScalar → Prop} (path : String) {value : FlatScalar}
    (hvalue : P value) (s : FlattenState) (h : s.flat.All P) :
    (setFlat path value s).flat.All P := h.set _ hvalue

/-- What the walk below a value does to the scalars. -/
def WalksDecoded (walk : String → ℕ → FlattenState → FlattenState) : Prop :=
  ∀ path depth (s : FlattenState), s.flat.All DecodedScalar →
    (walk path depth s).flat.All DecodedScalar

mutual

theorem walk_decoded : ∀ val : Json, val.Decoded → WalksDecoded (walk val)
  | .null, _ => fun path depth s h => all_enter depth h (all_setFlat path trivial)
  | .bool _, _ => fun path depth s h => all_enter depth h (all_setFlat path trivial)
  | .num _, hval => fun path depth s h => all_enter depth h (all_setFlat path hval)
  | .str _, _ => fun path depth s h => all_enter depth h (all_setFlat path trivial)
  | .arr items, hval => fun path depth s h =>
      all_enter depth h fun s => walkItems_decoded items hval path 0 (depth + 1) s
  | .obj members, hval => fun path depth s h => by
      have hwalks := walkMembers_decoded members hval.2
      rw [walk]
      refine all_enter depth h fun s hs => ?_
      apply List.foldlRecOn (motive := fun s : FlattenState => s.flat.All DecodedScalar)
        _ _ hs
      intro s hs m hm
      exact hwalks m ((List.mem_insertionSort _).mp hm) _ _ s hs

theorem walkItems_decoded : ∀ items : List Json, Json.DecodedItems items →
    ∀ path i depth (s : FlattenState), s.flat.All DecodedScalar →
      (walkItems items path i depth s).flat.All DecodedScalar
  | [], _ => fun _ _ _ s h => h
  | item :: items, hitems => fun path i depth s h => by
      have hrest := walkItems_decoded items hitems.2 path (i + 1) depth
      cases item with
      | arr inner =>
          rw [walkItems]
          exact hrest _ (walk_decoded (.arr inner) hitems.1 _ depth s h)
      | obj members =>
          rw [walkItems]
          exact hrest _ (walk_decoded (.obj members) hitems.1 _ depth s h)
      | _ =>
          simp only [walkItems]
          exact hrest s h

theorem walkMembers_decoded : ∀ members : List (String × Json),
    Json.DecodedMembers members → ∀ m ∈ walkMembers members, WalksDecoded m.2
  | [], _ => by simp [walkMembers]
  | (key, value) :: members, hmembers => by
      intro m hm
      rcases List.mem_cons.mp hm with rfl | hrest
      · exact walk_decoded value hmembers.1
      · exact walkMembers_decoded members hmembers.2 m hrest

end

theorem flattenParams_decoded {params : List (String × Json)}
    (h : (Json.obj params).Decoded) : (flattenParams params).1.All DecodedScalar :=
  walk_decoded (.obj params) h "" 0 _ ScalarRecord.all_empty

/-- An action of a run, with its flat record. -/
structure UniqueAction.Decoded (a : UniqueAction) : Prop where
  params : (Json.obj a.params).Decoded
  flat : a.flat.All DecodedScalar

theorem dedupeActions_decoded {actions : List RawAction}
    (h : ∀ a ∈ actions, a.Decoded) : ∀ a ∈ (dedupeActions actions).unique, a.Decoded := by
  have hrun : ∀ deduped : DedupedActions, (∀ a ∈ deduped.unique, a.Decoded) →
      ∀ a ∈ (actions.foldl dedupeStep deduped).unique, a.Decoded := by
    intro deduped hdeduped
    apply List.foldlRecOn
      (motive := fun deduped : DedupedActions => ∀ a ∈ deduped.unique, a.Decoded)
      actions dedupeStep hdeduped
    intro deduped hdeduped raw hraw a ha
    unfold dedupeStep at ha
    dsimp only at ha
    split_ifs at ha
    · exact hdeduped a ha
    · rcases List.mem_append.mp ha with hold | hnew
      · exact hdeduped a hold
      · obtain rfl := List.mem_singleton.mp hnew
        exact ⟨h raw hraw, flattenParams_decoded (h raw hraw)⟩
  exact hrun ⟨[], []⟩ fun _ ha => absurd ha List.not_mem_nil

/-! ## Requests -/

/-- Required fields as a record has them: distinct names and exact scalars. -/
structure ExactFields (fields : ScalarFields) : Prop where
  nodup : (fields.map Prod.fst).Nodup
  exact : ∀ f ∈ fields, ExactScalar f.2

theorem ScalarRecord.All.exactFields {record : ScalarRecord}
    (h : record.All ExactScalar) : ExactFields record.entries.entries :=
  ⟨record.entries.nodup, h⟩

theorem toScalar_exact {v : FlatScalar} {s : VerificationScalar} (h : DecodedScalar v)
    (hs : toScalar v = some s) : ExactScalar s := by
  cases v with
  | num n =>
      unfold toScalar at hs
      dsimp only at hs
      split_ifs at hs with hfinite
      cases hs
      exact h hfinite
  | str value =>
      cases hs
      trivial
  | bool value =>
      cases hs
      trivial
  | null =>
      cases hs
      trivial

section Planning

variable (tables : TextTables) (catalog : SchemaCatalog)

theorem mem_bucketsForAction {toolName : String} {flat : ScalarRecord}
    {names : List String} {b : ActionBucket}
    (h : b ∈ bucketsForAction toolName flat names) : b.flat = flat := by
  unfold bucketsForAction at h
  dsimp only at h
  split_ifs at h
  · cases h
  · obtain ⟨group, -, rfl⟩ := List.mem_map.mp h
    rfl

theorem get?_getD_decoded {flat : ScalarRecord} (h : flat.All DecodedScalar)
    (path : String) : DecodedScalar ((flat.get? path).getD .null) := by
  cases hget : flat.get? path with
  | none => trivial
  | some value => exact h.get? hget

theorem pickField_exact {entries : List MappingEntry}
    (h : ∀ e ∈ entries, DecodedScalar e.value) {col : String}
    {picked : ℚ × VerificationScalar} (hpick : pickField tables entries col = some picked) :
    ExactScalar picked.2 := by
  have hrun : ∀ picked, pickField tables entries col = some picked →
      ExactScalar picked.2 := by
    unfold pickField
    apply List.foldlRecOn (motive := fun best : Option (ℚ × VerificationScalar) =>
      ∀ picked, best = some picked → ExactScalar picked.2)
    · intro picked hnone
      cases hnone
    · intro best hbest e he picked hnext
      dsimp only at hnext
      split_ifs at hnext
      · exact hbest picked hnext
      · split at hnext
        · exact hbest picked hnext
        · rename_i v hv
          have hexact := toScalar_exact (h e he) hv
          split at hnext
          · cases hnext
            exact hexact
          · split_ifs at hnext
            · cases hnext
              exact hexact
            · exact hbest picked hnext
  exact hrun picked hpick

theorem planRowUnit_fields {bucket : ActionBucket} (h : bucket.flat.All DecodedScalar)
    {req : VerificationRequest}
    (hreq : (planRowUnit tables catalog bucket catalog.listTables).request = some req) :
    ExactFields req.requiredFields := by
  obtain ⟨found, -, rfl⟩ := planRowUnit_request tables catalog bucket hreq
  have hentries : ∀ e ∈ mappingEntries bucket, DecodedScalar e.value := by
    intro e he
    obtain ⟨path, -, rfl⟩ := List.mem_map.mp he
    exact get?_getD_decoded h path
  apply ScalarRecord.All.exactFields
  apply List.foldlRecOn (motive := ScalarRecord.All ExactScalar) _ _
    ScalarRecord.all_empty
  intro rf hrf col _
  unfold fieldStep
  split_ifs
  · exact hrf
  · split
    · exact hrf
    · rename_i picked hpick
      exact hrf.set col (pickField_exact tables hentries hpick)

theorem exportRowRequest_fields {bucket : ActionBucket}
    (h : bucket.flat.All DecodedScalar) {req : VerificationRequest}
    (hreq : ExactFields req.requiredFields) :
    ExactFields (exportRowRequest catalog bucket req).requiredFields := by
  unfold exportRowRequest augmentExportVerificationRequest
  dsimp only
  split_ifs
  · exact hreq
  · exact hreq
  · apply ScalarRecord.All.exactFields
    apply List.foldlRecOn (motive := ScalarRecord.All ExactScalar) _ _
      ScalarRecord.all_empty
    intro rf hrf path _
    unfold augmentStep
    split
    · exact hrf
    · split_ifs
      · exact hrf
      · split
        · exact hrf
        · rename_i scalar hscalar
          exact hrf.set _ (toScalar_exact (get?_getD_decoded h path) hscalar)

end Planning

/-! ## Synthetic parameters -/

mutual

theorem jsonClone_exact : ∀ v : Json, v.Decoded → (jsonClone v).Exact
  | .null, _ => trivial
  | .bool _, _ => trivial
  | .num n, h => by
      rw [jsonClone]
      split_ifs with hfinite
      · exact h hfinite
      · trivial
  | .str _, _ => trivial
  | .arr items, h => cloneItems_exact items h
  | .obj members, h => by
      refine ⟨?_, cloneMembers_exact members h.2⟩
      rw [keys_cloneMembers]
      exact h.1

theorem cloneItems_exact : ∀ items : List Json, Json.DecodedItems items →
    Json.ExactItems (cloneItems items)
  | [], _ => trivial
  | item :: items, h => ⟨jsonClone_exact item h.1, cloneItems_exact items h.2⟩

theorem cloneMembers_exact : ∀ members : List (String × Json),
    Json.DecodedMembers members → Json.ExactMembers (cloneMembers members)
  | [], _ => trivial
  | (_, value) :: members, h =>
      ⟨jsonClone_exact value h.1, cloneMembers_exact members h.2⟩

theorem keys_cloneMembers : ∀ members : List (String × Json),
    (cloneMembers members).map Prod.fst = members.map Prod.fst
  | [] => rfl
  | (_, _) :: members => by
      rw [cloneMembers, List.map_cons, keys_cloneMembers members, List.map_cons]

end

theorem ScalarRecord.All.json_exact {record : ScalarRecord}
    (h : record.All ExactScalar) : record.json.Exact := by
  have hperm := propertyOrder_perm
    (record.entries.entries.map fun e => (e.1, scalarJson e.2))
  apply exact_obj.mpr
  constructor
  · rw [(hperm.map Prod.fst).nodup_iff, List.map_map]
    exact record.entries.nodup
  · intro m hm
    obtain ⟨e, he, rfl⟩ := List.mem_map.mp (hperm.mem_iff.mp hm)
    exact h e he

theorem sortedRecord_all {P : FlatScalar → Prop} {fields : ScalarFields}
    (h : ∀ f ∈ fields, P f.2) : (sortedRecord fields).All P := by
  apply List.foldlRecOn (motive := ScalarRecord.All P) _ _ ScalarRecord.all_empty
  intro record hrecord f hf
  exact hrecord.set f.1 (h f ((List.mem_insertionSort _).mp hf))

/-- The parameters of an export are exact. -/
theorem buildSyntheticRowParams_exact {params : List (String × Json)}
    (h : (Json.obj params).Decoded) {fields : ScalarFields} (hfields : ExactFields fields) :
    (Json.obj (buildSyntheticRowParams params (sortedRecord fields))).Exact := by
  have hclone : (Json.obj (cloneMembers params)).Exact := jsonClone_exact (.obj params) h
  exact hclone.setMember (sortedRecord_all hfields.exact).json_exact

end AgentSkeptic.Quick

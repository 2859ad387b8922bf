import AgentSkeptic.Engine.ResolveExpectation
import AgentSkeptic.Support.JsonDecoded
import AgentSkeptic.Support.Utf16Sort

/-!
# Reading canonical text back

`canonicalJsonForParams` writes the members of every object in the order of their keys.
`JSON.parse` makes of the text a value that differs in the order of its members only, so
that a pointer finds in it what it finds in the value that was written, and a row request
resolves against it as before.
-/

namespace AgentSkeptic.Engine

open AgentSkeptic.Support

/-! ## The value with sorted keys -/

mutual

def sortKeys : Json → Json
  | .arr items => .arr (sortKeysItems items)
  | .obj members => .obj (sortBy Prod.fst (sortKeysMembers members))
  | .null => .null
  | .bool value => .bool value
  | .num value => .num value
  | .str value => .str value

def sortKeysItems : List Json → List Json
  | [] => []
  | item :: items => sortKeys item :: sortKeysItems items

def sortKeysMembers : List (String × Json) → List (String × Json)
  | [] => []
  | (key, value) :: members => (key, sortKeys value) :: sortKeysMembers members

end

theorem sortKeysItems_eq_map (items : List Json) :
    sortKeysItems items = items.map sortKeys := by
  induction items with
  | nil => rfl
  | cons item items ih => rw [sortKeysItems, ih, List.map_cons]

theorem sortKeysMembers_eq_map (members : List (String × Json)) :
    sortKeysMembers members = members.map fun m => (m.1, sortKeys m.2) := by
  induction members with
  | nil => rfl
  | cons m members ih => rw [sortKeysMembers, ih, List.map_cons]

theorem stringifyMembers_eq_map (members : List (String × Json)) :
    Json.stringifyMembers members =
      members.map fun m => quote m.1 ++ ":" ++ m.2.stringify := by
  induction members with
  | nil => rfl
  | cons m members ih => rw [Json.stringifyMembers, ih, List.map_cons]

mutual

/-- Canonical text is the text of the value with sorted keys. -/
theorem canonicalJsonForParams_eq : ∀ v : Json,
    canonicalJsonForParams v = (sortKeys v).stringify
  | .null => rfl
  | .bool _ => rfl
  | .num _ => rfl
  | .str _ => rfl
  | .arr items => by
      rw [canonicalJsonForParams, canonicalItems_eq items, sortKeys, Json.stringify]
  | .obj members => by
      have hkeyed : canonicalMembers members =
          (sortKeysMembers members).map fun m => (m.1, m.2.stringify) :=
        canonicalMembers_eq members
      have hsorted := @map_sortBy _ _ Prod.fst
        (fun m : String × Json => (m.1, m.2.stringify)) Prod.fst
        (sortKeysMembers members) (fun _ _ => rfl)
      unfold sortBy at hsorted
      rw [canonicalJsonForParams, sortKeys, Json.stringify, stringifyMembers_eq_map,
        hkeyed, ← hsorted, List.map_map]
      rfl

theorem canonicalItems_eq : ∀ items : List Json,
    canonicalItems items = Json.stringifyItems (sortKeysItems items)
  | [] => rfl
  | item :: items => by
      rw [canonicalItems, canonicalJsonForParams_eq item, canonicalItems_eq items,
        sortKeysItems, Json.stringifyItems]

theorem canonicalMembers_eq : ∀ members : List (String × Json),
    canonicalMembers members =
      (sortKeysMembers members).map fun m => (m.1, m.2.stringify)
  | [] => rfl
  | (key, value) :: members => by
      rw [canonicalMembers, canonicalJsonForParams_eq value, canonicalMembers_eq members,
        sortKeysMembers, List.map_cons]

end

theorem keys_sortKeysMembers (members : List (String × Json)) :
    (sortKeysMembers members).map Prod.fst = members.map Prod.fst := by
  rw [sortKeysMembers_eq_map, List.map_map]
  rfl

mutual

theorem decoded_sortKeys : ∀ {v : Json}, v.Decoded → (sortKeys v).Decoded
  | .null, _ => trivial
  | .bool _, _ => trivial
  | .num _, h => h
  | .str _, _ => trivial
  | .arr _, h => decodedItems_sortKeys h
  | .obj members, h => by
      have hmembers : (Json.obj (sortKeysMembers members)).Decoded := by
        refine ⟨?_, decodedMembers_sortKeys h.2⟩
        rw [keys_sortKeysMembers]
        exact h.1
      exact hmembers.perm (sortBy_perm Prod.fst _)

theorem decodedItems_sortKeys : ∀ {items : List Json}, Json.DecodedItems items →
    Json.DecodedItems (sortKeysItems items)
  | [], _ => trivial
  | _ :: _, h => ⟨decoded_sortKeys h.1, decodedItems_sortKeys h.2⟩

theorem decodedMembers_sortKeys : ∀ {members : List (String × Json)},
    Json.DecodedMembers members → Json.DecodedMembers (sortKeysMembers members)
  | [], _ => trivial
  | (_, _) :: _, h => ⟨decoded_sortKeys h.1, decodedMembers_sortKeys h.2⟩

end

/-! ## The value that is read -/

/-- What `JSON.parse` makes of the canonical text. -/
def recoded (v : Json) : Json := (sortKeys v).reread

theorem parseJson_canonicalJsonForParams {v : Json} (h : v.Decoded) :
    parseJson (canonicalJsonForParams v).toList = some (recoded v) := by
  rw [canonicalJsonForParams_eq]
  exact parseJson_stringify_decoded (decoded_sortKeys h)

theorem wellFormed_recoded {v : Json} (h : v.Decoded) : (recoded v).WellFormed :=
  (decoded_sortKeys h).wellFormed_reread

def recodedMembers (members : List (String × Json)) : List (String × Json) :=
  propertyOrder ((sortBy Prod.fst (sortKeysMembers members)).map
    fun m => (m.1, m.2.reread))

theorem recoded_obj (members : List (String × Json)) :
    recoded (.obj members) = .obj (recodedMembers members) := by
  rw [recoded, sortKeys, Json.reread, rereadMembers_eq_map]
  rfl

theorem recoded_arr (items : List Json) :
    recoded (.arr items) = .arr (items.map recoded) := by
  rw [recoded, sortKeys, Json.reread, rereadItems_eq_map, sortKeysItems_eq_map,
    List.map_map]
  rfl

theorem recodedMembers_perm (members : List (String × Json)) :
    (recodedMembers members).Perm (members.map fun m => (m.1, recoded m.2)) := by
  have hsorted : ((sortBy Prod.fst (sortKeysMembers members)).map
      fun m => (m.1, m.2.reread)).Perm
        ((sortKeysMembers members).map fun m => (m.1, m.2.reread)) :=
    (sortBy_perm Prod.fst _).map _
  have hmap : (sortKeysMembers members).map (fun m => (m.1, m.2.reread)) =
      members.map fun m => (m.1, recoded m.2) := by
    rw [sortKeysMembers_eq_map, List.map_map]
    rfl
  rw [hmap] at hsorted
  exact (propertyOrder_perm _).trans hsorted

theorem keys_recodedMembers (members : List (String × Json)) :
    ((recodedMembers members).map Prod.fst).Perm (members.map Prod.fst) := by
  have hperm := (recodedMembers_perm members).map Prod.fst
  rw [List.map_map] at hperm
  exact hperm

theorem ownMember_recodedMembers {members : List (String × Json)}
    (h : (members.map Prod.fst).Nodup) (key : String) :
    ownMember (recodedMembers members) key = (ownMember members key).map recoded := by
  have hkeys : ((members.map fun m => (m.1, recoded m.2)).map Prod.fst).Nodup := by
    rw [List.map_map]
    exact h
  rw [ownMember_perm (recodedMembers_perm members) hkeys, ownMember_map]

theorem recoded_num {n : JsNumber} (h : n.Readable) : recoded (.num n) = .num n :=
  if_pos h.isFinite

/-! ## Pointers -/

/-- `recoded` for a value that a pointer finds. -/
def recodedValue : JsValue → JsValue
  | .json v => .json (recoded v)
  | v => v

def ExactValue : JsValue → Prop
  | .json v => v.Exact
  | _ => True

theorem inherited_spec (names : List String) (key : String) :
    recodedValue (inherited names key) = inherited names key ∧
      ExactValue (inherited names key) := by
  unfold inherited
  by_cases hproto : key = "__proto__"
  · rw [if_pos hproto]
    exact ⟨rfl, trivial⟩
  · rw [if_neg hproto]
    by_cases hname : key ∈ names ∨ key ∈ objectPrototypeNames
    · rw [if_pos hname]
      exact ⟨rfl, trivial⟩
    · rw [if_neg hname]
      exact ⟨rfl, trivial⟩

theorem member_recoded {members : List (String × Json)} (h : (Json.obj members).Exact)
    (tok : String) :
    (Json.obj (recodedMembers members)).member tok =
        recodedValue ((Json.obj members).member tok) ∧
      ExactValue ((Json.obj members).member tok) := by
  obtain ⟨hnodup, hall⟩ := exact_obj.mp h
  have hown := ownMember_recodedMembers hnodup tok
  simp only [Json.member, hown]
  cases hmember : ownMember members tok with
  | none =>
      obtain ⟨hsame, hexact⟩ := inherited_spec [] tok
      exact ⟨hsame.symm, hexact⟩
  | some value => exact ⟨rfl, hall _ (ownMember_eq_some hmember)⟩

theorem item_recoded {items : List Json} (h : (Json.arr items).Exact) (tok : String) :
    pointerStep (.json (.arr (items.map recoded))) tok =
        recodedValue (pointerStep (.json (.arr items)) tok) ∧
      ExactValue (pointerStep (.json (.arr items)) tok) := by
  have hget : ∀ i : ℕ, (items.map recoded)[i]? = items[i]?.map recoded := by simp
  simp only [pointerStep]
  cases harray : arrayIndex? tok with
  | none => exact ⟨rfl, trivial⟩
  | some i =>
      simp only [Option.bind_some, hget]
      cases hitem : items[i]? with
      | none => exact ⟨rfl, trivial⟩
      | some item => exact ⟨rfl, exact_arr.mp h item (List.mem_of_getElem? hitem)⟩

/-- One token finds the same in a value and in what is read of its text. -/
theorem pointerStep_recoded {cur : JsValue} (h : ExactValue cur) (tok : String) :
    pointerStep (recodedValue cur) tok = recodedValue (pointerStep cur tok) ∧
      ExactValue (pointerStep cur tok) := by
  cases cur with
  | json v =>
      cases v with
      | arr items =>
          rw [recodedValue, recoded_arr]
          exact item_recoded h tok
      | obj members =>
          rw [recodedValue, recoded_obj]
          exact member_recoded h tok
      | num n =>
          rw [recodedValue, recoded_num h]
          exact ⟨rfl, trivial⟩
      | null => exact ⟨rfl, trivial⟩
      | bool value => exact ⟨rfl, trivial⟩
      | str value => exact ⟨rfl, trivial⟩
  | objectPrototype =>
      have hproto := inherited_spec [] tok
      dsimp only [recodedValue, pointerStep, JsValue.member]
      split_ifs
      · exact ⟨rfl, trivial⟩
      · exact ⟨hproto.1.symm, hproto.2⟩
  | undefined => exact ⟨rfl, trivial⟩
  | bigint value => exact ⟨rfl, trivial⟩
  | date iso => exact ⟨rfl, trivial⟩
  | opaqueObject text => exact ⟨rfl, trivial⟩
  | builtin name => exact ⟨rfl, trivial⟩

theorem foldl_pointerStep_recoded (toks : List String) {cur : JsValue}
    (h : ExactValue cur) :
    toks.foldl pointerStep (recodedValue cur) =
        recodedValue (toks.foldl pointerStep cur) ∧
      ExactValue (toks.foldl pointerStep cur) := by
  induction toks generalizing cur with
  | nil => exact ⟨rfl, h⟩
  | cons tok toks ih =>
      obtain ⟨hstep, hexact⟩ := pointerStep_recoded h tok
      rw [List.foldl_cons, List.foldl_cons, hstep]
      exact ih hexact

/-- A pointer finds the same in a value and in what is read of its text. -/
theorem getPointer_recoded {params : Json} (h : params.Exact) (pointer : String) :
    (∃ message, getPointer params pointer = .error message ∧
      getPointer (recoded params) pointer = .error message) ∨
    ∃ got, getPointer params pointer = .ok got ∧
      getPointer (recoded params) pointer = .ok (recodedValue got) ∧ ExactValue got := by
  unfold getPointer
  split
  · exact .inr ⟨_, rfl, rfl, h⟩
  · rename_i rest hrest
    obtain ⟨hfold, hexact⟩ := @foldl_pointerStep_recoded
      ((rest.splitOn '/').map pointerToken) (.json params) h
    refine .inr ⟨_, rfl, ?_, hexact⟩
    rw [← hfold]
    rfl
  · exact .inl ⟨_, rfl, rfl⟩

theorem pointerValue_recoded {params : Json} (h : params.Exact) (pointer : String) :
    (∃ message, pointerValue params pointer = .error message ∧
      pointerValue (recoded params) pointer = .error message) ∨
    ∃ got, pointerValue params pointer = .ok got ∧
      pointerValue (recoded params) pointer = .ok (recodedValue got) ∧
        ExactValue got := by
  unfold pointerValue
  rcases getPointer_recoded h pointer with
    ⟨message, hsource, hread⟩ | ⟨got, hsource, hread, hexact⟩
  · rw [hsource, hread]
    exact .inl ⟨_, rfl, rfl⟩
  · rw [hsource, hread]
    exact .inr ⟨_, rfl, rfl, hexact⟩

theorem isNullish_recodedValue {got : JsValue} (h : ExactValue got) :
    (recodedValue got).isNullish = got.isNullish := by
  cases got with
  | json v =>
      cases v with
      | num n =>
          rw [recodedValue, recoded_num h]
      | arr items => rfl
      | obj members => rfl
      | null => rfl
      | bool value => rfl
      | str value => rfl
  | _ => rfl

theorem isObjectValue_recodedValue {got : JsValue} (h : ExactValue got) :
    isObjectValue (recodedValue got) = isObjectValue got := by
  cases got with
  | json v =>
      cases v with
      | num n =>
          rw [recodedValue, recoded_num h]
      | arr items => rfl
      | obj members => rfl
      | null => rfl
      | bool value => rfl
      | str value => rfl
  | _ => rfl

/-- A scalar is read as it was written. -/
theorem recodedValue_of_scalar {got : JsValue} (h : ExactValue got)
    (hscalar : isObjectValue got = false) : recodedValue got = got := by
  cases got with
  | json v =>
      cases v with
      | num n => rw [recodedValue, recoded_num h]
      | arr items => cases hscalar
      | obj members => cases hscalar
      | null => rfl
      | bool value => rfl
      | str value => rfl
  | _ => rfl

/-! ## Scalars -/

section Resolution

variable {params : Json} (h : params.Exact)

include h

theorem resolveKeyValue_recoded (spec : RegistryScalarSpec) (label : String) :
    resolveKeyValue spec (recoded params) label = resolveKeyValue spec params label := by
  cases spec with
  | const value => rfl
  | pointer pointer =>
      unfold resolveKeyValue
      rcases pointerValue_recoded h pointer with
        ⟨message, hsource, hread⟩ | ⟨got, hsource, hread, hexact⟩
      · simp only [hsource, hread]
      · have hnullish := isNullish_recodedValue hexact
        have hobject := isObjectValue_recodedValue hexact
        simp only [hsource, hread, bind, Except.bind, hnullish, hobject]
        cases hscalar : isObjectValue got with
        | true => simp
        | false => rw [recodedValue_of_scalar hexact hscalar]

theorem resolveStringSpec_recoded (spec : RegistryStringSpec) (label : String) :
    resolveStringSpec spec (recoded params) label =
      resolveStringSpec spec params label := by
  cases spec with
  | const value => rfl
  | pointer pointer =>
      unfold resolveStringSpec
      rcases pointerValue_recoded h pointer with
        ⟨message, hsource, hread⟩ | ⟨got, hsource, hread, hexact⟩
      · simp only [hsource, hread]
      · have hnullish := isNullish_recodedValue hexact
        simp only [hsource, hread, bind, Except.bind, hnullish]
        cases hscalar : isObjectValue got with
        | false => rw [recodedValue_of_scalar hexact hscalar]
        | true =>
            cases got with
            | json v =>
                cases v with
                | arr items => simp only [recodedValue, recoded_arr]
                | obj members => simp only [recodedValue, recoded_obj]
                | _ => cases hscalar
            | _ => rfl

theorem resolveIdentSpec_recoded (spec : RegistryStringSpec) (label : String) :
    resolveIdentSpec spec (recoded params) label = resolveIdentSpec spec params label := by
  rw [resolveIdentSpec, resolveStringSpec_recoded h, resolveIdentSpec]

theorem resolveTableIdent_recoded (spec : RegistryStringSpec) (label : String) :
    resolveTableIdent spec (recoded params) label =
      resolveTableIdent spec params label := by
  cases spec with
  | const value => rfl
  | pointer pointer =>
      unfold resolveTableIdent
      rcases pointerValue_recoded h pointer with
        ⟨message, hsource, hread⟩ | ⟨got, hsource, hread, hexact⟩
      · simp only [hsource, hread]
      · simp only [hsource, hread, bind, Except.bind]
        cases hscalar : isObjectValue got with
        | false => rw [recodedValue_of_scalar hexact hscalar]
        | true =>
            cases got with
            | json v =>
                cases v with
                | arr items => simp only [recodedValue, recoded_arr]
                | obj members => simp only [recodedValue, recoded_obj]
                | _ => cases hscalar
            | _ => rfl

theorem resolveEqualityPair_recoded (labelPrefix name : String) (taken : List String)
    (item : RegistryEqualityPair × ℕ) :
    resolveEqualityPair (recoded params) labelPrefix name taken item =
      resolveEqualityPair params labelPrefix name taken item := by
  simp only [resolveEqualityPair, resolveIdentSpec_recoded h, resolveKeyValue_recoded h]

theorem resolveRegistryEqualityList_recoded (specs : List RegistryEqualityPair)
    (labelPrefix : String) :
    resolveRegistryEqualityList specs (recoded params) labelPrefix =
      resolveRegistryEqualityList specs params labelPrefix := by
  have hpair : resolveEqualityPair (recoded params) labelPrefix "identityEq" [] =
      resolveEqualityPair params labelPrefix "identityEq" [] :=
    funext (resolveEqualityPair_recoded h labelPrefix "identityEq" [])
  rw [resolveRegistryEqualityList, resolveEqualityPairs, hpair]
  rfl

end Resolution

/-! ## Records of scalars -/

/-- The field that a member becomes.  Assigning to `__proto__` makes none. -/
def scalarField (m : String × Json) : Option (String × VerificationScalar) :=
  if m.1 = "__proto__" then none else (jsonScalar? m.2).map (m.1, ·)

/-- Every member is a scalar, under an identifier where one is asked for. -/
def ScalarMembers (ident : Bool) (members : List (String × Json)) : Prop :=
  ∀ m ∈ members, (ident = true → isIdent m.1 = true) ∧ (jsonScalar? m.2).isSome = true

theorem resolveScalarMember_eq_ok {ident : Bool} {label kinds : String}
    {fields fields' : ScalarFields} {m : String × Json} :
    resolveScalarMember ident label kinds fields m = .ok fields' ↔
      (ident = true → isIdent m.1 = true) ∧
        ∃ scalar, jsonScalar? m.2 = some scalar ∧
          fields' = assignMember fields m.1 scalar := by
  unfold resolveScalarMember
  by_cases hident : (ident && !isIdent m.1) = true
  · obtain ⟨hasked, hkey⟩ := Bool.and_eq_true_iff.mp hident
    rw [if_pos hident]
    constructor
    · intro hok
      cases hok
    · rintro ⟨hok, -⟩
      rw [hok hasked] at hkey
      cases hkey
  · have hkey : ident = true → isIdent m.1 = true := by
      intro hasked
      by_contra hnot
      exact hident (Bool.and_eq_true_iff.mpr ⟨hasked, by simpa using hnot⟩)
    rw [if_neg hident]
    cases hscalar : jsonScalar? m.2 with
    | none =>
        constructor
        · intro hok
          cases hok
        · rintro ⟨-, scalar, hsome, -⟩
          cases hsome
    | some scalar =>
        constructor
        · intro hok
          cases hok
          exact ⟨hkey, scalar, rfl, rfl⟩
        · rintro ⟨-, scalar', hsome, rfl⟩
          cases hsome
          rfl

theorem assignMember_new {fields : ScalarFields} {m : String × Json}
    {scalar : VerificationScalar} (hscalar : jsonScalar? m.2 = some scalar)
    (hnew : m.1 ∉ fields.map Prod.fst) :
    assignMember fields m.1 scalar = fields ++ (scalarField m).toList := by
  unfold assignMember scalarField
  split_ifs with hproto hany
  · simp
  · obtain ⟨f, hf, hkey⟩ := List.any_eq_true.mp hany
    exact absurd (List.mem_map.mpr ⟨f, hf, by simpa using hkey⟩) hnew
  · simp [hscalar]

theorem foldlM_scalarMembers {ident : Bool} {label kinds : String}
    {members : List (String × Json)} (hnodup : (members.map Prod.fst).Nodup)
    {fields fields' : ScalarFields}
    (hnew : ∀ m ∈ members, m.1 ∉ fields.map Prod.fst) :
    members.foldlM (resolveScalarMember ident label kinds) fields = .ok fields' ↔
      ScalarMembers ident members ∧
        fields' = fields ++ members.filterMap scalarField := by
  induction members generalizing fields with
  | nil =>
      rw [List.foldlM_nil, List.filterMap_nil, List.append_nil]
      constructor
      · intro hok
        cases hok
        exact ⟨fun m hm => absurd hm List.not_mem_nil, rfl⟩
      · rintro ⟨-, rfl⟩
        rfl
  | cons m members ih =>
      obtain ⟨hm, hmembers⟩ := List.nodup_cons.mp hnodup
      obtain ⟨hmnew, hrest⟩ := List.forall_mem_cons.mp hnew
      have hnext : ∀ scalar, jsonScalar? m.2 = some scalar →
          ∀ n ∈ members, n.1 ∉ (assignMember fields m.1 scalar).map Prod.fst := by
        intro scalar hscalar n hn hmem
        rw [assignMember_new hscalar hmnew, List.map_append, List.mem_append] at hmem
        rcases hmem with hold | hfield
        · exact hrest n hn hold
        · unfold scalarField at hfield
          split_ifs at hfield
          · cases hfield
          · rw [hscalar] at hfield
            have hkey : n.1 = m.1 := by simpa using hfield
            exact hm (hkey ▸ List.mem_map_of_mem hn)
      have hfields : (m :: members).filterMap scalarField =
          (scalarField m).toList ++ members.filterMap scalarField := by
        cases hfield : scalarField m with
        | none => simp [hfield]
        | some field => simp [hfield]
      rw [List.foldlM_cons, bind_eq_ok, hfields, ScalarMembers, List.forall_mem_cons]
      constructor
      · rintro ⟨next, hstep, hrun⟩
        obtain ⟨hident, scalar, hscalar, rfl⟩ := resolveScalarMember_eq_ok.mp hstep
        obtain ⟨hall, rfl⟩ := (ih hmembers (hnext scalar hscalar)).mp hrun
        refine ⟨⟨⟨hident, by rw [hscalar]; rfl⟩, hall⟩, ?_⟩
        rw [assignMember_new hscalar hmnew, List.append_assoc]
      · rintro ⟨⟨⟨hident, hsome⟩, hall⟩, rfl⟩
        obtain ⟨scalar, hscalar⟩ := Option.isSome_iff_exists.mp hsome
        refine ⟨_, resolveScalarMember_eq_ok.mpr ⟨hident, scalar, hscalar, rfl⟩, ?_⟩
        apply (ih hmembers (hnext scalar hscalar)).mpr
        refine ⟨hall, ?_⟩
        rw [assignMember_new hscalar hmnew, List.append_assoc]

theorem keys_scalarFields (members : List (String × Json)) :
    ((members.filterMap scalarField).map Prod.fst).Sublist (members.map Prod.fst) := by
  induction members with
  | nil => exact List.Sublist.slnil
  | cons m members ih =>
      cases hfield : scalarField m with
      | none =>
          rw [List.filterMap_cons_none hfield]
          exact ih.cons m.1
      | some field =>
          have hkey : field.1 = m.1 := by
            unfold scalarField at hfield
            split_ifs at hfield
            obtain ⟨scalar, -, rfl⟩ := Option.map_eq_some_iff.mp hfield
            rfl
          rw [List.filterMap_cons_some hfield, List.map_cons, List.map_cons, hkey]
          exact ih.cons_cons m.1

theorem jsonScalar?_recoded {v : Json} (h : v.Exact) :
    jsonScalar? (recoded v) = jsonScalar? v := by
  cases v with
  | num n => rw [recoded_num h]
  | arr items =>
      rw [recoded_arr]
      rfl
  | obj members =>
      rw [recoded_obj]
      rfl
  | null => rfl
  | bool value => rfl
  | str value => rfl

theorem scalarMembers_recoded {ident : Bool} {members : List (String × Json)}
    (h : (Json.obj members).Exact) (hall : ScalarMembers ident members) :
    ScalarMembers ident (recodedMembers members) := by
  intro m hm
  obtain ⟨n, hn, rfl⟩ := List.mem_map.mp ((recodedMembers_perm members).mem_iff.mp hm)
  rw [jsonScalar?_recoded ((exact_obj.mp h).2 n hn)]
  exact hall n hn

theorem scalarFields_recoded {members : List (String × Json)}
    (h : (Json.obj members).Exact) :
    ((recodedMembers members).filterMap scalarField).Perm
      (members.filterMap scalarField) := by
  have hsame : (members.map fun m => (m.1, recoded m.2)).filterMap scalarField =
      members.filterMap scalarField := by
    rw [List.filterMap_map]
    apply List.filterMap_congr
    intro m hm
    simp only [Function.comp_apply, scalarField,
      jsonScalar?_recoded ((exact_obj.mp h).2 m hm)]
  rw [← hsame]
  exact (recodedMembers_perm members).filterMap scalarField

/-- The object at a pointer keeps its members. -/
theorem resolveObject_recoded {params : Json} (h : params.Exact) {pointer label : String}
    {raw : JsValue} {members : List (String × Json)}
    (hok : resolveObject params pointer label = .ok (raw, members)) :
    (Json.obj members).Exact ∧
      resolveObject (recoded params) pointer label =
        .ok (recodedValue raw, recodedMembers members) := by
  obtain ⟨got, hgot, hmembers⟩ := bind_eq_ok.mp hok
  rcases pointerValue_recoded h pointer with
    ⟨message, hsource, -⟩ | ⟨got', hsource, hread, hexact⟩
  · rw [hsource] at hgot
    cases hgot
  · rw [hsource] at hgot
    cases hgot
    have hnullish := isNullish_recodedValue hexact
    simp only [resolveObject, hread, bind, Except.bind, hnullish]
    split_ifs at hmembers ⊢ with hnull
    · cases hmembers
    · cases got with
      | json v =>
          cases v with
          | obj own =>
              cases hmembers
              refine ⟨hexact, ?_⟩
              simp only [recodedValue, recoded_obj, objectMembers?]
          | _ => cases hmembers
      | objectPrototype =>
          cases hmembers
          have hnone : recodedMembers [] = [] := (recodedMembers_perm []).eq_nil
          refine ⟨exact_obj.mpr ⟨List.nodup_nil, by simp⟩, ?_⟩
          rw [hnone]
          rfl
      | _ => cases hmembers

theorem resolveScalarRecord_recoded {params : Json} (h : params.Exact) {ident : Bool}
    {pointer label kinds : String} {fields : ScalarFields}
    (hok : resolveScalarRecord ident params pointer label kinds = .ok fields) :
    ∃ fields', resolveScalarRecord ident (recoded params) pointer label kinds =
        .ok fields' ∧
      fields'.Perm fields ∧ (fields.map Prod.fst).Nodup := by
  obtain ⟨⟨raw, members⟩, hobject, hfold⟩ := bind_eq_ok.mp hok
  obtain ⟨hexact, hread⟩ := resolveObject_recoded h hobject
  have hnodup := (exact_obj.mp hexact).1
  have hnodup' : ((recodedMembers members).map Prod.fst).Nodup :=
    (keys_recodedMembers members).nodup_iff.mpr hnodup
  obtain ⟨hall, rfl⟩ := (foldlM_scalarMembers hnodup (by simp)).mp hfold
  refine ⟨(recodedMembers members).filterMap scalarField, ?_, ?_, ?_⟩
  · rw [resolveScalarRecord, hread]
    apply (foldlM_scalarMembers hnodup' (by simp)).mpr
    exact ⟨scalarMembers_recoded hexact hall, by simp⟩
  · simpa using scalarFields_recoded hexact
  · simpa using (keys_scalarFields members).nodup hnodup

/-- A row request that resolves against a value resolves against what is read of its
text, up to the order of the required fields. -/
theorem resolveSqlRowSpec_recoded {params : Json} (h : params.Exact)
    {spec : SqlRowVerificationSpec} {labelPrefix : String} {req : VerificationRequest}
    (hok : resolveSqlRowSpec params spec labelPrefix = .ok req) :
    ∃ fields, resolveSqlRowSpec (recoded params) spec labelPrefix =
        .ok { req with requiredFields := fields } ∧
      fields.Perm req.requiredFields ∧ (req.requiredFields.map Prod.fst).Nodup := by
  obtain ⟨table, htable, hrest⟩ := bind_eq_ok.mp hok
  obtain ⟨identityEq, hidentity, hrest⟩ := bind_eq_ok.mp hrest
  obtain ⟨requiredFields, hrecord, hreq⟩ := bind_eq_ok.mp hrest
  cases hreq
  obtain ⟨fields, hfields, hperm, hnodup⟩ := resolveScalarRecord_recoded h hrecord
  refine ⟨fields, ?_, hperm, hnodup⟩
  rw [resolveSqlRowSpec, resolveTableIdent_recoded h,
    resolveRegistryEqualityList_recoded h, htable, hidentity, hfields]
  rfl

end AgentSkeptic.Engine

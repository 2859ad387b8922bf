import AgentSkeptic.Engine.CanonicalText

/-!
# What a row request holds

A row request keeps the pairs of the registry in the order of their columns, and the
members of the object at the pointer, but for one named `__proto__`: assigning to it
makes no field (`requiredFields_kept_iff`).
-/

namespace AgentSkeptic.Engine

open AgentSkeptic.Support

/-! ## Values of parameters -/

/-- A value that a pointer finds in decoded parameters. -/
def DecodedValue : JsValue → Prop
  | .json v => v.Decoded
  | _ => True

theorem decodedValue_inherited (names : List String) (key : String) :
    DecodedValue (inherited names key) := by
  unfold inherited
  by_cases hproto : key = "__proto__"
  · rw [if_pos hproto]
    trivial
  · rw [if_neg hproto]
    by_cases hname : key ∈ names ∨ key ∈ objectPrototypeNames
    · rw [if_pos hname]
      trivial
    · rw [if_neg hname]
      trivial

theorem decodedValue_pointerStep {cur : JsValue} (h : DecodedValue cur) (token : String) :
    DecodedValue (pointerStep cur token) := by
  cases cur with
  | json v =>
      cases v with
      | arr items =>
          rw [pointerStep]
          cases hitem : (arrayIndex? token).bind (items[·]?) with
          | none => trivial
          | some item =>
              obtain ⟨i, -, hi⟩ := Option.bind_eq_some_iff.mp hitem
              exact decoded_arr.mp h item (List.mem_of_getElem? hi)
      | obj members =>
          rw [pointerStep, Json.member]
          cases hmember : ownMember members token with
          | none => exact decodedValue_inherited [] token
          | some value => exact (decoded_obj.mp h).2 _ (ownMember_eq_some hmember)
      | null => trivial
      | bool value => trivial
      | num value => trivial
      | str value => trivial
  | objectPrototype =>
      rw [pointerStep, JsValue.member]
      split_ifs
      · trivial
      · exact decodedValue_inherited [] token
  | undefined => trivial
  | bigint value => trivial
  | date iso => trivial
  | opaqueObject text => trivial
  | builtin name => trivial

theorem decodedValue_pointerValue {params : Json} (h : params.Decoded) {pointer : String}
    {got : JsValue} (hgot : pointerValue params pointer = .ok got) : DecodedValue got := by
  have hwalk : ∀ (tokens : List String) (cur : JsValue), DecodedValue cur →
      DecodedValue (tokens.foldl pointerStep cur) := by
    intro tokens
    induction tokens with
    | nil => exact fun _ hcur => hcur
    | cons token tokens ih =>
        exact fun cur hcur => ih _ (decodedValue_pointerStep hcur token)
  unfold pointerValue getPointer at hgot
  split at hgot
  · rename_i value hvalue
    obtain rfl := Except.ok.inj hgot
    split at hvalue
    · obtain rfl := Except.ok.inj hvalue
      exact h
    · obtain rfl := Except.ok.inj hvalue
      exact hwalk _ _ h
    · cases hvalue
  · cases hgot

/-- The members of an object of decoded parameters have distinct names. -/
theorem nodup_objectMembers {got : JsValue} (h : DecodedValue got)
    {members : List (String × Json)} (hmembers : objectMembers? got = some members) :
    (members.map Prod.fst).Nodup := by
  cases got with
  | json v =>
      cases v with
      | obj own =>
          obtain rfl := Option.some.inj hmembers
          exact (decoded_obj.mp h).1
      | null => cases hmembers
      | bool value => cases hmembers
      | num value => cases hmembers
      | str value => cases hmembers
      | arr items => cases hmembers
  | objectPrototype =>
      obtain rfl := Option.some.inj hmembers
      exact List.nodup_nil
  | undefined => cases hmembers
  | bigint value => cases hmembers
  | date iso => cases hmembers
  | opaqueObject text => cases hmembers
  | builtin name => cases hmembers

theorem resolveObject_eq_ok {params : Json} {pointer label : String} {raw : JsValue}
    {members : List (String × Json)} :
    resolveObject params pointer label = .ok (raw, members) ↔
      pointerValue params pointer = .ok raw ∧ objectMembers? raw = some members := by
  unfold resolveObject
  rw [bind_eq_ok]
  constructor
  · rintro ⟨got, hgot, hmembers⟩
    split_ifs at hmembers with hnull
    · cases hmembers
    · split at hmembers
      · rename_i own hown
        obtain ⟨rfl, rfl⟩ := Prod.mk.inj (Except.ok.inj hmembers)
        exact ⟨hgot, hown⟩
      · cases hmembers
  · rintro ⟨hraw, hmembers⟩
    refine ⟨raw, hraw, ?_⟩
    have hnull : ¬raw.isNullish = true := by
      intro hnull
      cases raw with
      | undefined => cases hmembers
      | json v =>
          cases v with
          | null => cases hmembers
          | bool value => cases hnull
          | num value => cases hnull
          | str value => cases hnull
          | arr items => cases hnull
          | obj own => cases hnull
      | objectPrototype => cases hnull
      | bigint value => cases hnull
      | date iso => cases hnull
      | opaqueObject text => cases hnull
      | builtin name => cases hnull
    rw [if_neg hnull, hmembers]

/-! ## Required fields -/

/-- A scalar as a JSON value. -/
def VerificationScalar.json : VerificationScalar → Json
  | .str value => .str value
  | .num value => .num value
  | .bool value => .bool value
  | .null => .null

theorem json_of_jsonScalar? {v : Json} {scalar : VerificationScalar}
    (h : jsonScalar? v = some scalar) : scalar.json = v := by
  cases v with
  | arr items => cases h
  | obj members => cases h
  | null =>
      obtain rfl := Option.some.inj h
      rfl
  | bool value =>
      obtain rfl := Option.some.inj h
      rfl
  | num value =>
      obtain rfl := Option.some.inj h
      rfl
  | str value =>
      obtain rfl := Option.some.inj h
      rfl

/-- The fields of a request as the members of an object. -/
def fieldsJson (fields : ScalarFields) : List (String × Json) :=
  fields.map fun field => (field.1, field.2.json)

/-- The members that become fields. -/
theorem fieldsJson_scalarFields {members : List (String × Json)} {ident : Bool}
    (h : ScalarMembers ident members) :
    fieldsJson (members.filterMap scalarField) = members.filter (·.1 ≠ "__proto__") := by
  induction members with
  | nil => rfl
  | cons m members ih =>
      obtain ⟨⟨-, hscalar⟩, hrest⟩ := List.forall_mem_cons.mp h
      obtain ⟨scalar, hscalar⟩ := Option.isSome_iff_exists.mp hscalar
      by_cases hproto : m.1 = "__proto__"
      · have hnone : scalarField m = none := by rw [scalarField, if_pos hproto]
        rw [List.filterMap_cons_none hnone, ih hrest, List.filter_cons_of_neg (by simp [hproto])]
      · have hfield : scalarField m = some (m.1, scalar) := by
          rw [scalarField, if_neg hproto, hscalar]
          rfl
        rw [List.filterMap_cons_some hfield, List.filter_cons_of_pos (by simp [hproto]),
          ← ih hrest]
        show (m.1, scalar.json) :: _ = _
        rw [json_of_jsonScalar? hscalar]
        rfl

/-! ## Identity -/

theorem duplicateColumn?_eq_none {pairs : List IdentityEqPair}
    (h : pairs.Pairwise fun a b => utf16Le a.column b.column = true) :
    duplicateColumn? pairs = none ↔ (pairs.map IdentityEqPair.column).Nodup := by
  induction pairs with
  | nil => simp [duplicateColumn?]
  | cons p pairs ih =>
      cases pairs with
      | nil => simp [duplicateColumn?]
      | cons q rest =>
          obtain ⟨hp, hrest⟩ := List.pairwise_cons.mp h
          rw [duplicateColumn?, List.map_cons, List.nodup_cons]
          split_ifs with hsame
          · constructor
            · intro hnone
              cases hnone
            · rintro ⟨hnot, -⟩
              exact absurd (by simp [hsame]) hnot
          · rw [ih hrest]
            constructor
            · intro hnodup
              refine ⟨?_, hnodup⟩
              intro hmem
              obtain ⟨r, hr, hcolumn⟩ := List.mem_map.mp hmem
              -- What stands behind `q` is not below it, so it is not `p` again.
              rcases List.mem_cons.mp hr with rfl | hr
              · exact hsame hcolumn
              · have hqr := (List.pairwise_cons.mp hrest).1 r hr
                have hpq := hp q List.mem_cons_self
                rw [hcolumn] at hqr
                exact hsame (utf16Le_antisymm hqr hpq)
            · rintro ⟨-, hnodup⟩
              exact hnodup

/-- A list of pairs that is kept is ordered by its columns, and no column stands twice. -/
theorem normalizeSortedIdentityEq_eq_ok {pairs sorted : List IdentityEqPair}
    {labelPrefix : String} :
    normalizeSortedIdentityEq pairs labelPrefix = .ok sorted ↔
      (pairs.map IdentityEqPair.column).Nodup ∧
        sorted = sortBy IdentityEqPair.column pairs := by
  have hperm := sortBy_perm IdentityEqPair.column pairs
  have hnone := duplicateColumn?_eq_none (pairwise_sortBy IdentityEqPair.column pairs)
  rw [(hperm.map IdentityEqPair.column).nodup_iff] at hnone
  unfold normalizeSortedIdentityEq
  constructor
  · intro hok
    dsimp only at hok
    split at hok
    · cases hok
    · rename_i hdup
      exact ⟨hnone.mp hdup, (Except.ok.inj hok).symm⟩
  · rintro ⟨hnodup, rfl⟩
    have hdup := hnone.mpr hnodup
    unfold sortBy at hdup
    dsimp only
    rw [hdup]

/-- The identity of a request holds the pairs that were resolved, each column after the
one before. -/
def IdentityKept (pairs identityEq : List IdentityEqPair) : Prop :=
  identityEq.Perm pairs ∧
    identityEq.Pairwise fun p q => utf16Le p.column q.column = true ∧ p.column ≠ q.column

theorem identityKept_of_normalize {pairs sorted : List IdentityEqPair} {labelPrefix : String}
    (hok : normalizeSortedIdentityEq pairs labelPrefix = .ok sorted) :
    IdentityKept pairs sorted := by
  obtain ⟨hnodup, rfl⟩ := normalizeSortedIdentityEq_eq_ok.mp hok
  exact ⟨sortBy_perm _ _, pairwise_lt_sortBy hnodup⟩

/-! ## Requests -/

/-- The fields of a request are the members of the object that the registry points to. -/
def FieldsKept (params : Json) (spec : SqlRowVerificationSpec)
    (req : VerificationRequest) : Prop :=
  ∃ raw members, getPointer params spec.requiredFields = .ok raw ∧
    objectMembers? raw = some members ∧ (fieldsJson req.requiredFields).Perm members

/-- The object that the registry points to has a member named `__proto__`. -/
def SelectsProto (params : Json) (spec : SqlRowVerificationSpec) : Prop :=
  ∃ members, getPointer params spec.requiredFields = .ok (.json (.obj members)) ∧
    "__proto__" ∈ members.map Prod.fst

theorem pointerValue_eq_ok {params : Json} {pointer : String} {got : JsValue} :
    pointerValue params pointer = .ok got ↔ getPointer params pointer = .ok got := by
  unfold pointerValue
  cases hget : getPointer params pointer with
  | ok value =>
      constructor
      · intro h
        rw [Except.ok.inj h]
      · intro h
        rw [Except.ok.inj h]
  | error message =>
      constructor
      · intro h
        cases h
      · intro h
        cases h

/-- What a resolved record holds: the members but for one named `__proto__`. -/
theorem resolveScalarRecord_members {params : Json} (hparams : params.Decoded)
    {ident : Bool} {pointer label kinds : String} {fields : ScalarFields}
    (hok : resolveScalarRecord ident params pointer label kinds = .ok fields) :
    ∃ raw members, getPointer params pointer = .ok raw ∧
      objectMembers? raw = some members ∧
        fieldsJson fields = members.filter (·.1 ≠ "__proto__") := by
  unfold resolveScalarRecord at hok
  obtain ⟨⟨raw, members⟩, hobject, hfold⟩ := bind_eq_ok.mp hok
  obtain ⟨hraw, hmembers⟩ := resolveObject_eq_ok.mp hobject
  have hnodup := nodup_objectMembers (decodedValue_pointerValue hparams hraw) hmembers
  obtain ⟨hall, rfl⟩ := (foldlM_scalarMembers hnodup (by simp)).mp hfold
  refine ⟨raw, members, pointerValue_eq_ok.mp hraw, hmembers, ?_⟩
  rw [List.nil_append]
  exact fieldsJson_scalarFields hall

/-- A request keeps every required field, and the pairs of its identity in order, exactly
when the selected object has no member named `__proto__`. -/
theorem requiredFields_kept_iff {params : Json} (hparams : params.Decoded)
    {spec : SqlRowVerificationSpec} {labelPrefix : String} {req : VerificationRequest}
    (hok : resolveSqlRowSpec params spec labelPrefix = .ok req) :
    (FieldsKept params spec req ∧
      ∃ pairs, resolveEqualityPairs spec.identityEq params labelPrefix "identityEq" [] =
          .ok pairs ∧ IdentityKept pairs req.identityEq) ↔
      ¬SelectsProto params spec := by
  unfold resolveSqlRowSpec at hok
  obtain ⟨table, -, hrest⟩ := bind_eq_ok.mp hok
  obtain ⟨identityEq, hidentity, hrest⟩ := bind_eq_ok.mp hrest
  obtain ⟨fields, hrecord, hreq⟩ := bind_eq_ok.mp hrest
  obtain rfl := Except.ok.inj hreq
  obtain ⟨pairs, hpairs, hsorted⟩ := bind_eq_ok.mp hidentity
  obtain ⟨raw, members, hraw, hmembers, hfields⟩ :=
    resolveScalarRecord_members hparams hrecord
  have hkept := identityKept_of_normalize hsorted
  constructor
  · rintro ⟨⟨raw', members', hraw', hmembers', hperm⟩, -⟩ ⟨own, hown, hproto⟩
    obtain rfl := Except.ok.inj (hraw'.symm.trans hown)
    obtain rfl := Option.some.inj hmembers'
    obtain rfl := Except.ok.inj (hraw.symm.trans hown)
    obtain rfl := Option.some.inj hmembers
    obtain ⟨m, hm, hname⟩ := List.mem_map.mp hproto
    have hfield : m ∈ fieldsJson fields := hperm.mem_iff.mpr hm
    rw [hfields, List.mem_filter] at hfield
    simp [hname] at hfield
  · intro hno
    refine ⟨⟨raw, members, hraw, hmembers, ?_⟩, pairs, hpairs, hkept⟩
    have hall : members.filter (·.1 ≠ "__proto__") = members := by
      apply List.filter_eq_self.mpr
      intro m hm
      have hne : m.1 ≠ "__proto__" := by
        intro hname
        have hmem : "__proto__" ∈ members.map Prod.fst := List.mem_map.mpr ⟨m, hm, hname⟩
        cases raw with
        | json v =>
            cases v with
            | obj own =>
                obtain rfl := Option.some.inj hmembers
                exact hno ⟨own, hraw, hmem⟩
            | _ => cases hmembers
        | objectPrototype =>
            obtain rfl := Option.some.inj hmembers
            cases hm
        | _ => cases hmembers
      simpa using hne
    show (fieldsJson fields).Perm members
    rw [hfields, hall]

/-- A row of the table `t` with `id` 1, whose fields stand at `/fields`. -/
def fieldsOfOne : SqlRowVerificationSpec where
  table := .const "t"
  identityEq := [⟨.const "id", .const (.str "1")⟩]
  requiredFields := "/fields"

theorem requiredFields_kept_name :
    FieldsKept (.obj [("fields", .obj [("name", .str "x")])]) fieldsOfOne
        ⟨"t", [⟨"id", "1"⟩], [("name", .str "x")]⟩ ∧
      (∃ pairs, resolveEqualityPairs fieldsOfOne.identityEq
          (.obj [("fields", .obj [("name", .str "x")])]) "" "identityEq" [] = .ok pairs ∧
        IdentityKept pairs [⟨"id", "1"⟩]) ↔
      ¬SelectsProto (.obj [("fields", .obj [("name", .str "x")])]) fieldsOfOne := by
  have hparams : (Json.obj [("fields", .obj [("name", .str "x")])]).Decoded := by
    simp [Json.Decoded, Json.DecodedMembers]
  have hok : resolveSqlRowSpec (.obj [("fields", .obj [("name", .str "x")])]) fieldsOfOne "" =
      .ok ⟨"t", [⟨"id", "1"⟩], [("name", .str "x")]⟩ := rfl
  exact requiredFields_kept_iff hparams hok

/-- A field named `__proto__` is an identifier and resolves to no field at all. -/
theorem requiredFields_loses_proto :
    resolveSqlRowSpec (.obj [("fields", .obj [("__proto__", .str "x")])]) fieldsOfOne "" =
        .ok ⟨"t", [⟨"id", "1"⟩], []⟩ ∧
      ¬FieldsKept (.obj [("fields", .obj [("__proto__", .str "x")])]) fieldsOfOne
        ⟨"t", [⟨"id", "1"⟩], []⟩ := by
  refine ⟨rfl, ?_⟩
  rintro ⟨raw, members, hraw, hmembers, hperm⟩
  have hselected : getPointer (.obj [("fields", .obj [("__proto__", .str "x")])]) "/fields" =
      .ok (.json (.obj [("__proto__", .str "x")])) := rfl
  obtain rfl := Except.ok.inj (hraw.symm.trans hselected)
  obtain rfl := Option.some.inj hmembers
  have hlength := hperm.length_eq
  cases hlength

end AgentSkeptic.Engine

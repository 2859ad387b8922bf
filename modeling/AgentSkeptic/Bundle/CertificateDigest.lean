import AgentSkeptic.Bundle.DecisionEvidence
import AgentSkeptic.Quick.CanonicalKeys
import AgentSkeptic.Support.SortedMembers

/-!
# Digests of certificates

`certificateDigest.ts`: the digest of a certificate is that of its text with sorted keys.
Unlike canonical text, this text depends on the order of names that `localeCompare` does
not tell apart, and it does not say what stands under `__proto__`
(`stringifyWithSortedKeys_eq_iff`).
-/

namespace AgentSkeptic.Support

/-! ## What the text says of a value -/

mutual

/-- A member named `__proto__` is lost, and a number that is not finite is `null`. -/
def Json.written : Json → Json
  | .arr items => .arr (Json.writtenItems items)
  | .obj members => .obj (Json.writtenMembers members)
  | .num value => if value.isFinite then .num value else .null
  | .null => .null
  | .bool value => .bool value
  | .str value => .str value

def Json.writtenItems : List Json → List Json
  | [] => []
  | item :: items => Json.written item :: Json.writtenItems items

def Json.writtenMembers : List (String × Json) → List (String × Json)
  | [] => []
  | (key, value) :: members =>
      if key = "__proto__" then Json.writtenMembers members
      else (key, Json.written value) :: Json.writtenMembers members

end

mutual

/-- In every two objects that correspond, names that the collation does not tell apart
stand in the same order. -/
def Json.TiesInOrder (localeLe : String → String → Bool) : Json → Json → Prop
  | .arr items, w => ∀ items', w = .arr items' → Json.TiesInOrderItems localeLe items items'
  | .obj members, w => ∀ members', w = .obj members' →
      SameTies localeLe (members.map Prod.fst) (members'.map Prod.fst) ∧
        Json.TiesInOrderMembers localeLe members members'
  | _, _ => True

def Json.TiesInOrderItems (localeLe : String → String → Bool) :
    List Json → List Json → Prop
  | [], _ => True
  | x :: xs, ys => ∀ y ys', ys = y :: ys' →
      Json.TiesInOrder localeLe x y ∧ Json.TiesInOrderItems localeLe xs ys'

def Json.TiesInOrderMembers (localeLe : String → String → Bool) :
    List (String × Json) → List (String × Json) → Prop
  | [], _ => True
  | (key, x) :: xs, ys =>
      (key ≠ "__proto__" → ∀ y, ownMember ys key = some y → Json.TiesInOrder localeLe x y) ∧
        Json.TiesInOrderMembers localeLe xs ys

end

theorem writtenItems_eq_map (items : List Json) :
    Json.writtenItems items = items.map Json.written := by
  induction items with
  | nil => rfl
  | cons item items ih => rw [Json.writtenItems, ih, List.map_cons]

theorem writtenMembers_eq_map (members : List (String × Json)) :
    Json.writtenMembers members =
      (keptMembers members).map fun m => (m.1, m.2.written) := by
  induction members with
  | nil => rfl
  | cons m members ih =>
      obtain ⟨key, value⟩ := m
      by_cases hkey : key = "__proto__"
      · simp [Json.writtenMembers, keptMembers, hkey, ih]
      · simp [Json.writtenMembers, keptMembers, hkey, ih]

theorem tiesInOrderMembers_iff {localeLe : String → String → Bool}
    {members members' : List (String × Json)} :
    Json.TiesInOrderMembers localeLe members members' ↔
      ∀ m ∈ keptMembers members, ∀ y, ownMember members' m.1 = some y →
        m.2.TiesInOrder localeLe y := by
  induction members with
  | nil => simp [Json.TiesInOrderMembers, keptMembers]
  | cons m members ih =>
      obtain ⟨key, value⟩ := m
      rw [Json.TiesInOrderMembers, ih]
      by_cases hkey : key = "__proto__"
      · simp [keptMembers, hkey]
      · simp [keptMembers, hkey]

theorem sameItems_iff {xs ys : List Json} :
    Json.SameItems xs ys ↔ List.Forall₂ Json.SameAs xs ys := by
  induction xs generalizing ys with
  | nil =>
      rw [Json.SameItems, List.forall₂_nil_left_iff]
  | cons x xs ih =>
      rw [Json.SameItems, List.forall₂_cons_left_iff]
      constructor
      · rintro ⟨y, ys', rfl, hxy, hrest⟩
        exact ⟨y, ys', hxy, ih.mp hrest, rfl⟩
      · rintro ⟨y, ys', hxy, hrest, rfl⟩
        exact ⟨y, ys', rfl, hxy, ih.mpr hrest⟩

theorem sameMembers_iff {xs ys : List (String × Json)} :
    Json.SameMembers xs ys ↔
      List.Forall₂ (fun m n => m.1 = n.1 ∧ m.2.SameAs n.2) xs ys := by
  induction xs generalizing ys with
  | nil =>
      rw [Json.SameMembers, List.forall₂_nil_left_iff]
  | cons m xs ih =>
      obtain ⟨key, x⟩ := m
      rw [Json.SameMembers, List.forall₂_cons_left_iff]
      constructor
      · rintro ⟨y, ys', rfl, hxy, hrest⟩
        exact ⟨(key, y), ys', ⟨rfl, hxy⟩, ih.mp hrest, rfl⟩
      · rintro ⟨⟨key', y⟩, ys', ⟨rfl, hxy⟩, hrest, rfl⟩
        exact ⟨y, ys', rfl, hxy, ih.mpr hrest⟩

mutual

/-- Induction over a value, with the values of its items and members. -/
@[elab_as_elim]
theorem Json.induct {motive : Json → Prop}
    (arr : ∀ items, (∀ v ∈ items, motive v) → motive (.arr items))
    (obj : ∀ members, (∀ m ∈ members, motive m.2) → motive (.obj members))
    (null : motive .null) (bool : ∀ value, motive (.bool value))
    (num : ∀ value, motive (.num value)) (str : ∀ value, motive (.str value)) :
    ∀ v : Json, motive v
  | .arr items => arr items (induct_items arr obj null bool num str items)
  | .obj members => obj members (induct_members arr obj null bool num str members)
  | .null => null
  | .bool value => bool value
  | .num value => num value
  | .str value => str value

theorem induct_items {motive : Json → Prop}
    (arr : ∀ items, (∀ v ∈ items, motive v) → motive (.arr items))
    (obj : ∀ members, (∀ m ∈ members, motive m.2) → motive (.obj members))
    (null : motive .null) (bool : ∀ value, motive (.bool value))
    (num : ∀ value, motive (.num value)) (str : ∀ value, motive (.str value)) :
    ∀ items : List Json, ∀ v ∈ items, motive v
  | [] => by simp
  | item :: items => List.forall_mem_cons.mpr
      ⟨Json.induct arr obj null bool num str item, induct_items arr obj null bool num str items⟩

theorem induct_members {motive : Json → Prop}
    (arr : ∀ items, (∀ v ∈ items, motive v) → motive (.arr items))
    (obj : ∀ members, (∀ m ∈ members, motive m.2) → motive (.obj members))
    (null : motive .null) (bool : ∀ value, motive (.bool value))
    (num : ∀ value, motive (.num value)) (str : ∀ value, motive (.str value)) :
    ∀ members : List (String × Json), ∀ m ∈ members, motive m.2
  | [] => by simp
  | (_, value) :: members => List.forall_mem_cons.mpr
      ⟨Json.induct arr obj null bool num str value,
        induct_members arr obj null bool num str members⟩

end

/-! ## The text of the copy -/

theorem canonicalizeMembers_eq_map (localeLe : String → String → Bool)
    (members : List (String × Json)) :
    canonicalizeMembers localeLe members =
      members.map fun m => (m.1, canonicalizeForJson localeLe m.2) := by
  induction members with
  | nil => rfl
  | cons m members ih => rw [canonicalizeMembers, ih, List.map_cons]

/-- What is read of the text. -/
def readBack (localeLe : String → String → Bool) (v : Json) : Json :=
  (canonicalizeForJson localeLe v).reread

theorem readBack_arr (localeLe : String → String → Bool) (items : List Json) :
    readBack localeLe (.arr items) = .arr (items.map (readBack localeLe)) := by
  rw [readBack, canonicalizeForJson, Schema.canonicalizeItems_eq_map, Json.reread,
    rereadItems_eq_map, List.map_map]
  rfl

theorem readBack_obj (localeLe : String → String → Bool) (members : List (String × Json)) :
    readBack localeLe (.obj members) =
      .obj (sortMembers localeLe (members.map fun m => (m.1, readBack localeLe m.2))) := by
  have hcopies : (members.map fun m => (m.1, canonicalizeForJson localeLe m.2)).map
      (fun m => (m.1, m.2.reread)) = members.map fun m => (m.1, readBack localeLe m.2) := by
    rw [List.map_map]
    rfl
  rw [readBack, canonicalizeForJson, canonicalizeMembers_eq_map, Json.reread,
    rereadMembers_eq_map, map_sortMembers Json.reread, hcopies]
  congr 1
  exact propertyOrder_idem _

theorem decoded_canonicalizeForJson (localeLe : String → String → Bool) (v : Json) :
    v.Decoded → (canonicalizeForJson localeLe v).Decoded := by
  induction v using Json.induct with
  | arr items ih =>
      intro h
      rw [canonicalizeForJson, Schema.canonicalizeItems_eq_map]
      apply decoded_arr.mpr
      intro w hw
      obtain ⟨v, hv, rfl⟩ := List.mem_map.mp hw
      exact ih v hv (decoded_arr.mp h v hv)
  | obj members ih =>
      intro h
      obtain ⟨hnodup, hvalues⟩ := decoded_obj.mp h
      have hcopies : (members.map fun m =>
          (m.1, canonicalizeForJson localeLe m.2)).map Prod.fst = members.map Prod.fst := by
        rw [List.map_map]
        rfl
      rw [canonicalizeForJson, canonicalizeMembers_eq_map]
      apply decoded_obj.mpr
      constructor
      · apply nodup_sortMembers
        rw [hcopies]
        exact hnodup
      · intro m hm
        have hmem := (sortMembers_perm localeLe _).mem_iff.mp hm
        obtain ⟨n, hn, rfl⟩ := List.mem_map.mp (List.mem_of_mem_filter hmem)
        exact ih n hn (hvalues n hn)
  | null => exact fun h => h
  | bool value => exact fun h => h
  | num value => exact fun h => h
  | str value => exact fun h => h

theorem stringifyItems_eq_map (items : List Json) :
    Json.stringifyItems items = items.map Json.stringify := by
  induction items with
  | nil => rfl
  | cons item items ih => rw [Json.stringifyItems, ih, List.map_cons]

/-- The text says no more than what is read of it. -/
theorem stringify_readBack (localeLe : String → String → Bool) (v : Json) :
    (readBack localeLe v).stringify = stringifyWithSortedKeys localeLe v := by
  rw [stringifyWithSortedKeys]
  induction v using Json.induct with
  | arr items ih =>
      rw [readBack_arr, canonicalizeForJson, Schema.canonicalizeItems_eq_map, Json.stringify,
        Json.stringify, stringifyItems_eq_map, stringifyItems_eq_map, List.map_map,
        List.map_map]
      congr 3
      apply List.map_congr_left
      exact ih
  | obj members ih =>
      have htexts : ∀ f : Json → Json, (∀ m ∈ members, (f m.2).stringify =
          (canonicalizeForJson localeLe m.2).stringify) →
          (sortMembers localeLe (members.map fun m => (m.1, f m.2))).map
            (fun m => quote m.1 ++ ":" ++ m.2.stringify) =
          (sortMembers localeLe members).map fun m =>
            quote m.1 ++ ":" ++ (canonicalizeForJson localeLe m.2).stringify := by
        intro f hf
        rw [← map_sortMembers, List.map_map]
        apply List.map_congr_left
        intro m hm
        have hmem := List.mem_of_mem_filter ((sortMembers_perm localeLe members).mem_iff.mp hm)
        show quote m.1 ++ ":" ++ (f m.2).stringify = _
        rw [hf m hmem]
      rw [readBack_obj, canonicalizeForJson, canonicalizeMembers_eq_map, Json.stringify,
        Json.stringify, Engine.stringifyMembers_eq_map, Engine.stringifyMembers_eq_map,
        htexts _ ih, htexts _ fun _ _ => rfl]
  | null => rfl
  | bool value => rfl
  | num value =>
      rw [readBack, canonicalizeForJson, Json.reread]
      split_ifs with hfinite
      · rfl
      · rw [Json.stringify, Json.stringify, JsNumber.stringify, if_neg hfinite]
  | str value => rfl

/-- Two values have one text exactly when one value is read of it. -/
theorem stringifyWithSortedKeys_eq_iff_readBack (localeLe : String → String → Bool)
    {x y : Json} (hx : x.Decoded) (hy : y.Decoded) :
    stringifyWithSortedKeys localeLe x = stringifyWithSortedKeys localeLe y ↔
      readBack localeLe x = readBack localeLe y := by
  constructor
  · intro h
    have hreadx := parseJson_stringify_decoded (decoded_canonicalizeForJson localeLe x hx)
    have hready := parseJson_stringify_decoded (decoded_canonicalizeForJson localeLe y hy)
    rw [stringifyWithSortedKeys, stringifyWithSortedKeys] at h
    rw [h, hready] at hreadx
    exact (Option.some.inj hreadx).symm
  · intro h
    rw [← stringify_readBack, h, stringify_readBack]

/-! ## Values that are read alike -/

theorem forall₂_congr_mem {α β : Type*} {R S : α → β → Prop} {as : List α} {bs : List β}
    (h : ∀ a ∈ as, ∀ b ∈ bs, R a b → S a b) (hR : List.Forall₂ R as bs) :
    List.Forall₂ S as bs := by
  obtain ⟨hlength, hall⟩ := List.forall₂_iff_zip.mp hR
  apply List.forall₂_iff_zip.mpr
  refine ⟨hlength, ?_⟩
  intro a b hab
  obtain ⟨ha, hb⟩ := List.of_mem_zip hab
  exact h a ha b hb (hall hab)

theorem map_eq_map_iff {α β γ : Type*} {f : α → γ} {g : β → γ} {as : List α}
    {bs : List β} : as.map f = bs.map g ↔ List.Forall₂ (fun a b => f a = g b) as bs := by
  rw [← List.forall₂_map_right_iff, ← List.forall₂_map_left_iff, List.forall₂_eq_eq_eq]

/-- One text, one meaning, for the values `x` and `y`. -/
def ReadAlike (localeLe : String → String → Bool) (x y : Json) : Prop :=
  readBack localeLe x = readBack localeLe y ↔
    x.written.SameAs y.written ∧ x.TiesInOrder localeLe y

/-- Of a scalar there is one text. -/
theorem readAlike_scalar {localeLe : String → String → Bool} {x : Json}
    (hread : readBack localeLe x = x.written) (harr : ∀ items, x.written ≠ .arr items)
    (hobj : ∀ members, x.written ≠ .obj members) (hties : ∀ y, x.TiesInOrder localeLe y)
    (y : Json) : ReadAlike localeLe x y := by
  have hsame : x.written.SameAs y.written ↔ y.written = x.written := by
    generalize hw : x.written = w at harr hobj ⊢
    cases w with
    | arr items => exact absurd rfl (harr items)
    | obj members => exact absurd rfl (hobj members)
    | null => exact Iff.rfl
    | bool value => exact Iff.rfl
    | num value => exact Iff.rfl
    | str value => exact Iff.rfl
  rw [ReadAlike, hsame, hread, and_iff_left (hties y)]
  cases y with
  | arr items =>
      rw [readBack_arr, Json.written]
      exact iff_of_false (harr _) fun h => harr _ h.symm
  | obj members =>
      rw [readBack_obj, Json.written]
      exact iff_of_false (hobj _) fun h => hobj _ h.symm
  | null => exact eq_comm
  | bool value => exact eq_comm
  | num value => exact eq_comm
  | str value => exact eq_comm

section

variable {localeLe : String → String → Bool}

theorem readAlike_items {items : List Json}
    (ih : ∀ v ∈ items, ∀ y : Json, v.Decoded → y.Decoded → ReadAlike localeLe v y)
    (hitems : ∀ v ∈ items, v.Decoded) {items' : List Json}
    (hitems' : ∀ v ∈ items', v.Decoded) :
    items.map (readBack localeLe) = items'.map (readBack localeLe) ↔
      Json.SameItems (items.map Json.written) (items'.map Json.written) ∧
        Json.TiesInOrderItems localeLe items items' := by
  induction items generalizing items' with
  | nil =>
      rw [Json.TiesInOrderItems, List.map_nil, List.map_nil, Json.SameItems, and_true,
        List.map_eq_nil_iff, List.nil_eq, List.map_eq_nil_iff]
  | cons x items ihItems =>
      obtain ⟨ihx, ihRest⟩ := List.forall_mem_cons.mp ih
      obtain ⟨hx, hrest⟩ := List.forall_mem_cons.mp hitems
      cases items' with
      | nil => simp [Json.SameItems]
      | cons y items' =>
          obtain ⟨hy, hrest'⟩ := List.forall_mem_cons.mp hitems'
          have hhead := ihx y hx hy
          have htail := ihItems ihRest hrest hrest'
          rw [ReadAlike] at hhead
          rw [List.map_cons, List.map_cons, List.cons.injEq, hhead, htail]
          simp only [List.map_cons, Json.SameItems, Json.TiesInOrderItems, List.cons.injEq]
          constructor
          · rintro ⟨⟨hsame, hties⟩, hsames, htiess⟩
            refine ⟨⟨_, _, ⟨rfl, rfl⟩, hsame, hsames⟩, ?_⟩
            rintro _ _ ⟨rfl, rfl⟩
            exact ⟨hties, htiess⟩
          · rintro ⟨⟨_, _, ⟨rfl, rfl⟩, hsame, hsames⟩, hall⟩
            obtain ⟨hties, htiess⟩ := hall y items' ⟨rfl, rfl⟩
            exact ⟨⟨hsame, hties⟩, hsames, htiess⟩

/-- The members that two objects keep. -/
theorem readAlike_members {members members' : List (String × Json)}
    (ih : ∀ m ∈ members, ∀ y : Json, m.2.Decoded → y.Decoded → ReadAlike localeLe m.2 y)
    (hmembers : ∀ m ∈ members, m.2.Decoded) (hnodup' : (members'.map Prod.fst).Nodup)
    (hmembers' : ∀ m ∈ members', m.2.Decoded) :
    ((keptMembers members).map fun m => (m.1, readBack localeLe m.2)).Perm
        ((keptMembers members').map fun m => (m.1, readBack localeLe m.2)) ↔
      (∃ named, named.Perm (Json.writtenMembers members') ∧
          Json.SameMembers (Json.writtenMembers members) named) ∧
        Json.TiesInOrderMembers localeLe members members' := by
  have hkept : ∀ {ms : List (String × Json)} {m}, m ∈ keptMembers ms → m ∈ ms :=
    List.mem_of_mem_filter
  have hpair : ∀ m ∈ keptMembers members, ∀ n ∈ members',
      readBack localeLe m.2 = readBack localeLe n.2 ↔
        m.2.written.SameAs n.2.written ∧ m.2.TiesInOrder localeLe n.2 := by
    intro m hm n hn
    exact ih m (hkept hm) n.2 (hmembers m (hkept hm)) (hmembers' n hn)
  rw [tiesInOrderMembers_iff, writtenMembers_eq_map, writtenMembers_eq_map]
  constructor
  · intro hperm
    obtain ⟨ordered, hordered, hmap⟩ := exists_perm_of_perm_map hperm
    have hmem : ∀ n ∈ ordered, n ∈ members' := fun n hn => hkept (hordered.mem_iff.mp hn)
    refine ⟨⟨ordered.map fun m => (m.1, m.2.written), hordered.map _, ?_⟩, ?_⟩
    · rw [sameMembers_iff, List.forall₂_map_left_iff, List.forall₂_map_right_iff]
      apply forall₂_congr_mem _ (map_eq_map_iff.mp hmap.symm)
      intro m hm n hn heq
      obtain ⟨hkey, hvalue⟩ := Prod.mk.inj heq
      exact ⟨hkey, ((hpair m hm n (hmem n hn)).mp hvalue).1⟩
    · intro m hm y hy
      have himage := List.mem_map_of_mem (f := fun m : String × Json =>
        (m.1, readBack localeLe m.2)) hm
      rw [← hmap] at himage
      obtain ⟨n, hn, heq⟩ := List.mem_map.mp himage
      obtain ⟨hkey, hvalue⟩ := Prod.mk.inj heq
      have hsame : n = (m.1, y) :=
        List.inj_on_of_nodup_map hnodup' (hmem n hn) (ownMember_eq_some hy) hkey
      have hties := ((hpair m hm n (hmem n hn)).mp hvalue.symm).2
      rwa [hsame] at hties
  · rintro ⟨⟨named, hnamed, hsame⟩, hties⟩
    obtain ⟨ordered, hordered, rfl⟩ := exists_perm_of_perm_map hnamed
    have hmem : ∀ n ∈ ordered, n ∈ members' := fun n hn => hkept (hordered.mem_iff.mp hn)
    rw [sameMembers_iff, List.forall₂_map_left_iff, List.forall₂_map_right_iff] at hsame
    have hmap : (keptMembers members).map (fun m => (m.1, readBack localeLe m.2)) =
        ordered.map fun m => (m.1, readBack localeLe m.2) := by
      apply map_eq_map_iff.mpr
      apply forall₂_congr_mem _ hsame
      rintro m hm n hn ⟨hkey, hvalue⟩
      have hown : ownMember members' m.1 = some n.2 := by
        rw [ownMember_iff hnodup', hkey]
        exact hmem n hn
      have hread := (hpair m hm n (hmem n hn)).mpr ⟨hvalue, hties m hm n.2 hown⟩
      rw [hkey, hread]
    rw [hmap]
    exact hordered.map _

end

theorem keptMembers_map (f : Json → Json) (members : List (String × Json)) :
    keptMembers (members.map fun m => (m.1, f m.2)) =
      (keptMembers members).map fun m => (m.1, f m.2) := by
  rw [keptMembers, keptMembers, List.filter_map]
  rfl

theorem sameAs_obj {members members' : List (String × Json)} :
    (Json.obj members).SameAs (.obj members') ↔
      ∃ named, named.Perm members' ∧ Json.SameMembers members named := by
  constructor
  · rintro ⟨named, _, heq, hperm, hsame⟩
    obtain rfl := Json.obj.inj heq
    exact ⟨named, hperm, hsame⟩
  · rintro ⟨named, hperm, hsame⟩
    exact ⟨named, members', rfl, hperm, hsame⟩

theorem sameAs_arr {items items' : List Json} :
    (Json.arr items).SameAs (.arr items') ↔ Json.SameItems items items' := by
  constructor
  · rintro ⟨_, heq, hsame⟩
    obtain rfl := Json.arr.inj heq
    exact hsame
  · intro hsame
    exact ⟨items', rfl, hsame⟩

/-- Equal values are equal as far as the text says. -/
theorem Json.SameAs.written {x : Json} : ∀ {y : Json}, x.SameAs y →
    x.written.SameAs y.written := by
  induction x using Json.induct with
  | arr items ih =>
      rintro y ⟨items', rfl, hsame⟩
      rw [Json.written, Json.written, sameAs_arr, writtenItems_eq_map, writtenItems_eq_map,
        sameItems_iff, List.forall₂_map_left_iff, List.forall₂_map_right_iff]
      exact forall₂_congr_mem (fun v hv w _ h => ih v hv h) (sameItems_iff.mp hsame)
  | obj members ih =>
      rintro y ⟨named, members', rfl, hperm, hsame⟩
      rw [Json.written, Json.written, sameAs_obj, writtenMembers_eq_map,
        writtenMembers_eq_map]
      refine ⟨(keptMembers named).map fun m => (m.1, m.2.written),
        (hperm.filter _).map _, ?_⟩
      rw [sameMembers_iff, List.forall₂_map_left_iff, List.forall₂_map_right_iff]
      have hkept : List.Forall₂ (fun m n : String × Json => m.1 = n.1 ∧ m.2.SameAs n.2)
          (keptMembers members) (keptMembers named) := by
        apply List.rel_filter _ (sameMembers_iff.mp hsame)
        rintro m n ⟨hkey, -⟩
        show decide (m.1 ≠ _) = true ↔ decide (n.1 ≠ _) = true
        rw [hkey]
      apply forall₂_congr_mem _ hkept
      rintro m hm n _ ⟨hkey, hvalue⟩
      exact ⟨hkey, ih m (List.mem_of_mem_filter hm) hvalue⟩
  | null =>
      rintro y rfl
      exact rfl
  | bool value =>
      rintro y rfl
      exact rfl
  | num value =>
      rintro y rfl
      exact .refl _
  | str value =>
      rintro y rfl
      exact rfl

/-! ## The kind of a value is that of its text -/

theorem written_eq_arr {y : Json} {items : List Json} (h : y.written = .arr items) :
    ∃ items', y = .arr items' := by
  cases y with
  | arr items' => exact ⟨items', rfl⟩
  | num value =>
      rw [Json.written] at h
      split_ifs at h
  | obj members => cases h
  | null => cases h
  | bool value => cases h
  | str value => cases h

theorem written_eq_obj {y : Json} {members : List (String × Json)}
    (h : y.written = .obj members) : ∃ members', y = .obj members' := by
  cases y with
  | obj members' => exact ⟨members', rfl⟩
  | num value =>
      rw [Json.written] at h
      split_ifs at h
  | arr items => cases h
  | null => cases h
  | bool value => cases h
  | str value => cases h

theorem readBack_eq_written {localeLe : String → String → Bool} {y : Json}
    (harr : ∀ items, y ≠ .arr items) (hobj : ∀ members, y ≠ .obj members) :
    readBack localeLe y = y.written := by
  cases y with
  | arr items => exact absurd rfl (harr items)
  | obj members => exact absurd rfl (hobj members)
  | num value => rfl
  | null => rfl
  | bool value => rfl
  | str value => rfl

theorem readBack_eq_arr {localeLe : String → String → Bool} {y : Json} {items : List Json}
    (h : readBack localeLe y = .arr items) : ∃ items', y = .arr items' := by
  by_contra harr
  have hobj : ∀ members, y ≠ .obj members := by
    rintro members rfl
    rw [readBack_obj] at h
    cases h
  rw [readBack_eq_written (fun items' hy => harr ⟨items', hy⟩) hobj] at h
  exact harr (written_eq_arr h)

theorem readBack_eq_obj {localeLe : String → String → Bool} {y : Json}
    {members : List (String × Json)} (h : readBack localeLe y = .obj members) :
    ∃ members', y = .obj members' := by
  by_contra hobj
  have harr : ∀ items, y ≠ .arr items := by
    rintro items rfl
    rw [readBack_arr] at h
    cases h
  rw [readBack_eq_written harr fun members' hy => hobj ⟨members', hy⟩] at h
  exact hobj (written_eq_obj h)

section

variable {localeLe : String → String → Bool}
  (htotal : ∀ a b, localeLe a b = true ∨ localeLe b a = true)
  (htrans : ∀ a b c, localeLe a b = true → localeLe b c = true → localeLe a c = true)

include htotal htrans

/-- The text says everything but the members named `__proto__`, the numbers that are not
finite and the order of names that the collation tells apart. -/
theorem readAlike (x : Json) : ∀ y : Json, x.Decoded → y.Decoded →
    ReadAlike localeLe x y := by
  induction x using Json.induct with
  | arr items ih =>
      intro y hx hy
      by_cases harr : ∃ items', y = .arr items'
      · obtain ⟨items', rfl⟩ := harr
        have hties : (Json.arr items).TiesInOrder localeLe (.arr items') ↔
            Json.TiesInOrderItems localeLe items items' := by
          simp [Json.TiesInOrder]
        rw [ReadAlike, readBack_arr, readBack_arr, Json.written, Json.written,
          writtenItems_eq_map, writtenItems_eq_map, sameAs_arr, hties, Json.arr.injEq]
        exact readAlike_items ih (decoded_arr.mp hx) (decoded_arr.mp hy)
      · rw [ReadAlike, readBack_arr, Json.written]
        apply iff_of_false
        · exact fun h => harr (readBack_eq_arr h.symm)
        · rintro ⟨⟨_, hwritten, -⟩, -⟩
          exact harr (written_eq_arr hwritten)
  | obj members ih =>
      intro y hx hy
      by_cases hobj : ∃ members', y = .obj members'
      · obtain ⟨members', rfl⟩ := hobj
        obtain ⟨hnodup, hmembers⟩ := decoded_obj.mp hx
        obtain ⟨hnodup', hmembers'⟩ := decoded_obj.mp hy
        have hkeys : ∀ ms : List (String × Json),
            (ms.map fun m => (m.1, readBack localeLe m.2)).map Prod.fst =
              ms.map Prod.fst := by
          intro ms
          rw [List.map_map]
          rfl
        have hties : (Json.obj members).TiesInOrder localeLe (.obj members') ↔
            SameTies localeLe (members.map Prod.fst) (members'.map Prod.fst) ∧
              Json.TiesInOrderMembers localeLe members members' := by
          simp [Json.TiesInOrder]
        have hcopies := hnodup
        rw [← hkeys] at hcopies
        rw [ReadAlike, readBack_obj, readBack_obj, Json.written, Json.written, sameAs_obj,
          hties, Json.obj.injEq, sortMembers_eq_iff htotal htrans hcopies, hkeys, hkeys,
          keptMembers_map, keptMembers_map,
          readAlike_members ih hmembers hnodup' hmembers']
        tauto
      · rw [ReadAlike, readBack_obj, Json.written]
        apply iff_of_false
        · exact fun h => hobj (readBack_eq_obj h.symm)
        · rintro ⟨⟨_, _, hwritten, -⟩, -⟩
          exact hobj (written_eq_obj hwritten)
  | null =>
      intro y _ _
      exact readAlike_scalar rfl (by simp [Json.written]) (by simp [Json.written])
        (by simp [Json.TiesInOrder]) y
  | bool value =>
      intro y _ _
      exact readAlike_scalar rfl (by simp [Json.written]) (by simp [Json.written])
        (by simp [Json.TiesInOrder]) y
  | num value =>
      intro y _ _
      apply readAlike_scalar rfl
      · intro items h
        cases written_eq_arr h with
        | intro _ h => cases h
      · intro members h
        cases written_eq_obj h with
        | intro _ h => cases h
      · simp [Json.TiesInOrder]
  | str value =>
      intro y _ _
      exact readAlike_scalar rfl (by simp [Json.written]) (by simp [Json.written])
        (by simp [Json.TiesInOrder]) y

end

end AgentSkeptic.Support

namespace AgentSkeptic.Bundle

open AgentSkeptic.Support

/-- SHA-256 of the UTF-8 text with sorted keys. -/
def certificateCanonicalDigestHex (sha256Hex : Bytes → String)
    (localeLe : String → String → Bool) (certificate : Json) : String :=
  sha256Hex (utf8Encode (stringifyWithSortedKeys localeLe certificate).toList)

/-- Equal values have the names that the collation does not tell apart in the same order,
and others differ by more than what the text leaves out. -/
def SortedTextFaithful (localeLe : String → String → Bool) (x y : Json) : Prop :=
  (x.SameAs y → x.TiesInOrder localeLe y) ∧
    (x.written.SameAs y.written → x.TiesInOrder localeLe y → x.SameAs y)

section

variable {localeLe : String → String → Bool}
  (htotal : ∀ a b, localeLe a b = true ∨ localeLe b a = true)
  (htrans : ∀ a b c, localeLe a b = true → localeLe b c = true → localeLe a c = true)
  {x y : Json} (hx : x.Decoded) (hy : y.Decoded)

include htotal htrans hx hy

theorem stringifyWithSortedKeys_eq_iff :
    stringifyWithSortedKeys localeLe x = stringifyWithSortedKeys localeLe y ↔
      x.written.SameAs y.written ∧ x.TiesInOrder localeLe y := by
  rw [stringifyWithSortedKeys_eq_iff_readBack localeLe hx hy]
  exact readAlike htotal htrans x y hx hy

/-- The text with sorted keys, and the digest of it, identify two values up to the order
of members exactly when nothing that sets them apart is lost, and nothing else is kept. -/
theorem certificateDigest_canonical_iff :
    ((stringifyWithSortedKeys localeLe x = stringifyWithSortedKeys localeLe y ↔
        x.SameAs y) ↔ SortedTextFaithful localeLe x y) ∧
      ∀ sha256Hex : Bytes → String,
        (certificateCanonicalDigestHex sha256Hex localeLe x =
            certificateCanonicalDigestHex sha256Hex localeLe y →
          stringifyWithSortedKeys localeLe x = stringifyWithSortedKeys localeLe y) →
        ((certificateCanonicalDigestHex sha256Hex localeLe x =
            certificateCanonicalDigestHex sha256Hex localeLe y ↔ x.SameAs y) ↔
          SortedTextFaithful localeLe x y) := by
  have htext : (stringifyWithSortedKeys localeLe x = stringifyWithSortedKeys localeLe y ↔
      x.SameAs y) ↔ SortedTextFaithful localeLe x y := by
    rw [stringifyWithSortedKeys_eq_iff htotal htrans hx hy, SortedTextFaithful]
    constructor
    · intro h
      exact ⟨fun hsame => (h.mpr hsame).2, fun hwritten hties => h.mp ⟨hwritten, hties⟩⟩
    · rintro ⟨hties, hsame⟩
      constructor
      · rintro ⟨hwritten, hinOrder⟩
        exact hsame hwritten hinOrder
      · intro h
        exact ⟨h.written, hties h⟩
  refine ⟨htext, ?_⟩
  intro sha256Hex hcollision
  have hdigest : certificateCanonicalDigestHex sha256Hex localeLe x =
      certificateCanonicalDigestHex sha256Hex localeLe y ↔
      stringifyWithSortedKeys localeLe x = stringifyWithSortedKeys localeLe y := by
    refine ⟨hcollision, ?_⟩
    intro h
    rw [certificateCanonicalDigestHex, certificateCanonicalDigestHex, h]
  rw [hdigest, htext]

end

/-! ## A collation that ignores a character -/

/-- The order of `localeCompare` on lower-case ASCII letters and soft hyphens. -/
def softHyphenLe (a b : String) : Bool :=
  utf16Le (String.ofList (a.toList.filter (· ≠ '\u00ad')))
    (String.ofList (b.toList.filter (· ≠ '\u00ad')))

theorem softHyphenLe_total (a b : String) :
    softHyphenLe a b = true ∨ softHyphenLe b a = true :=
  Bool.or_eq_true_iff.mp (utf16Le_total _ _)

theorem softHyphenLe_trans (a b c : String) (hab : softHyphenLe a b = true)
    (hbc : softHyphenLe b c = true) : softHyphenLe a c = true :=
  utf16Le_trans hab hbc

theorem certificateDigest_canonical_reordered :
    (stringifyWithSortedKeys softHyphenLe (.obj [("b", .bool true), ("a", .str "1")]) =
        stringifyWithSortedKeys softHyphenLe (.obj [("a", .str "1"), ("b", .bool true)]) ↔
      (Json.obj [("b", .bool true), ("a", .str "1")]).SameAs
        (.obj [("a", .str "1"), ("b", .bool true)])) ↔
      SortedTextFaithful softHyphenLe (.obj [("b", .bool true), ("a", .str "1")])
        (.obj [("a", .str "1"), ("b", .bool true)]) := by
  have hx : (Json.obj [("b", .bool true), ("a", .str "1")]).Decoded :=
    ⟨by decide, trivial, trivial, trivial⟩
  have hy : (Json.obj [("a", .str "1"), ("b", .bool true)]).Decoded :=
    ⟨by decide, trivial, trivial, trivial⟩
  exact (certificateDigest_canonical_iff softHyphenLe_total softHyphenLe_trans hx hy).1

/-- Two documents of one text, and one document of two texts. -/
theorem sortedText_not_canonical :
    (stringifyWithSortedKeys softHyphenLe
          (.obj [("workflowId", .str "wf"), ("__proto__", .obj [("steps", .arr [])])]) =
        stringifyWithSortedKeys softHyphenLe (.obj [("workflowId", .str "wf")]) ∧
      ¬ (Json.obj [("workflowId", .str "wf"), ("__proto__", .obj [("steps", .arr [])])]).SameAs
        (.obj [("workflowId", .str "wf")])) ∧
    (Json.obj [("code", .str "a"), ("co\u00adde", .str "b")]).SameAs
        (.obj [("co\u00adde", .str "b"), ("code", .str "a")]) ∧
      stringifyWithSortedKeys softHyphenLe
          (.obj [("code", .str "a"), ("co\u00adde", .str "b")]) ≠
        stringifyWithSortedKeys softHyphenLe
          (.obj [("co\u00adde", .str "b"), ("code", .str "a")]) := by
  refine ⟨⟨by decide +kernel, ?_⟩, ?_, by decide +kernel⟩
  · rw [sameAs_obj]
    rintro ⟨named, hperm, hsame⟩
    have hlength := (sameMembers_iff.mp hsame).length_eq
    rw [hperm.length_eq] at hlength
    simp at hlength
  · rw [sameAs_obj]
    exact ⟨_, List.Perm.swap _ _ _, sameMembers_refl _⟩

end AgentSkeptic.Bundle

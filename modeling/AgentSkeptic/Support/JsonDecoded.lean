import AgentSkeptic.Support.SortedJson

/-!
# What `JSON.parse` returns

A text that parses gives a decoded value (`parseJson_decoded`), and the copy of a decoded
value through its own text is copied without a change from then on
(`Json.Decoded.wellFormed_reread`).  Objects that have the same members in different
orders answer alike.
-/

namespace AgentSkeptic.Support

theorem decodedItems_iff {items : List Json} :
    Json.DecodedItems items ↔ ∀ v ∈ items, v.Decoded := by
  induction items with
  | nil => simp [Json.DecodedItems]
  | cons item items ih => simp [Json.DecodedItems, ih]

theorem decodedMembers_iff {members : List (String × Json)} :
    Json.DecodedMembers members ↔ ∀ m ∈ members, m.2.Decoded := by
  induction members with
  | nil => simp [Json.DecodedMembers]
  | cons m members ih => simp [Json.DecodedMembers, ih]

theorem decoded_arr {items : List Json} :
    (Json.arr items).Decoded ↔ ∀ v ∈ items, v.Decoded := decodedItems_iff

theorem decoded_obj {members : List (String × Json)} :
    (Json.obj members).Decoded ↔
      (members.map Prod.fst).Nodup ∧ ∀ m ∈ members, m.2.Decoded := by
  rw [Json.Decoded, decodedMembers_iff]

/-! ## Setting a member -/

theorem any_key_iff {members : List (String × Json)} {key : String} :
    members.any (·.1 == key) = true ↔ key ∈ members.map Prod.fst := by
  simp

theorem mem_setMember {members : List (String × Json)} {key : String} {value : Json}
    {m : String × Json} (h : m ∈ setMember members key value) :
    m = (key, value) ∨ m ∈ members := by
  unfold setMember at h
  split_ifs at h
  · obtain ⟨n, hn, rfl⟩ := List.mem_map.mp h
    split_ifs
    · exact .inl rfl
    · exact .inr hn
  · rcases List.mem_append.mp h with hold | hnew
    · exact .inr hold
    · exact .inl (List.mem_singleton.mp hnew)

theorem nodup_setMember {members : List (String × Json)} (key : String) (value : Json)
    (h : (members.map Prod.fst).Nodup) :
    ((setMember members key value).map Prod.fst).Nodup := by
  by_cases hkey : key ∈ members.map Prod.fst
  · have hkeys : (setMember members key value).map Prod.fst = members.map Prod.fst := by
      rw [setMember, if_pos (any_key_iff.mpr hkey), List.map_map]
      apply List.map_congr_left
      intro m _
      dsimp only [Function.comp_apply]
      split_ifs with hm
      · exact hm.symm
      · rfl
    rw [hkeys]
    exact h
  · rw [setMember_new value hkey, List.map_append, List.nodup_append]
    refine ⟨h, List.nodup_singleton _, ?_⟩
    intro k hk k' hk' heq
    obtain rfl : k' = key := by simpa using hk'
    exact hkey (heq ▸ hk)

theorem Json.Decoded.setMember {members : List (String × Json)} {key : String}
    {value : Json} (h : (Json.obj members).Decoded) (hvalue : value.Decoded) :
    (Json.obj (setMember members key value)).Decoded := by
  obtain ⟨hnodup, hall⟩ := decoded_obj.mp h
  apply decoded_obj.mpr
  refine ⟨nodup_setMember key value hnodup, ?_⟩
  intro m hm
  rcases mem_setMember hm with rfl | hold
  · exact hvalue
  · exact hall m hold

theorem Json.Decoded.perm {members members' : List (String × Json)}
    (h : (Json.obj members).Decoded) (hperm : members'.Perm members) :
    (Json.obj members').Decoded := by
  obtain ⟨hnodup, hall⟩ := decoded_obj.mp h
  apply decoded_obj.mpr
  exact ⟨(hperm.map Prod.fst).nodup_iff.mpr hnodup,
    fun m hm => hall m (hperm.mem_iff.mp hm)⟩

/-! ## Parsing -/

theorem JsNumber.readable_of_parse? {text : List Char} {n : JsNumber}
    (h : JsNumber.parse? text = some n) (hfinite : n.isFinite = true) : n.Readable := by
  rw [JsNumber.Readable, JsNumber.stringify, if_pos hfinite]
  exact JsNumber.parse?_toText_of_parse? h hfinite

theorem wordValue_decoded {chars : List Char} {v : Json} (h : wordValue chars = some v) :
    v.Decoded := by
  unfold wordValue at h
  split_ifs at h
  · obtain rfl := Option.some.inj h
    trivial
  · obtain rfl := Option.some.inj h
    trivial
  · obtain rfl := Option.some.inj h
    trivial
  · obtain ⟨n, hn, rfl⟩ := Option.map_eq_some_iff.mp h
    exact JsNumber.readable_of_parse? hn

/-- What the three parsers return for a fuel, when what they have read is decoded. -/
structure ParsesDecoded (fuel : ℕ) : Prop where
  value : ∀ {tokens rest : List Token} {v : Json},
    parseValue fuel tokens = some (v, rest) → v.Decoded
  items : ∀ {read : List Json} {tokens rest : List Token} {v : Json},
    (Json.arr read).Decoded → parseItems fuel read tokens = some (v, rest) → v.Decoded
  members : ∀ {read : List (String × Json)} {tokens rest : List Token} {v : Json},
    (Json.obj read).Decoded → parseMembers fuel read tokens = some (v, rest) →
      v.Decoded

/-- The empty array and the empty object, from which the parsers start. -/
theorem decoded_arr_nil : (Json.arr []).Decoded := trivial

theorem decoded_obj_nil : (Json.obj []).Decoded :=
  decoded_obj.mpr ⟨List.nodup_nil, fun _ hm => absurd hm List.not_mem_nil⟩

theorem parsesDecoded_zero : ParsesDecoded 0 where
  value := by
    intro tokens rest v h
    unfold parseValue at h
    split at h
    · cases h
      trivial
    · obtain ⟨w, hw, heq⟩ := Option.map_eq_some_iff.mp h
      cases heq
      exact wordValue_decoded hw
    all_goals contradiction
  items := by
    intro read tokens rest v _ h
    cases h
  members := by
    intro read tokens rest v _ h
    cases h

theorem ParsesDecoded.succ {fuel : ℕ} (ih : ParsesDecoded fuel) :
    ParsesDecoded (fuel + 1) where
  value := by
    intro tokens rest v h
    unfold parseValue at h
    split at h
    · cases h
      trivial
    · obtain ⟨w, hw, heq⟩ := Option.map_eq_some_iff.mp h
      cases heq
      exact wordValue_decoded hw
    · cases h
      exact decoded_arr_nil
    · cases h
      exact decoded_obj_nil
    · rename_i hfuel
      obtain rfl := Nat.succ.inj hfuel
      exact ih.items decoded_arr_nil h
    · rename_i hfuel
      obtain rfl := Nat.succ.inj hfuel
      exact ih.members decoded_obj_nil h
    · cases h
  items := by
    intro read tokens rest v hread h
    unfold parseItems at h
    have hsnoc : ∀ item : Json, item.Decoded → (Json.arr (read ++ [item])).Decoded := by
      intro item hitem
      apply decoded_arr.mpr
      intro w hw
      rcases List.mem_append.mp hw with hold | hnew
      · exact decoded_arr.mp hread w hold
      · rw [List.mem_singleton.mp hnew]
        exact hitem
    split at h
    · rename_i item more hitem
      exact ih.items (hsnoc item (ih.value hitem)) h
    · rename_i item more hitem
      cases h
      exact hsnoc item (ih.value hitem)
    · cases h
  members := by
    intro read tokens rest v hread h
    unfold parseMembers at h
    split at h
    · rename_i hfuel
      obtain rfl := Nat.succ.inj hfuel
      split at h
      · rename_i value more hvalue
        exact ih.members (hread.setMember (ih.value hvalue)) h
      · rename_i value more hvalue
        cases h
        exact (hread.setMember (ih.value hvalue)).perm (propertyOrder_perm _)
      · cases h
    · cases h

theorem parsesDecoded (fuel : ℕ) : ParsesDecoded fuel := by
  induction fuel with
  | zero => exact parsesDecoded_zero
  | succ fuel ih => exact ih.succ

theorem parseJson_decoded {text : List Char} {v : Json} (h : parseJson text = some v) :
    v.Decoded := by
  unfold parseJson at h
  split at h
  · cases h
  · split at h
    · rename_i value hvalue
      cases h
      exact (parsesDecoded _).value hvalue
    · cases h

/-! ## Copies -/

theorem rereadItems_eq_map (items : List Json) :
    Json.rereadItems items = items.map Json.reread := by
  induction items with
  | nil => rfl
  | cons item items ih => rw [Json.rereadItems, ih, List.map_cons]

theorem rereadMembers_eq_map (members : List (String × Json)) :
    Json.rereadMembers members = members.map fun m => (m.1, m.2.reread) := by
  induction members with
  | nil => rfl
  | cons m members ih => rw [Json.rereadMembers, ih, List.map_cons]

mutual

/-- A copy is a value that `JSON.parse` can return. -/
theorem Json.Decoded.wellFormed_reread : ∀ {v : Json}, v.Decoded → v.reread.WellFormed
  | .null, _ => trivial
  | .bool _, _ => trivial
  | .num value, h => by
      rw [Json.reread]
      split_ifs with hfinite
      · exact h hfinite
      · trivial
  | .str _, _ => trivial
  | .arr items, h => wellFormedItems_reread h
  | .obj members, h => by
      have hperm := propertyOrder_perm (Json.rereadMembers members)
      refine ⟨?_, propertyOrder_idem _, ?_⟩
      · rw [(hperm.map Prod.fst).nodup_iff, keys_rereadMembers]
        exact h.1
      · apply wellFormedMembers_iff.mpr
        intro m hm
        exact wellFormedMembers_iff.mp (wellFormedMembers_reread h.2) m
          (hperm.mem_iff.mp hm)

theorem wellFormedItems_reread : ∀ {items : List Json}, Json.DecodedItems items →
    Json.WellFormedItems (Json.rereadItems items)
  | [], _ => trivial
  | _ :: _, h => ⟨h.1.wellFormed_reread, wellFormedItems_reread h.2⟩

theorem wellFormedMembers_reread : ∀ {members : List (String × Json)},
    Json.DecodedMembers members → Json.WellFormedMembers (Json.rereadMembers members)
  | [], _ => trivial
  | (_, _) :: _, h => ⟨h.1.wellFormed_reread, wellFormedMembers_reread h.2⟩

end

/-! ## Exact values -/

mutual

/-- A decoded value without infinite numbers: its text says everything but the order of
the members. -/
def Json.Exact : Json → Prop
  | .null | .bool _ | .str _ => True
  | .num value => value.Readable
  | .arr items => Json.ExactItems items
  | .obj members => (members.map Prod.fst).Nodup ∧ Json.ExactMembers members

def Json.ExactItems : List Json → Prop
  | [] => True
  | item :: items => Json.Exact item ∧ Json.ExactItems items

def Json.ExactMembers : List (String × Json) → Prop
  | [] => True
  | (_, value) :: members => Json.Exact value ∧ Json.ExactMembers members

end

theorem exact_arr {items : List Json} :
    (Json.arr items).Exact ↔ ∀ v ∈ items, v.Exact := by
  rw [Json.Exact]
  induction items with
  | nil => simp [Json.ExactItems]
  | cons item items ih => simp [Json.ExactItems, ih]

theorem exactMembers_iff {members : List (String × Json)} :
    Json.ExactMembers members ↔ ∀ m ∈ members, m.2.Exact := by
  induction members with
  | nil => simp [Json.ExactMembers]
  | cons m members ih => simp [Json.ExactMembers, ih]

theorem exact_obj {members : List (String × Json)} :
    (Json.obj members).Exact ↔
      (members.map Prod.fst).Nodup ∧ ∀ m ∈ members, m.2.Exact := by
  rw [Json.Exact, exactMembers_iff]

theorem Json.Exact.setMember {members : List (String × Json)} {key : String}
    {value : Json} (h : (Json.obj members).Exact) (hvalue : value.Exact) :
    (Json.obj (Support.setMember members key value)).Exact := by
  obtain ⟨hnodup, hall⟩ := exact_obj.mp h
  apply exact_obj.mpr
  refine ⟨nodup_setMember key value hnodup, ?_⟩
  intro m hm
  rcases mem_setMember hm with rfl | hold
  · exact hvalue
  · exact hall m hold

mutual

theorem Json.Exact.decoded : ∀ {v : Json}, v.Exact → v.Decoded
  | .null, _ => trivial
  | .bool _, _ => trivial
  | .num _, h => fun _ => h
  | .str _, _ => trivial
  | .arr _, h => decodedItems_of_exact h
  | .obj _, h => ⟨h.1, decodedMembers_of_exact h.2⟩

theorem decodedItems_of_exact : ∀ {items : List Json},
    Json.ExactItems items → Json.DecodedItems items
  | [], _ => trivial
  | _ :: _, h => ⟨h.1.decoded, decodedItems_of_exact h.2⟩

theorem decodedMembers_of_exact : ∀ {members : List (String × Json)},
    Json.ExactMembers members → Json.DecodedMembers members
  | [], _ => trivial
  | (_, _) :: _, h => ⟨h.1.decoded, decodedMembers_of_exact h.2⟩

end

mutual

theorem Json.WellFormed.exact : ∀ {v : Json}, v.WellFormed → v.Exact
  | .null, _ => trivial
  | .bool _, _ => trivial
  | .num _, h => h
  | .str _, _ => trivial
  | .arr _, h => exactItems_of_wellFormed h
  | .obj _, h => ⟨h.1, exactMembers_of_wellFormed h.2.2⟩

theorem exactItems_of_wellFormed : ∀ {items : List Json},
    Json.WellFormedItems items → Json.ExactItems items
  | [], _ => trivial
  | _ :: _, h => ⟨h.1.exact, exactItems_of_wellFormed h.2⟩

theorem exactMembers_of_wellFormed : ∀ {members : List (String × Json)},
    Json.WellFormedMembers members → Json.ExactMembers members
  | [], _ => trivial
  | (_, _) :: _, h => ⟨h.1.exact, exactMembers_of_wellFormed h.2⟩

end

/-! ## Members in another order -/

theorem ownMember_perm {members members' : List (String × Json)}
    (hperm : members'.Perm members) (h : (members.map Prod.fst).Nodup) (key : String) :
    ownMember members' key = ownMember members key := by
  have h' : (members'.map Prod.fst).Nodup := (hperm.map Prod.fst).nodup_iff.mpr h
  apply Option.ext
  intro value
  rw [ownMember_iff h', ownMember_iff h, hperm.mem_iff]

theorem ownMember_map (members : List (String × Json)) (f : Json → Json) (key : String) :
    ownMember (members.map fun m => (m.1, f m.2)) key =
      (ownMember members key).map f := by
  rw [ownMember, List.find?_map, Option.map_map, ownMember, Option.map_map]
  rfl

theorem ownMember_setMember (members : List (String × Json)) (key : String)
    (value : Json) : ownMember (setMember members key value) key = some value := by
  by_cases hkey : key ∈ members.map Prod.fst
  · rw [setMember, if_pos (any_key_iff.mpr hkey)]
    induction members with
    | nil => cases hkey
    | cons m members ih =>
        by_cases hm : m.1 = key
        · simp [ownMember, hm]
        · have hrest : key ∈ members.map Prod.fst := by
            rcases List.mem_cons.mp hkey with heq | hrest
            · exact absurd heq.symm hm
            · exact hrest
          have hfind := ih hrest
          simpa [ownMember, hm] using hfind
  · have hnone : ownMember members key = none := by
      rw [ownMember, Option.map_eq_none_iff, List.find?_eq_none]
      intro m hm hmkey
      exact hkey (List.mem_map.mpr ⟨m, hm, by simpa using hmkey⟩)
    rw [setMember_new value hkey, ownMember, List.find?_append]
    rw [ownMember, Option.map_eq_none_iff] at hnone
    simp [hnone]

end AgentSkeptic.Support

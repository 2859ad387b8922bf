import AgentSkeptic.Engine.CanonicalText
import AgentSkeptic.Engine.PlanLogicalSteps
import AgentSkeptic.Quick.FlattenActions

/-!
# Canonical text as a key

Two JSON values have one canonical text exactly when they differ in the order of members
only (`canonicalJsonForParams_eq_iff`), so the comparison of two observations and the key
of an action compare values.  The two encoders of the code write the same text.
-/

namespace AgentSkeptic.Support

mutual

/-- The values are equal up to the order of the members of their objects, at every
depth. -/
def Json.SameAs : Json → Json → Prop
  | .arr items, w => ∃ items', w = .arr items' ∧ Json.SameItems items items'
  | .obj members, w => ∃ members' members'', w = .obj members'' ∧
      members'.Perm members'' ∧ Json.SameMembers members members'
  | .null, w => w = .null
  | .bool value, w => w = .bool value
  | .num value, w => w = .num value
  | .str value, w => w = .str value

def Json.SameItems : List Json → List Json → Prop
  | [], ys => ys = []
  | x :: xs, ys => ∃ y ys', ys = y :: ys' ∧ Json.SameAs x y ∧ Json.SameItems xs ys'

def Json.SameMembers : List (String × Json) → List (String × Json) → Prop
  | [], ys => ys = []
  | (key, x) :: xs, ys => ∃ y ys', ys = (key, y) :: ys' ∧ Json.SameAs x y ∧
      Json.SameMembers xs ys'

end

mutual

theorem Json.SameAs.refl : ∀ v : Json, v.SameAs v
  | .arr items => ⟨items, rfl, sameItems_refl items⟩
  | .obj members => ⟨members, members, rfl, List.Perm.refl _, sameMembers_refl members⟩
  | .null => rfl
  | .bool _ => rfl
  | .num _ => rfl
  | .str _ => rfl

theorem sameItems_refl : ∀ items : List Json, Json.SameItems items items
  | [] => rfl
  | item :: items => ⟨item, items, rfl, .refl item, sameItems_refl items⟩

theorem sameMembers_refl : ∀ members : List (String × Json),
    Json.SameMembers members members
  | [] => rfl
  | (_, value) :: members => ⟨value, members, rfl, .refl value, sameMembers_refl members⟩

end

/-- A rearranged image is the image of a rearranged list. -/
theorem exists_perm_of_perm_map {α β : Type*} {f : α → β} {images : List β} {as : List α}
    (h : images.Perm (as.map f)) : ∃ cs : List α, cs.Perm as ∧ cs.map f = images := by
  have himage : List.Forall₂ (fun (b : β) (a : α) => b = f a) (as.map f) as := by
    rw [List.forall₂_map_left_iff]
    exact List.forall₂_same.mpr fun _ _ => rfl
  obtain ⟨cs, hcs, hperm⟩ := List.perm_comp_forall₂ h himage
  refine ⟨cs, hperm, ?_⟩
  have hall := List.forall₂_map_right_iff.mpr hcs
  rw [List.forall₂_eq_eq_eq] at hall
  exact hall.symm

end AgentSkeptic.Support

namespace AgentSkeptic.Engine

open AgentSkeptic.Support

/-! ## Equal values have one text -/

mutual

theorem sortKeys_congr : ∀ {x y : Json}, x.Exact → x.SameAs y → sortKeys x = sortKeys y
  | .arr items, y, hx, h => by
      obtain ⟨items', rfl, hitems⟩ := h
      rw [sortKeys, sortKeys, sortKeysItems_congr hx hitems]
  | .obj members, y, hx, h => by
      obtain ⟨members', members'', rfl, hperm, hmembers⟩ := h
      have hnodup : ((sortKeysMembers members).map Prod.fst).Nodup := by
        rw [keys_sortKeysMembers]
        exact hx.1
      have hsame := sortKeysMembers_congr hx.2 hmembers
      rw [sortKeys, sortKeys]
      congr 1
      apply sortBy_eq_of_perm _ hnodup
      rw [hsame, sortKeysMembers_eq_map, sortKeysMembers_eq_map]
      exact hperm.map _
  | .null, y, _, h => by rw [show y = .null from h]
  | .bool value, y, _, h => by rw [show y = .bool value from h]
  | .num value, y, _, h => by rw [show y = .num value from h]
  | .str value, y, _, h => by rw [show y = .str value from h]

theorem sortKeysItems_congr : ∀ {xs ys : List Json}, Json.ExactItems xs →
    Json.SameItems xs ys → sortKeysItems xs = sortKeysItems ys
  | [], ys, _, h => by rw [show ys = [] from h]
  | x :: xs, ys, hx, h => by
      obtain ⟨y, ys', rfl, hxy, hrest⟩ := h
      rw [sortKeysItems, sortKeysItems, sortKeys_congr hx.1 hxy,
        sortKeysItems_congr hx.2 hrest]

theorem sortKeysMembers_congr : ∀ {xs ys : List (String × Json)}, Json.ExactMembers xs →
    Json.SameMembers xs ys → sortKeysMembers xs = sortKeysMembers ys
  | [], ys, _, h => by rw [show ys = [] from h]
  | (key, x) :: xs, ys, hx, h => by
      obtain ⟨y, ys', rfl, hxy, hrest⟩ := h
      rw [sortKeysMembers, sortKeysMembers, sortKeys_congr hx.1 hxy,
        sortKeysMembers_congr hx.2 hrest]

end

/-! ## Values of one text are equal -/

/-- What is read of a text shows what kind of value was written. -/
theorem recoded_kind (y : Json) (hy : y.Exact) :
    (∃ items, y = .arr items ∧ recoded y = .arr (items.map recoded)) ∨
      (∃ members, y = .obj members ∧ recoded y = .obj (recodedMembers members)) ∨
        recoded y = y := by
  cases y with
  | arr items => exact .inl ⟨items, rfl, recoded_arr items⟩
  | obj members => exact .inr (.inl ⟨members, rfl, recoded_obj members⟩)
  | num value => exact .inr (.inr (recoded_num hy))
  | null => exact .inr (.inr rfl)
  | bool value => exact .inr (.inr rfl)
  | str value => exact .inr (.inr rfl)

/-- A scalar is all that is read as that scalar. -/
theorem eq_of_recoded_scalar {x y : Json} (hy : y.Exact) (h : x = recoded y)
    (harr : ∀ items, x ≠ .arr items) (hobj : ∀ members, x ≠ .obj members) : y = x := by
  rcases recoded_kind y hy with ⟨items, -, hread⟩ | ⟨members, -, hread⟩ | hread
  · rw [hread] at h
    exact absurd h (harr _)
  · rw [hread] at h
    exact absurd h (hobj _)
  · rw [h, hread]

mutual

theorem sameAs_of_recoded : ∀ {x y : Json}, x.Exact → y.Exact → recoded x = recoded y →
    x.SameAs y
  | .arr items, y, hx, hy, h => by
      rw [recoded_arr] at h
      rcases recoded_kind y hy with ⟨items', rfl, hread⟩ | ⟨members, -, hread⟩ | hread
      · rw [hread] at h
        exact ⟨items', rfl, sameItems_of_recoded hx hy (Json.arr.inj h)⟩
      · rw [hread] at h
        cases h
      · rw [hread] at h
        subst h
        refine ⟨_, rfl, sameItems_of_recoded hx hy ?_⟩
        rw [recoded_arr] at hread
        exact (Json.arr.inj hread).symm
  | .obj members, y, hx, hy, h => by
      rw [recoded_obj] at h
      obtain ⟨members', rfl⟩ : ∃ members', y = .obj members' := by
        rcases recoded_kind y hy with ⟨items, -, hread⟩ | ⟨members', rfl, -⟩ | hread
        · rw [hread] at h
          cases h
        · exact ⟨members', rfl⟩
        · exact ⟨_, (h.trans hread).symm⟩
      rw [recoded_obj] at h
      have hperm : (members.map fun m => (m.1, recoded m.2)).Perm
          (members'.map fun m => (m.1, recoded m.2)) := by
        apply (recodedMembers_perm members).symm.trans
        rw [Json.obj.inj h]
        exact recodedMembers_perm members'
      obtain ⟨ordered, hordered, hmap⟩ := exists_perm_of_perm_map hperm
      have hexact : ∀ m ∈ ordered, m.2.Exact := fun m hm =>
        (exact_obj.mp hy).2 m (hordered.mem_iff.mp hm)
      exact ⟨ordered, members', rfl, hordered,
        sameMembers_of_recoded hx.2 (exactMembers_iff.mpr hexact) hmap.symm⟩
  | .null, y, _, hy, h => eq_of_recoded_scalar hy h (by simp) (by simp)
  | .bool _, y, _, hy, h => eq_of_recoded_scalar hy h (by simp) (by simp)
  | .num value, y, hx, hy, h => by
      rw [recoded_num hx] at h
      exact eq_of_recoded_scalar hy h (by simp) (by simp)
  | .str _, y, _, hy, h => eq_of_recoded_scalar hy h (by simp) (by simp)

theorem sameItems_of_recoded : ∀ {xs ys : List Json}, Json.ExactItems xs →
    Json.ExactItems ys → xs.map recoded = ys.map recoded → Json.SameItems xs ys
  | [], ys, _, _, h => List.map_eq_nil_iff.mp h.symm
  | x :: xs, ys, hx, hy, h => by
      cases ys with
      | nil => cases h
      | cons y ys =>
          obtain ⟨hxy, hrest⟩ := List.cons.inj h
          exact ⟨y, ys, rfl, sameAs_of_recoded hx.1 hy.1 hxy,
            sameItems_of_recoded hx.2 hy.2 hrest⟩

theorem sameMembers_of_recoded : ∀ {xs ys : List (String × Json)},
    Json.ExactMembers xs → Json.ExactMembers ys →
      (xs.map fun m : String × Json => (m.1, recoded m.2)) =
        ys.map (fun m : String × Json => (m.1, recoded m.2)) → Json.SameMembers xs ys
  | [], ys, _, _, h => List.map_eq_nil_iff.mp h.symm
  | (key, x) :: xs, ys, hx, hy, h => by
      cases ys with
      | nil => cases h
      | cons m ys =>
          obtain ⟨key', y⟩ := m
          obtain ⟨hm, hrest⟩ := List.cons.inj h
          obtain ⟨rfl, hxy⟩ := Prod.mk.inj hm
          exact ⟨y, ys, rfl, sameAs_of_recoded hx.1 hy.1 hxy,
            sameMembers_of_recoded hx.2 hy.2 hrest⟩

end

/-- Two JSON values have one canonical text exactly when they are equal up to the order
of members. -/
theorem canonicalJsonForParams_eq_iff {x y : Json} (hx : x.Exact) (hy : y.Exact) :
    canonicalJsonForParams x = canonicalJsonForParams y ↔ x.SameAs y := by
  constructor
  · intro h
    have hread := parseJson_canonicalJsonForParams hx.decoded
    rw [h, parseJson_canonicalJsonForParams hy.decoded] at hread
    exact sameAs_of_recoded hx hy (Option.some.inj hread).symm
  · intro h
    rw [canonicalJsonForParams_eq, canonicalJsonForParams_eq, sortKeys_congr hx h]

end AgentSkeptic.Engine

namespace AgentSkeptic.Quick

open AgentSkeptic.Support AgentSkeptic.Engine

mutual

/-- The second encoder writes the same text. -/
theorem stableStringify_eq : ∀ v : Json, stableStringify v = canonicalJsonForParams v
  | .arr items => by rw [stableStringify, stableItems_eq items, canonicalJsonForParams]
  | .obj members => by
      rw [stableStringify, stableMembers_eq members, canonicalJsonForParams]
  | .null => rfl
  | .bool _ => rfl
  | .num _ => rfl
  | .str _ => rfl

theorem stableItems_eq : ∀ items : List Json, stableItems items = canonicalItems items
  | [] => rfl
  | item :: items => by
      rw [stableItems, stableStringify_eq item, stableItems_eq items, canonicalItems]

theorem stableMembers_eq : ∀ members : List (String × Json),
    stableMembers members = canonicalMembers members
  | [] => rfl
  | (key, value) :: members => by
      rw [stableMembers, stableStringify_eq value, stableMembers_eq members,
        canonicalMembers]

end

/-- The canonical text is a key for JSON values, whichever encoder writes it. -/
theorem canonicalText_faithful {x y : Json} (hx : x.Exact) (hy : y.Exact) :
    (canonicalJsonForParams x = canonicalJsonForParams y ↔ x.SameAs y) ∧
      ∀ v : Json, stableStringify v = canonicalJsonForParams v :=
  ⟨canonicalJsonForParams_eq_iff hx hy, stableStringify_eq⟩

/-- Members in another order, and a text that looks like two items. -/
theorem canonicalText_faithful_reordered :
    (canonicalJsonForParams (.obj [("b", .arr [.str "1,2"]), ("a", .null)]) =
        canonicalJsonForParams (.obj [("a", .null), ("b", .arr [.str "1", .str "2"])]) ↔
      (Json.obj [("b", .arr [.str "1,2"]), ("a", .null)]).SameAs
        (.obj [("a", .null), ("b", .arr [.str "1", .str "2"])])) ∧
      ∀ v : Json, stableStringify v = canonicalJsonForParams v :=
  canonicalText_faithful ⟨by decide, ⟨trivial, trivial⟩, trivial, trivial⟩
    ⟨by decide, trivial, ⟨trivial, trivial, trivial⟩, trivial⟩

end AgentSkeptic.Quick

import AgentSkeptic.Quick.CanonicalKeys
import AgentSkeptic.Support.JsonSchema

/-!
# What reading a canonical text keeps

The value that is read of a canonical text differs from the one that was written in the
order of members only.  So it has the same text, and it is valid for the same schemas,
provided that a schema does not look at that order.
-/

namespace AgentSkeptic.Engine

open AgentSkeptic.Support

/-! ## The text -/

mutual

theorem sameAs_recoded : ∀ {v : Json}, v.Exact → v.SameAs (recoded v)
  | .arr items, h => by
      rw [recoded_arr]
      exact ⟨_, rfl, sameItems_recoded h⟩
  | .obj members, h => by
      rw [recoded_obj]
      exact ⟨_, _, rfl, (recodedMembers_perm members).symm, sameMembers_recoded h.2⟩
  | .num _, h => by
      rw [recoded_num h]
      exact rfl
  | .null, _ => rfl
  | .bool _, _ => rfl
  | .str _, _ => rfl

theorem sameItems_recoded : ∀ {items : List Json}, Json.ExactItems items →
    Json.SameItems items (items.map recoded)
  | [], _ => rfl
  | _ :: _, h => ⟨_, _, rfl, sameAs_recoded h.1, sameItems_recoded h.2⟩

theorem sameMembers_recoded : ∀ {members : List (String × Json)},
    Json.ExactMembers members →
      Json.SameMembers members (members.map fun m => (m.1, recoded m.2))
  | [], _ => rfl
  | (_, _) :: _, h => ⟨_, _, rfl, sameAs_recoded h.1, sameMembers_recoded h.2⟩

end

theorem exact_recoded {v : Json} (h : v.Exact) : (recoded v).Exact :=
  (wellFormed_recoded h.decoded).exact

theorem canonicalJsonForParams_recoded {v : Json} (h : v.Exact) :
    canonicalJsonForParams (recoded v) = canonicalJsonForParams v :=
  ((canonicalJsonForParams_eq_iff h (exact_recoded h)).mpr (sameAs_recoded h)).symm

/-- Values of one text are read as one value. -/
theorem recoded_eq_of_text {v w : Json} (hv : v.Exact) (hw : w.Exact)
    (h : canonicalJsonForParams v = canonicalJsonForParams w) : recoded v = recoded w := by
  have hread := parseJson_canonicalJsonForParams hv.decoded
  rw [h, parseJson_canonicalJsonForParams hw.decoded] at hread
  exact (Option.some.inj hread).symm

/-! ## The schemas -/

/-- The schema does not look at the order of members. -/
def OrderFree (schema : Schema) : Prop :=
  ∀ v : Json, v.Exact → schema.valid (recoded v) = schema.valid v

/-- A test of scalars says one thing of all arrays, and one of all objects. -/
theorem orderFree_scalar {test : Json → Bool}
    (harr : ∀ items items', test (.arr items) = test (.arr items'))
    (hobj : ∀ members members', test (.obj members) = test (.obj members')) :
    OrderFree (.scalar test) := by
  intro v hv
  rw [Schema.valid, Schema.valid]
  rcases recoded_kind v hv with ⟨items, rfl, hread⟩ | ⟨members, rfl, hread⟩ | hread
  · rw [hread]
    exact harr _ _
  · rw [hread]
    exact hobj _ _
  · rw [hread]

theorem orderFree_array {items : Schema} (h : OrderFree items) :
    OrderFree (.array items) := by
  intro v hv
  rcases recoded_kind v hv with ⟨vs, rfl, hread⟩ | ⟨members, rfl, hread⟩ | hread
  · rw [hread, Schema.valid, Schema.valid, List.all_map]
    have hall := exact_arr.mp hv
    apply Bool.eq_iff_iff.mpr
    simp only [List.all_eq_true, Function.comp_apply]
    exact forall₂_congr fun w hw => by rw [h w (hall w hw)]
  · rw [hread]
    rfl
  · rw [hread]

theorem validMembers_recoded {properties : List (String × Schema)}
    {members : List (String × Json)} (hmembers : (Json.obj members).Exact)
    (h : ∀ p ∈ properties, OrderFree p.2) :
    Schema.validMembers properties (recodedMembers members) =
      Schema.validMembers properties members := by
  obtain ⟨hnodup, hexact⟩ := exact_obj.mp hmembers
  induction properties with
  | nil => rfl
  | cons property properties ih =>
      obtain ⟨hproperty, hrest⟩ := List.forall_mem_cons.mp h
      rw [Schema.validMembers, Schema.validMembers, ih hrest,
        ownMember_recodedMembers hnodup]
      congr 1
      cases hfound : ownMember members property.1 with
      | none => rfl
      | some v => exact hproperty v (hexact _ (ownMember_eq_some hfound))

theorem orderFree_object {required : List String} {properties : List (String × Schema)}
    (h : ∀ p ∈ properties, OrderFree p.2) : OrderFree (.object required properties) := by
  intro v hv
  rcases recoded_kind v hv with ⟨vs, rfl, hread⟩ | ⟨members, rfl, hread⟩ | hread
  · rw [hread]
    rfl
  · have hnodup := (exact_obj.mp hv).1
    have hrequired : ∀ key, (ownMember (recodedMembers members) key).isSome =
        (ownMember members key).isSome := by
      intro key
      rw [ownMember_recodedMembers hnodup, Option.isSome_map]
    have hkeys : ∀ test : String → Bool,
        (recodedMembers members).all (fun m => test m.1) =
          members.all fun m => test m.1 := by
      intro test
      have hperm := (keys_recodedMembers members).all_eq (f := test)
      rwa [List.all_map, List.all_map] at hperm
    rw [hread, Schema.valid, Schema.valid, validMembers_recoded hv h]
    simp only [hrequired]
    rw [hkeys fun key => properties.any (·.1 == key)]
  · rw [hread]

theorem orderFree_exactlyOne {alternatives : List Schema}
    (h : ∀ s ∈ alternatives, OrderFree s) : OrderFree (.exactlyOne alternatives) := by
  intro v hv
  rw [Schema.exactlyOne, Schema.valid, Schema.valid]
  have hfilter : alternatives.filter (·.valid (recoded v)) =
      alternatives.filter (·.valid v) :=
    List.filter_congr fun s hs => h s hs v hv
  rw [hfilter]

end AgentSkeptic.Engine

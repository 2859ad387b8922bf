import AgentSkeptic.Support.JsonTrees

/-!
# What JavaScript reads of a document

A document keeps its number literals as they stand, since Python tells integers from numbers
with a fraction or exponent.  `JSON.parse` makes doubles of them all and puts integer keys
first; of several members with one key both languages keep the last value, in the place of
the first.
-/

namespace AgentSkeptic.Support

/-! ## Documents -/

/-- A number of a document: `±digits`, or `±digits * 10 ^ exponent` when it has a fraction
or an exponent. -/
inductive JsonLiteral where
  | integer (negative : Bool) (digits : ℕ)
  | decimal (negative : Bool) (digits : ℕ) (exponent : ℤ)
  deriving DecidableEq

inductive JsonScalar where
  | null
  | bool (value : Bool)
  | num (literal : JsonLiteral)
  | str (value : String)
  deriving DecidableEq

abbrev JsonDoc := JsonTree JsonScalar

/-- A later value of a key takes the place of the earlier one. -/
def setKey {α : Type} (members : List (String × α)) (member : String × α) :
    List (String × α) :=
  if members.any (·.1 == member.1) then
    members.map fun m => if m.1 = member.1 then member else m
  else members ++ [member]

def resolveKeys {α : Type} (members : List (String × α)) : List (String × α) :=
  members.foldl setKey []

section Resolved

variable {σ : Type}

mutual

/-- The document with distinct keys that both languages read. -/
def JsonTree.resolved : JsonTree σ → JsonTree σ
  | .scalar value => .scalar value
  | .arr items => .arr (JsonTree.resolvedItems items)
  | .obj members => .obj (resolveKeys (JsonTree.resolvedMembers members))

def JsonTree.resolvedItems : List (JsonTree σ) → List (JsonTree σ)
  | [] => []
  | item :: items => item.resolved :: JsonTree.resolvedItems items

def JsonTree.resolvedMembers : List (String × JsonTree σ) → List (String × JsonTree σ)
  | [] => []
  | (key, value) :: members => (key, value.resolved) :: JsonTree.resolvedMembers members

end

theorem mem_setKey {α : Type} {members : List (String × α)} {member m : String × α}
    (h : m ∈ setKey members member) : m ∈ members ∨ m = member := by
  unfold setKey at h
  split_ifs at h with hany
  · obtain ⟨m', hm', heq⟩ := List.mem_map.mp h
    split_ifs at heq with hkey
    · exact .inr heq.symm
    · exact .inl (heq ▸ hm')
  · rcases List.mem_append.mp h with h | h
    · exact .inl h
    · exact .inr (List.mem_singleton.mp h)

theorem nodup_setKey {α : Type} {members : List (String × α)} (member : String × α)
    (h : (members.map Prod.fst).Nodup) : ((setKey members member).map Prod.fst).Nodup := by
  unfold setKey
  split_ifs with hany
  · have hkeys : (members.map fun m => if m.1 = member.1 then member else m).map Prod.fst =
        members.map Prod.fst := by
      rw [List.map_map]
      apply List.map_congr_left
      intro m _
      by_cases hkey : m.1 = member.1
      · simp [hkey]
      · simp [hkey]
    rw [hkeys]
    exact h
  · rw [List.map_append, List.map_singleton]
    refine h.append (List.nodup_singleton _) ?_
    intro key hkey hmember
    obtain ⟨m, hm, rfl⟩ := List.mem_map.mp hkey
    have hsame : m.1 = member.1 := List.mem_singleton.mp hmember
    apply hany
    rw [List.any_eq_true]
    exact ⟨m, hm, by simp [hsame]⟩

theorem resolveKeys_spec {α : Type} (members : List (String × α)) :
    ((resolveKeys members).map Prod.fst).Nodup ∧ ∀ m ∈ resolveKeys members, m ∈ members := by
  induction members using List.reverseRecOn with
  | nil => exact ⟨List.nodup_nil, by simp [resolveKeys]⟩
  | append_singleton members member ih =>
      rw [resolveKeys, List.foldl_append] at *
      refine ⟨nodup_setKey member ih.1, ?_⟩
      intro m hm
      rcases mem_setKey hm with hm | rfl
      · exact List.mem_append_left _ (ih.2 m hm)
      · simp

theorem distinctMembers_iff {members : List (String × JsonTree σ)} :
    JsonTree.DistinctMembers members ↔ ∀ m ∈ members, m.2.Distinct := by
  induction members with
  | nil => simp [JsonTree.DistinctMembers]
  | cons m members ih =>
      rw [JsonTree.DistinctMembers, ih, List.forall_mem_cons]

mutual

theorem resolved_distinct : ∀ x : JsonTree σ, x.resolved.Distinct
  | .scalar _ => trivial
  | .arr items => resolvedItems_distinct items
  | .obj members => by
      obtain ⟨hnodup, hmem⟩ := resolveKeys_spec (JsonTree.resolvedMembers members)
      refine ⟨hnodup, distinctMembers_iff.mpr fun m hm => ?_⟩
      exact distinctMembers_iff.mp (resolvedMembers_distinct members) m (hmem m hm)

theorem resolvedItems_distinct : ∀ items : List (JsonTree σ),
    JsonTree.DistinctItems (JsonTree.resolvedItems items)
  | [] => trivial
  | item :: items => ⟨resolved_distinct item, resolvedItems_distinct items⟩

theorem resolvedMembers_distinct : ∀ members : List (String × JsonTree σ),
    JsonTree.DistinctMembers (JsonTree.resolvedMembers members)
  | [] => trivial
  | (_, value) :: members => ⟨resolved_distinct value, resolvedMembers_distinct members⟩

end

end Resolved

section Mapped

variable {σ τ : Type} (f : σ → τ)

theorem keys_mapMembers (members : List (String × JsonTree σ)) :
    (JsonTree.mapMembers f members).map Prod.fst = members.map Prod.fst := by
  rw [mapMembers_eq_map, List.map_map]
  rfl

mutual

theorem distinct_map : ∀ {x : JsonTree σ}, x.Distinct → (x.map f).Distinct
  | .scalar _, _ => trivial
  | .arr _, h => distinctItems_map h
  | .obj members, h => by
      refine ⟨?_, distinctMembers_map h.2⟩
      rw [keys_mapMembers]
      exact h.1

theorem distinctItems_map : ∀ {items : List (JsonTree σ)}, JsonTree.DistinctItems items →
    JsonTree.DistinctItems (JsonTree.mapItems f items)
  | [], _ => trivial
  | _ :: _, h => ⟨distinct_map h.1, distinctItems_map h.2⟩

theorem distinctMembers_map : ∀ {members : List (String × JsonTree σ)},
    JsonTree.DistinctMembers members → JsonTree.DistinctMembers (JsonTree.mapMembers f members)
  | [], _ => trivial
  | (_, _) :: _, h => ⟨distinct_map h.1, distinctMembers_map h.2⟩

end

end Mapped

/-- The value that is written. -/
def JsonLiteral.value : JsonLiteral → ℚ
  | .integer negative digits => if negative then -(digits : ℚ) else digits
  | .decimal negative digits exponent =>
      (if negative then -(digits : ℚ) else digits) * 10 ^ exponent

/-! ## JavaScript -/

/-- The double that JavaScript reads. -/
def JsonLiteral.jsNumber : JsonLiteral → JsNumber
  | .integer negative digits => .ofDecimal negative digits 0
  | .decimal negative digits exponent => .ofDecimal negative digits exponent

def JsonScalar.toJson : JsonScalar → Json
  | .null => .null
  | .bool value => .bool value
  | .num literal => .num literal.jsNumber
  | .str value => .str value

mutual

/-- A document with distinct keys as `JSON.parse` returns it. -/
def readJson : JsonDoc → Json
  | .scalar value => value.toJson
  | .arr items => .arr (readItems items)
  | .obj members => .obj (propertyOrder (readMembers members))

def readItems : List JsonDoc → List Json
  | [] => []
  | item :: items => readJson item :: readItems items

def readMembers : List (String × JsonDoc) → List (String × Json)
  | [] => []
  | (key, value) :: members => (key, readJson value) :: readMembers members

end

/-- `JSON.parse` of a document. -/
def JsonDoc.toJson (doc : JsonDoc) : Json := readJson doc.resolved

end AgentSkeptic.Support

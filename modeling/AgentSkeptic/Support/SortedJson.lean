import AgentSkeptic.Support.JsonRoundTrip
import AgentSkeptic.Support.JsonSchema
import Mathlib.Data.List.Sort

/-!
# JSON with sorted keys

`sortedJsonStringify.ts`.  The order of `localeCompare` is a parameter: whatever
it is, the members of an object are rearranged and nothing else changes, so the
text reads back as a value that fits every schema the value itself fits.
-/

namespace AgentSkeptic.Support

section

variable (localeLe : String → String → Bool)

/-- Assigning to `__proto__` creates no member, and an object keeps its members in
property order. -/
def sortMembers (members : List (String × Json)) : List (String × Json) :=
  propertyOrder ((members.insertionSort fun a b => localeLe a.1 b.1 = true).filter
    (·.1 ≠ "__proto__"))

mutual

def canonicalizeForJson : Json → Json
  | .arr items => .arr (canonicalizeItems items)
  | .obj members => .obj (sortMembers localeLe (canonicalizeMembers members))
  | .null => .null
  | .bool value => .bool value
  | .num value => .num value
  | .str value => .str value

def canonicalizeItems : List Json → List Json
  | [] => []
  | item :: items => canonicalizeForJson item :: canonicalizeItems items

def canonicalizeMembers : List (String × Json) → List (String × Json)
  | [] => []
  | (key, value) :: members =>
      (key, canonicalizeForJson value) :: canonicalizeMembers members

end

def stringifyWithSortedKeys (value : Json) : String :=
  (canonicalizeForJson localeLe value).stringify

end

/-! ## Property order -/

theorem propertyOrder_perm (members : List (String × Json)) :
    (propertyOrder members).Perm members := by
  have hindices : ((members.filter (isIndexKey ·.1)).mergeSort fun a b =>
      (arrayIndex? a.1).getD 0 ≤ (arrayIndex? b.1).getD 0).Perm
        (members.filter (isIndexKey ·.1)) := List.mergeSort_perm _ _
  exact (hindices.append_right _).trans (List.filter_append_perm _ _)

theorem propertyOrder_filter_index (members : List (String × Json)) :
    (propertyOrder members).filter (isIndexKey ·.1) =
      (members.filter (isIndexKey ·.1)).mergeSort fun a b =>
        (arrayIndex? a.1).getD 0 ≤ (arrayIndex? b.1).getD 0 := by
  have hindices : ∀ m ∈ (members.filter (isIndexKey ·.1)).mergeSort fun a b =>
      (arrayIndex? a.1).getD 0 ≤ (arrayIndex? b.1).getD 0,
        isIndexKey m.1 = true := by
    intro m hm
    exact (List.mem_filter.mp (List.mem_mergeSort.mp hm)).2
  rw [propertyOrder, List.filter_append, List.filter_eq_self.mpr hindices,
    List.filter_filter]
  simp

theorem propertyOrder_filter_other (members : List (String × Json)) :
    (propertyOrder members).filter (!isIndexKey ·.1) =
      members.filter (!isIndexKey ·.1) := by
  have hindices : ((members.filter (isIndexKey ·.1)).mergeSort fun a b =>
      (arrayIndex? a.1).getD 0 ≤ (arrayIndex? b.1).getD 0).filter
        (!isIndexKey ·.1) = [] := by
    apply List.filter_eq_nil_iff.mpr
    intro m hm
    have hindex := (List.mem_filter.mp (List.mem_mergeSort.mp hm)).2
    simp [hindex]
  rw [propertyOrder, List.filter_append, hindices, List.filter_filter]
  simp

/-- Members in property order stay as they are. -/
theorem propertyOrder_idem (members : List (String × Json)) :
    propertyOrder (propertyOrder members) = propertyOrder members := by
  have hsorted : ((members.filter (isIndexKey ·.1)).mergeSort fun a b =>
      (arrayIndex? a.1).getD 0 ≤ (arrayIndex? b.1).getD 0).Pairwise fun a b =>
        decide ((arrayIndex? a.1).getD 0 ≤ (arrayIndex? b.1).getD 0) = true := by
    apply List.pairwise_mergeSort
    · intro a b c hab hbc
      simp only [decide_eq_true_eq] at hab hbc ⊢
      omega
    · intro a b
      simp only [Bool.or_eq_true, decide_eq_true_eq]
      omega
  have hindices := propertyOrder_filter_index members
  have hothers := propertyOrder_filter_other members
  conv_lhs => rw [propertyOrder, hindices, hothers]
  rw [List.mergeSort_of_pairwise hsorted]
  rfl

/-! ## The members of a canonical object -/

theorem sortMembers_perm (localeLe : String → String → Bool)
    (members : List (String × Json)) :
    (sortMembers localeLe members).Perm (members.filter (·.1 ≠ "__proto__")) := by
  apply (propertyOrder_perm _).trans
  exact (List.perm_insertionSort _ members).filter _

/-- Sorted members stand in what was sorted. -/
theorem mem_of_sortMembers_eq {localeLe : String → String → Bool}
    {members others : List (String × Json)}
    (h : sortMembers localeLe members = sortMembers localeLe others) {m : String × Json}
    (hkey : m.1 ≠ "__proto__") (hm : m ∈ members) : m ∈ others := by
  have hkept : m ∈ members.filter (·.1 ≠ "__proto__") :=
    List.mem_filter.mpr ⟨hm, decide_eq_true hkey⟩
  have hsorted := (sortMembers_perm localeLe members).mem_iff.mpr hkept
  rw [h] at hsorted
  exact (List.mem_filter.mp ((sortMembers_perm localeLe others).mem_iff.mp hsorted)).1

theorem keys_canonicalizeMembers (localeLe : String → String → Bool)
    (members : List (String × Json)) :
    (canonicalizeMembers localeLe members).map Prod.fst = members.map Prod.fst := by
  induction members with
  | nil => rfl
  | cons m members ih => simp [canonicalizeMembers, ih]

theorem nodup_sortMembers (localeLe : String → String → Bool)
    {members : List (String × Json)} (h : (members.map Prod.fst).Nodup) :
    ((sortMembers localeLe members).map Prod.fst).Nodup := by
  have hperm := (sortMembers_perm localeLe members).map Prod.fst
  apply hperm.nodup_iff.mpr
  exact (List.filter_sublist.map _).nodup h

theorem wellFormedMembers_iff {members : List (String × Json)} :
    Json.WellFormedMembers members ↔ ∀ m ∈ members, m.2.WellFormed := by
  induction members with
  | nil => simp [Json.WellFormedMembers]
  | cons m members ih => simp [Json.WellFormedMembers, ih]

mutual

theorem canonicalizeForJson_wellFormed (localeLe : String → String → Bool) :
    ∀ v : Json, v.WellFormed → (canonicalizeForJson localeLe v).WellFormed
  | .null, _ => trivial
  | .bool _, _ => trivial
  | .num _, h => h
  | .str _, _ => trivial
  | .arr items, h => canonicalizeItems_wellFormed localeLe items h
  | .obj members, ⟨hnodup, _, hmembers⟩ => by
      have hcanonical := canonicalizeMembers_wellFormed localeLe members hmembers
      rw [← keys_canonicalizeMembers localeLe] at hnodup
      refine ⟨nodup_sortMembers localeLe hnodup, propertyOrder_idem _, ?_⟩
      apply wellFormedMembers_iff.mpr
      intro m hm
      have hmem := (sortMembers_perm localeLe _).mem_iff.mp hm
      exact wellFormedMembers_iff.mp hcanonical m (List.mem_filter.mp hmem).1

theorem canonicalizeItems_wellFormed (localeLe : String → String → Bool) :
    ∀ items : List Json, Json.WellFormedItems items →
      Json.WellFormedItems (canonicalizeItems localeLe items)
  | [], _ => trivial
  | item :: items, ⟨hitem, hitems⟩ =>
      ⟨canonicalizeForJson_wellFormed localeLe item hitem,
        canonicalizeItems_wellFormed localeLe items hitems⟩

theorem canonicalizeMembers_wellFormed (localeLe : String → String → Bool) :
    ∀ members : List (String × Json), Json.WellFormedMembers members →
      Json.WellFormedMembers (canonicalizeMembers localeLe members)
  | [], _ => trivial
  | (_, value) :: members, ⟨hvalue, hmembers⟩ =>
      ⟨canonicalizeForJson_wellFormed localeLe value hvalue,
        canonicalizeMembers_wellFormed localeLe members hmembers⟩

end

/-- The sorted text reads back as the canonical value. -/
theorem parseJson_stringifyWithSortedKeys (localeLe : String → String → Bool)
    {v : Json} (hv : v.WellFormed) {trailing : List Char}
    (htrailing : ∀ c ∈ trailing, isJsonSpace c = true) :
    parseJson ((stringifyWithSortedKeys localeLe v).toList ++ trailing) =
      some (canonicalizeForJson localeLe v) :=
  parseJson_stringify (canonicalizeForJson_wellFormed localeLe v hv) htrailing

theorem ownMember_iff {members : List (String × Json)}
    (h : (members.map Prod.fst).Nodup) {key : String} {value : Json} :
    ownMember members key = some value ↔ (key, value) ∈ members := by
  constructor
  · exact ownMember_eq_some
  · intro hmem
    induction members with
    | nil => cases hmem
    | cons m members ih =>
        obtain ⟨hm, hmembers⟩ := List.nodup_cons.mp h
        rcases List.mem_cons.mp hmem with rfl | hrest
        · simp [ownMember]
        · have hne : m.1 ≠ key := by
            rintro rfl
            exact hm (List.mem_map.mpr ⟨_, hrest, rfl⟩)
          have htail := ih hmembers hrest
          simpa [ownMember, hne] using htail

theorem mem_canonicalizeMembers {localeLe : String → String → Bool}
    {members : List (String × Json)} {key : String} {value : Json} :
    (key, value) ∈ canonicalizeMembers localeLe members ↔
      ∃ v, (key, v) ∈ members ∧ value = canonicalizeForJson localeLe v := by
  induction members with
  | nil => simp [canonicalizeMembers]
  | cons m members ih =>
      obtain ⟨k, w⟩ := m
      simp only [canonicalizeMembers, List.mem_cons, Prod.mk.injEq, ih]
      constructor
      · rintro (⟨rfl, rfl⟩ | ⟨v, hv, rfl⟩)
        · exact ⟨w, Or.inl ⟨rfl, rfl⟩, rfl⟩
        · exact ⟨v, Or.inr hv, rfl⟩
      · rintro ⟨v, ⟨rfl, rfl⟩ | hv, rfl⟩
        · exact Or.inl ⟨rfl, rfl⟩
        · exact Or.inr ⟨v, hv, rfl⟩

/-- A member of the canonical object is the canonical form of the member. -/
theorem ownMember_canonicalize (localeLe : String → String → Bool)
    {members : List (String × Json)} (h : (members.map Prod.fst).Nodup)
    {key : String} (hkey : key ≠ "__proto__") :
    ownMember (sortMembers localeLe (canonicalizeMembers localeLe members)) key =
      (ownMember members key).map (canonicalizeForJson localeLe) := by
  have hcanonical := h
  rw [← keys_canonicalizeMembers localeLe] at hcanonical
  have hnodup := nodup_sortMembers localeLe hcanonical
  apply Option.ext
  intro value
  rw [ownMember_iff hnodup, (sortMembers_perm localeLe _).mem_iff, List.mem_filter,
    mem_canonicalizeMembers, Option.map_eq_some_iff]
  simp only [ownMember_iff h, ne_eq, hkey, not_false_eq_true, decide_true, and_true,
    eq_comm]

/-! ## Schemas -/

namespace Schema

mutual

/-- The tests of scalars reject arrays and objects, and no property is
`__proto__`. -/
def Ordinary : Schema → Prop
  | scalar test => (∀ items, test (.arr items) = false) ∧
      ∀ members, test (.obj members) = false
  | array items => Ordinary items
  | object _ properties => OrdinaryMembers properties

def OrdinaryMembers : List (String × Schema) → Prop
  | [] => True
  | (key, schema) :: properties =>
      key ≠ "__proto__" ∧ Ordinary schema ∧ OrdinaryMembers properties

end

@[simp] theorem ordinary_textWith (test : String → Bool) :
    (textWith test).Ordinary := ⟨fun _ => rfl, fun _ => rfl⟩

@[simp] theorem ordinary_oneOf (values : List String) : (oneOf values).Ordinary :=
  ordinary_textWith _

@[simp] theorem ordinary_text (minLength : ℕ) (maxLength : Option ℕ) :
    (text minLength maxLength).Ordinary := ⟨fun _ => rfl, fun _ => rfl⟩

@[simp] theorem ordinary_number (value : ℤ) : (number value).Ordinary :=
  ⟨fun _ => rfl, fun _ => rfl⟩

@[simp] theorem ordinary_integer (minimum : ℤ) : (integer minimum).Ordinary :=
  ⟨fun _ => rfl, fun _ => rfl⟩

@[simp] theorem ordinary_boolean : boolean.Ordinary :=
  ⟨fun _ => rfl, fun _ => rfl⟩

theorem ordinaryMembers_key {properties : List (String × Schema)}
    (h : OrdinaryMembers properties) :
    ∀ p ∈ properties, p.1 ≠ "__proto__" := by
  induction properties with
  | nil =>
      intro p hp
      cases hp
  | cons p properties ih =>
      obtain ⟨hkey, -, hrest⟩ := h
      exact List.forall_mem_cons.mpr ⟨hkey, ih hrest⟩

theorem canonicalizeItems_eq_map (localeLe : String → String → Bool)
    (items : List Json) :
    canonicalizeItems localeLe items = items.map (canonicalizeForJson localeLe) := by
  induction items with
  | nil => rfl
  | cons item items ih => rw [canonicalizeItems, ih, List.map_cons]

theorem wellFormedItems_iff {items : List Json} :
    Json.WellFormedItems items ↔ ∀ v ∈ items, v.WellFormed := by
  induction items with
  | nil => simp [Json.WellFormedItems]
  | cons item items ih => simp [Json.WellFormedItems, ih]

/-- A required member of a valid object whose members are all listed. -/
theorem valid_object_iff {required : List String}
    {properties : List (String × Schema)} {members : List (String × Json)} :
    (object required properties).valid (.obj members) = true ↔
      (∀ key ∈ required, (ownMember members key).isSome = true) ∧
        (∀ m ∈ members, properties.any (·.1 == m.1) = true) ∧
        validMembers properties members = true := by
  simp only [valid, Bool.and_eq_true, List.all_eq_true, and_assoc]

mutual

/-- A value that fits a schema does so in canonical form. -/
theorem valid_canonicalize (localeLe : String → String → Bool) :
    ∀ (s : Schema), s.Ordinary → ∀ v : Json, v.WellFormed → s.valid v = true →
      s.valid (canonicalizeForJson localeLe v) = true
  | scalar test, hs, v, _, h => by
      cases v with
      | null => exact h
      | bool value => exact h
      | num value => exact h
      | str value => exact h
      | arr items =>
          rw [valid, hs.1 items] at h
          cases h
      | obj members =>
          rw [valid, hs.2 members] at h
          cases h
  | array items, hs, v, hv, h => by
      cases v with
      | arr vs =>
          have hall := List.all_eq_true.mp h
          have hwell := wellFormedItems_iff.mp hv
          rw [canonicalizeForJson, canonicalizeItems_eq_map, valid, List.all_eq_true]
          intro w hw
          obtain ⟨v, hv, rfl⟩ := List.mem_map.mp hw
          exact valid_canonicalize localeLe items hs v (hwell v hv) (hall v hv)
      | null => cases h
      | bool value => cases h
      | num value => cases h
      | str value => cases h
      | obj members => cases h
  | object required properties, hs, v, hv, h => by
      cases v with
      | obj members =>
          obtain ⟨hnodup, -, hwell⟩ := hv
          obtain ⟨hrequired, hlisted, hvalid⟩ := valid_object_iff.mp h
          have hordinary := ordinaryMembers_key hs
          have hproto : ∀ m ∈ members, m.1 ≠ "__proto__" := by
            intro m hm
            obtain ⟨p, hp, hkey⟩ := List.any_eq_true.mp (hlisted m hm)
            rw [← eq_of_beq hkey]
            exact hordinary p hp
          rw [canonicalizeForJson]
          apply valid_object_iff.mpr
          refine ⟨?_, ?_, ?_⟩
          · intro key hkey
            obtain ⟨value, hvalue⟩ := Option.isSome_iff_exists.mp (hrequired key hkey)
            have hne := hproto _ (ownMember_eq_some hvalue)
            rw [ownMember_canonicalize localeLe hnodup hne, hvalue]
            rfl
          · intro m hm
            have hmem := (List.mem_filter.mp
              ((sortMembers_perm localeLe _).mem_iff.mp hm)).1
            obtain ⟨v, hv, -⟩ := mem_canonicalizeMembers.mp hmem
            exact hlisted (m.1, v) hv
          · exact validMembers_canonicalize localeLe properties hs members hnodup
              hwell hvalid
      | null => cases h
      | bool value => cases h
      | num value => cases h
      | str value => cases h
      | arr items => cases h

theorem validMembers_canonicalize (localeLe : String → String → Bool) :
    ∀ (properties : List (String × Schema)), OrdinaryMembers properties →
      ∀ members : List (String × Json), (members.map Prod.fst).Nodup →
        Json.WellFormedMembers members → validMembers properties members = true →
          validMembers properties (sortMembers localeLe
            (canonicalizeMembers localeLe members)) = true
  | [], _, _, _, _, _ => rfl
  | (key, schema) :: properties, ⟨hkey, hschema, hrest⟩, members, hnodup, hwell, h => by
      rw [validMembers, Bool.and_eq_true] at h ⊢
      refine ⟨?_, validMembers_canonicalize localeLe properties hrest members hnodup
        hwell h.2⟩
      rw [ownMember_canonicalize localeLe hnodup hkey]
      cases hvalue : ownMember members key with
      | none => rfl
      | some value =>
          have hwellValue := wellFormedMembers_iff.mp hwell _ (ownMember_eq_some hvalue)
          have hvalid : schema.valid value = true := by simpa [hvalue] using h.1
          exact valid_canonicalize localeLe schema hschema value hwellValue hvalid

end

end Schema

/-! ## Objects with plain keys -/

theorem propertyOrder_of_names {members : List (String × Json)}
    (h : ∀ m ∈ members, isIndexKey m.1 = false) : propertyOrder members = members := by
  have hindices : members.filter (isIndexKey ·.1) = [] := by
    apply List.filter_eq_nil_iff.mpr
    intro m hm
    simp [h m hm]
  have hothers : members.filter (!isIndexKey ·.1) = members := by
    apply List.filter_eq_self.mpr
    intro m hm
    simp [h m hm]
  rw [propertyOrder, hindices, hothers]
  simp

/-- The keys are distinct names. -/
def plainKeys (keys : List String) : Bool :=
  decide keys.Nodup && keys.all (!isIndexKey ·)

theorem wellFormed_obj (keys : List String) {members : List (String × Json)}
    (hkeys : members.map Prod.fst = keys) (hplain : plainKeys keys = true)
    (hvalues : ∀ m ∈ members, m.2.WellFormed) : (Json.obj members).WellFormed := by
  obtain ⟨hnodup, hnames⟩ := Bool.and_eq_true_iff.mp hplain
  rw [← hkeys] at hnodup hnames
  refine ⟨of_decide_eq_true hnodup, propertyOrder_of_names ?_,
    wellFormedMembers_iff.mpr hvalues⟩
  intro m hm
  have hkey := List.all_eq_true.mp hnames m.1 (List.mem_map_of_mem hm)
  simpa using hkey

theorem wellFormed_arr {items : List Json} (h : ∀ v ∈ items, v.WellFormed) :
    (Json.arr items).WellFormed := Schema.wellFormedItems_iff.mpr h

end AgentSkeptic.Support

import AgentSkeptic.Support.Json
import Mathlib.Data.List.Nodup

/-!
# JSON Schema

The keywords that the modelled schemas use: tests of a scalar, `items`, and
objects with `required`, `properties` and `additionalProperties: false`.
-/

namespace AgentSkeptic.Support

inductive Schema where
  | scalar (test : Json → Bool)
  | array (items : Schema)
  | object (required : List String) (properties : List (String × Schema))

namespace Schema

/-- `type: string` with `minLength` and `maxLength`, in code points. -/
def text (minLength : ℕ) (maxLength : Option ℕ) : Schema :=
  scalar fun
    | .str s => minLength ≤ s.length && maxLength.all (s.length ≤ ·)
    | _ => false

/-- `type: string` with a test for `pattern` or `format`. -/
def textWith (test : String → Bool) : Schema :=
  scalar fun
    | .str s => test s
    | _ => false

/-- `const` or `enum` of strings. -/
def oneOf (values : List String) : Schema := textWith (values.contains ·)

/-- `const` of a number. -/
def number (value : ℤ) : Schema :=
  scalar fun
    | .num n => n = .int value
    | _ => false

/-- `type: integer` with `minimum`. -/
def integer (minimum : ℤ) : Schema :=
  scalar fun
    | .num n => n.toInt?.any (minimum ≤ ·)
    | _ => false

def boolean : Schema :=
  scalar fun
    | .bool _ => true
    | _ => false

/-- `type: integer` without bounds. -/
def anyInteger : Schema :=
  scalar fun
    | .num n => n.toInt?.isSome
    | _ => false

/-- `type: [string, null]`. -/
def textOrNull : Schema :=
  scalar fun
    | .str _ | .null => true
    | _ => false

/-- `type: [object, null]`. -/
def objectOrNull : Schema :=
  scalar fun
    | .obj _ | .null => true
    | _ => false

mutual

def valid : Schema → Json → Bool
  | scalar test, v => test v
  | array items, v =>
      match v with
      | .arr vs => vs.all fun v => valid items v
      | _ => false
  | object required properties, v =>
      match v with
      | .obj members =>
          required.all (fun key => (ownMember members key).isSome) &&
            members.all (fun m => properties.any (·.1 == m.1)) &&
            validMembers properties members
      | _ => false

def validMembers : List (String × Schema) → List (String × Json) → Bool
  | [], _ => true
  | (key, schema) :: properties, members =>
      (match ownMember members key with
        | some v => valid schema v
        | none => true) && validMembers properties members

end

/-- The keyword `oneOf`. -/
def exactlyOne (alternatives : List Schema) : Schema :=
  scalar fun v => (alternatives.filter (·.valid v)).length = 1

theorem validMembers_mem {properties : List (String × Schema)}
    {members : List (String × Json)}
    (h : validMembers properties members = true) {key : String}
    {schema : Schema} (hmem : (key, schema) ∈ properties) {v : Json}
    (hv : ownMember members key = some v) : schema.valid v = true := by
  induction properties with
  | nil => cases hmem
  | cons property properties ih =>
      rw [validMembers, Bool.and_eq_true] at h
      rcases List.mem_cons.mp hmem with rfl | hrest
      · simpa [hv] using h.1
      · exact ih h.2 hrest

/-- A required property of a valid object is there and valid. -/
theorem valid_required {required : List String}
    {properties : List (String × Schema)} {v : Json}
    (h : (object required properties).valid v = true) {key : String}
    (hkey : key ∈ required) {schema : Schema}
    (hmem : (key, schema) ∈ properties) :
    ∃ w, v.member key = .json w ∧ schema.valid w = true := by
  cases v with
  | obj members =>
      simp only [valid, Bool.and_eq_true] at h
      obtain ⟨⟨hrequired, -⟩, hvalid⟩ := h
      have hsome := List.all_eq_true.mp hrequired key hkey
      obtain ⟨w, hw⟩ := Option.isSome_iff_exists.mp hsome
      refine ⟨w, ?_, validMembers_mem hvalid hmem hw⟩
      rw [Json.member, hw]
  | null => cases h
  | bool value => cases h
  | num value => cases h
  | str value => cases h
  | arr items => cases h

/-- A key that a valid object has is the key of a property. -/
theorem valid_key_mem {required : List String} {properties : List (String × Schema)}
    {v : Json} (h : (object required properties).valid v = true) {key : String} {w : Json}
    (hinherited : inherited [] key = .undefined) (hw : v.member key = .json w) :
    ∃ schema, (key, schema) ∈ properties ∧ schema.valid w = true := by
  cases v with
  | obj members =>
      simp only [valid, Bool.and_eq_true] at h
      obtain ⟨⟨-, hkeys⟩, hvalid⟩ := h
      rw [Json.member] at hw
      cases hown : ownMember members key with
      | none =>
          rw [hown, hinherited] at hw
          cases hw
      | some own =>
          rw [hown] at hw
          obtain rfl : own = w := by simpa using hw
          obtain ⟨property, hproperty, hsame⟩ :=
            List.any_eq_true.mp (List.all_eq_true.mp hkeys _ (ownMember_eq_some hown))
          obtain rfl : property.1 = key := by simpa using hsame
          exact ⟨property.2, hproperty, validMembers_mem hvalid hproperty hown⟩
  | null => cases h
  | bool value => cases h
  | num value => cases h
  | str value => cases h
  | arr items => cases h

/-- An object is valid where its required keys are there and each member is valid for
the schema of its key. -/
theorem valid_of_members {required : List String}
    {properties : List (String × Schema)} {members : List (String × Json)}
    (hrequired : ∀ key ∈ required, key ∈ members.map Prod.fst)
    (hproperties : (properties.map Prod.fst).Nodup)
    (hmembers : ∀ m ∈ members, ∃ schema, (m.1, schema) ∈ properties ∧
      schema.valid m.2 = true) :
    (object required properties).valid (.obj members) = true := by
  have hvalid : ∀ checked, (∀ p ∈ checked, p ∈ properties) →
      validMembers checked members = true := by
    intro checked hchecked
    induction checked with
    | nil => rfl
    | cons property checked ih =>
        obtain ⟨hproperty, hrest⟩ := List.forall_mem_cons.mp hchecked
        rw [validMembers, Bool.and_eq_true]
        refine ⟨?_, ih hrest⟩
        cases hfound : ownMember members property.1 with
        | none => rfl
        | some v =>
            obtain ⟨schema, hschema, hv⟩ := hmembers _ (ownMember_eq_some hfound)
            have hsame : schema = property.2 := by
              have heq := List.inj_on_of_nodup_map hproperties hschema hproperty rfl
              rw [← heq]
            rw [← hsame]
            exact hv
  simp only [valid, Bool.and_eq_true, List.all_eq_true]
  refine ⟨⟨?_, ?_⟩, hvalid properties fun _ h => h⟩
  · intro key hkey
    obtain ⟨m, hm, hmkey⟩ := List.mem_map.mp (hrequired key hkey)
    rw [ownMember, Option.isSome_map]
    exact List.find?_isSome.mpr ⟨m, hm, by simpa using hmkey⟩
  · intro m hm
    obtain ⟨schema, hschema, -⟩ := hmembers m hm
    exact List.any_eq_true.mpr ⟨_, hschema, by simp⟩

/-- An object with one member for each property, in order, is valid where each member is
valid for its property. -/
theorem valid_of_forall₂ {required : List String} {properties : List (String × Schema)}
    {members : List (String × Json)}
    (hrequired : required = properties.map Prod.fst) (hnodup : required.Nodup)
    (h : List.Forall₂ (fun p m => p.1 = m.1 ∧ p.2.valid m.2 = true) properties members) :
    (object required properties).valid (.obj members) = true := by
  have hkeys : members.map Prod.fst = properties.map Prod.fst := by
    clear hrequired hnodup
    induction h with
    | nil => rfl
    | cons hpm _ ih => rw [List.map_cons, List.map_cons, ih, hpm.1]
  have hmembers : ∀ m ∈ members, ∃ p ∈ properties, p.1 = m.1 ∧ p.2.valid m.2 = true := by
    clear hrequired hnodup hkeys
    induction h with
    | nil => exact fun m hm => absurd hm List.not_mem_nil
    | cons hpm _ ih =>
        intro m hm
        rcases List.mem_cons.mp hm with rfl | hrest
        · exact ⟨_, .head _, hpm⟩
        · obtain ⟨p, hp, hpm'⟩ := ih m hrest
          exact ⟨p, .tail _ hp, hpm'⟩
  apply valid_of_members
  · intro key hkey
    rwa [hkeys, ← hrequired]
  · rwa [← hrequired]
  · intro m hm
    obtain ⟨p, hp, hkey, hvalid⟩ := hmembers m hm
    exact ⟨p.2, by rwa [← hkey], hvalid⟩

theorem textWith_valid {test : String → Bool} {v : Json}
    (h : (textWith test).valid v = true) :
    ∃ s, v = .str s ∧ test s = true := by
  cases v with
  | str s => exact ⟨s, rfl, h⟩
  | null => cases h
  | bool value => cases h
  | num value => cases h
  | arr items => cases h
  | obj members => cases h

theorem number_valid {value : ℤ} {v : Json}
    (h : (number value).valid v = true) : v = .num (.int value) := by
  cases v with
  | num n => rw [of_decide_eq_true h]
  | null => cases h
  | bool value => cases h
  | str s => cases h
  | arr items => cases h
  | obj members => cases h

end Schema

end AgentSkeptic.Support

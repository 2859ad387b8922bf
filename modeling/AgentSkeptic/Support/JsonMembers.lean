import AgentSkeptic.Support.JsonSchema
import AgentSkeptic.Support.SortedJson

/-!
# Objects from their members

An object written as a list of members, some of them only under a condition: when it is
well formed, and when it fits a schema.
-/

namespace AgentSkeptic.Support

/-- `...(value ? { [key]: value } : {})`. -/
def optionalText (key : String) (value : Option String) : List (String × Json) :=
  match value.filter (· ≠ "") with
  | some s => [(key, .str s)]
  | none => []

/-- `...(value !== undefined ? { [key]: value } : {})`. -/
def optionalNumber (key : String) (value : Option JsNumber) : List (String × Json) :=
  match value with
  | some n => [(key, .num n)]
  | none => []

/-! ## Keys -/

theorem forall_mem_optionalText {key : String} {value : Option String}
    {P : String × Json → Prop} (h : ∀ s, value = some s → s ≠ "" → P (key, .str s)) :
    ∀ m ∈ optionalText key value, P m := by
  intro m hm
  unfold optionalText at hm
  cases hvalue : value.filter (· ≠ "") with
  | none =>
      rw [hvalue] at hm
      cases hm
  | some s =>
      rw [hvalue] at hm
      obtain ⟨hsome, hne⟩ := Option.filter_eq_some_iff.mp hvalue
      rw [List.mem_singleton.mp hm]
      exact h s hsome (by simpa using hne)

theorem keys_optionalText (key : String) (value : Option String) :
    ((optionalText key value).map Prod.fst).Sublist [key] := by
  unfold optionalText
  split
  · exact .refl _
  · exact List.nil_sublist _

theorem keys_optionalNumber (key : String) (value : Option JsNumber) :
    ((optionalNumber key value).map Prod.fst).Sublist [key] := by
  unfold optionalNumber
  split
  · exact .refl _
  · exact List.nil_sublist _

theorem mem_optionalText {key : String} {value : Option String} {m : String × Json}
    (h : m ∈ optionalText key value) : ∃ s, value = some s ∧ m = (key, .str s) := by
  revert m
  apply forall_mem_optionalText
  intro s hs _
  exact ⟨s, hs, rfl⟩

theorem optionalText_some {key s : String} (h : s ≠ "") :
    optionalText key (some s) = [(key, .str s)] := by
  rw [optionalText, Option.filter_some, if_pos (by simpa using h)]

theorem nodup_of_plainKeys {members : List (String × Json)} {keys : List String}
    (hsub : (members.map Prod.fst).Sublist keys)
    (hplain : plainKeys keys = true) : (members.map Prod.fst).Nodup :=
  (of_decide_eq_true (Bool.and_eq_true_iff.mp hplain).1).sublist hsub

theorem wellFormed_of_plainKeys {members : List (String × Json)} {keys : List String}
    (hsub : (members.map Prod.fst).Sublist keys) (hplain : plainKeys keys = true)
    (hvalues : ∀ m ∈ members, m.2.WellFormed) : (Json.obj members).WellFormed := by
  apply wellFormed_obj _ rfl _ hvalues
  rw [plainKeys, Bool.and_eq_true]
  refine ⟨decide_eq_true (nodup_of_plainKeys hsub hplain), List.all_eq_true.mpr ?_⟩
  intro k hk
  exact List.all_eq_true.mp (Bool.and_eq_true_iff.mp hplain).2 k (hsub.subset hk)

/-! ## Members that fit a schema -/

theorem text_valid {s : String} (h : s ≠ "") : (Schema.text 1 none).valid (.str s) = true := by
  have hlength : 1 ≤ s.length := by
    apply Nat.one_le_iff_ne_zero.mpr
    rwa [ne_eq, String.length_eq_zero_iff]
  simp [Schema.text, Schema.valid, hlength]

theorem anyText_valid (s : String) : (Schema.text 0 none).valid (.str s) = true := by
  simp [Schema.text, Schema.valid]

theorem ne_empty_of_jsTrim {s : String} (h : jsTrim s ≠ "") : s ≠ "" := by
  rintro rfl
  exact h rfl

/-- The member has a property of the schema, and fits it. -/
def Fits (properties : List (String × Schema)) (m : String × Json) : Prop :=
  ∃ schema, (m.1, schema) ∈ properties ∧ schema.valid m.2 = true

theorem optionalText_fits {properties : List (String × Schema)} {key : String}
    {value : Option String} (h : (key, Schema.text 0 none) ∈ properties) :
    ∀ m ∈ optionalText key value, m.2.WellFormed ∧ Fits properties m := by
  apply forall_mem_optionalText
  intro s _ _
  exact ⟨trivial, .text 0 none, h, anyText_valid s⟩

theorem optionalNumber_fits {properties : List (String × Schema)} {key : String}
    {value : Option JsNumber} (h : (key, Schema.integer 0) ∈ properties)
    (hvalue : ∀ n, value = some n →
      n.Readable ∧ (Schema.integer 0).valid (.num n) = true) :
    ∀ m ∈ optionalNumber key value, m.2.WellFormed ∧ Fits properties m := by
  intro m hm
  cases value with
  | none => cases hm
  | some n =>
      obtain ⟨hreadable, hvalid⟩ := hvalue n rfl
      rw [List.mem_singleton.mp hm]
      exact ⟨hreadable, .integer 0, h, hvalid⟩

theorem oneOf_fits {properties : List (String × Schema)} {key s : String}
    {values : List String} (h : (key, Schema.oneOf values) ∈ properties)
    (hs : s ∈ values) : Json.WellFormed (.str s) ∧ Fits properties (key, .str s) := by
  refine ⟨trivial, .oneOf values, h, ?_⟩
  simpa [Schema.oneOf, Schema.textWith, Schema.valid] using hs

theorem text_fits {properties : List (String × Schema)} {key s : String}
    (h : (key, Schema.text 1 none) ∈ properties) (hs : jsTrim s ≠ "") :
    Json.WellFormed (.str s) ∧ Fits properties (key, .str s) :=
  ⟨trivial, .text 1 none, h, text_valid (ne_empty_of_jsTrim hs)⟩

end AgentSkeptic.Support

import AgentSkeptic.Support.JsonDecoded
import AgentSkeptic.Support.StableSort

/-!
# The members of an object with sorted keys

Two objects are rebuilt alike exactly when they keep the same members and the names that
the collation does not tell apart stand in the same order (`sortMembers_eq_iff`).
`__proto__` is no member of the copy, and array indices go to their own places.
-/

namespace AgentSkeptic.Support

/-! ## Array indices -/

theorem arrayIndex?_inj {a b : String} {n : ℕ} (ha : arrayIndex? a = some n)
    (hb : arrayIndex? b = some n) : a = b := by
  have hdigits : ∀ {key : String}, arrayIndex? key = some n →
      JsNumber.decimalDigits n = key.toList := by
    intro key hkey
    unfold arrayIndex? at hkey
    dsimp only at hkey
    split_ifs at hkey with hcanonical
    rw [← Option.some.inj hkey]
    exact hcanonical.2.2
  apply String.toList_injective
  rw [← hdigits ha, ← hdigits hb]

theorem isIndexKey_some {key : String} (h : isIndexKey key = true) :
    ∃ n, arrayIndex? key = some n := by
  unfold isIndexKey at h
  obtain ⟨n, hn, -⟩ := Option.any_eq_true _ _ |>.mp h
  exact ⟨n, hn⟩

/-! ## Values do not matter -/

section

variable (f : Json → Json)

theorem map_propertyOrder (members : List (String × Json)) :
    (propertyOrder members).map (fun m => (m.1, f m.2)) =
      propertyOrder (members.map fun m => (m.1, f m.2)) := by
  have hindices : ∀ p : String → Bool,
      (members.filter (p ·.1)).map (fun m => (m.1, f m.2)) =
        (members.map fun m => (m.1, f m.2)).filter (p ·.1) := by
    intro p
    rw [List.filter_map]
    rfl
  rw [propertyOrder, propertyOrder, List.map_append, hindices (!isIndexKey ·),
    ← hindices isIndexKey]
  congr 1
  apply List.map_mergeSort
  intro a _ b _
  rfl

theorem map_sortMembers (localeLe : String → String → Bool)
    (members : List (String × Json)) :
    (sortMembers localeLe members).map (fun m => (m.1, f m.2)) =
      sortMembers localeLe (members.map fun m => (m.1, f m.2)) := by
  have hsorted : (members.insertionSort fun a b => localeLe a.1 b.1 = true).map
      (fun m => (m.1, f m.2)) =
      (members.map fun m => (m.1, f m.2)).insertionSort fun a b =>
        localeLe a.1 b.1 = true := by
    apply List.map_insertionSort
    intro a _ b _
    rfl
  rw [sortMembers, sortMembers, map_propertyOrder, ← hsorted, List.filter_map]
  rfl

end

/-- Array indices have one order. -/
theorem propertyOrder_eq_of_perm {xs ys : List (String × Json)}
    (h : (xs.map Prod.fst).Nodup) (hperm : xs.Perm ys)
    (hothers : xs.filter (!isIndexKey ·.1) = ys.filter (!isIndexKey ·.1)) :
    propertyOrder xs = propertyOrder ys := by
  rw [propertyOrder, propertyOrder, hothers]
  congr 1
  have hsorted : ∀ ms : List (String × Json), (ms.mergeSort fun a b =>
      (arrayIndex? a.1).getD 0 ≤ (arrayIndex? b.1).getD 0).Pairwise fun a b =>
        (arrayIndex? a.1).getD 0 ≤ (arrayIndex? b.1).getD 0 := by
    intro ms
    have hpairwise := @List.pairwise_mergeSort _
      (fun a b : String × Json =>
        decide ((arrayIndex? a.1).getD 0 ≤ (arrayIndex? b.1).getD 0))
      (by simp; omega) (by simp; omega) ms
    exact hpairwise.imp fun hab => of_decide_eq_true hab
  apply List.Perm.eq_of_pairwise _ (hsorted _) (hsorted _)
  · exact (List.mergeSort_perm _ _).trans
      ((hperm.filter _).trans (List.mergeSort_perm _ _).symm)
  · intro a b ha hb hab hba
    obtain ⟨ha, haindex⟩ := List.mem_filter.mp (List.mem_mergeSort.mp ha)
    obtain ⟨hb, hbindex⟩ := List.mem_filter.mp (List.mem_mergeSort.mp hb)
    obtain ⟨n, hn⟩ := isIndexKey_some haindex
    obtain ⟨k, hk⟩ := isIndexKey_some hbindex
    rw [hn, hk] at hab hba
    have hnk : n = k := le_antisymm hab hba
    subst hnk
    exact List.inj_on_of_nodup_map h ha (hperm.mem_iff.mpr hb) (arrayIndex?_inj hn hk)

/-! ## Members that are sorted alike -/

/-- Members that the copy has. -/
def keptMembers (members : List (String × Json)) : List (String × Json) :=
  members.filter (·.1 ≠ "__proto__")

/-- A name whose place the collation decides. -/
def isCollated (key : String) : Bool := !isIndexKey key && key ≠ "__proto__"

/-- Names that the collation does not tell apart stand in the same order. -/
def SameTies (localeLe : String → String → Bool) (keys keys' : List String) : Prop :=
  ∀ name, keys.filter (fun key => tied localeLe name key && isCollated key) =
    keys'.filter fun key => tied localeLe name key && isCollated key

/-- Lists of members of one object with the same keys are equal. -/
theorem eq_of_keys_eq {all xs ys : List (String × Json)} (hall : (all.map Prod.fst).Nodup)
    (hxs : ∀ m ∈ xs, m ∈ all) (hys : ∀ m ∈ ys, m ∈ all)
    (h : xs.map Prod.fst = ys.map Prod.fst) : xs = ys := by
  induction xs generalizing ys with
  | nil =>
      cases ys with
      | nil => rfl
      | cons y ys => cases h
  | cons x xs ih =>
      cases ys with
      | nil => cases h
      | cons y ys =>
          obtain ⟨hkey, hrest⟩ := List.cons.inj h
          obtain ⟨hx, hxs⟩ := List.forall_mem_cons.mp hxs
          obtain ⟨hy, hys⟩ := List.forall_mem_cons.mp hys
          have hxy : x = y := List.inj_on_of_nodup_map hall hx hy hkey
          rw [hxy, ih hxs hys hrest]

section

variable {localeLe : String → String → Bool}
  (htotal : ∀ a b, localeLe a b = true ∨ localeLe b a = true)
  (htrans : ∀ a b c, localeLe a b = true → localeLe b c = true → localeLe a c = true)

include htotal htrans

/-- Behind the array indices, the names stand in the order of the collation. -/
theorem sortMembers_collated (members : List (String × Json)) :
    (sortMembers localeLe members).filter (!isIndexKey ·.1) =
      (members.filter (isCollated ·.1)).insertionSort fun a b =>
        localeLe a.1 b.1 = true := by
  have : Std.Total fun a b : String × Json => localeLe a.1 b.1 = true :=
    ⟨fun a b => htotal a.1 b.1⟩
  have : IsTrans (String × Json) fun a b => localeLe a.1 b.1 = true :=
    ⟨fun a b c => htrans a.1 b.1 c.1⟩
  rw [sortMembers, propertyOrder_filter_other, List.filter_filter,
    insertionSort_filter fun a b : String × Json => localeLe a.1 b.1]
  rfl

theorem collated_eq_iff {members members' : List (String × Json)}
    (h : (members.map Prod.fst).Nodup)
    (hperm : (keptMembers members).Perm (keptMembers members')) :
    ((members.filter (isCollated ·.1)).insertionSort fun a b => localeLe a.1 b.1 = true) =
        ((members'.filter (isCollated ·.1)).insertionSort fun a b =>
          localeLe a.1 b.1 = true) ↔
      SameTies localeLe (members.map Prod.fst) (members'.map Prod.fst) := by
  have : Std.Total fun a b : String × Json => localeLe a.1 b.1 = true :=
    ⟨fun a b => htotal a.1 b.1⟩
  have : IsTrans (String × Json) fun a b => localeLe a.1 b.1 = true :=
    ⟨fun a b c => htrans a.1 b.1 c.1⟩
  have hkeys : ∀ (ms : List (String × Json)) (name : String) (value : Json),
      ((ms.filter (isCollated ·.1)).filter
          (tied (fun a b => localeLe a.1 b.1) (name, value))).map Prod.fst =
        (ms.map Prod.fst).filter fun key => tied localeLe name key && isCollated key := by
    intro ms name value
    rw [List.filter_filter, List.filter_map]
    rfl
  rw [insertionSort_eq_iff fun a b : String × Json => localeLe a.1 b.1]
  constructor
  · intro heq name
    rw [← hkeys members name .null, heq (name, .null), hkeys]
  · rintro hties ⟨name, value⟩
    have hmem : ∀ ms : List (String × Json), ∀ m ∈ (ms.filter (isCollated ·.1)).filter
        (tied (fun a b => localeLe a.1 b.1) (name, value)), m ∈ keptMembers ms := by
      intro ms m hm
      obtain ⟨hms, hcollated⟩ := List.mem_filter.mp (List.mem_of_mem_filter hm)
      have hne : m.1 ≠ "__proto__" := by
        intro hproto
        rw [hproto] at hcollated
        simp [isCollated] at hcollated
      exact List.mem_filter.mpr ⟨hms, by simpa using hne⟩
    have hnodup : ((keptMembers members).map Prod.fst).Nodup :=
      (List.filter_sublist.map _).nodup h
    apply eq_of_keys_eq hnodup (hmem members)
    · intro m hm
      exact hperm.mem_iff.mpr (hmem members' m hm)
    · rw [hkeys, hkeys, hties name]

/-- When two objects are rebuilt alike. -/
theorem sortMembers_eq_iff {members members' : List (String × Json)}
    (h : (members.map Prod.fst).Nodup) :
    sortMembers localeLe members = sortMembers localeLe members' ↔
      (keptMembers members).Perm (keptMembers members') ∧
        SameTies localeLe (members.map Prod.fst) (members'.map Prod.fst) := by
  constructor
  · intro heq
    have hperm : (keptMembers members).Perm (keptMembers members') := by
      apply (sortMembers_perm localeLe members).symm.trans
      rw [heq]
      exact sortMembers_perm localeLe members'
    refine ⟨hperm, (collated_eq_iff htotal htrans h hperm).mp ?_⟩
    rw [← sortMembers_collated htotal htrans, heq, sortMembers_collated htotal htrans]
  · rintro ⟨hperm, hties⟩
    have hcollated := (collated_eq_iff htotal htrans h hperm).mpr hties
    rw [← sortMembers_collated htotal htrans,
      ← sortMembers_collated htotal htrans] at hcollated
    have hsorted : (sortMembers localeLe members).Perm (sortMembers localeLe members') :=
      (sortMembers_perm localeLe members).trans
        (hperm.trans (sortMembers_perm localeLe members').symm)
    have hnodup := nodup_sortMembers localeLe h
    have hordered : ∀ ms, propertyOrder (sortMembers localeLe ms) = sortMembers localeLe ms :=
      fun ms => propertyOrder_idem _
    rw [← hordered members, ← hordered members']
    exact propertyOrder_eq_of_perm hnodup hsorted hcollated

end

end AgentSkeptic.Support

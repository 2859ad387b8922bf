import AgentSkeptic.Support.JsString
import AgentSkeptic.Support.Separated
import AgentSkeptic.Support.StableSort

/-!
# Sorting by a text

Items in the UTF-16 order of their keys.  When the keys are distinct, the sorted list
depends only on which items there are; else also on the order of the items of each key.
-/

namespace AgentSkeptic.Support

universe u v

variable {α : Type u} {β : Type v} (key : α → String)

instance utf16Le_by_total : Std.Total fun a b : α => utf16Le (key a) (key b) = true where
  total a b := by
    have htotal := utf16Le_total (key a) (key b)
    rwa [Bool.or_eq_true] at htotal

instance utf16Le_by_trans : IsTrans α fun a b => utf16Le (key a) (key b) = true where
  trans _ _ _ := utf16Le_trans

/-- The items in the order of their keys. -/
abbrev sortBy (xs : List α) : List α :=
  xs.insertionSort fun a b => utf16Le (key a) (key b) = true

theorem pairwise_sortBy (xs : List α) :
    (sortBy key xs).Pairwise fun a b => utf16Le (key a) (key b) = true :=
  List.pairwise_insertionSort _ xs

theorem sortBy_perm (xs : List α) : (sortBy key xs).Perm xs :=
  List.perm_insertionSort _ xs

variable {key} in
/-- Two orders of items with distinct keys have one sorted list. -/
theorem sortBy_eq_of_perm {xs ys : List α} (h : xs.Perm ys) (hkeys : (xs.map key).Nodup) :
    sortBy key xs = sortBy key ys := by
  have hperm : (sortBy key xs).Perm (sortBy key ys) :=
    ((sortBy_perm key xs).trans h).trans (sortBy_perm key ys).symm
  refine List.Perm.eq_of_pairwise ?_ (pairwise_sortBy key xs) (pairwise_sortBy key ys) hperm
  intro a b ha hb hab hba
  have hb' : b ∈ xs := h.mem_iff.mpr ((sortBy_perm key ys).mem_iff.mp hb)
  have ha' : a ∈ xs := (sortBy_perm key xs).mem_iff.mp ha
  exact List.inj_on_of_nodup_map hkeys ha' hb' (utf16Le_antisymm hab hba)

/-- The sorted list keeps the items of each key in their order, and nothing else. -/
theorem sortBy_eq_iff {xs ys : List α} :
    sortBy key xs = sortBy key ys ↔
      ∀ k, xs.filter (fun a => key a = k) = ys.filter fun a => key a = k := by
  have htied : ∀ a, tied (fun a b => utf16Le (key a) (key b)) a =
      fun b => decide (key b = key a) := by
    intro a
    funext b
    rw [Bool.eq_iff_iff, tied_iff, decide_eq_true_eq]
    constructor
    · rintro ⟨hab, hba⟩
      exact utf16Le_antisymm hba hab
    · intro hsame
      have hself := utf16Le_total (key a) (key a)
      rw [Bool.or_self] at hself
      rw [hsame]
      exact ⟨hself, hself⟩
  have hiff := @insertionSort_eq_iff α (fun a b => utf16Le (key a) (key b)) _ _ xs ys
  simp only [htied] at hiff
  rw [hiff]
  constructor
  · intro h k
    by_cases hk : ∃ a, key a = k
    · obtain ⟨a, rfl⟩ := hk
      exact h a
    · have hnone : ∀ zs : List α, zs.filter (fun a => key a = k) = [] := by
        intro zs
        rw [List.filter_eq_nil_iff]
        intro a _ hsame
        exact hk ⟨a, by simpa using hsame⟩
      rw [hnone, hnone]
  · intro h a
    exact h (key a)

variable {key} in
theorem sortBy_of_pairwise {xs : List α}
    (h : xs.Pairwise fun a b => utf16Le (key a) (key b) = true) : sortBy key xs = xs :=
  List.Pairwise.insertionSort_eq h

/-- Sorting commutes with a change of the items that leaves their keys. -/
theorem map_sortBy (f : α → β) {key' : β → String} {xs : List α}
    (hkey : ∀ a ∈ xs, key' (f a) = key a) :
    (sortBy key xs).map f = sortBy key' (xs.map f) := by
  apply List.map_insertionSort
  intro a ha b hb
  rw [hkey a ha, hkey b hb]

variable {key} in
/-- Distinct keys that are sorted ascend. -/
theorem pairwise_lt_sortBy {xs : List α} (hkeys : (xs.map key).Nodup) :
    (sortBy key xs).Pairwise fun a b =>
      utf16Le (key a) (key b) = true ∧ key a ≠ key b := by
  have hnodup : ((sortBy key xs).map key).Nodup :=
    ((sortBy_perm key xs).map key).nodup_iff.mpr hkeys
  exact (pairwise_sortBy key xs).and (List.pairwise_map.mp hnodup)

/-- Texts that are sorted are determined by how often each occurs. -/
theorem sortBy_id_eq_iff {xs ys : List String} :
    sortBy id xs = sortBy id ys ↔ xs.Perm ys := by
  constructor
  · intro h
    exact (sortBy_perm id xs).symm.trans (h ▸ sortBy_perm id ys)
  · intro h
    have hperm : (sortBy id xs).Perm (sortBy id ys) :=
      ((sortBy_perm id xs).trans h).trans (sortBy_perm id ys).symm
    exact hperm.eq_of_pairwise (fun _ _ _ _ => utf16Le_antisymm) (pairwise_sortBy id xs)
      (pairwise_sortBy id ys)

/-! ## Items and their values -/

section

variable {f : α → β} {R : α → α → Prop}

/-- Items that are related determine a value of each, if those of each key are related. -/
theorem map_sortBy_eq_of_forall₂ (hR : ∀ a b, R a b → key a = key b ∧ f a = f b) {xs ys : List α}
    (h : ∀ k, List.Forall₂ R (xs.filter (key · = k)) (ys.filter (key · = k))) :
    (sortBy key xs).map f = (sortBy key ys).map f := by
  have hfilter : ∀ (zs : List α) (k : String),
      (zs.map fun a => (key a, f a)).filter (fun p => p.1 = k) =
        (zs.filter (key · = k)).map fun a => (key a, f a) := by
    intro zs k
    rw [List.filter_map]
    rfl
  have hmap : ∀ zs : List α, (sortBy key zs).map f =
      (sortBy Prod.fst (zs.map fun a => (key a, f a))).map Prod.snd := by
    intro zs
    rw [← map_sortBy key (fun a => (key a, f a)) fun _ _ => rfl, List.map_map]
    rfl
  have hsorted : sortBy Prod.fst (xs.map fun a => (key a, f a)) =
      sortBy Prod.fst (ys.map fun a => (key a, f a)) := by
    rw [sortBy_eq_iff]
    intro k
    rw [hfilter, hfilter, ← List.forall₂_eq_eq_eq, List.forall₂_map_left_iff,
      List.forall₂_map_right_iff]
    exact (h k).imp fun a b hab => Prod.ext (hR a b hab).1 (hR a b hab).2
  rw [hmap, hmap, hsorted]

/-- Items that a value determines are related key by key. -/
theorem forall₂_filter_of_map_sortBy {xs ys : List α}
    (hR : ∀ a ∈ xs, ∀ b ∈ ys, f a = f b → key a = key b ∧ R a b)
    (h : (sortBy key xs).map f = (sortBy key ys).map f) (k : String) :
    List.Forall₂ R (xs.filter (key · = k)) (ys.filter (key · = k)) := by
  have hkept : ∀ zs : List α, (sortBy key zs).filter (key · = k) = zs.filter (key · = k) := by
    intro zs
    apply filter_insertionSort
    intro a b ha hb
    have hsame : key a = key b := by
      rw [of_decide_eq_true ha, of_decide_eq_true hb]
    have hself := utf16Le_total (key b) (key b)
    rw [Bool.or_self] at hself
    rw [hsame]
    exact hself
  have hmem : ∀ zs : List α, ∀ a ∈ sortBy key zs, a ∈ zs :=
    fun zs a ha => (sortBy_perm key zs).mem_iff.mp ha
  have hboth : List.Forall₂ (fun a b => key a = key b ∧ R a b) (sortBy key xs)
      (sortBy key ys) := by
    refine forall₂_of_map_eq ?_ h
    intro a ha b hb
    exact hR a (hmem xs a ha) b (hmem ys b hb)
  have hfiltered := List.rel_filter (p := fun a => decide (key a = k))
    (q := fun a => decide (key a = k)) (fun a b hab => by simp [hab.1]) hboth
  rw [hkept, hkept] at hfiltered
  exact hfiltered.imp fun a b hab => hab.2

end

end AgentSkeptic.Support

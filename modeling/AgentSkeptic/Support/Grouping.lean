import Mathlib.Data.List.Sort
import Mathlib.Data.List.Induction

/-!
# Grouping by a key

A `Map` from keys to lists that is filled by walking over a list: the groups
stand in the order in which their keys occur first, each with its items in list
order.  A group has a last item by construction.
-/

namespace AgentSkeptic.Support

universe u v

variable {κ : Type u} {α : Type v}

structure Group (κ : Type u) (α : Type v) where
  key : κ
  before : List α
  last : α

def Group.items (g : Group κ α) : List α := g.before ++ [g.last]

theorem Group.ext_items {g h : Group κ α} (hkey : g.key = h.key)
    (hitems : g.items = h.items) : g = h := by
  obtain ⟨hbefore, hlast⟩ := List.append_inj' hitems rfl
  rcases g with ⟨key, before, last⟩
  rcases h with ⟨key', before', last'⟩
  simp_all

/-- All items are like the last one when they are like each other. -/
theorem Group.all_like_last {R : α → α → Prop} (hR : Equivalence R) {same : α → α → Bool}
    (hsame : ∀ a b, same a b = true ↔ R a b) (g : Group κ α) :
    (g.before.any fun item => !same item g.last) = false ↔
      ∀ a ∈ g.items, ∀ b ∈ g.items, R a b := by
  have hlike : (g.before.any fun item => !same item g.last) = false ↔
      ∀ a ∈ g.items, R a g.last := by
    simp [Group.items, hsame, hR.refl, or_imp, forall_and]
  rw [hlike]
  constructor
  · intro hall a ha b hb
    exact hR.trans (hall a ha) (hR.symm (hall b hb))
  · intro hall a ha
    exact hall a ha g.last (by simp [Group.items])

section

variable [DecidableEq κ] (key : α → κ)

/-- Push an item to the group of its key, or open one. -/
def insertGroup (x : α) : List (Group κ α) → List (Group κ α)
  | [] => [⟨key x, [], x⟩]
  | g :: gs =>
      if g.key = key x then ⟨g.key, g.items, x⟩ :: gs else g :: insertGroup x gs

def groupBy (xs : List α) : List (Group κ α) :=
  xs.foldl (fun gs x => insertGroup key x gs) []

/-- The items of a key. -/
def itemsOf (gs : List (Group κ α)) (k : κ) : List α :=
  match gs.find? (·.key = k) with
  | some g => g.items
  | none => []

variable {key}

theorem itemsOf_insertGroup (x : α) (gs : List (Group κ α)) (k : κ) :
    itemsOf (insertGroup key x gs) k =
      itemsOf gs k ++ if key x = k then [x] else [] := by
  induction gs with
  | nil =>
      by_cases hk : key x = k
      · simp [insertGroup, itemsOf, hk, Group.items]
      · simp [insertGroup, itemsOf, hk]
  | cons g gs ih =>
      rw [insertGroup]
      split_ifs with hg hk hk
      · simp [itemsOf, hg, hk, Group.items]
      · simp [itemsOf, hg, hk]
      · have hne : g.key ≠ k := by
          rw [← hk]
          exact hg
        simpa [itemsOf, hne, hk] using ih
      · by_cases hgk : g.key = k
        · simp [itemsOf, hgk]
        · simpa [itemsOf, hgk, hk] using ih

theorem mem_keys_insertGroup {x : α} {gs : List (Group κ α)} {k : κ} :
    k ∈ (insertGroup key x gs).map Group.key ↔
      k ∈ gs.map Group.key ∨ k = key x := by
  induction gs with
  | nil => simp [insertGroup]
  | cons g gs ih =>
      rw [insertGroup]
      split_ifs with hg
      · simp only [List.map_cons, List.mem_cons, hg]
        tauto
      · simp only [List.map_cons, List.mem_cons, ih, or_assoc]

theorem nodup_insertGroup (x : α) {gs : List (Group κ α)}
    (h : (gs.map Group.key).Nodup) :
    ((insertGroup key x gs).map Group.key).Nodup := by
  induction gs with
  | nil => simp [insertGroup]
  | cons g gs ih =>
      obtain ⟨hg, hgs⟩ := List.nodup_cons.mp h
      rw [insertGroup]
      split_ifs with hkey
      · exact h
      · refine List.nodup_cons.mpr ⟨?_, ih hgs⟩
        intro hmem
        rcases mem_keys_insertGroup.mp hmem with hold | hnew
        · exact hg hold
        · exact hkey hnew

theorem groupBy_append (xs : List α) (x : α) :
    groupBy key (xs ++ [x]) = insertGroup key x (groupBy key xs) := by
  simp [groupBy, List.foldl_append]

/-- The keys of the groups are distinct. -/
theorem nodup_groupBy (xs : List α) : ((groupBy key xs).map Group.key).Nodup := by
  induction xs using List.reverseRecOn with
  | nil => exact List.nodup_nil
  | append_singleton xs x ih =>
      rw [groupBy_append]
      exact nodup_insertGroup x ih

theorem itemsOf_groupBy (xs : List α) (k : κ) :
    itemsOf (groupBy key xs) k = xs.filter (key · = k) := by
  induction xs using List.reverseRecOn with
  | nil => rfl
  | append_singleton xs x ih =>
      rw [groupBy_append, itemsOf_insertGroup, ih, List.filter_append]
      by_cases hk : key x = k
      · simp [hk]
      · simp [hk]

theorem itemsOf_of_mem {gs : List (Group κ α)} (h : (gs.map Group.key).Nodup)
    {g : Group κ α} (hg : g ∈ gs) : itemsOf gs g.key = g.items := by
  induction gs with
  | nil => cases hg
  | cons g' gs ih =>
      obtain ⟨hg', hgs⟩ := List.nodup_cons.mp h
      rcases List.mem_cons.mp hg with rfl | hmem
      · simp [itemsOf]
      · have hne : g'.key ≠ g.key := by
          intro hsame
          exact hg' (hsame ▸ List.mem_map_of_mem hmem)
        simpa [itemsOf, hne] using ih hgs hmem

/-- The groups are the nonempty sublists of equal keys. -/
theorem mem_groupBy {xs : List α} {g : Group κ α} :
    g ∈ groupBy key xs ↔ g.items = xs.filter (key · = g.key) := by
  rw [← itemsOf_groupBy]
  constructor
  · intro hg
    exact (itemsOf_of_mem (nodup_groupBy xs) hg).symm
  · intro hitems
    unfold itemsOf at hitems
    split at hitems
    · rename_i h hfind
      have hkey : h.key = g.key := by
        simpa using List.find?_some hfind
      rw [Group.ext_items hkey.symm hitems]
      exact List.mem_of_find?_eq_some hfind
    · simp [Group.items] at hitems

/-- Every item has its group. -/
theorem exists_group {xs : List α} {x : α} (hx : x ∈ xs) :
    ∃ g ∈ groupBy key xs, g.key = key x ∧ x ∈ g.items := by
  have hmem : x ∈ xs.filter (key · = key x) := by
    simpa using hx
  have hne : xs.filter (key · = key x) ≠ [] := List.ne_nil_of_mem hmem
  have hitems : (Group.mk (key x) (xs.filter (key · = key x)).dropLast
      ((xs.filter (key · = key x)).getLast hne)).items =
        xs.filter (key · = key x) :=
    List.dropLast_append_getLast hne
  refine ⟨_, mem_groupBy.mpr hitems, rfl, ?_⟩
  rw [hitems]
  exact hmem

end

/-! ## Stability of the sort -/

section

variable (r : α → α → Prop) [DecidableRel r] {p : α → Bool}

theorem filter_orderedInsert (h : ∀ a b, p a = true → p b = true → r a b) (a : α)
    (xs : List α) :
    (xs.orderedInsert r a).filter p = (a :: xs).filter p := by
  induction xs with
  | nil => rfl
  | cons b xs ih =>
      rw [List.orderedInsert_cons]
      split_ifs with hab
      · rfl
      · rw [List.filter_cons, ih]
        by_cases ha : p a = true
        · have hb : ¬ p b = true := by
            intro hb
            exact hab (h a b ha hb)
          simp [ha, hb]
        · simp [ha, List.filter_cons]

/-- Items that the order does not tell apart keep their order. -/
theorem filter_insertionSort (h : ∀ a b, p a = true → p b = true → r a b)
    (xs : List α) : (xs.insertionSort r).filter p = xs.filter p := by
  induction xs with
  | nil => rfl
  | cons a xs ih =>
      rw [List.insertionSort_cons, filter_orderedInsert r h, List.filter_cons,
        List.filter_cons, ih]

end

/-! ## The classes of a list -/

/-- The items of each key, for the keys that occur, are all items. -/
theorem classes_perm [DecidableEq κ] (key : α → κ) {keys : List κ} (hkeys : keys.Nodup)
    {xs : List α} (hall : ∀ x ∈ xs, key x ∈ keys) :
    (keys.flatMap fun k => xs.filter (key · = k)).Perm xs := by
  induction keys generalizing xs with
  | nil =>
      have hnil : xs = [] := List.eq_nil_iff_forall_not_mem.mpr fun x hx => nomatch hall x hx
      rw [hnil]
      exact List.Perm.refl _
  | cons k keys ih =>
      obtain ⟨hk, hkeys⟩ := List.nodup_cons.mp hkeys
      let others := xs.filter fun x => !decide (key x = k)
      have hothers : ∀ x ∈ others, key x ∈ keys := by
        intro x hx
        obtain ⟨hmem, hne⟩ := List.mem_filter.mp hx
        exact (List.mem_cons.mp (hall x hmem)).resolve_left (by simpa using hne)
      have hsame : (keys.flatMap fun k' => xs.filter (key · = k')) =
          keys.flatMap fun k' => others.filter (key · = k') := by
        apply List.flatMap_congr
        intro k' hk'
        rw [List.filter_filter]
        apply List.filter_congr
        intro x _
        by_cases hx : key x = k'
        · have hne : key x ≠ k := fun h => hk (h ▸ hx ▸ hk')
          simp [hx, hx ▸ hne]
        · simp [hx]
      rw [List.flatMap_cons, hsame]
      exact ((ih hkeys hothers).append_left _).trans (List.filter_append_perm _ xs)

/-! ## Groups in key order -/

section Ordered

variable [LinearOrder κ] (key : α → κ)

/-- The items sorted stably and grouped, the groups in ascending order of their keys. -/
def orderedGroups (xs : List α) : List (Group κ α) :=
  (groupBy key (xs.insertionSort fun a b => key a ≤ key b)).insertionSort
    fun g h => g.key ≤ h.key

variable {key}

theorem mem_orderedGroups {xs : List α} {g : Group κ α} :
    g ∈ orderedGroups key xs ↔ g.items = xs.filter (key · = g.key) := by
  have hstable : (xs.insertionSort fun a b => key a ≤ key b).filter (key · = g.key) =
      xs.filter (key · = g.key) := by
    apply filter_insertionSort
    intro a b ha hb
    simp only [decide_eq_true_eq] at ha hb
    exact (ha.trans hb.symm).le
  rw [orderedGroups, List.mem_insertionSort, mem_groupBy, hstable]

theorem mem_keys_orderedGroups {xs : List α} {k : κ} :
    k ∈ (orderedGroups key xs).map Group.key ↔ ∃ x ∈ xs, key x = k := by
  rw [List.mem_map]
  constructor
  · rintro ⟨g, hg, rfl⟩
    have hlast : g.last ∈ xs.filter (key · = g.key) := by
      rw [← mem_orderedGroups.mp hg]
      simp [Group.items]
    obtain ⟨hmem, hkey⟩ := List.mem_filter.mp hlast
    exact ⟨g.last, hmem, of_decide_eq_true hkey⟩
  · rintro ⟨x, hx, rfl⟩
    have hsorted : x ∈ xs.insertionSort fun a b => key a ≤ key b :=
      (List.mem_insertionSort _).mpr hx
    obtain ⟨g, hg, hkey, -⟩ : ∃ g ∈ groupBy key (xs.insertionSort fun a b => key a ≤ key b),
        g.key = key x ∧ x ∈ g.items := exists_group hsorted
    exact ⟨g, (List.mem_insertionSort _).mpr hg, hkey⟩

theorem pairwise_keys_orderedGroups (xs : List α) :
    ((orderedGroups key xs).map Group.key).Pairwise (· < ·) := by
  have hsorted : ((orderedGroups key xs).map Group.key).Pairwise (· ≤ ·) := by
    rw [List.pairwise_map]
    have htotal : Std.Total fun g h : Group κ α => g.key ≤ h.key :=
      ⟨fun g h => le_total g.key h.key⟩
    have htrans : IsTrans (Group κ α) fun g h => g.key ≤ h.key :=
      ⟨fun g h k => le_trans⟩
    exact List.pairwise_insertionSort _ _
  have hnodup : ((orderedGroups key xs).map Group.key).Nodup :=
    ((List.perm_insertionSort _ _).map Group.key).nodup_iff.mpr (nodup_groupBy _)
  exact hsorted.imp₂ (fun _ _ hle hne => lt_of_le_of_ne hle hne) hnodup

/-- Two lists with the same keys have groups of the same keys. -/
theorem orderedGroups_keys_eq {β : Type*} {key' : β → κ} {xs : List α} {ys : List β}
    (h : ∀ k, (∃ x ∈ xs, key x = k) ↔ ∃ y ∈ ys, key' y = k) :
    (orderedGroups key xs).map Group.key = (orderedGroups key' ys).map Group.key := by
  have hxs : ((orderedGroups key xs).map Group.key).Pairwise (· < ·) :=
    pairwise_keys_orderedGroups xs
  have hys : ((orderedGroups key' ys).map Group.key).Pairwise (· < ·) :=
    pairwise_keys_orderedGroups ys
  have hperm : ((orderedGroups key xs).map Group.key).Perm
      ((orderedGroups key' ys).map Group.key) := by
    rw [List.perm_ext_iff_of_nodup (hxs.imp ne_of_lt) (hys.imp ne_of_lt)]
    intro k
    rw [mem_keys_orderedGroups, mem_keys_orderedGroups, h]
  exact hperm.eq_of_pairwise (fun a b _ _ hab hba => absurd hba (lt_asymm hab)) hxs hys

end Ordered

/-! ## Places in a list that grows -/

/-- What holds of an item at a place, of a list with one more item. -/
theorem exists_getElem?_snoc {xs : List α} {x : α} {i : ℕ} {p : α → Prop} :
    (∃ later, (xs ++ [x])[i]? = some later ∧ p later) ↔
      (∃ earlier, xs[i]? = some earlier ∧ p earlier) ∨
        i = xs.length ∧ p x := by
  rcases lt_trichotomy i xs.length with hlt | rfl | hgt
  · rw [List.getElem?_append_left hlt]
    constructor
    · exact .inl
    · rintro (h | ⟨rfl, -⟩)
      · exact h
      · exact absurd hlt (lt_irrefl _)
  · simp
  · have hnone : xs[i]? = none := List.getElem?_eq_none hgt.le
    have hout : (xs ++ [x])[i]? = none := by
      apply List.getElem?_eq_none
      rw [List.length_append, List.length_singleton]
      omega
    simp [hnone, hout, hgt.ne']

end AgentSkeptic.Support

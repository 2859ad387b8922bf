import AgentSkeptic.Support.Grouping

/-!
# Stable sorting by a preorder

A comparison that may find two distinct items equal: what a stable sort returns is
determined by the items of each class of ties, in the order in which they stand in the
list (`insertionSort_eq_iff`).
-/

namespace AgentSkeptic.Support

universe u

/-! ## A comparison that refines a key -/

section Keyed

variable {α : Type u} {β : Type*} [LinearOrder β] {r : α → α → Prop} [DecidableRel r]
  {key : α → β}

theorem pairwise_orderedInsert_key (hle : ∀ a b, r a b → key a ≤ key b)
    (hge : ∀ a b, ¬ r a b → key b ≤ key a) (a : α) {xs : List α}
    (h : xs.Pairwise fun x y => key x ≤ key y) :
    (xs.orderedInsert r a).Pairwise fun x y => key x ≤ key y := by
  induction xs with
  | nil => simp
  | cons x xs ih =>
      obtain ⟨hx, hxs⟩ := List.pairwise_cons.mp h
      rw [List.orderedInsert_cons]
      split_ifs with hax
      · refine List.pairwise_cons.mpr ⟨fun y hy => ?_, h⟩
        rcases List.mem_cons.mp hy with rfl | hy
        · exact hle a y hax
        · exact (hle a x hax).trans (hx y hy)
      · refine List.pairwise_cons.mpr ⟨fun y hy => ?_, ih hxs⟩
        rcases (List.mem_orderedInsert r).mp hy with rfl | hy
        · exact hge y x hax
        · exact hx y hy

/-- A sort whose comparison decides by a key first returns the keys in order. -/
theorem pairwise_insertionSort_key (hle : ∀ a b, r a b → key a ≤ key b)
    (hge : ∀ a b, ¬ r a b → key b ≤ key a) (xs : List α) :
    (xs.insertionSort r).Pairwise fun x y => key x ≤ key y := by
  induction xs with
  | nil => simp
  | cons a xs ih =>
      rw [List.insertionSort_cons]
      exact pairwise_orderedInsert_key hle hge a ih

end Keyed

/-! ## Ties -/

variable {α : Type u} (le : α → α → Bool)

/-- Neither item is before the other. -/
def tied (a b : α) : Bool := le a b && le b a

theorem tied_iff {a b : α} : tied le a b = true ↔ le a b = true ∧ le b a = true :=
  Bool.and_eq_true_iff

section

variable [IsTrans α fun a b => le a b = true]

theorem filter_tied_insertionSort (a : α) (xs : List α) :
    (xs.insertionSort fun b c => le b c = true).filter (tied le a) =
      xs.filter (tied le a) := by
  apply filter_insertionSort
  intro b c hb hc
  have hab := (tied_iff le).mp hb
  have hac := (tied_iff le).mp hc
  exact IsTrans.trans (r := fun a b => le a b = true) b a c hab.2 hac.1

end

variable [Std.Total fun a b => le a b = true]

theorem tied_self (a : α) : tied le a a = true := by
  have hself : le a a = true := by
    rcases Std.Total.total (r := fun a b => le a b = true) a a with h | h
    · exact h
    · exact h
  exact (tied_iff le).mpr ⟨hself, hself⟩

/-- Two sorted lists with the same classes are one. -/
theorem eq_of_filter_tied {xs ys : List α}
    (hxs : xs.Pairwise fun a b => le a b = true) (hys : ys.Pairwise fun a b => le a b = true)
    (h : ∀ a, xs.filter (tied le a) = ys.filter (tied le a)) : xs = ys := by
  induction xs generalizing ys with
  | nil =>
      cases ys with
      | nil => rfl
      | cons y ys =>
          have hy := h y
          rw [List.filter_nil, List.filter_cons_of_pos (tied_self le y)] at hy
          cases hy
  | cons x xs ih =>
      have hx := h x
      rw [List.filter_cons_of_pos (tied_self le x)] at hx
      cases ys with
      | nil => cases hx
      | cons y ys =>
          have hy := h y
          rw [List.filter_cons_of_pos (tied_self le y)] at hy
          have hmemx : x ∈ y :: ys := by
            apply List.mem_of_mem_filter (p := tied le x)
            rw [← hx]
            exact List.mem_cons_self
          have hmemy : y ∈ x :: xs := by
            apply List.mem_of_mem_filter (p := tied le y)
            rw [hy]
            exact List.mem_cons_self
          have hxy : le x y = true := by
            rcases List.mem_cons.mp hmemy with rfl | hrest
            · exact ((tied_iff le).mp (tied_self le _)).1
            · exact (List.pairwise_cons.mp hxs).1 y hrest
          have hyx : le y x = true := by
            rcases List.mem_cons.mp hmemx with rfl | hrest
            · exact hxy
            · exact (List.pairwise_cons.mp hys).1 x hrest
          -- the heads are of one class, so each is the first item of it
          rw [List.filter_cons_of_pos ((tied_iff le).mpr ⟨hxy, hyx⟩)] at hx
          obtain ⟨rfl, -⟩ := List.cons.inj hx
          congr 1
          apply ih (List.pairwise_cons.mp hxs).2 (List.pairwise_cons.mp hys).2
          intro a
          have ha := h a
          rw [List.filter_cons, List.filter_cons] at ha
          split_ifs at ha
          · exact (List.cons.inj ha).2
          · exact ha

variable [IsTrans α fun a b => le a b = true]

theorem insertionSort_eq_iff {xs ys : List α} :
    (xs.insertionSort fun a b => le a b = true) =
        ys.insertionSort (fun a b => le a b = true) ↔
      ∀ a, xs.filter (tied le a) = ys.filter (tied le a) := by
  constructor
  · intro h a
    rw [← filter_tied_insertionSort, h, filter_tied_insertionSort]
  · intro h
    apply eq_of_filter_tied le (List.pairwise_insertionSort _ xs)
      (List.pairwise_insertionSort _ ys)
    intro a
    rw [filter_tied_insertionSort, filter_tied_insertionSort, h]

omit [Std.Total fun a b => le a b = true] in
/-- Where what ties is the same, every order has the same classes. -/
theorem filter_tied_eq_of_perm {xs ys : List α} (h : xs.Perm ys)
    (hsame : ∀ a ∈ xs, ∀ b ∈ xs, tied le a b = true → a = b) (a : α) :
    xs.filter (tied le a) = ys.filter (tied le a) := by
  have htrans := fun b c d => IsTrans.trans (r := fun a b => le a b = true) b c d
  have hall : ∀ zs : List α, zs.Pairwise fun _ _ => True :=
    fun zs => List.pairwise_of_forall fun _ _ => trivial
  refine List.Perm.eq_of_pairwise ?_ (hall _) (hall _) (h.filter (tied le a))
  intro b c hb hc _ _
  obtain ⟨hbmem, hab⟩ := List.mem_filter.mp hb
  obtain ⟨hcmem, hac⟩ := List.mem_filter.mp hc
  obtain ⟨hab, hba⟩ := (tied_iff le).mp hab
  obtain ⟨hac, hca⟩ := (tied_iff le).mp hac
  apply hsame b hbmem c (h.mem_iff.mpr hcmem)
  exact (tied_iff le).mpr ⟨htrans b a c hba hac, htrans c a b hca hab⟩

theorem insertionSort_filter (p : α → Bool) (xs : List α) :
    (xs.insertionSort fun a b => le a b = true).filter p =
      (xs.filter p).insertionSort fun a b => le a b = true := by
  apply eq_of_filter_tied le ((List.pairwise_insertionSort _ xs).sublist List.filter_sublist)
    (List.pairwise_insertionSort _ _)
  intro a
  rw [List.filter_comm, filter_tied_insertionSort, filter_tied_insertionSort,
    List.filter_comm]

end AgentSkeptic.Support

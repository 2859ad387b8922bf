import Mathlib.Data.List.Basic
import Mathlib.Data.List.Forall2
import Mathlib.Data.Set.Function

/-!
# Lists that are joined with a separator

A list with a separator in it may be cut at each occurrence.  Two cuts of one list are
the same, or the one lies inside a part of the other.
-/

namespace AgentSkeptic.Support

universe u

variable {α : Type u} {sep : α}

theorem cut_cases {a b a' b' : List α} (h : a ++ sep :: b = a' ++ sep :: b') :
    (a = a' ∧ b = b') ∨ (∃ mid, a' = a ++ sep :: mid ∧ b = mid ++ sep :: b') ∨
      ∃ mid, a = a' ++ sep :: mid ∧ b' = mid ++ sep :: b := by
  rcases List.append_eq_append_iff.mp h with ⟨c, rfl, hc⟩ | ⟨c, rfl, hc⟩
  · cases c with
    | nil => exact .inl ⟨(List.append_nil a).symm, (List.cons.inj hc).2⟩
    | cons x mid =>
        obtain ⟨rfl, htail⟩ := List.cons.inj hc
        exact .inr (.inl ⟨mid, rfl, htail⟩)
  · cases c with
    | nil => exact .inl ⟨List.append_nil a', (List.cons.inj hc).2.symm⟩
    | cons x mid =>
        obtain ⟨rfl, htail⟩ := List.cons.inj hc
        exact .inr (.inr ⟨mid, rfl, htail⟩)

/-- The cut at the first separator is determined. -/
theorem cut_unique {a b a' b' : List α} (ha : sep ∉ a) (ha' : sep ∉ a')
    (h : a ++ sep :: b = a' ++ sep :: b') : a = a' ∧ b = b' := by
  rcases cut_cases h with hsame | ⟨mid, rfl, -⟩ | ⟨mid, rfl, -⟩
  · exact hsame
  · exact absurd (by simp) ha'
  · exact absurd (by simp) ha

/-- The cut at the last separator is determined. -/
theorem cut_last_unique {a b a' b' : List α} (hb : sep ∉ b) (hb' : sep ∉ b')
    (h : a ++ sep :: b = a' ++ sep :: b') : a = a' ∧ b = b' := by
  rcases cut_cases h with hsame | ⟨mid, -, rfl⟩ | ⟨mid, -, rfl⟩
  · exact hsame
  · exact absurd (by simp) hb
  · exact absurd (by simp) hb'

/-! ## Three parts -/

theorem mem_dropLast_of_append {a b : List α} (hb : b ≠ []) :
    sep ∈ (a ++ sep :: b).dropLast := by
  rw [List.dropLast_append_of_ne_nil (List.cons_ne_nil _ _),
    List.dropLast_cons_of_ne_nil hb]
  simp

theorem mem_tail_of_append {a b : List α} (ha : a ≠ []) : sep ∈ (a ++ sep :: b).tail := by
  obtain ⟨x, a, rfl⟩ := List.exists_cons_of_ne_nil ha
  simp

/-- Three parts are determined where the separator stands in them only at the two outer
ends and no outer part is empty. -/
theorem three_parts_unique {t n i t' n' i' : List α} (ht : sep ∉ t.tail) (hn : sep ∉ n)
    (hi : sep ∉ i.dropLast) (ht' : t' ≠ []) (hi' : i' ≠ [])
    (h : t ++ sep :: (n ++ sep :: i) = t' ++ sep :: (n' ++ sep :: i')) :
    t = t' ∧ n = n' ∧ i = i' := by
  rcases cut_cases h with ⟨rfl, hrest⟩ | ⟨mid, rfl, hrest⟩ | ⟨mid, rfl, -⟩
  · rcases cut_cases hrest with ⟨rfl, rfl⟩ | ⟨mid, -, rfl⟩ | ⟨mid, rfl, -⟩
    · exact ⟨rfl, rfl, rfl⟩
    · exact absurd (mem_dropLast_of_append hi') hi
    · exact absurd (by simp) hn
  · have hlong : n' ++ sep :: i' ≠ [] := by simp
    rcases cut_cases hrest with ⟨-, rfl⟩ | ⟨mid', -, rfl⟩ | ⟨mid', rfl, -⟩
    · exact absurd (mem_dropLast_of_append hi') hi
    · exact absurd (mem_dropLast_of_append hlong) hi
    · exact absurd (by simp) hn
  · exact absurd (mem_tail_of_append ht') ht

/-- Elsewhere the separator is where another cut may be made. -/
theorem exists_other_cut {t n i : List α} (ht : t ≠ []) (hi : i ≠ [])
    (h : ¬ (sep ∉ t.tail ∧ sep ∉ n ∧ sep ∉ i.dropLast)) :
    ∃ t' n' i', t' ≠ [] ∧ i' ≠ [] ∧ ¬ (t = t' ∧ i = i') ∧
      t ++ sep :: (n ++ sep :: i) = t' ++ sep :: (n' ++ sep :: i') := by
  have hlonger : ∀ {a b : List α}, a ≠ a ++ sep :: b := by
    intro a b heq
    have hlength := congrArg List.length heq
    rw [List.length_append, List.length_cons] at hlength
    omega
  by_cases hn : sep ∈ n
  · obtain ⟨n₁, n₂, rfl⟩ := List.append_of_mem hn
    refine ⟨t ++ sep :: n₁, n₂, i, by simp, hi, fun hsame => hlonger hsame.1, by simp⟩
  · by_cases htail : sep ∈ t.tail
    · obtain ⟨x, r, rfl⟩ := List.exists_cons_of_ne_nil ht
      obtain ⟨r₁, r₂, hr⟩ := List.append_of_mem htail
      rw [List.tail_cons] at hr
      subst hr
      refine ⟨x :: r₁, r₂ ++ sep :: n, i, by simp, hi, fun hsame => ?_, by simp⟩
      exact hlonger (List.cons.inj hsame.1).2.symm
    · have hlast : sep ∈ i.dropLast := by
        by_contra hfree
        exact h ⟨htail, hn, hfree⟩
      obtain ⟨a, b, hab⟩ := List.append_of_mem hlast
      have hsplit : i = a ++ sep :: (b ++ [i.getLast hi]) := by
        conv_lhs => rw [← List.dropLast_append_getLast hi, hab]
        simp
      refine ⟨t, n ++ sep :: a, b ++ [i.getLast hi], ht, by simp, fun hsame => ?_, ?_⟩
      · have hlength := congrArg List.length (hsplit.symm.trans hsame.2)
        simp only [List.length_append, List.length_cons] at hlength
        omega
      · conv_lhs => rw [hsplit]
        simp

/-! ## Joined lists -/

theorem intercalate_cons_of_ne_nil {x : List α} {xs : List (List α)} (h : xs ≠ []) :
    [sep].intercalate (x :: xs) = x ++ sep :: [sep].intercalate xs := by
  obtain ⟨y, ys, rfl⟩ := List.exists_cons_of_ne_nil h
  rw [List.intercalate_cons_cons, List.append_assoc, List.singleton_append]

/-- Parts without the separator are determined, if there is one at all. -/
theorem intercalate_unique {xs ys : List (List α)} (hxs : ∀ x ∈ xs, sep ∉ x)
    (hys : ∀ y ∈ ys, sep ∉ y) (hxne : xs ≠ []) (hyne : ys ≠ [])
    (h : [sep].intercalate xs = [sep].intercalate ys) : xs = ys := by
  induction xs generalizing ys with
  | nil => exact absurd rfl hxne
  | cons x xs ih =>
      obtain ⟨y, ys, rfl⟩ := List.exists_cons_of_ne_nil hyne
      obtain ⟨hx, hxrest⟩ := List.forall_mem_cons.mp hxs
      obtain ⟨hy, hyrest⟩ := List.forall_mem_cons.mp hys
      by_cases hxnil : xs = []
      · by_cases hynil : ys = []
        · rw [hxnil, hynil, List.intercalate_singleton, List.intercalate_singleton] at h
          rw [hxnil, hynil, h]
        · rw [hxnil, List.intercalate_singleton, intercalate_cons_of_ne_nil hynil] at h
          exact absurd (by rw [h]; simp) hx
      · by_cases hynil : ys = []
        · rw [hynil, List.intercalate_singleton, intercalate_cons_of_ne_nil hxnil] at h
          exact absurd (by rw [← h]; simp) hy
        · rw [intercalate_cons_of_ne_nil hxnil, intercalate_cons_of_ne_nil hynil] at h
          obtain ⟨rfl, hrest⟩ := cut_unique hx hy h
          rw [ih hxrest hyrest hxnil hynil hrest]

theorem intercalate_eq_nil {xs : List (List α)} (hxs : ∀ x ∈ xs, x ≠ []) :
    [sep].intercalate xs = [] ↔ xs = [] := by
  constructor
  · intro h
    by_contra hne
    obtain ⟨x, xs, rfl⟩ := List.exists_cons_of_ne_nil hne
    have hx := hxs x List.mem_cons_self
    by_cases hnil : xs = []
    · rw [hnil, List.intercalate_singleton] at h
      exact hx h
    · rw [intercalate_cons_of_ne_nil hnil] at h
      simp at h
  · rintro rfl
    rfl

/-- Parts that are not empty and have no separator are determined. -/
theorem intercalate_unique_of_ne_nil {xs ys : List (List α)}
    (hxs : ∀ x ∈ xs, x ≠ [] ∧ sep ∉ x) (hys : ∀ y ∈ ys, y ≠ [] ∧ sep ∉ y)
    (h : [sep].intercalate xs = [sep].intercalate ys) : xs = ys := by
  by_cases hxnil : xs = []
  · subst hxnil
    have hnil := (intercalate_eq_nil fun y hy => (hys y hy).1).mp h.symm
    exact hnil.symm
  · have hynil : ys ≠ [] := by
      rintro rfl
      exact hxnil ((intercalate_eq_nil fun x hx => (hxs x hx).1).mp h)
    exact intercalate_unique (fun x hx => (hxs x hx).2) (fun y hy => (hys y hy).2) hxnil hynil h

theorem mem_of_mem_intercalate {xs : List (List α)} {c : α} (h : c ∈ [sep].intercalate xs) :
    c = sep ∨ ∃ x ∈ xs, c ∈ x := by
  induction xs with
  | nil => cases h
  | cons x xs ih =>
      by_cases hnil : xs = []
      · rw [hnil, List.intercalate_singleton] at h
        exact .inr ⟨x, List.mem_cons_self, h⟩
      · rw [intercalate_cons_of_ne_nil hnil, List.mem_append, List.mem_cons] at h
        rcases h with hx | hsep | hrest
        · exact .inr ⟨x, List.mem_cons_self, hx⟩
        · exact .inl hsep
        · rcases ih hrest with hsep | ⟨y, hy, hc⟩
          · exact .inl hsep
          · exact .inr ⟨y, List.mem_cons_of_mem _ hy, hc⟩

/-- Items whose parts are equal are related, if equal parts relate them. -/
theorem forall₂_of_map_eq {ι β : Type*} {part : ι → β} {R : ι → ι → Prop} {xs ys : List ι}
    (hR : ∀ x ∈ xs, ∀ y ∈ ys, part x = part y → R x y) (h : xs.map part = ys.map part) :
    List.Forall₂ R xs ys := by
  induction xs generalizing ys with
  | nil =>
      obtain rfl := List.map_eq_nil_iff.mp h.symm
      exact .nil
  | cons x xs ih =>
      obtain ⟨y, ys, rfl, hpart, hrest⟩ := List.map_eq_cons_iff.mp h.symm
      refine .cons (hR x List.mem_cons_self y List.mem_cons_self hpart.symm) (ih ?_ hrest.symm)
      intro x' hx' y' hy'
      exact hR x' (List.mem_cons_of_mem _ hx') y' (List.mem_cons_of_mem _ hy')

/-- A map that is injective on the items reflects permutations. -/
theorem perm_of_map_perm {ι β : Type*} [Nonempty ι] {part : ι → β} {p : ι → Prop}
    (hinj : Set.InjOn part {x | p x}) {xs ys : List ι} (hxs : ∀ x ∈ xs, p x)
    (hys : ∀ y ∈ ys, p y) (h : (xs.map part).Perm (ys.map part)) : xs.Perm ys := by
  have hback : ∀ {zs : List ι}, (∀ z ∈ zs, p z) →
      (zs.map part).map (Function.invFunOn part {x | p x}) = zs := by
    intro zs hzs
    rw [List.map_map]
    conv_rhs => rw [← List.map_id zs]
    apply List.map_congr_left
    intro z hz
    exact hinj.leftInvOn_invFunOn (hzs z hz)
  have hperm := h.map (Function.invFunOn part {x | p x})
  rw [hback hxs, hback hys] at hperm
  exact hperm

/-! ## Parts that end in a separator -/

/-- Parts without the separator, each followed by it, are determined. -/
theorem ended_unique {xs ys : List (List α)} (hxs : ∀ x ∈ xs, sep ∉ x) (hys : ∀ y ∈ ys, sep ∉ y)
    (h : (xs.flatMap fun x => x ++ [sep]) = ys.flatMap fun y => y ++ [sep]) : xs = ys := by
  have hcons : ∀ (z : List α) (zs : List (List α)), ((z :: zs).flatMap fun z => z ++ [sep]) =
      z ++ sep :: zs.flatMap fun z => z ++ [sep] := by
    intro z zs
    rw [List.flatMap_cons, List.append_assoc, List.singleton_append]
  induction xs generalizing ys with
  | nil =>
      cases ys with
      | nil => rfl
      | cons y ys =>
          rw [hcons] at h
          simp at h
  | cons x xs ih =>
      obtain ⟨hx, hxrest⟩ := List.forall_mem_cons.mp hxs
      cases ys with
      | nil =>
          rw [hcons] at h
          simp at h
      | cons y ys =>
          obtain ⟨hy, hyrest⟩ := List.forall_mem_cons.mp hys
          rw [hcons, hcons] at h
          obtain ⟨rfl, hrest⟩ := cut_unique hx hy h
          rw [ih hxrest hyrest hrest]

/-- The end of a code is seen from the code. -/
def PrefixCode {ι : Type*} (code : ι → List α) : Prop :=
  ∀ a b rest rest', code a ++ rest = code b ++ rest' → code a = code b ∧ rest = rest'

theorem PrefixCode.map_eq {ι : Type*} {code : ι → List α} (h : PrefixCode code)
    (hne : ∀ a, code a ≠ []) {xs ys : List ι} (heq : xs.flatMap code = ys.flatMap code) :
    xs.map code = ys.map code := by
  induction xs generalizing ys with
  | nil =>
      cases ys with
      | nil => rfl
      | cons y ys =>
          rw [List.flatMap_cons, List.flatMap_nil] at heq
          exact absurd (List.append_eq_nil_iff.mp heq.symm).1 (hne y)
  | cons x xs ih =>
      cases ys with
      | nil =>
          rw [List.flatMap_cons, List.flatMap_nil] at heq
          exact absurd (List.append_eq_nil_iff.mp heq).1 (hne x)
      | cons y ys =>
          rw [List.flatMap_cons, List.flatMap_cons] at heq
          obtain ⟨hcode, hrest⟩ := h _ _ _ _ heq
          rw [List.map_cons, List.map_cons, hcode, ih hrest]

/-- Codes of one length. -/
theorem prefixCode_of_length {ι : Type*} {code : ι → List α}
    (h : ∀ a b, (code a).length = (code b).length) : PrefixCode code :=
  fun a b _ _ heq => List.append_inj heq (h a b)

end AgentSkeptic.Support

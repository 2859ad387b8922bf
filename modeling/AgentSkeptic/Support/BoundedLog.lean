import Mathlib.Data.List.Infix
import Mathlib.Tactic.Common

/-!
# Logs that keep their last entries

Entries are added at the end of a log, each with a bound on how many entries, itself
among them, the log then keeps.  `retained` is what is left of them: a suffix of what was
added, and all of a suffix that never outgrew a bound.
-/

namespace AgentSkeptic.Support

universe u

variable {α : Type u}

/-- The last entries, up to the bound, if there is one. -/
def keepLast : Option ℕ → List α → List α
  | none, entries => entries
  | some n, entries => entries.drop (entries.length - n)

theorem keepLast_suffix (bound : Option ℕ) (entries : List α) :
    keepLast bound entries <:+ entries := by
  cases bound with
  | none => exact List.suffix_rfl
  | some n => exact List.drop_suffix _ _

/-- A suffix within the bound stays whole. -/
theorem keepLast_append {bound : Option ℕ} (front : List α) {recent : List α}
    (h : ∀ n, bound = some n → recent.length ≤ n) :
    ∃ kept, keepLast bound (front ++ recent) = kept ++ recent := by
  cases bound with
  | none => exact ⟨front, rfl⟩
  | some n =>
      have hle := h n rfl
      refine ⟨front.drop ((front ++ recent).length - n), ?_⟩
      rw [keepLast, List.drop_append_of_le_length]
      rw [List.length_append]
      omega

/-- What a loop keeps that drops the first entry while there are more than the bound
allows: it drops none, or ends with as many as that. -/
theorem keepLast_eq {bound : Option ℕ} {dropped rest : List α}
    (hrest : ∀ n, bound = some n → rest.length ≤ n)
    (hdropped : dropped = [] ∨ ∃ n, bound = some n ∧ n ≤ rest.length) :
    keepLast bound (dropped ++ rest) = rest := by
  cases bound with
  | none =>
      rcases hdropped with rfl | ⟨n, hn, -⟩
      · rfl
      · cases hn
  | some n =>
      have hle := hrest n rfl
      rw [keepLast]
      rcases hdropped with rfl | ⟨m, hm, hge⟩
      · rw [List.nil_append, Nat.sub_eq_zero_of_le hle, List.drop_zero]
      · obtain rfl : n = m := Option.some.inj hm
        apply List.drop_left'
        rw [List.length_append]
        omega

/-- What is left of the entries that were added with these bounds. -/
def retained (added : List (α × Option ℕ)) : List α :=
  added.foldl (fun kept x => keepLast x.2 (kept ++ [x.1])) []

@[simp] theorem retained_nil : retained ([] : List (α × Option ℕ)) = [] := rfl

theorem retained_concat (added : List (α × Option ℕ)) (x : α × Option ℕ) :
    retained (added ++ [x]) = keepLast x.2 (retained added ++ [x.1]) := by
  rw [retained, List.foldl_append]
  rfl

theorem retained_suffix (added : List (α × Option ℕ)) :
    retained added <:+ added.map Prod.fst := by
  induction added using List.reverseRecOn with
  | nil => exact List.suffix_rfl
  | append_singleton added x ih =>
      rw [retained_concat, List.map_append]
      obtain ⟨front, hfront⟩ := ih
      have hgrown : retained added ++ [x.1] <:+ added.map Prod.fst ++ [x.1] :=
        ⟨front, by rw [← List.append_assoc, hfront]⟩
      exact (keepLast_suffix _ _).trans hgrown

/-- Entries that are within the bounds of all of them are still there. -/
theorem retained_recent (front recent : List (α × Option ℕ))
    (h : ∀ x ∈ recent, ∀ n, x.2 = some n → recent.length ≤ n) :
    ∃ kept, retained (front ++ recent) = kept ++ recent.map Prod.fst := by
  induction recent using List.reverseRecOn with
  | nil => exact ⟨retained front, by simp⟩
  | append_singleton recent x ih =>
      obtain ⟨kept, hkept⟩ := ih fun y hy n hn => by
        have hle := h y (List.mem_append_left _ hy) n hn
        rw [List.length_append] at hle
        omega
      have hbound : ∀ n, x.2 = some n → (recent.map Prod.fst ++ [x.1]).length ≤ n := by
        intro n hn
        have hle := h x (List.mem_append_right _ (List.mem_singleton_self x)) n hn
        simpa using hle
      obtain ⟨kept', hkept'⟩ := keepLast_append kept hbound
      refine ⟨kept', ?_⟩
      rw [← List.append_assoc, retained_concat, hkept, List.append_assoc, hkept',
        List.map_append]
      rfl

/-- An entry that is within the bounds of its own and of all that came behind it. -/
theorem mem_retained {front behind : List (α × Option ℕ)} {x : α × Option ℕ}
    (h : ∀ y ∈ x :: behind, ∀ n, y.2 = some n → behind.length < n) :
    x.1 ∈ retained (front ++ x :: behind) := by
  obtain ⟨kept, hkept⟩ := retained_recent front (x :: behind) h
  rw [hkept]
  simp

end AgentSkeptic.Support

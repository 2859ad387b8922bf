import Mathlib.Data.List.Basic
import Mathlib.Order.MinMax
import Mathlib.Order.Nat

/-!
# The edit distance

The Levenshtein distance by its recursion, and the scripts of deletions, insertions and
substitutions of which it is the least cost.  Scripts can be turned around, swapped and
put one after the other, so the distance can be computed from either end.
-/

namespace AgentSkeptic.Support

universe u

variable {α : Type u} [DecidableEq α]

/-- What it costs to put `y` in the place of `x`. -/
def substitutionCost (x y : α) : ℕ := if x = y then 0 else 1

theorem substitutionCost_comm (x y : α) : substitutionCost x y = substitutionCost y x := by
  rw [substitutionCost, substitutionCost]
  by_cases h : x = y
  · rw [if_pos h, if_pos h.symm]
  · rw [if_neg h, if_neg (Ne.symm h)]

/-- The Levenshtein distance. -/
def editDistance : List α → List α → ℕ
  | [], ys => ys.length
  | x :: xs, [] => (x :: xs).length
  | x :: xs, y :: ys =>
      min (min (editDistance xs (y :: ys) + 1) (editDistance (x :: xs) ys + 1))
        (editDistance xs ys + substitutionCost x y)
termination_by xs ys => xs.length + ys.length

theorem editDistance_nil_left (ys : List α) : editDistance [] ys = ys.length := by
  rw [editDistance]

theorem editDistance_nil_right (xs : List α) : editDistance xs [] = xs.length := by
  cases xs with
  | nil => rw [editDistance]
  | cons x xs => rw [editDistance]

theorem editDistance_cons_cons (x y : α) (xs ys : List α) :
    editDistance (x :: xs) (y :: ys) =
      min (min (editDistance xs (y :: ys) + 1) (editDistance (x :: xs) ys + 1))
        (editDistance xs ys + substitutionCost x y) := by
  rw [editDistance]

/-! ## Scripts -/

/-- A script that turns the first list into the second one, and its cost. -/
inductive Edits : List α → List α → ℕ → Prop
  | nil : Edits [] [] 0
  | delete (x : α) {xs ys : List α} {n : ℕ} (h : Edits xs ys n) : Edits (x :: xs) ys (n + 1)
  | insert (y : α) {xs ys : List α} {n : ℕ} (h : Edits xs ys n) : Edits xs (y :: ys) (n + 1)
  | substitute (x y : α) {xs ys : List α} {n : ℕ} (h : Edits xs ys n) :
      Edits (x :: xs) (y :: ys) (n + substitutionCost x y)

namespace Edits

theorem delete_all : ∀ xs : List α, Edits xs [] xs.length
  | [] => nil
  | x :: xs => delete x (delete_all xs)

theorem insert_all : ∀ ys : List α, Edits [] ys ys.length
  | [] => nil
  | y :: ys => insert y (insert_all ys)

theorem symm {xs ys : List α} {n : ℕ} (h : Edits xs ys n) : Edits ys xs n := by
  induction h with
  | nil => exact nil
  | delete x _ ih => exact insert x ih
  | insert y _ ih => exact delete y ih
  | substitute x y _ ih =>
      rw [substitutionCost_comm]
      exact substitute y x ih

theorem append {xs ys xs' ys' : List α} {n m : ℕ} (h : Edits xs ys n)
    (h' : Edits xs' ys' m) : Edits (xs ++ xs') (ys ++ ys') (n + m) := by
  induction h with
  | nil =>
      rw [Nat.zero_add]
      exact h'
  | delete x _ ih =>
      rw [Nat.add_right_comm]
      exact delete x ih
  | insert y _ ih =>
      rw [Nat.add_right_comm]
      exact insert y ih
  | substitute x y _ ih =>
      rw [Nat.add_right_comm]
      exact substitute x y ih

theorem reverse {xs ys : List α} {n : ℕ} (h : Edits xs ys n) :
    Edits xs.reverse ys.reverse n := by
  induction h with
  | nil => exact nil
  | delete x _ ih =>
      have hlast := ih.append (delete x nil)
      rwa [List.append_nil, ← List.reverse_cons] at hlast
  | insert y _ ih =>
      have hlast := ih.append (insert y nil)
      rwa [List.append_nil, ← List.reverse_cons] at hlast
  | substitute x y _ ih =>
      rw [List.reverse_cons, List.reverse_cons]
      have hlast := ih.append (substitute x y nil)
      rwa [Nat.zero_add] at hlast

end Edits

/-! ## The least cost -/

theorem edits_editDistance (xs ys : List α) : Edits xs ys (editDistance xs ys) := by
  induction xs, ys using editDistance.induct with
  | case1 ys =>
      rw [editDistance_nil_left]
      exact .insert_all ys
  | case2 x xs =>
      rw [editDistance_nil_right]
      exact .delete_all (x :: xs)
  | case3 x xs y ys hdelete hinsert hsubstitute =>
      rw [editDistance_cons_cons]
      rcases min_choice (min (editDistance xs (y :: ys) + 1) (editDistance (x :: xs) ys + 1))
        (editDistance xs ys + substitutionCost x y) with h | h
      · rw [h]
        rcases min_choice (editDistance xs (y :: ys) + 1) (editDistance (x :: xs) ys + 1)
          with h | h
        · rw [h]
          exact .delete x hdelete
        · rw [h]
          exact .insert y hinsert
      · rw [h]
        exact .substitute x y hsubstitute

theorem editDistance_cons_left_le (x : α) (xs ys : List α) :
    editDistance (x :: xs) ys ≤ editDistance xs ys + 1 := by
  cases ys with
  | nil => rw [editDistance_nil_right, editDistance_nil_right, List.length_cons]
  | cons y ys =>
      rw [editDistance_cons_cons]
      omega

theorem editDistance_cons_right_le (y : α) (xs ys : List α) :
    editDistance xs (y :: ys) ≤ editDistance xs ys + 1 := by
  cases xs with
  | nil => rw [editDistance_nil_left, editDistance_nil_left, List.length_cons]
  | cons x xs =>
      rw [editDistance_cons_cons]
      omega

/-- No script costs less than the distance. -/
theorem Edits.editDistance_le {xs ys : List α} {n : ℕ} (h : Edits xs ys n) :
    editDistance xs ys ≤ n := by
  induction h with
  | nil => rw [editDistance_nil_left, List.length_nil]
  | delete x _ ih => exact (editDistance_cons_left_le x _ _).trans (Nat.succ_le_succ ih)
  | insert y _ ih => exact (editDistance_cons_right_le y _ _).trans (Nat.succ_le_succ ih)
  | substitute x y _ ih =>
      rw [editDistance_cons_cons]
      omega

theorem editDistance_comm (xs ys : List α) : editDistance xs ys = editDistance ys xs :=
  le_antisymm (edits_editDistance ys xs).symm.editDistance_le
    (edits_editDistance xs ys).symm.editDistance_le

theorem editDistance_reverse (xs ys : List α) :
    editDistance xs.reverse ys.reverse = editDistance xs ys := by
  apply le_antisymm
  · exact (edits_editDistance xs ys).reverse.editDistance_le
  · have hback := (edits_editDistance xs.reverse ys.reverse).reverse
    rw [List.reverse_reverse, List.reverse_reverse] at hback
    exact hback.editDistance_le

/-- The recursion from the other end. -/
theorem editDistance_concat (x y : α) (xs ys : List α) :
    editDistance (xs ++ [x]) (ys ++ [y]) =
      min (min (editDistance xs (ys ++ [y]) + 1) (editDistance (xs ++ [x]) ys + 1))
        (editDistance xs ys + substitutionCost x y) := by
  rw [← editDistance_reverse (xs ++ [x]) (ys ++ [y]), ← editDistance_reverse xs (ys ++ [y]),
    ← editDistance_reverse (xs ++ [x]) ys, ← editDistance_reverse xs ys, List.reverse_concat,
    List.reverse_concat, editDistance_cons_cons]

theorem editDistance_self (xs : List α) : editDistance xs xs = 0 := by
  induction xs with
  | nil => exact editDistance_nil_left []
  | cons x xs ih =>
      rw [editDistance_cons_cons, ih, substitutionCost, if_pos rfl]
      omega

theorem editDistance_eq_zero_iff {xs ys : List α} : editDistance xs ys = 0 ↔ xs = ys := by
  constructor
  · intro h
    have hedits := edits_editDistance xs ys
    rw [h] at hedits
    generalize hn : (0 : ℕ) = n at hedits
    induction hedits with
    | nil => rfl
    | delete x _ _ => omega
    | insert y _ _ => omega
    | substitute x y hrest ih =>
        have hcost : substitutionCost x y = 0 := by omega
        have hsame : x = y := by
          by_contra hne
          rw [substitutionCost, if_neg hne] at hcost
          omega
        have hle := hrest.editDistance_le
        rw [hsame, ih (by omega) (by omega)]
  · rintro rfl
    exact editDistance_self xs

theorem editDistance_le_max (xs ys : List α) :
    editDistance xs ys ≤ max xs.length ys.length := by
  induction xs, ys using editDistance.induct with
  | case1 ys =>
      rw [editDistance_nil_left]
      omega
  | case2 x xs =>
      rw [editDistance_nil_right]
      omega
  | case3 x xs y ys _ _ ih =>
      have hcost : substitutionCost x y ≤ 1 := by
        rw [substitutionCost]
        split
        · omega
        · omega
      rw [editDistance_cons_cons, List.length_cons, List.length_cons]
      omega

end AgentSkeptic.Support

import AgentSkeptic.Quick.TableScoring
import AgentSkeptic.Support.EditDistance
import Mathlib.Algebra.Order.Field.Rat
import Mathlib.Tactic.Linarith
import Mathlib.Tactic.Positivity

/-!
# The one-row edit distance

`levenshteinRatio` of `quickVerify/tableScoring.ts` with its array `dp`, which every turn
of the outer loop overwrites in place.  A text is the list of its code units.
-/

namespace AgentSkeptic.Quick

open AgentSkeptic.Support

/-! ## The loops -/

section Loops

variable (a b : List ℕ)

/-- A turn of the inner loop, at `j`: the array and `prev`. -/
def levenshteinEntry (i : ℕ) (state : List ℕ × ℕ) (j : ℕ) : List ℕ × ℕ :=
  let (dp, prev) := state
  let tmp := dp.getD j 0
  let cost := if a.getD (i - 1) 0 = b.getD (j - 1) 0 then 0 else 1
  (dp.set j (min (min (dp.getD j 0 + 1) (dp.getD (j - 1) 0 + 1)) (prev + cost)), tmp)

/-- A turn of the outer loop, at `i`. -/
def levenshteinTurn (dp : List ℕ) (i : ℕ) : List ℕ :=
  let prev := dp.getD 0 0
  ((List.range' 1 b.length).foldl (levenshteinEntry a b i) (dp.set 0 i, prev)).1

def levenshteinDistance : ℕ :=
  ((List.range' 1 a.length).foldl (levenshteinTurn a b) (List.range (b.length + 1))).getD
    b.length 0

/-- The ratio before it is rounded. -/
def exactLevenshteinRatio : ℚ :=
  if a = b then 1
  else if a.length = 0 ∨ b.length = 0 then 0
  else 1 - levenshteinDistance a b / max a.length b.length

/-! ## The cells -/

/-- The distance of the first `i` units of `a` from the first `j` units of `b`. -/
def prefixDistance (i j : ℕ) : ℕ := editDistance (a.take i) (b.take j)

theorem prefixDistance_zero_left {j : ℕ} (hj : j ≤ b.length) :
    prefixDistance a b 0 j = j := by
  rw [prefixDistance, List.take_zero, editDistance_nil_left, List.length_take]
  omega

theorem prefixDistance_zero_right {i : ℕ} (hi : i ≤ a.length) :
    prefixDistance a b i 0 = i := by
  rw [prefixDistance, List.take_zero, editDistance_nil_right, List.length_take]
  omega

theorem take_succ_eq {xs : List ℕ} {n : ℕ} (h : n < xs.length) :
    xs.take (n + 1) = xs.take n ++ [xs.getD n 0] := by
  rw [List.take_add_one, List.getD_eq_getElem?_getD, List.getElem?_eq_getElem h]
  rfl

theorem prefixDistance_succ {i j : ℕ} (hi : i < a.length) (hj : j < b.length) :
    prefixDistance a b (i + 1) (j + 1) =
      min (min (prefixDistance a b i (j + 1) + 1) (prefixDistance a b (i + 1) j + 1))
        (prefixDistance a b i j + substitutionCost (a.getD i 0) (b.getD j 0)) := by
  simp only [prefixDistance, take_succ_eq hi, take_succ_eq hj]
  exact editDistance_concat _ _ _ _

/-! ## The array in a turn -/

/-- The cells up to `j` belong to the new row and those after it to the row before; `prev`
is the overwritten cell at `j`. -/
structure RowUpTo (i j : ℕ) (state : List ℕ × ℕ) : Prop where
  length : state.1.length = b.length + 1
  done : ∀ k ≤ j, state.1.getD k 0 = prefixDistance a b (i + 1) k
  ahead : ∀ k, j < k → k ≤ b.length → state.1.getD k 0 = prefixDistance a b i k
  diagonal : state.2 = prefixDistance a b i j

/-- The array holds the row of the first `i` units. -/
structure Row (i : ℕ) (dp : List ℕ) : Prop where
  length : dp.length = b.length + 1
  cells : ∀ k ≤ b.length, dp.getD k 0 = prefixDistance a b i k

theorem getD_set {xs : List ℕ} {n k v : ℕ} (hn : n < xs.length) :
    (xs.set n v).getD k 0 = if n = k then v else xs.getD k 0 := by
  rw [List.getD_eq_getElem?_getD, List.getElem?_set, List.getD_eq_getElem?_getD]
  by_cases h : n = k
  · rw [if_pos h, if_pos h, if_pos hn, Option.getD_some]
  · rw [if_neg h, if_neg h]

theorem levenshteinEntry_rowUpTo {i j : ℕ} {state : List ℕ × ℕ} (hi : i < a.length)
    (hj : j < b.length) (h : RowUpTo a b i j state) :
    RowUpTo a b i (j + 1) (levenshteinEntry a b (i + 1) state (j + 1)) := by
  obtain ⟨dp, prev⟩ := state
  obtain ⟨hlength, hdone, hahead, hdiagonal⟩ := h
  have hcell : j + 1 < dp.length := by
    rw [hlength]
    omega
  have habove := hahead (j + 1) (Nat.lt_succ_self j) hj
  have hleft := hdone j le_rfl
  have hprev : prev = prefixDistance a b i j := hdiagonal
  have hnew : min (min (dp.getD (j + 1) 0 + 1) (dp.getD j 0 + 1))
      (prev + if a.getD i 0 = b.getD j 0 then 0 else 1) =
        prefixDistance a b (i + 1) (j + 1) := by
    rw [habove, hleft, hprev, prefixDistance_succ a b hi hj]
    rfl
  constructor
  · simp only [levenshteinEntry, List.length_set]
    exact hlength
  · intro k hk
    simp only [levenshteinEntry, Nat.add_sub_cancel]
    rw [getD_set hcell, hnew]
    by_cases hlast : j + 1 = k
    · rw [if_pos hlast, hlast]
    · rw [if_neg hlast]
      exact hdone k (by omega)
  · intro k hk hkb
    simp only [levenshteinEntry, Nat.add_sub_cancel]
    rw [getD_set hcell, if_neg (by omega)]
    exact hahead k (by omega) hkb
  · exact habove

theorem levenshteinTurn_row {i : ℕ} {dp : List ℕ} (hi : i < a.length) (h : Row a b i dp) :
    Row a b (i + 1) (levenshteinTurn a b dp (i + 1)) := by
  have hpositive : 0 < dp.length := by
    rw [h.length]
    omega
  have hfold : ∀ j ≤ b.length, RowUpTo a b i j
      ((List.range' 1 j).foldl (levenshteinEntry a b (i + 1))
        (dp.set 0 (i + 1), dp.getD 0 0)) := by
    intro j
    induction j with
    | zero =>
        intro _
        constructor
        · rw [List.range'_zero, List.foldl_nil, List.length_set]
          exact h.length
        · intro k hk
          obtain rfl : k = 0 := by omega
          rw [List.range'_zero, List.foldl_nil, getD_set hpositive, if_pos rfl,
            prefixDistance_zero_right a b hi]
        · intro k hk hkb
          rw [List.range'_zero, List.foldl_nil, getD_set hpositive, if_neg (by omega)]
          exact h.cells k hkb
        · exact h.cells 0 (Nat.zero_le _)
    | succ j ih =>
        intro hj
        rw [List.range'_1_concat, List.foldl_concat, Nat.add_comm 1 j]
        exact levenshteinEntry_rowUpTo a b hi hj (ih (by omega))
  have hlast := hfold b.length le_rfl
  exact ⟨hlast.length, hlast.done⟩

/-- The loop invariant: after `i` turns the array is the row of the first `i` units. -/
theorem foldl_levenshteinTurn_row {i : ℕ} (hi : i ≤ a.length) :
    Row a b i ((List.range' 1 i).foldl (levenshteinTurn a b) (List.range (b.length + 1))) := by
  induction i with
  | zero =>
      constructor
      · rw [List.range'_zero, List.foldl_nil, List.length_range]
      · intro k hk
        rw [List.range'_zero, List.foldl_nil, prefixDistance_zero_left a b hk,
          List.getD_eq_getElem?_getD, List.getElem?_range (by omega)]
        rfl
  | succ i ih =>
      rw [List.range'_1_concat, List.foldl_concat, Nat.add_comm 1 i]
      exact levenshteinTurn_row a b hi (ih (by omega))

theorem levenshteinDistance_eq : levenshteinDistance a b = editDistance a b := by
  have hrow := foldl_levenshteinTurn_row a b le_rfl
  have hcell := hrow.cells b.length le_rfl
  rw [prefixDistance, List.take_length, List.take_length] at hcell
  exact hcell

/-! ## The ratio -/

/-- The early returns are the values of the formula. -/
theorem exactLevenshteinRatio_eq : exactLevenshteinRatio a b =
    1 - editDistance a b / max a.length b.length := by
  rw [exactLevenshteinRatio, levenshteinDistance_eq]
  by_cases hsame : a = b
  · rw [if_pos hsame, hsame, editDistance_self, Nat.cast_zero, zero_div, sub_zero]
  · rw [if_neg hsame]
    by_cases hempty : a.length = 0 ∨ b.length = 0
    · rw [if_pos hempty]
      have hfull : editDistance a b = max a.length b.length := by
        rcases hempty with ha | hb
        · rw [List.length_eq_zero_iff.mp ha, editDistance_nil_left, List.length_nil]
          omega
        · rw [List.length_eq_zero_iff.mp hb, editDistance_nil_right, List.length_nil]
          omega
      have hpositive : max a.length b.length ≠ 0 := by
        intro hzero
        have ha : a = [] := List.length_eq_zero_iff.mp (by omega)
        have hb : b = [] := List.length_eq_zero_iff.mp (by omega)
        exact hsame (ha.trans hb.symm)
      rw [hfull, div_self (Nat.cast_ne_zero.mpr hpositive), sub_self]
    · rw [if_neg hempty]

theorem exactLevenshteinRatio_le_one : exactLevenshteinRatio a b ≤ 1 := by
  rw [exactLevenshteinRatio_eq]
  have hnonneg : (0 : ℚ) ≤ editDistance a b / max a.length b.length := by positivity
  linarith

theorem exactLevenshteinRatio_nonneg : 0 ≤ exactLevenshteinRatio a b := by
  rw [exactLevenshteinRatio_eq, sub_nonneg]
  apply div_le_one_of_le₀
  · exact_mod_cast editDistance_le_max a b
  · positivity

theorem exactLevenshteinRatio_eq_one_iff : exactLevenshteinRatio a b = 1 ↔ a = b := by
  rw [exactLevenshteinRatio_eq, sub_eq_self, div_eq_zero_iff, Nat.cast_eq_zero,
    Nat.cast_eq_zero, editDistance_eq_zero_iff]
  constructor
  · rintro (hsame | hempty)
    · exact hsame
    · have ha : a = [] := List.length_eq_zero_iff.mp (by omega)
      have hb : b = [] := List.length_eq_zero_iff.mp (by omega)
      exact ha.trans hb.symm
  · exact Or.inl

/-! ## The row of the scores -/

/-- A row that is written beside the one above it has the cells of the new row. -/
theorem levenshteinRow_cells {i j : ℕ} (hi : i < a.length) {above : List ℕ}
    (hj : j + above.length = b.length)
    (hrow : ∀ k, k < above.length → above.getD k 0 = prefixDistance a b i (j + 1 + k)) :
    let row := levenshteinRow (a.getD i 0) (prefixDistance a b (i + 1) j)
      (prefixDistance a b i j) (b.drop j) above
    row.length = above.length ∧
      ∀ k, k < above.length → row.getD k 0 = prefixDistance a b (i + 1) (j + 1 + k) := by
  induction above generalizing j with
  | nil =>
      have hdrop : b.drop j = [] := List.drop_eq_nil_of_le (by
        rw [List.length_nil] at hj
        omega)
      rw [hdrop]
      exact ⟨rfl, fun k hk => absurd hk (Nat.not_lt_zero k)⟩
  | cons cell above ih =>
      rw [List.length_cons] at hj
      have hjb : j < b.length := by omega
      have hdrop : b.drop j = b.getD j 0 :: b.drop (j + 1) := by
        rw [List.drop_eq_getElem_cons hjb, List.getD_eq_getElem?_getD,
          List.getElem?_eq_getElem hjb]
        rfl
      have hcell : cell = prefixDistance a b i (j + 1) := hrow 0 (Nat.succ_pos _)
      have hentry : min (min (cell + 1) (prefixDistance a b (i + 1) j + 1))
          (prefixDistance a b i j + if a.getD i 0 = b.getD j 0 then 0 else 1) =
            prefixDistance a b (i + 1) (j + 1) := by
        rw [hcell, prefixDistance_succ a b hi hjb]
        rfl
      have hrest : ∀ k, k < above.length →
          above.getD k 0 = prefixDistance a b i (j + 1 + 1 + k) := by
        intro k hk
        have hnext := hrow (k + 1) (Nat.succ_lt_succ hk)
        rw [List.getD_cons_succ] at hnext
        rw [hnext]
        congr 1
        omega
      obtain ⟨hlength, hcells⟩ := ih (by omega) hrest
      rw [hdrop, levenshteinRow, hentry, hcell]
      constructor
      · rw [List.length_cons, List.length_cons, hlength]
      · intro k hk
        cases k with
        | zero => rfl
        | succ k =>
            rw [List.getD_cons_succ, hcells k (Nat.lt_of_succ_lt_succ hk)]
            congr 1
            omega

theorem levenshteinStep_row {i : ℕ} {dp : List ℕ} (hi : i < a.length) (h : Row a b i dp) :
    Row a b (i + 1) (levenshteinStep b dp (a.getD i 0)) := by
  obtain ⟨hlength, hcells⟩ := h
  cases dp with
  | nil => cases hlength
  | cons first above =>
      rw [List.length_cons] at hlength
      have hfirst : first = i := by
        rw [← prefixDistance_zero_right a b hi.le]
        exact hcells 0 (Nat.zero_le _)
      have hleft : i + 1 = prefixDistance a b (i + 1) 0 :=
        (prefixDistance_zero_right a b hi).symm
      have hdiagonal : i = prefixDistance a b i 0 :=
        (prefixDistance_zero_right a b hi.le).symm
      have hrow : ∀ k, k < above.length →
          above.getD k 0 = prefixDistance a b i (0 + 1 + k) := by
        intro k hk
        have hcell := hcells (k + 1) (by omega)
        rw [List.getD_cons_succ] at hcell
        rw [hcell]
        congr 1
        omega
      obtain ⟨hlen, hnew⟩ := levenshteinRow_cells a b hi (by omega) hrow
      rw [List.drop_zero, ← hleft, ← hdiagonal] at hlen hnew
      rw [levenshteinStep, hfirst]
      constructor
      · rw [List.length_cons, hlen, hlength]
      · intro k hk
        cases k with
        | zero => exact hleft
        | succ k =>
            rw [List.getD_cons_succ, hnew k (by omega)]
            congr 1
            omega

theorem foldl_levenshteinStep_row {i : ℕ} (hi : i ≤ a.length) :
    Row a b i ((a.take i).foldl (levenshteinStep b) (List.range (b.length + 1))) := by
  induction i with
  | zero => exact foldl_levenshteinTurn_row a b (Nat.zero_le _)
  | succ i ih =>
      rw [take_succ_eq hi, List.foldl_concat]
      exact levenshteinStep_row a b hi (ih (by omega))

/-- Overwriting one row and writing row after row give the same distance. -/
theorem foldl_levenshteinStep_getLastD :
    (a.foldl (levenshteinStep b) (List.range (b.length + 1))).getLastD 0 =
      levenshteinDistance a b := by
  have hrow := foldl_levenshteinStep_row a b le_rfl
  rw [List.take_length] at hrow
  obtain ⟨hlength, hcells⟩ := hrow
  generalize a.foldl (levenshteinStep b) (List.range (b.length + 1)) = dp at hlength hcells
  have hlast : dp.getLastD 0 = dp.getD b.length 0 := by
    rw [List.getLastD_eq_getLast?, List.getLast?_eq_getElem?, hlength, Nat.add_sub_cancel,
      List.getD_eq_getElem?_getD]
  have hcell := (foldl_levenshteinTurn_row a b le_rfl).cells b.length le_rfl
  rw [hlast, hcells b.length le_rfl]
  exact hcell.symm

end Loops

theorem levenshteinRatio_eq (s t : String) : levenshteinRatio s t =
    if s = t then 1
    else if utf16 s = [] ∨ utf16 t = [] then 0
    else toDouble (1 - toDouble (mkRat (levenshteinDistance (utf16 s) (utf16 t))
      (max (utf16 s).length (utf16 t).length))) := by
  rw [← foldl_levenshteinStep_getLastD]
  rfl

/-- The distance that the loops compute is the edit distance, and the ratio of it is the
same both ways, between 0 and 1, and 1 for equal texts only; the scores round this ratio. -/
theorem levenshteinDistance_isEditDistance (a b : List ℕ) (s t : String) :
    levenshteinDistance a b = editDistance a b ∧
    exactLevenshteinRatio a b = 1 - editDistance a b / max a.length b.length ∧
    exactLevenshteinRatio a b = exactLevenshteinRatio b a ∧
    0 ≤ exactLevenshteinRatio a b ∧ exactLevenshteinRatio a b ≤ 1 ∧
    (exactLevenshteinRatio a b = 1 ↔ a = b) ∧
    levenshteinRatio s t =
      if s = t then 1
      else if utf16 s = [] ∨ utf16 t = [] then 0
      else toDouble (1 - toDouble (mkRat (levenshteinDistance (utf16 s) (utf16 t))
        (max (utf16 s).length (utf16 t).length))) := by
  have hsymm : exactLevenshteinRatio a b = exactLevenshteinRatio b a := by
    rw [exactLevenshteinRatio_eq, exactLevenshteinRatio_eq, editDistance_comm,
      max_comm a.length]
  exact ⟨levenshteinDistance_eq a b, exactLevenshteinRatio_eq a b, hsymm,
    exactLevenshteinRatio_nonneg a b, exactLevenshteinRatio_le_one a b,
    exactLevenshteinRatio_eq_one_iff a b, levenshteinRatio_eq s t⟩

end AgentSkeptic.Quick

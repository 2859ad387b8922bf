import Mathlib.Data.List.Infix

/-!
# Lines that are told by how they begin

A text of lines that are joined and split again.  A line with a separator in it is split
too, and what follows a separator may begin with a mark that another line is told by.
-/

namespace AgentSkeptic.Support

universe u

variable {α : Type u} {sep : α}

/-- No separator of the line is followed by the mark. -/
def Unbroken (sep : α) (mark line : List α) : Prop := ¬ (sep :: mark) <:+: line

instance [DecidableEq α] (mark line : List α) : Decidable (Unbroken sep mark line) :=
  inferInstanceAs (Decidable (¬ _))

theorem unbroken_of_not_mem {mark line : List α} (h : sep ∉ line) :
    Unbroken sep mark line := by
  intro hbroken
  exact h (hbroken.subset List.mem_cons_self)

/-- What stands before the last separator-free part does not matter. -/
theorem unbroken_append_left {mark front line : List α} (h : sep ∉ front) :
    Unbroken sep mark (front ++ line) ↔ Unbroken sep mark line := by
  induction front with
  | nil => rfl
  | cons x front ih =>
      obtain ⟨hx, hfront⟩ := List.ne_and_not_mem_of_not_mem_cons h
      rw [Unbroken, List.cons_append, List.infix_cons_iff, List.cons_prefix_cons]
      simp only [hx, false_and, false_or]
      exact ih hfront

variable [DecidableEq α]

theorem splitOn_intercalate_flatMap {lines : List (List α)} (h : lines ≠ []) :
    ([sep].intercalate lines).splitOn sep = lines.flatMap (List.splitOn sep) := by
  induction lines with
  | nil => exact absurd rfl h
  | cons line lines ih =>
      by_cases hlines : lines = []
      · subst hlines
        simp
      · rw [List.intercalate_cons_of_ne_nil hlines, List.append_assoc,
          List.singleton_append, List.splitOn_append_cons_self, ih hlines,
          List.flatMap_cons]

section Split

variable {mark : List α} (hmark : sep ∉ mark)
include hmark

/-- The first part of a line tells what the line begins with. -/
theorem isPrefix_headPart {line first : List α} {rest : List (List α)}
    (h : line.splitOn sep = first :: rest) : mark <+: first ↔ mark <+: line := by
  induction line generalizing mark first rest with
  | nil =>
      obtain ⟨rfl, -⟩ := List.cons.inj h
      rfl
  | cons x line ih =>
      rw [List.splitOn_cons_eq_if_modifyHead] at h
      cases mark with
      | nil => simp
      | cons m mark =>
          obtain ⟨hm, hrest⟩ := List.ne_and_not_mem_of_not_mem_cons hmark
          by_cases hx : x = sep
          · subst hx
            rw [beq_self_eq_true, if_pos rfl] at h
            obtain ⟨rfl, -⟩ := List.cons.inj h
            simp [List.cons_prefix_cons, hm.symm]
          · rw [if_neg (by simpa using hx)] at h
            obtain ⟨head, tail, hsplit⟩ :=
              List.exists_cons_of_ne_nil (List.splitOn_ne_nil sep line)
            rw [hsplit, List.modifyHead_cons] at h
            obtain ⟨rfl, -⟩ := List.cons.inj h
            rw [List.cons_prefix_cons, List.cons_prefix_cons, ih hrest hsplit]

/-- The later parts of a line are what follows its separators. -/
theorem isPrefix_laterPart {line first : List α} {rest : List (List α)}
    (h : line.splitOn sep = first :: rest) :
    (∃ part ∈ rest, mark <+: part) ↔ ¬ Unbroken sep mark line := by
  rw [Unbroken, not_not]
  induction line generalizing first rest with
  | nil =>
      obtain ⟨-, rfl⟩ := List.cons.inj h
      simp
  | cons x line ih =>
      obtain ⟨head, tail, hsplit⟩ :=
        List.exists_cons_of_ne_nil (List.splitOn_ne_nil sep line)
      rw [List.splitOn_cons_eq_if_modifyHead, hsplit] at h
      rw [List.infix_cons_iff, List.cons_prefix_cons, ← ih hsplit]
      by_cases hx : x = sep
      · subst hx
        rw [beq_self_eq_true, if_pos rfl] at h
        obtain ⟨-, rfl⟩ := List.cons.inj h
        rw [List.exists_mem_cons_iff, isPrefix_headPart hmark hsplit]
        simp
      · rw [if_neg (by simpa using hx), List.modifyHead_cons] at h
        obtain ⟨-, rfl⟩ := List.cons.inj h
        simp [Ne.symm hx]

/-- The parts of a line that begin with the mark. -/
theorem countP_splitOn (line : List α) :
    (line.splitOn sep).countP (mark <+: ·) =
      (if mark <+: line then 1 else 0) + (line.splitOn sep).tail.countP (mark <+: ·) := by
  obtain ⟨first, rest, hsplit⟩ :=
    List.exists_cons_of_ne_nil (List.splitOn_ne_nil sep line)
  rw [hsplit, List.countP_cons, List.tail_cons, Nat.add_comm]
  simp only [decide_eq_true_eq, isPrefix_headPart hmark hsplit]

theorem countP_tail_splitOn_eq_zero (line : List α) :
    (line.splitOn sep).tail.countP (mark <+: ·) = 0 ↔ Unbroken sep mark line := by
  obtain ⟨first, rest, hsplit⟩ :=
    List.exists_cons_of_ne_nil (List.splitOn_ne_nil sep line)
  rw [hsplit, List.tail_cons, List.countP_eq_zero, ← not_iff_not,
    ← isPrefix_laterPart hmark hsplit]
  simp

/-- As many lines of the text begin with the mark as were joined, exactly when no line is
broken before it. -/
theorem countP_lines_eq_iff {lines : List (List α)} (h : lines ≠ []) :
    (([sep].intercalate lines).splitOn sep).countP (mark <+: ·) =
        lines.countP (mark <+: ·) ↔
      ∀ line ∈ lines, Unbroken sep mark line := by
  rw [splitOn_intercalate_flatMap h]
  clear h
  induction lines with
  | nil => simp
  | cons line lines ih =>
      rw [List.flatMap_cons, List.countP_append, List.countP_cons, List.forall_mem_cons,
        ← ih, ← countP_tail_splitOn_eq_zero hmark, countP_splitOn hmark]
      have hle : lines.countP (mark <+: ·) ≤
          (lines.flatMap (List.splitOn sep)).countP (mark <+: ·) := by
        clear ih
        induction lines with
        | nil => simp
        | cons line lines ih =>
            rw [List.flatMap_cons, List.countP_append, List.countP_cons,
              countP_splitOn hmark]
            simp only [decide_eq_true_eq]
            omega
      simp only [decide_eq_true_eq]
      omega

/-- Then they are the lines that were joined. -/
theorem filter_lines_eq {lines : List (List α)} (h : lines ≠ [])
    (hunbroken : ∀ line ∈ lines, Unbroken sep mark line)
    (hmarked : ∀ line ∈ lines, mark <+: line → sep ∉ line) :
    (([sep].intercalate lines).splitOn sep).filter (mark <+: ·) =
      lines.filter (mark <+: ·) := by
  rw [splitOn_intercalate_flatMap h, List.filter_flatMap]
  clear h
  induction lines with
  | nil => rfl
  | cons line lines ih =>
      rw [List.forall_mem_cons] at hunbroken hmarked
      rw [List.flatMap_cons, List.filter_cons, ih hunbroken.2 hmarked.2]
      by_cases hline : mark <+: line
      · rw [List.splitOn_eq_singleton (hmarked.1 hline)]
        simp [hline]
      · have hnone : (line.splitOn sep).countP (mark <+: ·) = 0 := by
          rw [countP_splitOn hmark, (countP_tail_splitOn_eq_zero hmark line).mpr
            hunbroken.1, if_neg hline]
        rw [List.countP_eq_zero] at hnone
        rw [List.filter_eq_nil_iff.mpr hnone]
        simp [hline]

end Split

end AgentSkeptic.Support

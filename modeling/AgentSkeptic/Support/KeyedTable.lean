import Mathlib.Data.List.Nodup
import Mathlib.Tactic.SplitIfs
import Mathlib.Tactic.Tauto

/-!
# Tables with a primary key

A table is a list of rows whose keys are distinct.  `find?` reads the row of a
key, `insert?` is an `INSERT`, `updateWhere` is an `UPDATE` that does not touch
the key, and `updateEach` is the loop that updates one row after another; the
lemmas say what `find?` reads afterwards.  `UniqueOn` is a partial unique index.
-/

namespace AgentSkeptic.Support

variable {κ ρ : Type} {key : ρ → κ}

/-- Rows with distinct keys. -/
structure KeyedTable (κ ρ : Type) (key : ρ → κ) where
  rows : List ρ
  nodup : (rows.map key).Nodup

namespace KeyedTable

/-- `UPDATE ... SET f WHERE p`. -/
def updateWhere (t : KeyedTable κ ρ key) (p : ρ → Bool) (f : ρ → ρ)
    (hkey : ∀ r, key (f r) = key r) : KeyedTable κ ρ key where
  rows := t.rows.map fun r => if p r then f r else r
  nodup := by
    have hkeys : ((t.rows.map fun r => if p r then f r else r).map key) =
        t.rows.map key := by
      rw [List.map_map]
      apply List.map_congr_left
      intro r _
      by_cases hp : p r = true
      · simp [hp, hkey]
      · simp [hp]
    rw [hkeys]
    exact t.nodup

/-- No two rows have the same value in a column that may be `NULL`. -/
def UniqueOn {α : Type} (t : KeyedTable κ ρ key) (column : ρ → Option α) : Prop :=
  ∀ r ∈ t.rows, ∀ s ∈ t.rows, ∀ a, column r = some a → column s = some a → r = s

/-- An update that keeps the column keeps the index. -/
theorem UniqueOn.updateWhere_of_kept {α : Type} {column : ρ → Option α}
    {t : KeyedTable κ ρ key} (h : t.UniqueOn column) (p : ρ → Bool)
    (f : ρ → ρ) (hkey : ∀ r, key (f r) = key r)
    (hcolumn : ∀ r, column (f r) = column r) :
    (t.updateWhere p f hkey).UniqueOn column := by
  have hsame (r : ρ) : column (if p r then f r else r) = column r := by
    by_cases hp : p r = true
    · simp [hp, hcolumn]
    · simp [hp]
  intro r hr s hs a hra hsa
  obtain ⟨r₀, hr₀, rfl⟩ := List.mem_map.mp hr
  obtain ⟨s₀, hs₀, rfl⟩ := List.mem_map.mp hs
  rw [hsame] at hra hsa
  rw [h r₀ hr₀ s₀ hs₀ a hra hsa]

variable [DecidableEq κ]

/-- The row with the key `k`. -/
def find? (t : KeyedTable κ ρ key) (k : κ) : Option ρ :=
  t.rows.find? fun r => key r = k

theorem find?_eq_some_iff {t : KeyedTable κ ρ key} {k : κ} {r : ρ} :
    t.find? k = some r ↔ r ∈ t.rows ∧ key r = k := by
  constructor
  · intro h
    exact ⟨List.mem_of_find?_eq_some h, by simpa using List.find?_some h⟩
  · rintro ⟨hr, rfl⟩
    cases hfound : t.find? (key r) with
    | none =>
        have hnone := List.find?_eq_none.mp hfound r hr
        simp at hnone
    | some s =>
        have hkey : key s = key r := by simpa using List.find?_some hfound
        have hs : s ∈ t.rows := List.mem_of_find?_eq_some hfound
        rw [List.inj_on_of_nodup_map t.nodup hs hr hkey]

theorem find?_key {t : KeyedTable κ ρ key} {k : κ} {r : ρ}
    (h : t.find? k = some r) : key r = k :=
  (find?_eq_some_iff.mp h).2

theorem find?_updateWhere (t : KeyedTable κ ρ key) (p : ρ → Bool) (f : ρ → ρ)
    (hkey : ∀ r, key (f r) = key r) (k : κ) :
    (t.updateWhere p f hkey).find? k =
      (t.find? k).map fun r => if p r then f r else r := by
  have hsame (r : ρ) : key (if p r then f r else r) = key r := by
    by_cases hp : p r = true
    · simp [hp, hkey]
    · simp [hp]
  simp only [find?, updateWhere, List.find?_map, Function.comp_def, hsame]

/-- `INSERT`; `none` where the primary key is taken. -/
def insert? (t : KeyedTable κ ρ key) (r : ρ) : Option (KeyedTable κ ρ key) :=
  if h : (t.rows.map key).contains (key r) then none
  else
    some
      { rows := t.rows ++ [r]
        nodup := by
          rw [List.map_append, List.nodup_append]
          refine ⟨t.nodup, by simp, ?_⟩
          intro a ha b hb hab
          have hkey : b = key r := by simpa using hb
          rw [hab, hkey] at ha
          exact h (List.contains_iff_mem.mpr ha) }

theorem rows_of_insert? {t t' : KeyedTable κ ρ key} {r : ρ}
    (h : t.insert? r = some t') : t'.rows = t.rows ++ [r] := by
  unfold insert? at h
  split_ifs at h
  rw [← Option.some.inj h]

/-- `SELECT ... WHERE p`. -/
def selectWhere (t : KeyedTable κ ρ key) (p : ρ → Bool) : KeyedTable κ ρ key where
  rows := t.rows.filter p
  nodup := t.nodup.sublist (List.filter_sublist.map key)

theorem find?_selectWhere (t : KeyedTable κ ρ key) (p : ρ → Bool) (k : κ) :
    (t.selectWhere p).find? k = (t.find? k).filter p := by
  apply Option.ext
  intro r
  rw [find?_eq_some_iff, Option.filter_eq_some_iff, find?_eq_some_iff]
  simp only [selectWhere, List.mem_filter]
  tauto

/-- `for (const row of targets) UPDATE ... SET f row WHERE key = row.key`. -/
def updateEach (t : KeyedTable κ ρ key) (targets : List ρ) (f : ρ → ρ → ρ)
    (hkey : ∀ row r, key (f row r) = key r) : KeyedTable κ ρ key :=
  targets.foldl
    (fun t row => t.updateWhere (fun r => key r = key row) (f row) (hkey row)) t

theorem find?_updateEach (t : KeyedTable κ ρ key) (targets : List ρ)
    (f : ρ → ρ → ρ) (hkey : ∀ row r, key (f row r) = key r)
    (hnodup : (targets.map key).Nodup) (k : κ) :
    (t.updateEach targets f hkey).find? k =
      match targets.find? (fun row => key row = k) with
      | none => t.find? k
      | some row => (t.find? k).map (f row) := by
  induction targets generalizing t with
  | nil => rfl
  | cons row targets ih =>
      rw [List.map_cons, List.nodup_cons] at hnodup
      have hrest := ih
        (t.updateWhere (fun r => key r = key row) (f row) (hkey row)) hnodup.2
      rw [find?_updateWhere] at hrest
      simp only [updateEach, List.foldl_cons] at hrest ⊢
      rw [hrest]
      by_cases hk : key row = k
      · have hnone : targets.find? (fun r => key r = k) = none := by
          apply List.find?_eq_none.mpr
          intro r hr heq
          have hkr : key r = k := by simpa using heq
          exact hnodup.1 (List.mem_map.mpr ⟨r, hr, hkr.trans hk.symm⟩)
        rw [hnone, List.find?_cons_of_pos (by simpa using hk)]
        cases hfound : t.find? k with
        | none => rfl
        | some r => simp [find?_key hfound, hk]
      · rw [List.find?_cons_of_neg (by simpa using hk)]
        have hother : (t.find? k).map
            (fun r => if decide (key r = key row) then f row r else r) =
              t.find? k := by
          cases hfound : t.find? k with
          | none => rfl
          | some r =>
              have hne : key r ≠ key row := by
                rw [find?_key hfound]
                exact Ne.symm hk
              simp [hne]
        rw [hother]

/-- The loop over the rows that a `SELECT` of the same table returned. -/
theorem find?_updateEach_selectWhere (t : KeyedTable κ ρ key) (p : ρ → Bool)
    (f : ρ → ρ → ρ) (hkey : ∀ row r, key (f row r) = key r) (k : κ) :
    (t.updateEach (t.selectWhere p).rows f hkey).find? k =
      (t.find? k).map fun r => if p r then f r r else r := by
  have htargets : (t.selectWhere p).rows.find? (fun row => key row = k) =
      (t.find? k).filter p := find?_selectWhere t p k
  rw [find?_updateEach t _ f hkey (t.selectWhere p).nodup, htargets]
  cases t.find? k with
  | none => rfl
  | some r =>
      by_cases hp : p r = true
      · simp [Option.filter, hp]
      · simp [Option.filter, hp]

/-! ## Unique columns -/

variable {α : Type} {column : ρ → Option α} {t : KeyedTable κ ρ key}

/-- Writing one row's column keeps the index where no other row has the value. -/
theorem UniqueOn.updateWhere_of_fresh (h : t.UniqueOn column) (k : κ) (f : ρ → ρ)
    (hkey : ∀ r, key (f r) = key r) {a : α} (hcolumn : ∀ r, column (f r) = some a)
    (hfresh : ∀ r ∈ t.rows, key r ≠ k → column r ≠ some a) :
    (t.updateWhere (fun r => key r = k) f hkey).UniqueOn column := by
  intro r hr s hs b hrb hsb
  obtain ⟨r₀, hr₀, rfl⟩ := List.mem_map.mp hr
  obtain ⟨s₀, hs₀, rfl⟩ := List.mem_map.mp hs
  by_cases hrk : key r₀ = k
  · by_cases hsk : key s₀ = k
    · rw [List.inj_on_of_nodup_map t.nodup hr₀ hs₀ (hrk.trans hsk.symm)]
    · simp only [hrk, hsk, decide_true, decide_false, Bool.false_eq_true, if_true,
        if_false, hcolumn] at hrb hsb
      exact (hfresh s₀ hs₀ hsk (hsb.trans hrb.symm)).elim
  · by_cases hsk : key s₀ = k
    · simp only [hrk, hsk, decide_true, decide_false, Bool.false_eq_true, if_true,
        if_false, hcolumn] at hrb hsb
      exact (hfresh r₀ hr₀ hrk (hrb.trans hsb.symm)).elim
    · simp only [hrk, hsk, decide_false, Bool.false_eq_true, if_false] at hrb hsb ⊢
      exact h r₀ hr₀ s₀ hs₀ b hrb hsb

/-- An inserted row keeps the index where no row has its value. -/
theorem UniqueOn.insert? (h : t.UniqueOn column) {t' : KeyedTable κ ρ key} {row : ρ}
    (hinsert : t.insert? row = some t')
    (hfresh : ∀ r ∈ t.rows, ∀ a, column r = some a → column row ≠ some a) :
    t'.UniqueOn column := by
  intro r hr s hs a hra hsa
  rw [rows_of_insert? hinsert, List.mem_append, List.mem_singleton] at hr hs
  rcases hr with hr | rfl
  · rcases hs with hs | rfl
    · exact h r hr s hs a hra hsa
    · exact (hfresh r hr a hra hsa).elim
  · rcases hs with hs | rfl
    · exact (hfresh s hs a hsa hra).elim
    · rfl

end KeyedTable

end AgentSkeptic.Support

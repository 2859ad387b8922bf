import AgentSkeptic.Support.JsString
import Mathlib.Data.List.Nodup
import Mathlib.Data.List.Count

/-!
# Insertion-ordered maps

The built-in `Map`: its keys are distinct and stand in the order in which they
were set first.  A `Set` is a map to `Unit`, a multiset of keys a map to counts.
-/

namespace AgentSkeptic.Support

universe u v

structure InsertionMap (κ : Type u) (β : Type v) where
  entries : List (κ × β)
  nodup : (entries.map Prod.fst).Nodup

namespace InsertionMap

variable {κ : Type u} {β : Type v}

def empty : InsertionMap κ β := ⟨[], List.nodup_nil⟩

/-- `[...m.keys()]`. -/
def keys (m : InsertionMap κ β) : List κ := m.entries.map Prod.fst

section

variable [DecidableEq κ]

def entryOf (entries : List (κ × β)) (k : κ) : Option β :=
  (entries.find? (·.1 = k)).map Prod.snd

/-- `m.get(k)`. -/
def get? (m : InsertionMap κ β) (k : κ) : Option β := entryOf m.entries k

/-- A value of a key that is there already keeps its place. -/
def setEntry (k : κ) (v : β) : List (κ × β) → List (κ × β)
  | [] => [(k, v)]
  | e :: es => if e.1 = k then (k, v) :: es else e :: setEntry k v es

theorem mem_keys_setEntry {k k' : κ} {v : β} {es : List (κ × β)} :
    k' ∈ (setEntry k v es).map Prod.fst ↔ k' ∈ es.map Prod.fst ∨ k' = k := by
  induction es with
  | nil => simp [setEntry]
  | cons e es ih =>
      rw [setEntry]
      split_ifs with he
      · simp only [List.map_cons, List.mem_cons, he]
        tauto
      · simp only [List.map_cons, List.mem_cons, ih, or_assoc]

theorem nodup_setEntry (k : κ) (v : β) {es : List (κ × β)}
    (h : (es.map Prod.fst).Nodup) : ((setEntry k v es).map Prod.fst).Nodup := by
  induction es with
  | nil => simp [setEntry]
  | cons e es ih =>
      obtain ⟨he, hes⟩ := List.nodup_cons.mp h
      rw [setEntry]
      split_ifs with hkey
      · rw [List.map_cons, ← hkey]
        exact h
      · apply List.nodup_cons.mpr
        refine ⟨?_, ih hes⟩
        intro hmem
        rcases mem_keys_setEntry.mp hmem with hold | hnew
        · exact he hold
        · exact hkey hnew

theorem entryOf_setEntry (k k' : κ) (v : β) (es : List (κ × β)) :
    entryOf (setEntry k v es) k' = if k = k' then some v else entryOf es k' := by
  induction es with
  | nil =>
      by_cases hk : k = k'
      · simp [setEntry, entryOf, hk]
      · simp [setEntry, entryOf, hk]
  | cons e es ih =>
      rw [setEntry]
      split_ifs with he hk hk
      · simp [entryOf, hk]
      · have hne : e.1 ≠ k' := by
          rw [he]
          exact hk
        simp [entryOf, hk, hne]
      · have hne : e.1 ≠ k' := by
          rw [← hk]
          exact he
        simpa [entryOf, hne, hk] using ih
      · by_cases hek : e.1 = k'
        · simp [entryOf, hek]
        · simpa [entryOf, hek, hk] using ih

/-- `m.set(k, v)`. -/
def set (m : InsertionMap κ β) (k : κ) (v : β) : InsertionMap κ β :=
  ⟨setEntry k v m.entries, nodup_setEntry k v m.nodup⟩

/-- `new Map(entries)`. -/
def ofEntries (entries : List (κ × β)) : InsertionMap κ β :=
  entries.foldl (fun m e => m.set e.1 e.2) empty

@[simp] theorem get?_empty (k : κ) : (empty : InsertionMap κ β).get? k = none := rfl

@[simp] theorem get?_set (m : InsertionMap κ β) (k k' : κ) (v : β) :
    (m.set k v).get? k' = if k = k' then some v else m.get? k' :=
  entryOf_setEntry k k' v m.entries

theorem mem_keys_set {m : InsertionMap κ β} {k k' : κ} {v : β} :
    k' ∈ (m.set k v).keys ↔ k' ∈ m.keys ∨ k' = k := mem_keys_setEntry

theorem mem_keys_iff {m : InsertionMap κ β} {k : κ} :
    k ∈ m.keys ↔ (m.get? k).isSome = true := by
  simp [keys, get?, entryOf]

theorem not_mem_keys_iff {m : InsertionMap κ β} {k : κ} :
    k ∉ m.keys ↔ m.get? k = none := by
  rw [mem_keys_iff, Option.not_isSome_iff_eq_none]

theorem setEntry_of_not_mem {k : κ} {v : β} {es : List (κ × β)}
    (h : k ∉ es.map Prod.fst) : setEntry k v es = es ++ [(k, v)] := by
  induction es with
  | nil => rfl
  | cons e es ih =>
      rw [List.map_cons, List.mem_cons, not_or] at h
      rw [setEntry, if_neg (Ne.symm h.1), ih h.2, List.cons_append]

theorem entries_foldl_set {es : List (κ × β)} {m : InsertionMap κ β}
    (h : ((m.entries ++ es).map Prod.fst).Nodup) :
    (es.foldl (fun m e => m.set e.1 e.2) m).entries = m.entries ++ es := by
  induction es generalizing m with
  | nil => simp
  | cons e es ih =>
      have hfresh : e.1 ∉ m.entries.map Prod.fst := by
        rw [List.map_append, List.map_cons] at h
        intro hmem
        exact (List.nodup_append.mp h).2.2 _ hmem _ List.mem_cons_self rfl
      have hset : (m.set e.1 e.2).entries = m.entries ++ [e] :=
        setEntry_of_not_mem hfresh
      rw [List.foldl_cons, ih, hset, List.append_assoc, List.singleton_append]
      rw [hset, List.append_assoc, List.singleton_append]
      exact h

/-- Entries with distinct keys are kept as they are. -/
theorem entries_ofEntries {es : List (κ × β)} (h : (es.map Prod.fst).Nodup) :
    (ofEntries es).entries = es :=
  entries_foldl_set h

theorem mem_keys_of_get? {m : InsertionMap κ β} {k : κ} {v : β}
    (h : m.get? k = some v) : k ∈ m.keys := by
  rw [mem_keys_iff, h]
  rfl

end

/-! ## Sets -/

section

variable [DecidableEq κ]

/-- `new Set(keys)`. -/
def ofKeys (keys : List κ) : InsertionMap κ Unit :=
  ofEntries (keys.map (·, ()))

theorem mem_foldl_set {ks : List κ} {m : InsertionMap κ Unit} {k : κ} :
    k ∈ ((ks.map (·, ())).foldl (fun m e => m.set e.1 e.2) m).keys ↔
      k ∈ m.keys ∨ k ∈ ks := by
  induction ks generalizing m with
  | nil => simp
  | cons k' ks ih =>
      rw [List.map_cons, List.foldl_cons, ih, mem_keys_set, List.mem_cons, or_assoc]

@[simp] theorem mem_keys_ofKeys {ks : List κ} {k : κ} :
    k ∈ (ofKeys ks).keys ↔ k ∈ ks := by
  rw [ofKeys, ofEntries, mem_foldl_set]
  simp [keys, empty]

end

/-! ## Multisets -/

section

variable [DecidableEq κ]

/-- How often a key occurs in a multiset. -/
def multiplicity (m : InsertionMap κ ℕ) (k : κ) : ℕ := (m.get? k).getD 0

def addKey (m : InsertionMap κ ℕ) (k : κ) : InsertionMap κ ℕ :=
  m.set k (m.multiplicity k + 1)

def countKeys (ks : List κ) : InsertionMap κ ℕ := ks.foldl addKey empty

theorem multiplicity_addKey (m : InsertionMap κ ℕ) (k k' : κ) :
    (m.addKey k).multiplicity k' =
      m.multiplicity k' + if k = k' then 1 else 0 := by
  unfold addKey multiplicity
  rw [get?_set]
  split_ifs with hk
  · rw [hk]
    rfl
  · rfl

theorem multiplicity_foldl (ks : List κ) (m : InsertionMap κ ℕ) (k : κ) :
    (ks.foldl addKey m).multiplicity k = m.multiplicity k + ks.count k := by
  induction ks generalizing m with
  | nil => simp
  | cons k' ks ih =>
      rw [List.foldl_cons, ih, multiplicity_addKey, List.count_cons]
      by_cases hk : k' = k
      · simp [hk]
        omega
      · simp [hk]

@[simp] theorem multiplicity_countKeys (ks : List κ) (k : κ) :
    (countKeys ks).multiplicity k = ks.count k := by
  rw [countKeys, multiplicity_foldl]
  simp [multiplicity]

theorem mem_keys_foldl_addKey {ks : List κ} {m : InsertionMap κ ℕ} {k : κ} :
    k ∈ (ks.foldl addKey m).keys ↔ k ∈ m.keys ∨ k ∈ ks := by
  induction ks generalizing m with
  | nil => simp
  | cons k' ks ih =>
      rw [List.foldl_cons, ih, addKey, mem_keys_set, List.mem_cons, or_assoc]

@[simp] theorem mem_keys_countKeys {ks : List κ} {k : κ} :
    k ∈ (countKeys ks).keys ↔ k ∈ ks := by
  rw [countKeys, mem_keys_foldl_addKey]
  simp [keys, empty]

/-- `a` minus `b`: the entries with a positive difference. -/
def subtract (a b : InsertionMap κ ℕ) : InsertionMap κ ℕ where
  entries := a.entries.filterMap fun e =>
    if 0 < e.2 - b.multiplicity e.1 then some (e.1, e.2 - b.multiplicity e.1)
    else none
  nodup := by
    have hsub : ((a.entries.filterMap fun e =>
        if 0 < e.2 - b.multiplicity e.1 then some (e.1, e.2 - b.multiplicity e.1)
        else none).map Prod.fst).Sublist (a.entries.map Prod.fst) := by
      induction a.entries with
      | nil => exact List.nil_sublist _
      | cons e es ih =>
          rw [List.filterMap_cons]
          split_ifs with he
          · exact ih.cons_cons _
          · exact ih.cons _
    exact hsub.nodup a.nodup

theorem entryOf_eq_some {es : List (κ × β)} (h : (es.map Prod.fst).Nodup) {k : κ}
    {v : β} : entryOf es k = some v ↔ (k, v) ∈ es := by
  induction es with
  | nil => simp [entryOf]
  | cons e es ih =>
      obtain ⟨he, hes⟩ := List.nodup_cons.mp h
      by_cases hk : e.1 = k
      · subst hk
        have hnot : (e.1, v) ∉ es := by
          intro hmem
          apply he
          exact List.mem_map.mpr ⟨(e.1, v), hmem, rfl⟩
        simp [entryOf, hnot, Prod.ext_iff, eq_comm]
      · have hne : (k, v) ≠ e := by
          rintro rfl
          exact hk rfl
        simpa [entryOf, hk, hne] using ih hes

theorem get?_eq_some {m : InsertionMap κ β} {k : κ} {v : β} :
    m.get? k = some v ↔ (k, v) ∈ m.entries := entryOf_eq_some m.nodup

theorem get?_ofEntries {es : List (κ × β)} (h : (es.map Prod.fst).Nodup) {k : κ} {v : β} :
    (ofEntries es).get? k = some v ↔ (k, v) ∈ es := by
  rw [get?_eq_some, entries_ofEntries h]

@[simp] theorem multiplicity_subtract (a b : InsertionMap κ ℕ) (k : κ) :
    (a.subtract b).multiplicity k = a.multiplicity k - b.multiplicity k := by
  have hentry : ∀ v, (a.subtract b).get? k = some v ↔
      a.get? k = some (v + b.multiplicity k) ∧ 0 < v := by
    intro v
    rw [get?_eq_some, get?_eq_some, subtract, List.mem_filterMap]
    constructor
    · rintro ⟨e, he, hsome⟩
      split_ifs at hsome with hpos
      obtain ⟨rfl, rfl⟩ := Prod.mk.inj (Option.some.inj hsome)
      have hsum : e.2 - b.multiplicity e.1 + b.multiplicity e.1 = e.2 := by omega
      rw [hsum]
      exact ⟨he, hpos⟩
    · rintro ⟨hmem, hpos⟩
      refine ⟨_, hmem, ?_⟩
      simp [hpos]
  rcases hget : (a.subtract b).get? k with _ | v
  · have hzero : a.multiplicity k ≤ b.multiplicity k := by
      by_contra hlt
      have hget' : a.get? k =
          some (a.multiplicity k - b.multiplicity k + b.multiplicity k) := by
        have hsum : a.multiplicity k - b.multiplicity k + b.multiplicity k =
            a.multiplicity k := by omega
        rw [hsum]
        unfold multiplicity at hlt ⊢
        cases ha : a.get? k with
        | none =>
            rw [ha] at hlt
            simp at hlt
        | some n => rfl
      have hsome := (hentry _).mpr ⟨hget', by omega⟩
      rw [hget] at hsome
      cases hsome
    have hnone : (a.subtract b).multiplicity k = 0 := by
      simp [multiplicity, hget]
    omega
  · obtain ⟨ha, -⟩ := (hentry v).mp hget
    have hleft : (a.subtract b).multiplicity k = v := by simp [multiplicity, hget]
    have hright : a.multiplicity k = v + b.multiplicity k := by
      rw [multiplicity, ha]
      rfl
    omega

end

/-! ## Keys in UTF-16 order -/

def sortedKeys (m : InsertionMap String β) : List String := sortUtf16 m.keys

theorem mem_sortedKeys {m : InsertionMap String β} {k : String} :
    k ∈ m.sortedKeys ↔ k ∈ m.keys := List.mem_mergeSort

theorem nodup_sortedKeys (m : InsertionMap String β) : m.sortedKeys.Nodup :=
  (List.mergeSort_perm _ _).nodup_iff.mpr m.nodup

/-- The keys with their multiplicities, in UTF-16 order. -/
def expand (m : InsertionMap String ℕ) : List String :=
  m.sortedKeys.flatMap fun k => List.replicate (m.multiplicity k) k

theorem count_flatMap_replicate {ks : List String} (h : ks.Nodup) (n : String → ℕ)
    (k : String) :
    (ks.flatMap fun k => List.replicate (n k) k).count k =
      if k ∈ ks then n k else 0 := by
  induction ks with
  | nil => rfl
  | cons k' ks ih =>
      obtain ⟨hk', hks⟩ := List.nodup_cons.mp h
      rw [List.flatMap_cons, List.count_append, ih hks, List.count_replicate]
      by_cases hk : k' = k
      · subst hk
        simp [hk']
      · have hne : k ≠ k' := fun heq => hk heq.symm
        simp [hk, hne]

@[simp] theorem count_expand (m : InsertionMap String ℕ) (k : String) :
    m.expand.count k = m.multiplicity k := by
  rw [expand, count_flatMap_replicate m.nodup_sortedKeys]
  split_ifs with hk
  · rfl
  · have hkey : k ∉ m.keys := fun hmem => hk (mem_sortedKeys.mpr hmem)
    rw [multiplicity, not_mem_keys_iff.mp hkey]
    rfl

end InsertionMap

end AgentSkeptic.Support

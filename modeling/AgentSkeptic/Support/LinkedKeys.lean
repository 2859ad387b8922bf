import Mathlib.Data.List.Nodup

/-!
# Linked keys

Keys of which some are linked to a next one, and the walk along the links that stops at a
key it has visited.  Where the links descend, the walk is the whole chain.
-/

namespace AgentSkeptic.Support

universe u

/-- The keys that have a next one are listed. -/
structure LinkedKeys (κ : Type u) where
  next : κ → Option κ
  keys : List κ
  mem_keys : ∀ {a b}, next a = some b → a ∈ keys

namespace LinkedKeys

variable {κ : Type u}

/-- The chain from a key to one that has no next. -/
inductive Chain (links : LinkedKeys κ) : κ → List κ → Prop where
  | last {a} (h : links.next a = none) : Chain links a [a]
  | link {a b chain} (h : links.next a = some b) (hchain : Chain links b chain) :
      Chain links a (a :: chain)

/-- Each key stands above its next one. -/
def Descending (links : LinkedKeys κ) (rank : κ → ℕ) : Prop :=
  ∀ a b, links.next a = some b → rank b < rank a

theorem exists_chain {links : LinkedKeys κ} {rank : κ → ℕ} (h : links.Descending rank)
    (a : κ) : ∃ chain, links.Chain a chain := by
  induction hrank : rank a using Nat.strongRecOn generalizing a with
  | _ n ih =>
      cases hnext : links.next a with
      | none => exact ⟨[a], .last hnext⟩
      | some b =>
          obtain ⟨chain, hchain⟩ := ih (rank b) (hrank ▸ h a b hnext) b rfl
          exact ⟨a :: chain, .link hnext hchain⟩

theorem Chain.rank_le {links : LinkedKeys κ} {rank : κ → ℕ} (h : links.Descending rank)
    {a : κ} {chain : List κ} (hchain : links.Chain a chain) :
    ∀ b ∈ chain, rank b ≤ rank a := by
  induction hchain with
  | last hnext => simp
  | @link a next chain hnext hchain ih =>
      have hlt := h a next hnext
      intro b hb
      rcases List.mem_cons.mp hb with rfl | hrest
      · exact Nat.le_refl _
      · have hle := ih b hrest
        omega

theorem Chain.nodup {links : LinkedKeys κ} {rank : κ → ℕ} (h : links.Descending rank)
    {a : κ} {chain : List κ} (hchain : links.Chain a chain) : chain.Nodup := by
  induction hchain with
  | last hnext => exact List.nodup_singleton _
  | @link a next chain hnext hchain ih =>
      have hlt := h a next hnext
      refine List.nodup_cons.mpr ⟨fun hmem => ?_, ih⟩
      have hle := hchain.rank_le h a hmem
      omega

section

variable [DecidableEq κ]

/-- `while (cur !== null)` with a set of visited keys. -/
def walk (links : LinkedKeys κ) (visited : List κ) (cur : κ) : List κ :=
  if hvisited : cur ∈ visited then []
  else
    cur ::
      match hnext : links.next cur with
      | none => []
      | some next => walk links (cur :: visited) next
termination_by (links.keys.filter (· ∉ visited)).length
decreasing_by
  have hmem := links.mem_keys hnext
  have hsub : (links.keys.filter (· ∉ cur :: visited)).Sublist
      (links.keys.filter (· ∉ visited)) :=
    List.monotone_filter_right _ fun key hkey => by
      simp only [List.mem_cons, not_or, decide_eq_true_eq] at hkey ⊢
      exact hkey.2
  have hne : (links.keys.filter (· ∉ cur :: visited)).length ≠
      (links.keys.filter (· ∉ visited)).length := by
    intro heq
    have hcur : cur ∈ links.keys.filter (· ∉ visited) := by simp [hmem, hvisited]
    rw [← hsub.eq_of_length heq] at hcur
    simp at hcur
  have hle := hsub.length_le
  omega

/-- The walk along a chain of unvisited distinct keys is the chain. -/
theorem Chain.walk_eq {links : LinkedKeys κ} {a : κ} {chain : List κ}
    (hchain : links.Chain a chain) {visited : List κ} (hnodup : (chain ++ visited).Nodup) :
    links.walk visited a = chain := by
  induction hchain generalizing visited with
  | last hnext =>
      have hfresh : _ ∉ visited := (List.nodup_cons.mp hnodup).1
      rw [walk, dif_neg hfresh]
      split
      · rfl
      · rename_i hsome
        rw [hnext] at hsome
        cases hsome
  | @link a next chain hnext hchain ih =>
      have hfresh : a ∉ visited := by
        obtain ⟨hnot, -⟩ := List.nodup_cons.mp hnodup
        exact fun hmem => hnot (List.mem_append_right _ hmem)
      rw [walk, dif_neg hfresh]
      split
      · rename_i hnone
        rw [hnext] at hnone
        cases hnone
      · rename_i other hsome
        obtain rfl : next = other := Option.some.inj (hnext.symm.trans hsome)
        rw [ih (List.perm_middle.nodup_iff.mpr hnodup)]

/-- Descending links are walked to the end. -/
theorem chain_walk {links : LinkedKeys κ} {rank : κ → ℕ} (h : links.Descending rank)
    (a : κ) : links.Chain a (links.walk [] a) := by
  obtain ⟨chain, hchain⟩ := exists_chain h a
  have hnodup : (chain ++ []).Nodup := by simpa using hchain.nodup h
  rw [hchain.walk_eq hnodup]
  exact hchain

end

end LinkedKeys

end AgentSkeptic.Support

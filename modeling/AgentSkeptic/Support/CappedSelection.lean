import Mathlib.Data.List.Nodup
import Mathlib.Data.List.TakeWhile
import Mathlib.Tactic.Common

/-!
# Loops with a limit and a set of seen keys

A loop that handles its items one after the other, skips an item whose key was seen
before, and stops at a limit.  What it keeps are the first items of their keys, up to
the limit; nothing is lost exactly when the keys are distinct and the limit is large
enough.
-/

namespace AgentSkeptic.Support

universe u v w x

/-! ## First items of their keys -/

section Firsts

variable {α : Type u} {κ : Type v} [DecidableEq κ] (key : α → Option κ)

/-- The items whose key was not seen before.  An item without a key always counts. -/
def firsts (seen : List κ) : List α → List α
  | [] => []
  | item :: items =>
      if (key item).any (· ∈ seen) then firsts seen items
      else item :: firsts ((key item).toList ++ seen) items

theorem firsts_sublist (seen : List κ) (items : List α) :
    (firsts key seen items).Sublist items := by
  induction items generalizing seen with
  | nil => exact List.Sublist.slnil
  | cons item items ih =>
      rw [firsts]
      split_ifs
      · exact (ih seen).cons item
      · exact (ih _).cons_cons item

/-- No item is left out exactly when the keys are distinct and new. -/
theorem firsts_length_eq_iff (seen : List κ) (items : List α) :
    (firsts key seen items).length = items.length ↔
      (items.filterMap key).Nodup ∧ ∀ k ∈ items.filterMap key, k ∉ seen := by
  induction items generalizing seen with
  | nil => simp [firsts]
  | cons item items ih =>
      have hle : ∀ seen', (firsts key seen' items).length ≤ items.length :=
        fun seen' => (firsts_sublist key seen' items).length_le
      cases hkey : key item with
      | none =>
          have hnew : firsts key seen (item :: items) =
              item :: firsts key seen items := by simp [firsts, hkey]
          rw [hnew, List.filterMap_cons_none hkey, List.length_cons, List.length_cons,
            Nat.add_right_cancel_iff]
          exact ih seen
      | some k =>
          rw [List.filterMap_cons_some hkey]
          by_cases hseen : k ∈ seen
          · have hskip : firsts key seen (item :: items) = firsts key seen items := by
              simp [firsts, hkey, hseen]
            have hshort := hle seen
            rw [hskip, List.length_cons]
            constructor
            · intro hlength
              omega
            · rintro ⟨-, hnew⟩
              exact absurd hseen (hnew k List.mem_cons_self)
          · have hnew : firsts key seen (item :: items) =
                item :: firsts key (k :: seen) items := by simp [firsts, hkey, hseen]
            rw [hnew, List.length_cons, List.length_cons, Nat.add_right_cancel_iff,
              ih (k :: seen), List.nodup_cons]
            simp only [List.mem_cons, not_or, forall_eq_or_imp]
            constructor
            · rintro ⟨hnodup, hfresh⟩
              refine ⟨⟨?_, hnodup⟩, hseen, fun j hj => (hfresh j hj).2⟩
              intro hk
              exact (hfresh k hk).1 rfl
            · rintro ⟨⟨hk, hnodup⟩, -, hfresh⟩
              refine ⟨hnodup, fun j hj => ⟨?_, hfresh j hj⟩⟩
              rintro rfl
              exact hk hj

theorem take_firsts_length_eq_iff (limit : ℕ) (items : List α) :
    ((firsts key [] items).take limit).length = items.length ↔
      items.length ≤ limit ∧ (items.filterMap key).Nodup := by
  have hle := (firsts_sublist key [] items).length_le
  have hall := firsts_length_eq_iff key [] items
  simp only [List.not_mem_nil, not_false_eq_true, implies_true, and_true] at hall
  rw [List.length_take, ← hall]
  omega

/-- When no item is left out, the items are the kept ones. -/
theorem take_firsts_eq {limit : ℕ} {items : List α} (hlimit : items.length ≤ limit)
    (hkeys : (items.filterMap key).Nodup) :
    (firsts key [] items).take limit = items := by
  have hlength := (take_firsts_length_eq_iff key limit items).mpr ⟨hlimit, hkeys⟩
  have hsublist := (List.take_sublist limit _).trans (firsts_sublist key [] items)
  exact hsublist.eq_of_length hlength

end Firsts

/-! ## The loop -/

/-- A loop over items of `α` that keeps one result of `β` for each item it handles;
`out k` is the result when `k` results are there already. -/
structure CappedLoop (σ : Type u) (α : Type v) (β : Type w) (κ : Type x)
    [DecidableEq κ] where
  limit : ℕ
  key : α → Option κ
  step : σ → α → σ
  kept : σ → List β
  seen : σ → List κ
  out : ℕ → α → β
  full : ∀ s item, limit ≤ (kept s).length → step s item = s
  repeated : ∀ s item, (kept s).length < limit → (key item).any (· ∈ seen s) = true →
    step s item = s
  fresh : ∀ s item, (kept s).length < limit → (key item).any (· ∈ seen s) = false →
    kept (step s item) = kept s ++ [out (kept s).length item] ∧
      seen (step s item) = (key item).toList ++ seen s

namespace CappedLoop

variable {σ : Type u} {α : Type v} {β : Type w} {κ : Type x} [DecidableEq κ]
  (loop : CappedLoop σ α β κ)

/-- What a handled item adds to an invariant holds of a whole run, with the first items
of their keys as those that were handled. -/
theorem foldl_invariant {Inv : List α → σ → Prop}
    (hstep : ∀ given s item, Inv given s → (loop.kept s).length < loop.limit →
      (loop.key item).any (· ∈ loop.seen s) = false →
        Inv (given ++ [item]) (loop.step s item))
    (items given : List α) {s : σ} (h : Inv given s) :
    Inv (given ++ (firsts loop.key (loop.seen s) items).take
      (loop.limit - (loop.kept s).length)) (items.foldl loop.step s) := by
  induction items generalizing given s with
  | nil => simpa [firsts] using h
  | cons item items ih =>
      rw [List.foldl_cons]
      rcases Nat.lt_or_ge (loop.kept s).length loop.limit with hroom | hfull
      · cases hseen : (loop.key item).any (· ∈ loop.seen s) with
        | true =>
            rw [loop.repeated s item hroom hseen, firsts, if_pos hseen]
            exact ih given h
        | false =>
            obtain ⟨hkept, hkeys⟩ := loop.fresh s item hroom hseen
            have hrest : loop.limit - (loop.kept s).length =
                loop.limit - ((loop.kept s).length + 1) + 1 := by omega
            have hnext := ih (given ++ [item]) (hstep given s item h hroom hseen)
            rw [hkept, hkeys, List.length_append, List.length_singleton,
              List.append_assoc, List.singleton_append] at hnext
            rw [firsts, if_neg (by rw [hseen]; exact Bool.false_ne_true), hrest,
              List.take_succ_cons]
            exact hnext
      · have hnone : loop.limit - (loop.kept s).length = 0 := by omega
        have hnext := ih given h
        rw [loop.full s item hfull]
        rw [hnone, List.take_zero] at hnext ⊢
        exact hnext

/-- A run from a state with no result and no key. -/
theorem run_invariant {Inv : List α → σ → Prop}
    (hstep : ∀ given s item, Inv given s → (loop.kept s).length < loop.limit →
      (loop.key item).any (· ∈ loop.seen s) = false →
        Inv (given ++ [item]) (loop.step s item))
    (items : List α) {s : σ} (hkept : loop.kept s = []) (hseen : loop.seen s = [])
    (h : Inv [] s) :
    Inv ((firsts loop.key [] items).take loop.limit) (items.foldl loop.step s) := by
  have hrun := loop.foldl_invariant hstep items [] h
  rw [hkept, hseen] at hrun
  exact hrun

/-- The results of a run belong to the first items of their keys, up to the limit. -/
theorem kept_run (items : List α) {s : σ} (hkept : loop.kept s = [])
    (hseen : loop.seen s = []) :
    loop.kept (items.foldl loop.step s) =
      ((firsts loop.key [] items).take loop.limit).zipIdx.map
        fun p => loop.out p.2 p.1 := by
  refine @run_invariant _ _ _ _ _ loop
    (fun given s => loop.kept s = given.zipIdx.map fun p => loop.out p.2 p.1) ?_ items s
    hkept hseen hkept
  intro given s item hgiven hroom hnew
  have hlength : (loop.kept s).length = given.length := by
    rw [hgiven, List.length_map, List.length_zipIdx]
  rw [(loop.fresh s item hroom hnew).1, List.zipIdx_append, List.map_append, ← hgiven,
    hlength]
  simp

end CappedLoop

end AgentSkeptic.Support

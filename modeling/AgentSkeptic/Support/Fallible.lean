import Mathlib.Data.List.Forall2

/-!
# Fallible steps

What a run of `Except` steps that answers `ok` says about each step.
-/

namespace AgentSkeptic.Support

universe u v

variable {ε : Type v} {α β : Type u}

/-- A sequence of two steps answers `ok` when both do. -/
theorem bind_eq_ok {x : Except ε α} {f : α → Except ε β} {b : β} :
    (x >>= f) = .ok b ↔ ∃ a, x = .ok a ∧ f a = .ok b := by
  constructor
  · intro h
    rcases x with e | a
    · cases h
    · exact ⟨a, rfl, h⟩
  · rintro ⟨a, rfl, h⟩
    exact h

/-- A sequence of two steps fails when one of them does. -/
theorem bind_eq_error {x : Except ε α} {f : α → Except ε β} {e : ε} :
    (x >>= f) = .error e ↔ x = .error e ∨ ∃ a, x = .ok a ∧ f a = .error e := by
  rcases x with e' | a
  · constructor
    · intro h
      cases h
      exact .inl rfl
    · rintro (h | ⟨a, ha, -⟩)
      · cases h
        rfl
      · cases ha
  · constructor
    · intro h
      exact .inr ⟨a, rfl, h⟩
    · rintro (h | ⟨a', ha, h⟩)
      · cases h
      · cases ha
        exact h

/-- A step over a list answers `ok` when it does so on every item. -/
theorem mapM_eq_ok {f : α → Except ε β} {xs : List α} {ys : List β} :
    xs.mapM f = .ok ys ↔ List.Forall₂ (fun x y => f x = .ok y) xs ys := by
  induction xs generalizing ys with
  | nil =>
      constructor
      · intro h
        cases h
        exact .nil
      · intro h
        cases h
        rfl
  | cons x xs ih =>
      rw [List.mapM_cons, bind_eq_ok]
      constructor
      · rintro ⟨y, hy, htail⟩
        obtain ⟨rest, hrest, hys⟩ := bind_eq_ok.mp htail
        cases hys
        exact .cons hy (ih.mp hrest)
      · intro h
        cases h with
        | @cons _ y _ rest hy hrest =>
            exact ⟨y, hy, bind_eq_ok.mpr ⟨rest, ih.mpr hrest, rfl⟩⟩

/-- A run over a list whose every step answers `ok` answers `ok`. -/
theorem exists_mapM_eq_ok {f : α → Except ε β} {xs : List α} {P : β → Prop}
    (h : ∀ x ∈ xs, ∃ y, f x = .ok y ∧ P y) :
    ∃ ys, xs.mapM f = .ok ys ∧ ∀ y ∈ ys, P y := by
  induction xs with
  | nil =>
      refine ⟨[], rfl, ?_⟩
      intro y hy
      cases hy
  | cons x xs ih =>
      obtain ⟨y, hy, hPy⟩ := h x List.mem_cons_self
      obtain ⟨ys, hys, hPys⟩ := ih fun x hx => h x (List.mem_cons_of_mem _ hx)
      refine ⟨y :: ys, ?_, List.forall_mem_cons.mpr ⟨hPy, hPys⟩⟩
      exact mapM_eq_ok.mpr (.cons hy (mapM_eq_ok.mp hys))

theorem mem_of_mapM_eq_ok {f : α → Except ε β} {xs : List α} {ys : List β}
    (h : xs.mapM f = .ok ys) {x : α} (hx : x ∈ xs) : ∃ y ∈ ys, f x = .ok y := by
  have hall := mapM_eq_ok.mp h
  induction hall with
  | nil => cases hx
  | @cons a b as bs hab hrest ih =>
      rcases List.mem_cons.mp hx with rfl | hx
      · exact ⟨b, List.mem_cons_self, hab⟩
      · obtain ⟨y, hy, hxy⟩ := ih (mapM_eq_ok.mpr hrest) hx
        exact ⟨y, List.mem_cons_of_mem _ hy, hxy⟩

/-- Every result of the run is that of an item. -/
theorem exists_of_mem_mapM {f : α → Except ε β} {xs : List α} {ys : List β}
    (h : xs.mapM f = .ok ys) {y : β} (hy : y ∈ ys) : ∃ x ∈ xs, f x = .ok y := by
  have hall := mapM_eq_ok.mp h
  induction hall with
  | nil => cases hy
  | @cons a b as bs hab hrest ih =>
      rcases List.mem_cons.mp hy with rfl | hy
      · exact ⟨a, List.mem_cons_self, hab⟩
      · obtain ⟨x, hx, hxy⟩ := ih (mapM_eq_ok.mpr hrest) hy
        exact ⟨x, List.mem_cons_of_mem _ hx, hxy⟩

/-! ## Postconditions of both ends -/

/-- A run that returns what satisfies `P`, or throws what satisfies `Q`. -/
def Yields (P : α → Prop) (Q : ε → Prop) : Except ε α → Prop
  | .ok a => P a
  | .error e => Q e

theorem Yields.mono {P : α → Prop} {Q Q' : ε → Prop} {x : Except ε α}
    (h : Yields P Q x) (hQ : ∀ e, Q e → Q' e) : Yields P Q' x := by
  rcases x with e | a
  · exact hQ e h
  · exact h

theorem Yields.bind {R : α → Prop} {P : β → Prop} {Q : ε → Prop}
    {x : Except ε α} {f : α → Except ε β} (hx : Yields R Q x)
    (hf : ∀ a, x = .ok a → R a → Yields P Q (f a)) : Yields P Q (x >>= f) := by
  rcases x with e | a
  · exact hx
  · exact hf a rfl hx

/-- A run over a list yields what its steps yield. -/
theorem Yields.mapM {P : β → Prop} {Q : ε → Prop} {f : α → Except ε β}
    {xs : List α} (h : ∀ x ∈ xs, Yields P Q (f x)) :
    Yields (fun ys => ∀ y ∈ ys, P y) Q (xs.mapM f) := by
  induction xs with
  | nil =>
      intro y hy
      cases hy
  | cons x xs ih =>
      rw [List.mapM_cons]
      refine (h x List.mem_cons_self).bind fun y _ hy => ?_
      refine (ih fun x hx => h x (List.mem_cons_of_mem _ hx)).bind fun ys _ hys => ?_
      exact List.forall_mem_cons.mpr ⟨hy, hys⟩

end AgentSkeptic.Support

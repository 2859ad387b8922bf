import Mathlib.Data.List.Basic

/-!
# Sequential request/response machines

A service that handles one request at a time is a function `serve` from a
state and a request to the next state and the response.  This module names its
finite runs, the turns a run consists of, and the two induction rules used
later: a property of states kept by every turn holds throughout a run, and a
property kept by a segment of turns holds at its end.
-/

namespace AgentSkeptic.Support

/-- One served request: the state it found, its answer, the state it left. -/
structure Turn (σ ι ω : Type*) where
  before : σ
  request : ι
  response : ω
  after : σ

variable {σ ι ω : Type*}

/-- The turn in which `serve` answers `r` from `s`. -/
def turnOf (serve : σ → ι → σ × ω) (s : σ) (r : ι) : Turn σ ι ω :=
  ⟨s, r, (serve s r).2, (serve s r).1⟩

@[simp] theorem turnOf_before (serve : σ → ι → σ × ω) (s : σ) (r : ι) :
    (turnOf serve s r).before = s := rfl

@[simp] theorem turnOf_request (serve : σ → ι → σ × ω) (s : σ) (r : ι) :
    (turnOf serve s r).request = r := rfl

@[simp] theorem turnOf_response (serve : σ → ι → σ × ω) (s : σ) (r : ι) :
    (turnOf serve s r).response = (serve s r).2 := rfl

@[simp] theorem turnOf_after (serve : σ → ι → σ × ω) (s : σ) (r : ι) :
    (turnOf serve s r).after = (serve s r).1 := rfl

/-- The state after serving the requests in order. -/
def finish (serve : σ → ι → σ × ω) (s : σ) : List ι → σ
  | [] => s
  | r :: rs => finish serve (serve s r).1 rs

/-- The turns of a run, in order. -/
def turns (serve : σ → ι → σ × ω) (s : σ) : List ι → List (Turn σ ι ω)
  | [] => []
  | r :: rs => turnOf serve s r :: turns serve (serve s r).1 rs

variable {serve : σ → ι → σ × ω}

@[simp] theorem finish_nil (s : σ) : finish serve s [] = s := rfl

@[simp] theorem finish_cons (s : σ) (r : ι) (rs : List ι) :
    finish serve s (r :: rs) = finish serve (serve s r).1 rs := rfl

theorem finish_append (s : σ) (rs rs' : List ι) :
    finish serve s (rs ++ rs') = finish serve (finish serve s rs) rs' := by
  induction rs generalizing s with
  | nil => rfl
  | cons r rs ih => exact ih (serve s r).1

@[simp] theorem turns_nil (s : σ) : turns serve s [] = [] := rfl

@[simp] theorem turns_cons (s : σ) (r : ι) (rs : List ι) :
    turns serve s (r :: rs) =
      turnOf serve s r :: turns serve (serve s r).1 rs := rfl

theorem turns_append (s : σ) (rs rs' : List ι) :
    turns serve s (rs ++ rs') =
      turns serve s rs ++ turns serve (finish serve s rs) rs' := by
  induction rs generalizing s with
  | nil => rfl
  | cons r rs ih => simp [ih]

/-- Cutting the turns of a run cuts its requests at the same place. -/
theorem turns_eq_append {s : σ} {rs : List ι} {l₁ l₂ : List (Turn σ ι ω)}
    (h : turns serve s rs = l₁ ++ l₂) :
    ∃ rs₁ rs₂, rs = rs₁ ++ rs₂ ∧ turns serve s rs₁ = l₁ ∧
      turns serve (finish serve s rs₁) rs₂ = l₂ := by
  induction l₁ generalizing s rs with
  | nil => exact ⟨[], rs, rfl, rfl, h⟩
  | cons t l₁ ih =>
      cases rs with
      | nil => simp at h
      | cons r rs =>
          simp only [turns_cons, List.cons_append, List.cons.injEq] at h
          obtain ⟨rs₁, rs₂, hrs, h₁, h₂⟩ := ih h.2
          refine ⟨r :: rs₁, rs₂, by simp [hrs], ?_, h₂⟩
          simp [h.1, h₁]

/-- The first turn of a nonempty run. -/
theorem turns_eq_cons {s : σ} {rs : List ι} {t : Turn σ ι ω}
    {l : List (Turn σ ι ω)} (h : turns serve s rs = t :: l) :
    ∃ r rs', rs = r :: rs' ∧ t = turnOf serve s r ∧
      turns serve (serve s r).1 rs' = l := by
  cases rs with
  | nil => simp at h
  | cons r rs' =>
      simp only [turns_cons, List.cons.injEq] at h
      exact ⟨r, rs', rfl, h.1.symm, h.2⟩

/-- States that some sequence of requests leads to from `init`. -/
def Reachable (serve : σ → ι → σ × ω) (init s : σ) : Prop :=
  ∃ rs, finish serve init rs = s

theorem Reachable.start (init : σ) : Reachable serve init init := ⟨[], rfl⟩

theorem Reachable.next {init s : σ} (h : Reachable serve init s) (r : ι) :
    Reachable serve init (serve s r).1 := by
  obtain ⟨rs, rfl⟩ := h
  exact ⟨rs ++ [r], by simp [finish_append]⟩

/-- A property of states kept by each turn is kept by a whole run. -/
theorem finish_invariant {Inv : σ → Prop}
    (hstep : ∀ s r, Inv s → Inv (serve s r).1)
    {s : σ} (hs : Inv s) (rs : List ι) : Inv (finish serve s rs) := by
  induction rs generalizing s with
  | nil => exact hs
  | cons r rs ih => exact ih (hstep s r hs)

theorem Reachable.invariant {Inv : σ → Prop} {init s : σ}
    (h : Reachable serve init s) (hinit : Inv init)
    (hstep : ∀ s r, Inv s → Inv (serve s r).1) : Inv s := by
  obtain ⟨rs, rfl⟩ := h
  exact finish_invariant hstep hinit rs

/-- Every turn of a run starts in a state with the invariant. -/
theorem turns_before {Inv : σ → Prop}
    (hstep : ∀ s r, Inv s → Inv (serve s r).1)
    {s : σ} (hs : Inv s) {rs : List ι} {t : Turn σ ι ω}
    (ht : t ∈ turns serve s rs) :
    Inv t.before ∧ t = turnOf serve t.before t.request := by
  induction rs generalizing s with
  | nil => simp at ht
  | cons r rs ih =>
      rw [turns_cons, List.mem_cons] at ht
      rcases ht with rfl | ht
      · exact ⟨hs, rfl⟩
      · exact ih (hstep s r hs) ht

/-- A property kept by each turn of a segment that satisfies `ok` holds at the
end of the segment. -/
theorem finish_of_turns (Inv : σ → Prop) (ok : Turn σ ι ω → Prop)
    (hstep : ∀ s r, Inv s → ok (turnOf serve s r) → Inv (serve s r).1)
    {s : σ} (hs : Inv s) {rs : List ι}
    (hok : ∀ t ∈ turns serve s rs, ok t) : Inv (finish serve s rs) := by
  induction rs generalizing s with
  | nil => exact hs
  | cons r rs ih =>
      have hfirst : ok (turnOf serve s r) := hok _ (by simp)
      exact ih (hstep s r hs hfirst) fun t ht => hok t (by simp [ht])

/-- What no turn does from a spent state is done in no turn of a run that starts
there. -/
theorem not_done_of_spent {Inv Spent : σ → Prop} {Done : Turn σ ι ω → Prop}
    (hstep : ∀ s r, Inv s → Inv (serve s r).1)
    (hspent : ∀ s r, Inv s → Spent s → Spent (serve s r).1)
    (hnot : ∀ s r, Inv s → Spent s → ¬Done (turnOf serve s r))
    {s : σ} (hs : Inv s) (hstart : Spent s) {rs : List ι} {t : Turn σ ι ω}
    (ht : t ∈ turns serve s rs) : ¬Done t := by
  have hkept : ∀ s r, Inv s ∧ Spent s → Inv (serve s r).1 ∧ Spent (serve s r).1 :=
    fun s r h => ⟨hstep s r h.1, hspent s r h.1 h.2⟩
  obtain ⟨⟨hinv, hbefore⟩, hturn⟩ := turns_before hkept ⟨hs, hstart⟩ ht
  rw [hturn]
  exact hnot t.before t.request hinv hbefore

/-- What spends the state that it is done in is done at most once in a run. -/
theorem countP_turns_le_one {Inv : σ → Prop} (Spent : σ → Prop) {Done : Turn σ ι ω → Prop}
    [DecidablePred Done] (hstep : ∀ s r, Inv s → Inv (serve s r).1)
    (hspends : ∀ s r, Inv s → Done (turnOf serve s r) → Spent (serve s r).1)
    (hspent : ∀ s r, Inv s → Spent s → Spent (serve s r).1)
    (hnot : ∀ s r, Inv s → Spent s → ¬Done (turnOf serve s r))
    {s : σ} (hs : Inv s) (rs : List ι) :
    (turns serve s rs).countP (fun t => Done t) ≤ 1 := by
  induction rs generalizing s with
  | nil => simp
  | cons r rs ih =>
      rw [turns_cons, List.countP_cons]
      by_cases hdone : Done (turnOf serve s r)
      · have hrest : (turns serve (serve s r).1 rs).countP (fun t => Done t) = 0 := by
          apply List.countP_eq_zero.mpr
          intro t ht
          have hnone := not_done_of_spent hstep hspent hnot (hstep s r hs)
            (hspends s r hs hdone) ht
          simpa using hnone
        simp [hrest, hdone]
      · simp [hdone, ih (hstep s r hs)]

end AgentSkeptic.Support

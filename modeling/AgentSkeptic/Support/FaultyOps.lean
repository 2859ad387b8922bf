import Mathlib.Data.List.Basic

/-!
# Operations that may fail

A program over a state whose operations take effect, throw, or are the last thing
before the process dies, as a list of fates says; when no fate is left, it dies.  So the
states that the fates lead to are those that a failure or a crash can leave.

`Meets` says what holds of the state when a program returns and when it stops.
-/

namespace AgentSkeptic.Support

/-- How an operation ends.  One that throws or dies may have done a part of its work,
up to `n`. -/
inductive Fate where
  | done
  | throws (n : ℕ)
  | dies (n : ℕ)
  deriving DecidableEq, Repr

inductive Stop where
  | threw | died
  deriving DecidableEq, Repr

/-- A program over the state `σ`. -/
def Faulty (σ α : Type) : Type := σ → List Fate → Except Stop α × σ × List Fate

namespace Faulty

variable {σ α β : Type}

def run (prog : Faulty σ α) (s : σ) (fates : List Fate) : Except Stop α × σ × List Fate :=
  prog s fates

protected def pure (a : α) : Faulty σ α := fun s fates => (.ok a, s, fates)

protected def bind (prog : Faulty σ α) (next : α → Faulty σ β) : Faulty σ β :=
  fun s fates =>
    match prog s fates with
    | (.ok a, s', fates') => next a s' fates'
    | (.error stop, s', fates') => (.error stop, s', fates')

instance : Monad (Faulty σ) where
  pure := Faulty.pure
  bind := Faulty.bind

/-- An operation: the state after all of it, and after a part. -/
def op (whole : σ → σ) (part : ℕ → σ → σ) : Faulty σ Unit := fun s fates =>
  match fates with
  | .done :: rest => (.ok (), whole s, rest)
  | .throws n :: rest => (.error .threw, part n s, rest)
  | .dies n :: rest => (.error .died, part n s, rest)
  | [] => (.error .died, s, [])

/-- What the program finds out about the state. -/
def look (f : σ → α) : Faulty σ α := fun s fates => (.ok (f s), s, fates)

/-- What the program keeps in its own memory. -/
def note (f : σ → σ) : Faulty σ Unit := fun s fates => (.ok (), f s, fates)

def throw : Faulty σ α := fun s fates => (.error .threw, s, fates)

/-- `try`: a handler runs when the body has thrown. -/
def attempt (body : Faulty σ α) (handler : Faulty σ α) : Faulty σ α := fun s fates =>
  match body s fates with
  | (.error .threw, s', fates') => handler s' fates'
  | ended => ended

/-! ## What holds when a program ends -/

/-- Of the returned value and the state, or of the reason to stop and the state. -/
def Ends (Q : α → σ → Prop) (E : Stop → σ → Prop) :
    Except Stop α × σ × List Fate → Prop
  | (.ok a, s, _) => Q a s
  | (.error stop, s, _) => E stop s

/-- From a state with `P`, whatever the fates. -/
def Meets (P : σ → Prop) (prog : Faulty σ α) (Q : α → σ → Prop)
    (E : Stop → σ → Prop) : Prop :=
  ∀ s fates, P s → Ends Q E (prog.run s fates)

section Rules

variable {P : σ → Prop} {Q : α → σ → Prop} {E : Stop → σ → Prop}

theorem Meets.pure {a : α} (h : ∀ s, P s → Q a s) :
    Meets P (Pure.pure a : Faulty σ α) Q E := by
  intro s fates hs
  exact h s hs

theorem Meets.bind {prog : Faulty σ α} {next : α → Faulty σ β} {R : β → σ → Prop}
    (hprog : Meets P prog Q E) (hnext : ∀ a, Meets (Q a) (next a) R E) :
    Meets P (prog >>= next) R E := by
  intro s fates hs
  have hended := hprog s fates hs
  show Ends R E (Faulty.bind prog next s fates)
  rw [Faulty.run] at hended
  unfold Faulty.bind
  rcases hrun : prog s fates with ⟨ended, s', fates'⟩
  rw [hrun] at hended
  cases ended with
  | ok a => exact hnext a s' fates' hended
  | error stop => exact hended

theorem Meets.op {whole : σ → σ} {part : ℕ → σ → σ} {Q : Unit → σ → Prop}
    (hwhole : ∀ s, P s → Q () (whole s))
    (hpart : ∀ s n stop, P s → E stop (part n s)) (hnone : ∀ s, P s → E .died s) :
    Meets P (Faulty.op whole part) Q E := by
  intro s fates hs
  cases fates with
  | nil => exact hnone s hs
  | cons fate rest =>
      cases fate with
      | done => exact hwhole s hs
      | throws n => exact hpart s n .threw hs
      | dies n => exact hpart s n .died hs

theorem Meets.look {f : σ → α} (h : ∀ s, P s → Q (f s) s) :
    Meets P (Faulty.look f) Q E := by
  intro s fates hs
  exact h s hs

theorem Meets.note {f : σ → σ} {Q : Unit → σ → Prop} (h : ∀ s, P s → Q () (f s)) :
    Meets P (Faulty.note f) Q E := by
  intro s fates hs
  exact h s hs

theorem Meets.throw (h : ∀ s, P s → E .threw s) :
    Meets P (Faulty.throw : Faulty σ α) Q E := by
  intro s fates hs
  exact h s hs

/-- The handler starts where the body has thrown. -/
theorem Meets.attempt {body handler : Faulty σ α} {F : Stop → σ → Prop}
    (hbody : Meets P body Q F) (hdied : ∀ s, F .died s → E .died s)
    (hhandler : Meets (F .threw) handler Q E) :
    Meets P (Faulty.attempt body handler) Q E := by
  intro s fates hs
  have hended := hbody s fates hs
  show Ends Q E (Faulty.attempt body handler s fates)
  rw [Faulty.run] at hended
  unfold Faulty.attempt
  rcases hrun : body s fates with ⟨ended, s', fates'⟩
  rw [hrun] at hended
  cases ended with
  | ok a => exact hended
  | error stop =>
      cases stop with
      | threw => exact hhandler s' fates' hended
      | died => exact hdied s' hended

theorem Meets.mono {P' : σ → Prop} {Q' : α → σ → Prop} {E' : Stop → σ → Prop}
    {prog : Faulty σ α} (h : Meets P prog Q E) (hP : ∀ s, P' s → P s)
    (hQ : ∀ a s, Q a s → Q' a s) (hE : ∀ stop s, E stop s → E' stop s) :
    Meets P' prog Q' E' := by
  intro s fates hs
  have hended := h s fates (hP s hs)
  rcases hrun : prog.run s fates with ⟨ended, s', fates'⟩
  rw [hrun] at hended
  cases ended with
  | ok a => exact hQ a s' hended
  | error stop => exact hE stop s' hended

theorem Meets.ite {c : Prop} [Decidable c] {yes no : Faulty σ α}
    (hyes : c → Meets P yes Q E) (hno : ¬c → Meets P no Q E) :
    Meets P (if c then yes else no) Q E := by
  split_ifs with hc
  · exact hyes hc
  · exact hno hc

end Rules

end Faulty

end AgentSkeptic.Support

import Mathlib.Data.List.Nodup
import Mathlib.Logic.Function.Basic

/-!
# Calls that are repeated over a lossy network

Callers send a request to a server and repeat it until an answer ends the call.  On the
wire a request can wait, be served more than once or never; an answer can be lost, and a
caller can be told of a failure that the server knows nothing of.

What is sent or answered stays on the wire for good, so every order of deliveries, every
loss and every duplicate is some sequence of events.
-/

namespace AgentSkeptic.Support

/-! ## The loop of a caller -/

/-- What an attempt means to the loop that made it. -/
inductive Verdict (E O : Type*) where
  | stop (outcome : O)
  | retry (error : E)

variable {C S W X A E O : Type*}

/-- At most `left` attempts; `none` while the loop waits for its next answer. -/
def retryLoop (judge : A → Verdict E O) (exhausted : Option E → O) :
    (left : ℕ) → (last : Option E) → List A → Option O
  | 0, last, _ => some (exhausted last)
  | _ + 1, _, [] => none
  | left + 1, _, a :: as =>
      match judge a with
      | .stop outcome => some outcome
      | .retry error => retryLoop judge exhausted left (some error) as

section Loop

variable {judge : A → Verdict E O} {exhausted : Option E → O}

/-- The loop has ended once it has seen all its attempts. -/
theorem retryLoop_isSome {left : ℕ} {last : Option E} {as : List A}
    (h : left ≤ as.length) : (retryLoop judge exhausted left last as).isSome = true := by
  induction left generalizing last as with
  | zero => rfl
  | succ left ih =>
      cases as with
      | nil => simp at h
      | cons a as =>
          rw [retryLoop]
          cases judge a with
          | stop outcome => rfl
          | retry error => exact ih (by simpa using h)

/-- An outcome is that of an answer, or of a loop that ran out of attempts. -/
theorem retryLoop_eq_some {left : ℕ} {last : Option E} {as : List A} {outcome : O}
    (h : retryLoop judge exhausted left last as = some outcome) :
    (∃ a ∈ as, judge a = .stop outcome) ∨ ∃ last, outcome = exhausted last := by
  induction left generalizing last as with
  | zero => exact .inr ⟨last, (Option.some.inj h).symm⟩
  | succ left ih =>
      cases as with
      | nil => cases h
      | cons a as =>
          rw [retryLoop] at h
          cases hjudge : judge a with
          | stop outcome' =>
              rw [hjudge] at h
              obtain rfl := Option.some.inj h
              exact .inl ⟨a, List.mem_cons_self, hjudge⟩
          | retry error =>
              rw [hjudge] at h
              rcases ih h with ⟨b, hb, hstop⟩ | hexhausted
              · exact .inl ⟨b, List.mem_cons_of_mem a hb, hstop⟩
              · exact .inr hexhausted

end Loop

/-! ## The network -/

/-- What the callers and the server do.  `W` is what the server reads of its world when
it handles a request, `X` what else it does. -/
structure Calls (C S W X A O : Type*) where
  serve : S → C → W → S × A
  other : S → X → S
  /-- What a caller can be told without an answer of the server. -/
  foreign : A → Bool
  /-- What a caller returns on what it was told; `none` while it goes on. -/
  result : C → List A → Option O

structure Net (C S A : Type*) where
  server : S
  /-- The attempts on the wire: the caller and how many it made before. -/
  sent : List (C × ℕ)
  answered : List ((C × ℕ) × A)
  /-- What each caller was told about its attempts, in order. -/
  seen : C → List A

inductive NetEvent (C W X A : Type*) where
  | send (c : C)
  | serve (c : C) (attempt : ℕ) (world : W)
  | other (x : X)
  | deliver (i : ℕ)
  | fail (c : C) (a : A)

/-- Before the first request. -/
def Net.start (server : S) : Net C S A := ⟨server, [], [], fun _ => []⟩

/-- The attempt that a caller makes next, or waits for. -/
def Net.attempt (n : Net C S A) (c : C) : ℕ := (n.seen c).length

section Net

variable [DecidableEq C]

/-- A caller is told about the attempt it waits for. -/
def Net.tell (n : Net C S A) (c : C) (a : A) : Net C S A :=
  { n with seen := Function.update n.seen c (n.seen c ++ [a]) }

variable (P : Calls C S W X A O)

/-- One event; what is not possible does nothing. -/
def Net.next (n : Net C S A) : NetEvent C W X A → Net C S A
  | .send c =>
      if (P.result c (n.seen c)).isNone ∧ (c, n.attempt c) ∉ n.sent then
        { n with sent := n.sent ++ [(c, n.attempt c)] }
      else n
  | .serve c attempt world =>
      if (c, attempt) ∈ n.sent then
        let out := P.serve n.server c world
        { n with
          server := out.1
          answered := n.answered ++ [((c, attempt), out.2)] }
      else n
  | .other x => { n with server := P.other n.server x }
  | .deliver i =>
      match n.answered[i]? with
      | some ((c, attempt), a) => if attempt = n.attempt c then n.tell c a else n
      | none => n
  | .fail c a =>
      if P.foreign a ∧ (c, n.attempt c) ∈ n.sent then n.tell c a else n

def Net.run (n : Net C S A) (events : List (NetEvent C W X A)) : Net C S A :=
  events.foldl (Net.next P) n

/-! ### Rules for runs -/

/-- A property of networks kept by each event is kept by a whole run. -/
theorem Net.run_induction (Inv : Net C S A → Prop)
    (hnext : ∀ n event, Inv n → Inv (n.next P event)) {n : Net C S A} (hn : Inv n)
    (events : List (NetEvent C W X A)) : Inv (n.run P events) := by
  induction events generalizing n with
  | nil => exact hn
  | cons event events ih => exact ih (hnext n event hn)

/-- What an event does to the server: nothing, a request that was sent, or another
step. -/
theorem Net.next_server (n : Net C S A) (event : NetEvent C W X A) :
    (n.next P event).server = n.server ∨
      (∃ c attempt world, (c, attempt) ∈ n.sent ∧
        (n.next P event).server = (P.serve n.server c world).1) ∨
      ∃ x, (n.next P event).server = P.other n.server x := by
  cases event with
  | send c =>
      rw [Net.next]
      split <;> exact .inl rfl
  | serve c attempt world =>
      rw [Net.next]
      split
      · rename_i hsent
        exact .inr (.inl ⟨c, attempt, world, hsent, rfl⟩)
      · exact .inl rfl
  | other x => exact .inr (.inr ⟨x, rfl⟩)
  | deliver i =>
      rw [Net.next]
      split
      · split <;> exact .inl rfl
      · exact .inl rfl
  | fail c a =>
      rw [Net.next]
      split <;> exact .inl rfl

theorem Net.sent_subset_next (n : Net C S A) (event : NetEvent C W X A) :
    n.sent ⊆ (n.next P event).sent := by
  intro x hx
  cases event with
  | send c =>
      rw [Net.next]
      split
      · exact List.mem_append_left _ hx
      · exact hx
  | serve c attempt world =>
      rw [Net.next]
      split <;> exact hx
  | other x => exact hx
  | deliver i =>
      rw [Net.next]
      split
      · split <;> exact hx
      · exact hx
  | fail c a =>
      rw [Net.next]
      split <;> exact hx

/-- An invariant of the server. -/
theorem Net.server_invariant (Inv : S → Prop)
    (hserve : ∀ s c world, Inv s → Inv (P.serve s c world).1)
    (hother : ∀ s x, Inv s → Inv (P.other s x)) {n : Net C S A} (hn : Inv n.server)
    (events : List (NetEvent C W X A)) : Inv (n.run P events).server := by
  refine Net.run_induction P (fun n => Inv n.server) ?_ hn events
  intro n event h
  rcases n.next_server P event with heq | ⟨c, attempt, world, -, heq⟩ | ⟨x, heq⟩
  · exact heq ▸ h
  · exact heq ▸ hserve n.server c world h
  · exact heq ▸ hother n.server x h

/-- What only requests with a cause bring about has a cause that was sent. -/
theorem Net.cause_of_server (Fact : S → Prop) (Cause : C → Prop)
    (hserve : ∀ s c world, Fact (P.serve s c world).1 → Fact s ∨ Cause c)
    (hother : ∀ s x, Fact (P.other s x) → Fact s) (s : S)
    (events : List (NetEvent C W X A))
    (h : Fact ((Net.start (C := C) (A := A) s).run P events).server) :
    Fact s ∨ ∃ c attempt,
      (c, attempt) ∈ ((Net.start (C := C) (A := A) s).run P events).sent ∧ Cause c := by
  revert h
  refine Net.run_induction P (fun n => Fact n.server →
    Fact s ∨ ∃ c attempt, (c, attempt) ∈ n.sent ∧ Cause c) ?_ .inl events
  intro n event ih hfact
  have hkept (hold : Fact n.server) : Fact s ∨ ∃ c attempt,
      (c, attempt) ∈ (n.next P event).sent ∧ Cause c := by
    rcases ih hold with hs | ⟨c, attempt, hsent, hcause⟩
    · exact .inl hs
    · exact .inr ⟨c, attempt, n.sent_subset_next P event hsent, hcause⟩
  rcases n.next_server P event with heq | ⟨c, attempt, world, hsent, heq⟩ | ⟨x, heq⟩
  · exact hkept (heq ▸ hfact)
  · rcases hserve n.server c world (heq ▸ hfact) with hold | hcause
    · exact hkept hold
    · exact .inr ⟨c, attempt, n.sent_subset_next P event hsent, hcause⟩
  · exact hkept (hother n.server x (heq ▸ hfact))

/-! ### Attempts -/

/-- An attempt was made when the earlier ones had not ended the call. -/
def Net.Paced (n : Net C S A) : Prop :=
  ∀ c attempt, (c, attempt) ∈ n.sent →
    attempt ≤ n.attempt c ∧ P.result c ((n.seen c).take attempt) = none

variable {P} in
theorem Net.Paced.tell {n : Net C S A} (h : n.Paced P) (c : C) (a : A) :
    (n.tell c a).Paced P := by
  intro c' attempt hsent
  obtain ⟨hle, hnone⟩ := h c' attempt hsent
  by_cases hc : c' = c
  · subst hc
    rw [Net.attempt] at hle
    simp only [Net.tell, Net.attempt, Function.update_self, List.length_append]
    rw [List.take_append_of_le_length hle]
    exact ⟨by omega, hnone⟩
  · simp only [Net.tell, Net.attempt, Function.update_of_ne hc]
    exact ⟨hle, hnone⟩

theorem Net.run_paced (s : S) (events : List (NetEvent C W X A)) :
    ((Net.start (C := C) (A := A) s).run P events).Paced P := by
  refine Net.run_induction P (fun n => n.Paced P) ?_ (by simp [Paced, start]) events
  intro n event h
  cases event with
  | send c =>
      rw [Net.next]
      split
      · rename_i hready
        intro c' attempt hsent
        rcases List.mem_append.mp hsent with hold | hnew
        · exact h c' attempt hold
        · obtain ⟨rfl, rfl⟩ := Prod.mk.inj (List.mem_singleton.mp hnew)
          refine ⟨Nat.le_refl _, ?_⟩
          have htake : (n.seen c').take (n.attempt c') = n.seen c' := List.take_length
          exact htake.symm ▸ Option.isNone_iff_eq_none.mp hready.1
      · exact h
  | serve c attempt world =>
      rw [Net.next]
      split <;> exact h
  | other x => exact h
  | deliver i =>
      rw [Net.next]
      split
      · split
        · exact h.tell _ _
        · exact h
      · exact h
  | fail c a =>
      rw [Net.next]
      split
      · exact h.tell _ _
      · exact h

/-- A caller that has ended on any `limit` answers makes fewer than `limit + 1`
attempts. -/
theorem Net.attempt_lt_of_sent {limit : ℕ}
    (hlimit : ∀ c as, limit ≤ as.length → (P.result c as).isSome = true) (s : S)
    (events : List (NetEvent C W X A)) {c : C} {attempt : ℕ}
    (hsent : (c, attempt) ∈ ((Net.start (C := C) (A := A) s).run P events).sent) :
    attempt < limit := by
  obtain ⟨hle, hnone⟩ := Net.run_paced P s events c attempt hsent
  by_contra hlt
  have hlength : limit ≤ ((((Net.start (C := C) (A := A) s).run P events).seen c).take
      attempt).length := by
    rw [Net.attempt] at hle
    rw [List.length_take]
    omega
  have hsome := hlimit c _ hlength
  rw [hnone] at hsome
  cases hsome

/-! ### What a caller may conclude -/

/-- Of every good answer on the wire, and of every good answer a caller was told, the
fact holds. -/
structure Net.Justified (Good : C → A → Prop) (Fact : C → S → Prop) (n : Net C S A) :
    Prop where
  answered : ∀ c attempt a, ((c, attempt), a) ∈ n.answered → Good c a → Fact c n.server
  seen : ∀ c a, a ∈ n.seen c → Good c a → Fact c n.server

section Conclude

variable {P} {Good : C → A → Prop} {Fact : C → S → Prop}

theorem Net.Justified.tell {n : Net C S A} (h : n.Justified Good Fact) {c : C} {a : A}
    (ha : Good c a → Fact c n.server) : (n.tell c a).Justified Good Fact := by
  refine ⟨h.answered, ?_⟩
  intro c' b hb hgood
  by_cases hc : c' = c
  · subst hc
    simp only [Net.tell, Function.update_self, List.mem_append, List.mem_singleton] at hb
    rcases hb with hold | rfl
    · exact h.seen c' b hold hgood
    · exact ha hgood
  · simp only [Net.tell, Function.update_of_ne hc] at hb
    exact h.seen c' b hb hgood

/-- A good answer is given only with its fact established, facts stay, and no foreign
answer is good: then the fact of a good answer holds from then on. -/
theorem Net.run_justified (Inv : S → Prop)
    (hinvServe : ∀ s c world, Inv s → Inv (P.serve s c world).1)
    (hinvOther : ∀ s x, Inv s → Inv (P.other s x))
    (hgood : ∀ s c world, Inv s → Good c (P.serve s c world).2 →
      Fact c (P.serve s c world).1)
    (hserve : ∀ s c c' world, Inv s → Fact c s → Fact c (P.serve s c' world).1)
    (hother : ∀ s c x, Inv s → Fact c s → Fact c (P.other s x))
    (hforeign : ∀ c a, P.foreign a = true → ¬Good c a)
    {s : S} (hs : Inv s) (events : List (NetEvent C W X A)) :
    ((Net.start (C := C) (A := A) s).run P events).Justified Good Fact := by
  refine (Net.run_induction P (fun n => Inv n.server ∧ n.Justified Good Fact)
    ?_ ⟨hs, ⟨by simp [start], by simp [start]⟩⟩ events).2
  rintro n event ⟨hinv, h⟩
  cases event with
  | send c =>
      rw [Net.next]
      split
      · exact ⟨hinv, ⟨h.answered, h.seen⟩⟩
      · exact ⟨hinv, h⟩
  | serve c attempt world =>
      rw [Net.next]
      split
      · refine ⟨hinvServe _ _ _ hinv, ?_, ?_⟩
        · intro c' attempt' a ha hgood'
          rcases List.mem_append.mp ha with hold | hnew
          · exact hserve _ _ _ _ hinv (h.answered c' attempt' a hold hgood')
          · obtain ⟨hcall, rfl⟩ := Prod.mk.inj (List.mem_singleton.mp hnew)
            obtain ⟨rfl, rfl⟩ := Prod.mk.inj hcall
            exact hgood _ _ _ hinv hgood'
        · exact fun c' a ha hgood' => hserve _ _ _ _ hinv (h.seen c' a ha hgood')
      · exact ⟨hinv, h⟩
  | other x =>
      refine ⟨hinvOther _ _ hinv, ?_, ?_⟩
      · exact fun c attempt a ha hgood' => hother _ _ _ hinv (h.answered c attempt a ha hgood')
      · exact fun c a ha hgood' => hother _ _ _ hinv (h.seen c a ha hgood')
  | deliver i =>
      rw [Net.next]
      split
      · rename_i c attempt a hi
        split
        · refine ⟨hinv, h.tell fun hgood' => ?_⟩
          exact h.answered c attempt a (List.mem_of_getElem? hi) hgood'
        · exact ⟨hinv, h⟩
      · exact ⟨hinv, h⟩
  | fail c a =>
      rw [Net.next]
      split
      · rename_i hfail
        exact ⟨hinv, h.tell fun hgood' => absurd hgood' (hforeign c a hfail.1)⟩
      · exact ⟨hinv, h⟩

end Conclude

end Net

end AgentSkeptic.Support

import AgentSkeptic.Support.ReadCommitted
import Mathlib.Algebra.GroupWithZero.Nat
import Mathlib.Data.Finset.Card

/-!
# The effects of commits at read committed

A contract (`AgentSkeptic.Support.ReadCommitted`) speaks of the rows after a commit.  The
rule here relates the rows before and after it: `Performs` says that a transaction, from
its current statement on, can only commit with the effect `E`, whatever the others commit
meanwhile outside the rows it has locked.

Under every schedule the committed rows are then those that the effects of the commits
lead to, one after the other (`run_effects`), so a measure that each commit raises by its
weight is the sum of the weights.
-/

namespace AgentSkeptic.Support

variable {P K : Type} {V : K → Type} {L α : Type}

/-- The committed rows moved from `c` to `c'` while a transaction held the rows `held`. -/
structure Undisturbed (I : Rows V → Prop) (held : K → Prop) (c c' : Rows V) : Prop where
  inv : I c'
  held : ∀ k, held k → c' k = c k

theorem Undisturbed.refl {I : Rows V → Prop} {held : K → Prop} {c : Rows V} (h : I c) :
    Undisturbed I held c c :=
  ⟨h, fun _ _ => rfl⟩

theorem Undisturbed.trans {I : Rows V → Prop} {held : K → Prop} {c₁ c₂ c₃ : Rows V}
    (h₁ : Undisturbed I held c₁ c₂) (h₂ : Undisturbed I held c₂ c₃) :
    Undisturbed I held c₁ c₃ :=
  ⟨h₂.inv, fun k hk => (h₂.held k hk).trans (h₁.held k hk)⟩

section Performs

variable [DecidableEq K]

/-- From statement `t` on, with the rows `held` locked and the writes `w`, the transaction
commits with the effect `E` of its result, or not at all. -/
def Performs (I : Rows V → Prop) (E : α → Rows V → Rows V → Prop) :
    Txn K V L α → (K → Prop) → Rows V → Rows V → Prop
  | .done a, held, w, c => ∀ c', Undisturbed I held c c' →
      I (overlay w c') ∧ E a c' (overlay w c')
  | .fail _, _, _, _ => True
  | .select k next, held, w, c => ∀ c', Undisturbed I held c c' →
      Performs I E (next (overlay w c' k)) held w c'
  | .selectForUpdate k next, held, w, c => ∀ c', Undisturbed I held c c' →
      (overlay w c' k = none → Performs I E (next none) held w c') ∧
      ∀ row, overlay w c' k = some row →
        Performs I E (next (some row)) (fun j => held j ∨ j = k) w c'
  | .insert k row next, held, w, c => ∀ c', Undisturbed I held c c' →
      overlay w c' k = none →
        Performs I E next (fun j => held j ∨ j = k) (Function.update w k (some row)) c'
  | .update k f next, held, w, c => ∀ c', Undisturbed I held c c' →
      ((overlay w c' k).bind f = none → Performs I E (next false) held w c') ∧
      ∀ row, (overlay w c' k).bind f = some row →
        Performs I E (next true) (fun j => held j ∨ j = k)
          (Function.update w k (some row)) c'
  | .append _ next, held, w, c => Performs I E next held w c
  | .fresh next, held, w, c => ∀ n, Performs I E (next n) held w c

variable {I : Rows V → Prop} {E : α → Rows V → Rows V → Prop}

theorem Performs.stable {t : Txn K V L α} {held : K → Prop} {w c c₁ : Rows V}
    (h : Performs I E t held w c) (hmoved : Undisturbed I held c c₁) :
    Performs I E t held w c₁ := by
  induction t with
  | done a => exact fun c' hc' => h c' (hmoved.trans hc')
  | fail message => trivial
  | select k next ih => exact fun c' hc' => h c' (hmoved.trans hc')
  | selectForUpdate k next ih => exact fun c' hc' => h c' (hmoved.trans hc')
  | insert k row next ih => exact fun c' hc' => h c' (hmoved.trans hc')
  | update k f next ih => exact fun c' hc' => h c' (hmoved.trans hc')
  | append entry next ih => exact ih h
  | fresh next ih => exact fun n => ih n (h n)

theorem Performs.congr {t : Txn K V L α} {held held' : K → Prop} {w c : Rows V}
    (h : Performs I E t held w c) (hheld : ∀ k, held k ↔ held' k) :
    Performs I E t held' w c := by
  have heq : held = held' := funext fun k => propext (hheld k)
  exact heq ▸ h

/-- A transaction whose result decides between returning and throwing. -/
theorem Performs.bind_end {β : Type} {E' : β → Rows V → Rows V → Prop}
    {f : α → Txn K V L β}
    (hf : ∀ a, (∃ b, f a = .done b ∧ ∀ c c', E a c c' → E' b c c') ∨
      ∃ message, f a = .fail message)
    {t : Txn K V L α} {held : K → Prop} {w c : Rows V} (h : Performs I E t held w c) :
    Performs I E' (t.bind f) held w c := by
  induction t generalizing held w c with
  | done a =>
      rw [Txn.done_bind]
      rcases hf a with ⟨b, hb, heffect⟩ | ⟨message, hmessage⟩
      · rw [hb]
        exact fun c' hc' => ⟨(h c' hc').1, heffect _ _ (h c' hc').2⟩
      · rw [hmessage]
        trivial
  | fail message => trivial
  | select k next ih => exact fun c' hc' => ih _ (h c' hc')
  | selectForUpdate k next ih =>
      exact fun c' hc' => ⟨fun hnone => ih _ ((h c' hc').1 hnone),
        fun row hrow => ih _ ((h c' hc').2 row hrow)⟩
  | insert k row next ih => exact fun c' hc' hnone => ih (h c' hc' hnone)
  | update k g next ih =>
      exact fun c' hc' => ⟨fun hnone => ih _ ((h c' hc').1 hnone),
        fun row hrow => ih _ ((h c' hc').2 row hrow)⟩
  | append entry next ih => exact ih h
  | fresh next ih => exact fun n => ih _ (h n)

end Performs

namespace System

variable [DecidableEq P] [DecidableEq K]

/-! ## Statements -/

/-- A statement took transaction `p` from `session` to `session'` and ended nothing: the
committed rows and the locks of the others are as they were. -/
structure Continues (s s₁ : System P K V L α) (p : P) (session session' : Session K V L α) :
    Prop where
  row : s₁.db.row = s.db.row
  phase : s₁.phase = s.phase
  others : ∀ q, q ≠ p → ∀ k, s₁.holder k = some q ↔ s.holder k = some q
  owns : (∀ k, session.writes k ≠ none → s.holder k = some p) →
    ∀ k, session'.writes k ≠ none → s₁.holder k = some p
  performs : ∀ {I : Rows V → Prop} {E : α → Rows V → Rows V → Prop}, I s.db.row →
    Performs I E session.rest (fun k => s.holder k = some p) session.writes s.db.row →
    Performs I E session'.rest (fun k => s₁.holder k = some p) session'.writes s.db.row

/-- What the next statement of a transaction does to the system. -/
theorem advance_cases {s s' : System P K V L α} {p : P} {session : Session K V L α}
    (h : s.advance p session = some s') :
    (∃ a, session.rest = .done a ∧ s' = s.commit p session a) ∨
      (∃ message, s' = s.abort p message) ∨
      ∃ s₁ session', s' = s₁.goOn p session' ∧ s.Continues s₁ p session session' := by
  obtain ⟨rest, writes, logged, seen⟩ := session
  have hkept : ∀ q, q ≠ p → ∀ k, s.holder k = some q ↔ s.holder k = some q :=
    fun _ _ _ => Iff.rfl
  cases rest with
  | done a => exact .inl ⟨a, rfl, (Option.some.inj h).symm⟩
  | fail message => exact .inr (.inl ⟨message, (Option.some.inj h).symm⟩)
  | select k next =>
      obtain rfl := Option.some.inj h
      refine .inr (.inr ⟨s, _, rfl, rfl, rfl, hkept, id, ?_⟩)
      exact fun hI hperforms => hperforms s.db.row (.refl hI)
  | selectForUpdate k next =>
      cases hrow : overlay writes s.db.row k with
      | none =>
          simp only [advance, hrow, Option.some.injEq] at h
          subst h
          refine .inr (.inr ⟨s, _, rfl, rfl, rfl, hkept, id, ?_⟩)
          exact fun hI hperforms => (hperforms s.db.row (.refl hI)).1 hrow
      | some row =>
          simp only [advance, hrow] at h
          split at h
          · rename_i hfree
            obtain rfl := Option.some.inj h
            refine .inr (.inr ⟨s.lock p k, _, rfl, rfl, rfl,
              fun q hq j => lock_holder_of_ne hfree hq, ?_, ?_⟩)
            · exact fun howns j hj => lock_holder_self.mpr (.inl (howns j hj))
            · exact fun hI hperforms =>
                ((hperforms s.db.row (.refl hI)).2 row hrow).congr
                  fun j => lock_holder_self.symm
          · cases h
  | insert k row next =>
      simp only [advance] at h
      split at h
      · rename_i hfree
        cases hrow : overlay writes s.db.row k with
        | some old =>
            simp only [hrow, Option.some.injEq] at h
            exact .inr (.inl ⟨_, h.symm⟩)
        | none =>
            simp only [hrow, Option.some.injEq] at h
            subst h
            refine .inr (.inr ⟨s.lock p k, _, rfl, rfl, rfl,
              fun q hq j => lock_holder_of_ne hfree hq, ?_, ?_⟩)
            · exact fun howns j hj => lock_holder_of_written howns hj
            · exact fun hI hperforms => (hperforms s.db.row (.refl hI) hrow).congr
                fun j => lock_holder_self.symm
      · cases h
  | update k f next =>
      cases hrow : (overlay writes s.db.row k).bind f with
      | none =>
          simp only [advance, hrow, Option.some.injEq] at h
          subst h
          refine .inr (.inr ⟨s, _, rfl, rfl, rfl, hkept, id, ?_⟩)
          exact fun hI hperforms => (hperforms s.db.row (.refl hI)).1 hrow
      | some row =>
          simp only [advance, hrow] at h
          split at h
          · rename_i hfree
            obtain rfl := Option.some.inj h
            refine .inr (.inr ⟨s.lock p k, _, rfl, rfl, rfl,
              fun q hq j => lock_holder_of_ne hfree hq, ?_, ?_⟩)
            · exact fun howns j hj => lock_holder_of_written howns hj
            · exact fun hI hperforms =>
                ((hperforms s.db.row (.refl hI)).2 row hrow).congr
                  fun j => lock_holder_self.symm
          · cases h
  | append entry next =>
      obtain rfl := Option.some.inj h
      exact .inr (.inr ⟨s, _, rfl, rfl, rfl, hkept, id, fun _ hperforms => hperforms⟩)
  | fresh next =>
      obtain rfl := Option.some.inj h
      exact .inr (.inr ⟨{ s with db := s.db.drawId }, _, rfl, rfl, rfl, hkept, id,
        fun _ hperforms => hperforms s.db.nextId⟩)

/-! ## Soundness -/

/-- Every running transaction performs its effect, and has locked the rows it wrote. -/
structure Performing (I : Rows V → Prop) (E : P → α → Rows V → Rows V → Prop)
    (s : System P K V L α) : Prop where
  inv : I s.db.row
  performs : ∀ p session, s.phase p = .running session →
    Performs I (E p) session.rest (fun k => s.holder k = some p) session.writes s.db.row
  owns : ∀ p session, s.phase p = .running session →
    ∀ k, session.writes k ≠ none → s.holder k = some p

section Soundness

variable {I : Rows V → Prop} {E : P → α → Rows V → Rows V → Prop}
  {s : System P K V L α}

omit [DecidableEq P] in
theorem start_performing {db : Db K V L} {prog : P → Txn K V L α} (hinv : I db.row)
    (hprog : ∀ p, Performs I (E p) (prog p) (fun _ => False) (fun _ => none) db.row) :
    (start db prog).Performing I E := by
  refine ⟨hinv, ?_, ?_⟩
  · intro p session hp
    obtain rfl : Session.start (prog p) = session := by simpa [start] using hp
    exact (hprog p).congr (by simp [start])
  · intro p session hp k hwrites
    obtain rfl : Session.start (prog p) = session := by simpa [start] using hp
    exact absurd rfl hwrites

/-- A transaction has ended, and the committed rows moved outside what the others hold. -/
theorem Performing.finish (h : s.Performing I E) {s' : System P K V L α} {p : P}
    {phase : Phase K V L α} (hphase : s'.phase = Function.update s.phase p phase)
    (hended : ∀ session, phase ≠ .running session)
    (hholder : s'.holder = (s.release p).holder)
    (hmoved : ∀ q, q ≠ p →
      Undisturbed I (fun k => s.holder k = some q) s.db.row s'.db.row)
    (hinv : I s'.db.row) : s'.Performing I E := by
  have hrunning : ∀ {q session}, s'.phase q = .running session →
      q ≠ p ∧ s.phase q = .running session := by
    intro q session hq
    rw [hphase] at hq
    by_cases hqp : q = p
    · subst hqp
      rw [Function.update_self] at hq
      exact absurd hq (hended session)
    · rw [Function.update_of_ne hqp] at hq
      exact ⟨hqp, hq⟩
  refine ⟨hinv, ?_, ?_⟩
  · intro q session hq
    obtain ⟨hqp, hq'⟩ := hrunning hq
    refine ((h.performs q session hq').stable (hmoved q hqp)).congr fun k => ?_
    rw [hholder, release_holder]
    simp [hqp]
  · intro q session hq k hwrites
    obtain ⟨hqp, hq'⟩ := hrunning hq
    rw [hholder, release_holder]
    exact ⟨h.owns q session hq' k hwrites, hqp⟩

theorem Performing.abort (h : s.Performing I E) (p : P) (message : String) :
    (s.abort p message).Performing I E :=
  h.finish rfl (by simp) rfl (fun _ _ => .refl h.inv) h.inv

theorem Performing.commit (h : s.Performing I E) {p : P} {session : Session K V L α}
    (hp : s.phase p = .running session) {a : α} (hrest : session.rest = .done a) :
    (s.commit p session a).Performing I E ∧
      E p a s.db.row (s.commit p session a).db.row := by
  have hperforms := h.performs p session hp
  rw [hrest] at hperforms
  obtain ⟨hinv, heffect⟩ := hperforms s.db.row (.refl h.inv)
  refine ⟨h.finish rfl (by simp) rfl ?_ hinv, heffect⟩
  intro q hqp
  refine ⟨hinv, fun k hk => overlay_of_none ?_⟩
  by_contra hwrites
  have hpk := h.owns p session hp k hwrites
  rw [hk] at hpk
  exact hqp (Option.some.inj hpk)

/-- A statement that ends no transaction. -/
theorem Performing.goOn (h : s.Performing I E) {s₁ : System P K V L α} {p : P}
    {session session' : Session K V L α} (hp : s.phase p = .running session)
    (hcontinues : s.Continues s₁ p session session') :
    (s₁.goOn p session').Performing I E := by
  have hrunning : ∀ {q session''}, (s₁.goOn p session').phase q = .running session'' →
      (q = p ∧ session'' = session') ∨ (q ≠ p ∧ s.phase q = .running session'') := by
    intro q session'' hq
    by_cases hqp : q = p
    · subst hqp
      rw [goOn_phase] at hq
      exact .inl ⟨rfl, (Phase.running.inj hq).symm⟩
    · refine .inr ⟨hqp, ?_⟩
      simpa [System.goOn, setPhase, Function.update_of_ne hqp, hcontinues.phase] using hq
  refine ⟨hcontinues.row.symm ▸ h.inv, ?_, ?_⟩
  · intro q session'' hq
    rw [goOn_db, hcontinues.row]
    rcases hrunning hq with ⟨rfl, rfl⟩ | ⟨hqp, hq'⟩
    · exact hcontinues.performs h.inv (h.performs _ session hp)
    · exact (h.performs q session'' hq').congr fun k => (hcontinues.others q hqp k).symm
  · intro q session'' hq k hwrites
    rcases hrunning hq with ⟨rfl, rfl⟩ | ⟨hqp, hq'⟩
    · exact hcontinues.owns (h.owns _ session hp) k hwrites
    · exact (hcontinues.others q hqp k).mpr (h.owns q session'' hq' k hwrites)

end Soundness

/-! ## Schedules -/

/-- The transaction that the event commits, with its result. -/
def committedBy (s : System P K V L α) : Event P → Option (P × α)
  | .crash _ => none
  | .step p =>
      match s.phase p with
      | .running session =>
          match session.rest with
          | .done a => some (p, a)
          | _ => none
      | _ => none

/-- The commits of a schedule, in order. -/
def commitsOf (s : System P K V L α) : List (Event P) → List (P × α)
  | [] => []
  | ev :: evs => (s.committedBy ev).toList ++ (s.next ev).commitsOf evs

/-- The effects of commits, one after the other. -/
inductive Effects (E : P → α → Rows V → Rows V → Prop) :
    Rows V → List (P × α) → Rows V → Prop where
  | nil (c : Rows V) : Effects E c [] c
  | cons {c c₁ c₂ : Rows V} {p : P} {a : α} {commits : List (P × α)}
      (heffect : E p a c c₁) (hrest : Effects E c₁ commits c₂) :
      Effects E c ((p, a) :: commits) c₂

/-- What an event does, with what it commits: nothing, or one statement of a running
transaction. -/
inductive Next (s : System P K V L α) : Option (P × α) → System P K V L α → Prop where
  | idle : Next s none s
  | commit {p : P} {session : Session K V L α} {a : α}
      (hp : s.phase p = .running session) (hrest : session.rest = .done a) :
      Next s (some (p, a)) (s.commit p session a)
  | abort {p : P} {session : Session K V L α} (hp : s.phase p = .running session)
      (message : String) : Next s none (s.abort p message)
  | goOn {p : P} {session session' : Session K V L α} {s₁ : System P K V L α}
      (hp : s.phase p = .running session)
      (hcontinues : s.Continues s₁ p session session') : Next s none (s₁.goOn p session')

theorem next_cases (s : System P K V L α) (ev : Event P) :
    Next s (s.committedBy ev) (s.next ev) := by
  cases ev with
  | crash p =>
      cases hp : s.phase p with
      | running session =>
          simp only [System.next, committedBy, hp]
          exact .abort hp _
      | committed a =>
          simp only [System.next, committedBy, hp]
          exact .idle
      | aborted message =>
          simp only [System.next, committedBy, hp]
          exact .idle
  | step p =>
      cases hp : s.phase p with
      | committed a =>
          simp only [System.next, committedBy, hp]
          exact .idle
      | aborted message =>
          simp only [System.next, committedBy, hp]
          exact .idle
      | running session =>
          by_cases hdone : ∃ a, session.rest = .done a
          · obtain ⟨a, hrest⟩ := hdone
            simp only [System.next, committedBy, hp, advance, hrest, Option.getD_some]
            exact .commit hp hrest
          · have hnone : s.committedBy (.step p) = none := by
              simp only [committedBy, hp]
              split
              · rename_i a hrest
                exact absurd ⟨a, hrest⟩ hdone
              · rfl
            rw [hnone]
            cases hadvance : s.advance p session with
            | none =>
                simp only [System.next, hp, hadvance, Option.getD_none]
                exact .idle
            | some s' =>
                simp only [System.next, hp, hadvance, Option.getD_some]
                rcases advance_cases hadvance with
                  ⟨a, hrest, -⟩ | ⟨message, rfl⟩ | ⟨s₁, session', rfl, hcontinues⟩
                · exact absurd ⟨a, hrest⟩ hdone
                · exact .abort hp message
                · exact .goOn hp hcontinues

section Run

variable {I : Rows V → Prop} {E : P → α → Rows V → Rows V → Prop}
  {s : System P K V L α}

/-- An event commits with an effect, or leaves the committed rows alone. -/
theorem Performing.next (h : s.Performing I E) {s' : System P K V L α}
    {committed : Option (P × α)} (hnext : Next s committed s') :
    s'.Performing I E ∧ ((committed = none ∧ s'.db.row = s.db.row) ∨
      ∃ p a, committed = some (p, a) ∧ E p a s.db.row s'.db.row) := by
  cases hnext with
  | idle => exact ⟨h, .inl ⟨rfl, rfl⟩⟩
  | @commit p session a hp hrest =>
      obtain ⟨hperforming, heffect⟩ := h.commit hp hrest
      exact ⟨hperforming, .inr ⟨p, a, rfl, heffect⟩⟩
  | abort hp message => exact ⟨h.abort _ message, .inl ⟨rfl, rfl⟩⟩
  | goOn hp hcontinues => exact ⟨h.goOn hp hcontinues, .inl ⟨rfl, hcontinues.row⟩⟩

/-- Under every schedule the committed rows are those that the effects of the commits
lead to. -/
theorem Performing.run_effects (h : s.Performing I E) (evs : List (Event P)) :
    I (s.run evs).db.row ∧
      Effects E s.db.row (s.commitsOf evs) (s.run evs).db.row := by
  induction evs generalizing s with
  | nil => exact ⟨h.inv, .nil _⟩
  | cons ev evs ih =>
      obtain ⟨hnext, heffect⟩ := h.next (s.next_cases ev)
      obtain ⟨hinv, hrest⟩ := ih hnext
      rw [run_cons, commitsOf]
      refine ⟨hinv, ?_⟩
      rcases heffect with ⟨hnone, hrow⟩ | ⟨p, a, hcommit, heffect⟩
      · rw [hnone, ← hrow]
        exact hrest
      · rw [hcommit]
        exact .cons heffect hrest

end Run

omit [DecidableEq P] [DecidableEq K] in
/-- A measure that every commit raises by its weight. -/
theorem Effects.measure {E : P → α → Rows V → Rows V → Prop} {m : Rows V → ℕ}
    {weight : P × α → ℕ}
    (hweight : ∀ p a c c', E p a c c' → m c' = m c + weight (p, a)) {c c' : Rows V}
    {commits : List (P × α)} (h : Effects E c commits c') :
    m c' = m c + (commits.map weight).sum := by
  induction h with
  | nil c => rfl
  | cons heffect hrest ih =>
      rw [ih, hweight _ _ _ _ heffect, List.map_cons, List.sum_cons, Nat.add_assoc]

/-! ## Committed transactions -/

section Committed

variable {s : System P K V L α} {p : P} {a : α}

/-- An event moves one running transaction at most. -/
theorem Next.phase {s' : System P K V L α} {committed : Option (P × α)}
    (h : Next s committed s') :
    s'.phase = s.phase ∨ ∃ q session phase, s.phase q = .running session ∧
      s'.phase = Function.update s.phase q phase ∧
        ∀ a, phase = .committed a → committed = some (q, a) := by
  cases h with
  | idle => exact .inl rfl
  | commit hp hrest =>
      refine .inr ⟨_, _, _, hp, rfl, ?_⟩
      intro a ha
      rw [Phase.committed.inj ha]
  | abort hp message => exact .inr ⟨_, _, _, hp, rfl, by simp⟩
  | @goOn p session session' s₁ hp hcontinues =>
      refine .inr ⟨p, session, .running session', hp, ?_, ?_⟩
      · rw [← hcontinues.phase]
        rfl
      · simp

/-- An event that leaves a transaction committed has committed it, or found it so. -/
theorem Next.committed {s' : System P K V L α} {committed : Option (P × α)}
    (hnext : Next s committed s') (h : s'.phase p = .committed a) :
    s.phase p = .committed a ∨ committed = some (p, a) := by
  rcases hnext.phase with hsame | ⟨q, session, phase, -, hphase, hcommitted⟩
  · rw [hsame] at h
    exact .inl h
  · rw [hphase] at h
    by_cases hpq : p = q
    · subst hpq
      rw [Function.update_self] at h
      exact .inr (hcommitted a h)
    · rw [Function.update_of_ne hpq] at h
      exact .inl h

/-- A transaction that is committed at the end of a schedule is among its commits. -/
theorem mem_commitsOf {evs : List (Event P)} (hp : s.phase p ≠ .committed a)
    (h : (s.run evs).phase p = .committed a) : (p, a) ∈ s.commitsOf evs := by
  induction evs generalizing s with
  | nil => exact absurd h hp
  | cons ev evs ih =>
      rw [commitsOf, List.mem_append]
      by_cases hnext : (s.next ev).phase p = .committed a
      · rcases (s.next_cases ev).committed hnext with hbefore | hcommit
        · exact absurd hbefore hp
        · exact .inl (by simp [hcommit])
      · exact .inr (ih hnext h)

omit [DecidableEq P] in
theorem length_filter_le_sum {β : Type} (weight : β → ℕ) (l : List β) :
    (l.filter fun x => 1 ≤ weight x).length ≤ (l.map weight).sum := by
  induction l with
  | nil => rfl
  | cons x l ih =>
      rw [List.map_cons, List.sum_cons, List.filter_cons]
      split
      · rename_i hx
        have hpositive : 1 ≤ weight x := by simpa using hx
        rw [List.length_cons]
        omega
      · omega

/-- Distinct transactions that are committed with a positive weight. -/
theorem card_le_sum_commits {evs : List (Event P)} {T : Finset P} {weight : P × α → ℕ}
    (hstart : ∀ p ∈ T, s.phase p ≠ .committed a)
    (hend : ∀ p ∈ T, (s.run evs).phase p = .committed a)
    (hweight : ∀ p ∈ T, 1 ≤ weight (p, a)) :
    T.card ≤ ((s.commitsOf evs).map weight).sum := by
  have hsubset : T ⊆ (((s.commitsOf evs).filter fun x => 1 ≤ weight x).map
      Prod.fst).toFinset := by
    intro p hp
    rw [List.mem_toFinset, List.mem_map]
    refine ⟨(p, a), List.mem_filter.mpr ⟨mem_commitsOf (hstart p hp) (hend p hp), ?_⟩, rfl⟩
    simpa using hweight p hp
  calc T.card
      ≤ (((s.commitsOf evs).filter fun x => 1 ≤ weight x).map Prod.fst).toFinset.card :=
        Finset.card_le_card hsubset
    _ ≤ (((s.commitsOf evs).filter fun x => 1 ≤ weight x).map Prod.fst).length :=
        List.toFinset_card_le _
    _ ≤ ((s.commitsOf evs).map weight).sum := by
        rw [List.length_map]
        exact length_filter_le_sum weight _

end Committed

end System

end AgentSkeptic.Support

import AgentSkeptic.Support.Transaction

/-!
# Interleaved transactions at read committed

Any number of transactions `P` run against one database, one statement at a
time in any order.  A plain `SELECT` sees the committed rows and its own
writes.  `SELECT ... FOR UPDATE`, `UPDATE` and `INSERT` take the row lock, which
is held to the end of the transaction; a statement whose lock another
transaction holds waits.  A transaction can be aborted at any point.

The second half is a rely-guarantee rule.  `Safe` says that a transaction keeps
a contract from its current statement on, whatever the others commit meanwhile
outside the rows it has locked; `run_sound` says that if every transaction is
safe, every schedule keeps the contract.
-/

namespace AgentSkeptic.Support

variable {P K : Type} {V : K → Type} {L α : Type}

/-! ## The interleaved meaning -/

abbrev Rows (V : K → Type) := (k : K) → Option (V k)

/-- Own writes on top of the committed rows. -/
def overlay (writes c : Rows V) : Rows V := fun k => (writes k).or (c k)

@[simp] theorem overlay_of_none {writes c : Rows V} {k : K}
    (h : writes k = none) : overlay writes c k = c k := by
  simp [overlay, h]

@[simp] theorem overlay_of_some {writes c : Rows V} {k : K} {row : V k}
    (h : writes k = some row) : overlay writes c k = some row := by
  simp [overlay, h]

/-- What the plain `SELECT`s of a transaction returned last. -/
abbrev Seen (V : K → Type) := (k : K) → Option (Option (V k))

/-- A running transaction. -/
structure Session (K : Type) (V : K → Type) (L α : Type) where
  rest : Txn K V L α
  writes : Rows V
  logged : List L
  seen : Seen V

/-- A transaction before its first statement. -/
def Session.start (t : Txn K V L α) : Session K V L α :=
  ⟨t, fun _ => none, [], fun _ => none⟩

inductive Phase (K : Type) (V : K → Type) (L α : Type) where
  | running (session : Session K V L α)
  | committed (a : α)
  | aborted (message : String)

structure System (P K : Type) (V : K → Type) (L α : Type) where
  db : Db K V L
  holder : K → Option P
  phase : P → Phase K V L α

/-- A statement of one transaction, or its abort from outside. -/
inductive Event (P : Type) where
  | step (p : P)
  | crash (p : P)

namespace System

/-- All transactions before their first statement. -/
def start (db : Db K V L) (prog : P → Txn K V L α) : System P K V L α where
  db := db
  holder := fun _ => none
  phase := fun p => .running (.start (prog p))

variable [DecidableEq P] [DecidableEq K]

def setPhase (s : System P K V L α) (p : P) (phase : Phase K V L α) :
    System P K V L α :=
  { s with phase := Function.update s.phase p phase }

/-- No other transaction holds the lock of row `k`. -/
def free (s : System P K V L α) (p : P) (k : K) : Bool :=
  match s.holder k with
  | none => true
  | some q => q = p

def lock (s : System P K V L α) (p : P) (k : K) : System P K V L α :=
  { s with holder := Function.update s.holder k (some p) }

def release (s : System P K V L α) (p : P) : System P K V L α :=
  { s with holder := fun k => if s.holder k = some p then none else s.holder k }

def abort (s : System P K V L α) (p : P) (message : String) :
    System P K V L α :=
  (s.release p).setPhase p (.aborted message)

def commit (s : System P K V L α) (p : P) (session : Session K V L α) (a : α) :
    System P K V L α :=
  { (s.release p).setPhase p (.committed a) with
    db :=
      { s.db with
        row := overlay session.writes s.db.row
        log := s.db.log ++ session.logged } }

def goOn (s : System P K V L α) (p : P) (session : Session K V L α) :
    System P K V L α :=
  s.setPhase p (.running session)

/-- Execute the next statement of a running transaction; `none` while it waits
for a lock. -/
def advance (s : System P K V L α) (p : P) (session : Session K V L α) :
    Option (System P K V L α) :=
  match session.rest with
  | .done a => some (s.commit p session a)
  | .fail message => some (s.abort p message)
  | .select k next =>
      let row := overlay session.writes s.db.row k
      some (s.goOn p
        { session with
          rest := next row
          seen := Function.update session.seen k (some row) })
  | .selectForUpdate k next =>
      -- a row that is not visible locks nothing and waits for nothing
      match overlay session.writes s.db.row k with
      | none => some (s.goOn p { session with rest := next none })
      | some row =>
          if s.free p k then
            some ((s.lock p k).goOn p { session with rest := next (some row) })
          else none
  | .insert k row next =>
      if s.free p k then
        match overlay session.writes s.db.row k with
        | some _ => some (s.abort p uniqueViolation)
        | none =>
            some ((s.lock p k).goOn p
              { session with
                rest := next
                writes := Function.update session.writes k (some row) })
      else none
  | .update k f next =>
      match (overlay session.writes s.db.row k).bind f with
      | none => some (s.goOn p { session with rest := next false })
      | some row =>
          if s.free p k then
            some ((s.lock p k).goOn p
              { session with
                rest := next true
                writes := Function.update session.writes k (some row) })
          else none
  | .append entry next =>
      some (s.goOn p
        { session with rest := next, logged := session.logged ++ [entry] })
  | .fresh next =>
      some ({ s with db := s.db.drawId }.goOn p
        { session with rest := next s.db.nextId })

/-- One event; a transaction that waits or has ended does nothing. -/
def next (s : System P K V L α) : Event P → System P K V L α
  | .step p =>
      match s.phase p with
      | .running session => (s.advance p session).getD s
      | _ => s
  | .crash p =>
      match s.phase p with
      | .running _ => s.abort p "terminating connection"
      | _ => s

/-- A schedule, event by event. -/
def run (s : System P K V L α) : List (Event P) → System P K V L α
  | [] => s
  | ev :: evs => (s.next ev).run evs

@[simp] theorem run_nil (s : System P K V L α) : s.run [] = s := rfl

@[simp] theorem run_cons (s : System P K V L α) (ev : Event P)
    (evs : List (Event P)) : s.run (ev :: evs) = (s.next ev).run evs := rfl

end System

/-! ## Running alone -/

section Alone

variable [DecidableEq P] [DecidableEq K]

/-- The database as a running transaction sees it. -/
def Session.view (session : Session K V L α) (db : Db K V L) : Db K V L where
  row := overlay session.writes db.row
  log := db.log ++ session.logged
  nextId := db.nextId

/-- `s'` ends transaction `p` as `perform` says, from system `s`. -/
def System.EndsAs (s s' : System P K V L α) (p : P) :
    Except String (α × Db K V L) → Prop
  | .ok (a, db) => s'.phase p = .committed a ∧ s'.db = db
  | .error message => s'.phase p = .aborted message ∧
      s'.db.row = s.db.row ∧ s'.db.log = s.db.log

theorem overlay_update (w c : Rows V) (k : K) (row : V k) :
    overlay (Function.update w k (some row)) c =
      Function.update (overlay w c) k (some row) := by
  funext j
  by_cases hj : j = k
  · subst hj
    simp [overlay]
  · simp [overlay, Function.update_of_ne hj]

omit [DecidableEq K] in
@[simp] theorem System.goOn_db (s : System P K V L α) (p : P)
    (session : Session K V L α) : (s.goOn p session).db = s.db := rfl

omit [DecidableEq P] in
@[simp] theorem System.lock_db (s : System P K V L α) (p : P) (k : K) :
    (s.lock p k).db = s.db := rfl

omit [DecidableEq K] in
@[simp] theorem System.goOn_phase (s : System P K V L α) (p : P)
    (session : Session K V L α) :
    (s.goOn p session).phase p = .running session := by
  simp [goOn, setPhase]

/-- One statement, and then the rest of the transaction. -/
theorem System.exists_run_alone_step {s : System P K V L α}
    {s₁ : System P K V L α} {p : P} {session session₁ : Session K V L α}
    {outcome : Except String (α × Db K V L)}
    (hp : s.phase p = .running session)
    (hadvance : s.advance p session = some (s₁.goOn p session₁))
    (hrow : s₁.db.row = s.db.row) (hlog : s₁.db.log = s.db.log)
    (hrest : ∃ n, (s₁.goOn p session₁).EndsAs
      ((s₁.goOn p session₁).run (List.replicate n (.step p))) p outcome) :
    ∃ n, s.EndsAs (s.run (List.replicate n (.step p))) p outcome := by
  obtain ⟨n, hn⟩ := hrest
  refine ⟨n + 1, ?_⟩
  have hnext : s.next (.step p) = s₁.goOn p session₁ := by
    simp [System.next, hp, hadvance]
  rw [List.replicate_succ, run_cons, hnext]
  cases outcome with
  | ok result => exact hn
  | error message => exact ⟨hn.1, hn.2.1.trans hrow, hn.2.2.trans hlog⟩

theorem System.free_lock {s : System P K V L α} {p : P} {k : K}
    (h : ∀ j, s.free p j = true) (j : K) : (s.lock p k).free p j = true := by
  by_cases hj : j = k
  · subst hj
    simp [free, lock]
  · simpa [free, lock, Function.update_of_ne hj] using h j

/-- A transaction that no lock keeps waiting, scheduled alone, does what
`Txn.perform` says. -/
theorem System.exists_run_alone (t : Txn K V L α) {s : System P K V L α} {p : P}
    {session : Session K V L α} (hp : s.phase p = .running session)
    (hrest : session.rest = t) (hfree : ∀ k, s.free p k = true) :
    ∃ n, s.EndsAs (s.run (List.replicate n (.step p))) p
      (t.perform (session.view s.db)) := by
  induction t generalizing s session with
  | done a =>
      refine ⟨1, ?_⟩
      simp [EndsAs, Txn.perform, System.next, hp, advance, hrest, System.commit,
        setPhase, release, Session.view]
  | fail message =>
      refine ⟨1, ?_⟩
      simp [EndsAs, Txn.perform, System.next, hp, advance, hrest, System.abort,
        setPhase, release]
  | select k next ih =>
      have hadvance : s.advance p session = some (s.goOn p
          { session with
            rest := next (overlay session.writes s.db.row k)
            seen := Function.update session.seen k
              (some (overlay session.writes s.db.row k)) }) := by
        simp only [advance, hrest]
      refine exists_run_alone_step hp hadvance rfl rfl ?_
      have hrun := ih (overlay session.writes s.db.row k) (goOn_phase s p
        { session with
          rest := next (overlay session.writes s.db.row k)
          seen := Function.update session.seen k
            (some (overlay session.writes s.db.row k)) }) rfl hfree
      exact hrun
  | selectForUpdate k next ih =>
      cases hrow : overlay session.writes s.db.row k with
      | none =>
          have hadvance : s.advance p session =
              some (s.goOn p { session with rest := next none }) := by
            simp only [advance, hrest, hrow]
          refine exists_run_alone_step hp hadvance rfl rfl ?_
          have hrun := ih none (goOn_phase s p { session with rest := next none })
            rfl hfree
          simpa [Txn.perform, Session.view, hrow] using hrun
      | some row =>
          have hadvance : s.advance p session = some ((s.lock p k).goOn p
              { session with rest := next (some row) }) := by
            simp only [advance, hrest, hrow, hfree, ↓reduceIte]
          refine exists_run_alone_step hp hadvance rfl rfl ?_
          have hrun := ih (some row) (goOn_phase (s.lock p k) p
            { session with rest := next (some row) }) rfl (free_lock hfree)
          simpa [Txn.perform, Session.view, hrow] using hrun
  | insert k row next ih =>
      cases hrow : overlay session.writes s.db.row k with
      | some old =>
          refine ⟨1, ?_⟩
          simp [EndsAs, Txn.perform, System.next, hp, advance, hrest, hrow, hfree,
            System.abort, setPhase, release, Session.view]
      | none =>
          have hadvance : s.advance p session = some ((s.lock p k).goOn p
              { session with
                rest := next
                writes := Function.update session.writes k (some row) }) := by
            simp only [advance, hrest, hrow, hfree, ↓reduceIte]
          refine exists_run_alone_step hp hadvance rfl rfl ?_
          have hrun := ih (goOn_phase (s.lock p k) p
            { session with
              rest := next
              writes := Function.update session.writes k (some row) }) rfl
            (free_lock hfree)
          simpa [Txn.perform, Session.view, hrow, Db.setRow, overlay_update] using
            hrun
  | update k f next ih =>
      cases hrow : (overlay session.writes s.db.row k).bind f with
      | none =>
          have hadvance : s.advance p session =
              some (s.goOn p { session with rest := next false }) := by
            simp only [advance, hrest, hrow]
          refine exists_run_alone_step hp hadvance rfl rfl ?_
          have hrun := ih false (goOn_phase s p { session with rest := next false })
            rfl hfree
          simpa [Txn.perform, Session.view, hrow] using hrun
      | some row =>
          have hadvance : s.advance p session = some ((s.lock p k).goOn p
              { session with
                rest := next true
                writes := Function.update session.writes k (some row) }) := by
            simp only [advance, hrest, hrow, hfree, ↓reduceIte]
          refine exists_run_alone_step hp hadvance rfl rfl ?_
          have hrun := ih true (goOn_phase (s.lock p k) p
            { session with
              rest := next true
              writes := Function.update session.writes k (some row) }) rfl
            (free_lock hfree)
          simpa [Txn.perform, Session.view, hrow, Db.setRow, overlay_update] using
            hrun
  | append entry next ih =>
      have hadvance : s.advance p session = some (s.goOn p
          { session with
            rest := next
            logged := session.logged ++ [entry] }) := by
        simp only [advance, hrest]
      refine exists_run_alone_step hp hadvance rfl rfl ?_
      have hrun := ih (goOn_phase s p
        { session with rest := next, logged := session.logged ++ [entry] }) rfl
        hfree
      simpa [Txn.perform, Session.view, Db.appendEntry] using hrun
  | fresh next ih =>
      have hadvance : s.advance p session =
          some ({ s with db := s.db.drawId }.goOn p
            { session with rest := next s.db.nextId }) := by
        simp only [advance, hrest]
      refine exists_run_alone_step hp hadvance rfl rfl ?_
      have hrun := ih s.db.nextId (goOn_phase { s with db := s.db.drawId } p
        { session with rest := next s.db.nextId }) rfl hfree
      exact hrun

end Alone

/-! ## Contracts -/

/-- What every transaction may rely on and has to guarantee about the committed
rows: an invariant, and how one commit may change them. -/
structure Contract (V : K → Type) where
  inv : Rows V → Prop
  evolves : Rows V → Rows V → Prop
  refl : ∀ c, evolves c c
  trans : ∀ {c₁ c₂ c₃}, evolves c₁ c₂ → evolves c₂ c₃ → evolves c₁ c₃

/-- What one transaction promises of its result and the rows it commits, and
the condition under which its locking reads are taken. -/
structure Promise (V : K → Type) (α : Type) where
  guard : K → Seen V → Rows V → Bool
  post : α → Rows V → Prop

/-- The committed rows may have moved from `c` to `c'` while a transaction held
the rows `held`. -/
structure Contract.Env (C : Contract V) (held : K → Prop) (c c' : Rows V) :
    Prop where
  inv : C.inv c'
  evolves : C.evolves c c'
  held : ∀ k, held k → c' k = c k

namespace Contract

variable {C : Contract V} {held : K → Prop} {c₁ c₂ c₃ : Rows V}

theorem Env.rfl' (h : C.inv c₁) : C.Env held c₁ c₁ :=
  ⟨h, C.refl c₁, fun _ _ => rfl⟩

theorem Env.trans (h₁ : C.Env held c₁ c₂) (h₂ : C.Env held c₂ c₃) :
    C.Env held c₁ c₃ :=
  ⟨h₂.inv, C.trans h₁.evolves h₂.evolves, fun k hk =>
    (h₂.held k hk).trans (h₁.held k hk)⟩

end Contract

section Safety

variable [DecidableEq K]

/-- From statement `t` on, with the rows `held` locked, the transaction keeps
the contract and its promise, whatever is committed meanwhile. -/
def Safe (C : Contract V) (π : Promise V α) :
    Txn K V L α → (K → Prop) → Rows V → Seen V → Rows V → Prop
  | .done a, held, w, _, c => ∀ c', C.Env held c c' →
      C.inv (overlay w c') ∧ C.evolves c' (overlay w c') ∧
        π.post a (overlay w c')
  | .fail _, _, _, _, _ => True
  | .select k next, held, w, seen, c => ∀ c', C.Env held c c' →
      Safe C π (next (overlay w c' k)) held w
        (Function.update seen k (some (overlay w c' k))) c'
  | .selectForUpdate k next, held, w, seen, c => ∀ c', C.Env held c c' →
      (overlay w c' k = none → Safe C π (next none) held w seen c') ∧
      ∀ row, overlay w c' k = some row → π.guard k seen c' = true →
        Safe C π (next (some row)) (fun j => held j ∨ j = k) w seen c'
  | .insert k row next, held, w, seen, c => ∀ c', C.Env held c c' →
      overlay w c' k = none →
        Safe C π next (fun j => held j ∨ j = k)
          (Function.update w k (some row)) seen c'
  | .update k f next, held, w, seen, c => ∀ c', C.Env held c c' →
      ((overlay w c' k).bind f = none → Safe C π (next false) held w seen c') ∧
      ∀ row, (overlay w c' k).bind f = some row →
        Safe C π (next true) (fun j => held j ∨ j = k)
          (Function.update w k (some row)) seen c'
  | .append _ next, held, w, seen, c => Safe C π next held w seen c
  | .fresh next, held, w, seen, c => ∀ n, Safe C π (next n) held w seen c

/-- Safety is stable under what the others commit. -/
theorem Safe.stable {C : Contract V} {π : Promise V α} {t : Txn K V L α}
    {held : K → Prop} {w : Rows V} {seen : Seen V} {c c₁ : Rows V}
    (h : Safe C π t held w seen c) (henv : C.Env held c c₁) :
    Safe C π t held w seen c₁ := by
  induction t with
  | done a => exact fun c' hc' => h c' (henv.trans hc')
  | fail message => trivial
  | select k next ih => exact fun c' hc' => h c' (henv.trans hc')
  | selectForUpdate k next ih => exact fun c' hc' => h c' (henv.trans hc')
  | insert k row next ih => exact fun c' hc' => h c' (henv.trans hc')
  | update k f next ih => exact fun c' hc' => h c' (henv.trans hc')
  | append entry next ih => exact ih h
  | fresh next ih => exact fun n => ih n (h n)

theorem Safe.congr {C : Contract V} {π : Promise V α} {t : Txn K V L α}
    {held held' : K → Prop} {w : Rows V} {seen : Seen V} {c : Rows V}
    (h : Safe C π t held w seen c) (hheld : ∀ k, held k ↔ held' k) :
    Safe C π t held' w seen c := by
  have heq : held = held' := funext fun k => propext (hheld k)
  exact heq ▸ h

end Safety

/-! ## Soundness -/

namespace System

variable [DecidableEq P] [DecidableEq K]

/-- The event does not take a row lock by a read whose guard fails. -/
def guardedEvent (π : P → Promise V α) (s : System P K V L α) :
    Event P → Bool
  | .crash _ => true
  | .step p =>
      match s.phase p with
      | .running session =>
          match session.rest with
          | .selectForUpdate k _ =>
              (overlay session.writes s.db.row k).isNone || !s.free p k ||
                (π p).guard k session.seen s.db.row
          | _ => true
      | _ => true

/-- No event of the schedule takes a row lock by a read whose guard fails. -/
def guarded (π : P → Promise V α) (s : System P K V L α) :
    List (Event P) → Bool
  | [] => true
  | ev :: evs => s.guardedEvent π ev && (s.next ev).guarded π evs

/-- Every running transaction is safe, and has locked the rows it wrote. -/
structure Sound (C : Contract V) (π : P → Promise V α)
    (s : System P K V L α) : Prop where
  inv : C.inv s.db.row
  safe : ∀ p session, s.phase p = .running session →
    Safe C (π p) session.rest (fun k => s.holder k = some p) session.writes
      session.seen s.db.row
  owns : ∀ p session k, s.phase p = .running session →
    session.writes k ≠ none → s.holder k = some p

section Locks

variable {s : System P K V L α} {p q : P} {k j : K}

omit [DecidableEq P] in
theorem lock_holder_self :
    (s.lock p k).holder j = some p ↔ s.holder j = some p ∨ j = k := by
  by_cases hj : j = k
  · subst hj
    simp [lock]
  · simp [lock, hj]

theorem lock_holder_of_ne (hfree : s.free p k = true) (hq : q ≠ p) :
    (s.lock p k).holder j = some q ↔ s.holder j = some q := by
  by_cases hj : j = k
  · subst hj
    cases hholder : s.holder j with
    | none => simp [lock, hq.symm]
    | some r =>
        have hr : r = p := by simpa [free, hholder] using hfree
        simp [lock, hr]
  · simp [lock, Function.update_of_ne hj]

omit [DecidableEq P] in
/-- A row that was written was locked for it. -/
theorem lock_holder_of_written {writes : Rows V} {row : V k}
    (howns : ∀ j, writes j ≠ none → s.holder j = some p)
    (hj : Function.update writes k (some row) j ≠ none) :
    (s.lock p k).holder j = some p := by
  by_cases hjk : j = k
  · exact lock_holder_self.mpr (.inr hjk)
  · rw [Function.update_of_ne hjk] at hj
    exact lock_holder_self.mpr (.inl (howns j hj))

omit [DecidableEq K] in
theorem release_holder :
    (s.release p).holder j = some q ↔ s.holder j = some q ∧ q ≠ p := by
  by_cases hj : s.holder j = some p
  · simp only [release, hj, ↓reduceIte, Option.some.injEq]
    constructor
    · intro h
      cases h
    · rintro ⟨rfl, hne⟩
      exact absurd rfl hne
  · simp only [release, hj, ↓reduceIte]
    constructor
    · intro h
      refine ⟨h, ?_⟩
      rintro rfl
      exact hj h
    · exact fun h => h.1

end Locks

section Soundness

variable {C : Contract V} {π : P → Promise V α} {s : System P K V L α}

omit [DecidableEq P] in
theorem start_sound {db : Db K V L} {prog : P → Txn K V L α}
    (hinv : C.inv db.row)
    (hsafe : ∀ p, Safe C (π p) (prog p) (fun _ => False) (fun _ => none)
      (fun _ => none) db.row) :
    (start db prog).Sound C π := by
  refine ⟨hinv, ?_, ?_⟩
  · intro p session hp
    obtain rfl : Session.start (prog p) = session := by simpa [start] using hp
    exact (hsafe p).congr (by simp [start])
  · intro p session k hp hwrites
    obtain rfl : Session.start (prog p) = session := by simpa [start] using hp
    exact absurd rfl hwrites

/-- A statement that commits nothing: `s'` differs from `s` in the locks of
`p`. -/
theorem Sound.goOn (h : s.Sound C π) {s' : System P K V L α} {p : P}
    {session : Session K V L α} (hrow : s'.db.row = s.db.row)
    (hphase : s'.phase = s.phase)
    (hothers : ∀ q, q ≠ p → ∀ k, s'.holder k = some q ↔ s.holder k = some q)
    (hsafe : Safe C (π p) session.rest (fun k => s'.holder k = some p)
      session.writes session.seen s.db.row)
    (howns : ∀ k, session.writes k ≠ none → s'.holder k = some p) :
    (s'.goOn p session).Sound C π := by
  refine ⟨?_, ?_, ?_⟩
  · simpa [System.goOn, setPhase, hrow] using h.inv
  · intro q session' hq
    by_cases hqp : q = p
    · subst hqp
      obtain rfl : session = session' := by
        simpa [System.goOn, setPhase] using hq
      simpa [System.goOn, setPhase, hrow] using hsafe
    · have hq' : s.phase q = .running session' := by
        simpa [System.goOn, setPhase, Function.update_of_ne hqp, hphase] using hq
      have hq'' := (h.safe q session' hq').congr fun k =>
        (hothers q hqp k).symm
      simpa [System.goOn, setPhase, hrow] using hq''
  · intro q session' k hq hwrites
    by_cases hqp : q = p
    · subst hqp
      obtain rfl : session = session' := by
        simpa [System.goOn, setPhase] using hq
      exact howns k hwrites
    · have hq' : s.phase q = .running session' := by
        simpa [System.goOn, setPhase, Function.update_of_ne hqp, hphase] using hq
      exact (hothers q hqp k).mpr (h.owns q session' k hq' hwrites)

/-- The end of a transaction: its locks go, and the committed rows move as the
contract lets every other transaction rely on. -/
theorem Sound.finish (h : s.Sound C π) {s' : System P K V L α} {p : P}
    {phase : Phase K V L α} (hphase : s'.phase = Function.update s.phase p phase)
    (hended : ∀ session, phase ≠ .running session)
    (hholder : s'.holder = (s.release p).holder)
    (henv : ∀ q, q ≠ p →
      C.Env (fun k => s.holder k = some q) s.db.row s'.db.row)
    (hinv : C.inv s'.db.row) : s'.Sound C π := by
  have hrunning : ∀ {q session}, s'.phase q = .running session →
      q ≠ p ∧ s.phase q = .running session := by
    intro q session hq
    rw [hphase] at hq
    by_cases hqp : q = p
    · subst hqp
      rw [Function.update_self] at hq
      exact absurd hq (hended session)
    · rw [Function.update_of_ne hqp] at hq
      exact ⟨hqp, hq⟩
  refine ⟨hinv, ?_, ?_⟩
  · intro q session hq
    obtain ⟨hqp, hq'⟩ := hrunning hq
    refine ((h.safe q session hq').stable (henv q hqp)).congr fun k => ?_
    rw [hholder, release_holder]
    simp [hqp]
  · intro q session k hq hwrites
    obtain ⟨hqp, hq'⟩ := hrunning hq
    rw [hholder, release_holder]
    exact ⟨h.owns q session k hq' hwrites, hqp⟩

theorem Sound.abort (h : s.Sound C π) (p : P) (message : String) :
    (s.abort p message).Sound C π :=
  h.finish rfl (by simp) rfl (fun _ _ => Contract.Env.rfl' h.inv) h.inv

/-- What a transaction that commits leaves for the others. -/
theorem Sound.commit (h : s.Sound C π) {p : P} {session : Session K V L α}
    (hp : s.phase p = .running session) {a : α} (hrest : session.rest = .done a) :
    (s.commit p session a).Sound C π ∧
      (π p).post a (s.commit p session a).db.row := by
  have hsafe := h.safe p session hp
  rw [hrest] at hsafe
  obtain ⟨hinv, hevolves, hpost⟩ := hsafe s.db.row (Contract.Env.rfl' h.inv)
  refine ⟨h.finish rfl (by simp) rfl ?_ hinv, hpost⟩
  intro q hqp
  refine ⟨hinv, hevolves, fun k hk => overlay_of_none ?_⟩
  by_contra hwrites
  have hpk := h.owns p session k hp hwrites
  rw [hk] at hpk
  exact hqp (Option.some.inj hpk)

/-- One statement of a running transaction. -/
theorem Sound.advance (h : s.Sound C π) {p : P} {session : Session K V L α}
    (hp : s.phase p = .running session)
    (hguard : s.guardedEvent π (.step p) = true) {s' : System P K V L α}
    (hadvance : s.advance p session = some s') : s'.Sound C π := by
  have hsafe := h.safe p session hp
  have howns := h.owns p session
  have henv : C.Env (fun k => s.holder k = some p) s.db.row s.db.row :=
    Contract.Env.rfl' h.inv
  obtain ⟨rest, writes, logged, seen⟩ := session
  cases rest with
  | done a =>
      obtain rfl := Option.some.inj hadvance
      exact (h.commit hp rfl).1
  | fail message =>
      obtain rfl := Option.some.inj hadvance
      exact h.abort p message
  | select k next =>
      obtain rfl := Option.some.inj hadvance
      exact h.goOn rfl rfl (fun _ _ _ => Iff.rfl) (hsafe s.db.row henv)
        fun k => howns k hp
  | selectForUpdate k next =>
      obtain ⟨hnone, hsome⟩ := hsafe s.db.row henv
      cases hrow : overlay writes s.db.row k with
      | none =>
          simp only [System.advance, hrow, Option.some.injEq] at hadvance
          subst hadvance
          exact h.goOn rfl rfl (fun _ _ _ => Iff.rfl) (hnone hrow)
            fun k => howns k hp
      | some row =>
          simp only [System.advance, hrow] at hadvance
          split at hadvance
          · rename_i hfree
            obtain rfl := Option.some.inj hadvance
            have hlock : (π p).guard k seen s.db.row = true := by
              simpa [guardedEvent, hp, hrow, hfree] using hguard
            refine h.goOn rfl rfl
              (fun q hq j => lock_holder_of_ne hfree hq)
              ((hsome row hrow hlock).congr fun j => lock_holder_self.symm) ?_
            intro j hj
            exact lock_holder_self.mpr (.inl (howns j hp hj))
          · cases hadvance
  | insert k row next =>
      simp only [System.advance] at hadvance
      split at hadvance
      · rename_i hfree
        cases hrow : overlay writes s.db.row k with
        | some _ =>
            simp only [hrow, Option.some.injEq] at hadvance
            subst hadvance
            exact h.abort p _
        | none =>
            simp only [hrow, Option.some.injEq] at hadvance
            subst hadvance
            refine h.goOn rfl rfl
              (fun q hq j => lock_holder_of_ne hfree hq)
              ((hsafe s.db.row henv hrow).congr fun j => lock_holder_self.symm)
              ?_
            exact fun j hj => lock_holder_of_written (fun j => howns j hp) hj
      · cases hadvance
  | update k f next =>
      obtain ⟨hnone, hsome⟩ := hsafe s.db.row henv
      cases hrow : (overlay writes s.db.row k).bind f with
      | none =>
          simp only [System.advance, hrow, Option.some.injEq] at hadvance
          subst hadvance
          exact h.goOn rfl rfl (fun _ _ _ => Iff.rfl) (hnone hrow)
            fun k => howns k hp
      | some row =>
          simp only [System.advance, hrow] at hadvance
          split at hadvance
          · rename_i hfree
            obtain rfl := Option.some.inj hadvance
            refine h.goOn rfl rfl
              (fun q hq j => lock_holder_of_ne hfree hq)
              ((hsome row hrow).congr fun j => lock_holder_self.symm) ?_
            exact fun j hj => lock_holder_of_written (fun j => howns j hp) hj
          · cases hadvance
  | append entry next =>
      obtain rfl := Option.some.inj hadvance
      exact h.goOn rfl rfl (fun _ _ _ => Iff.rfl) hsafe fun k => howns k hp
  | fresh next =>
      obtain rfl := Option.some.inj hadvance
      exact h.goOn rfl rfl (fun _ _ _ => Iff.rfl) (hsafe s.db.nextId)
        fun k => howns k hp

theorem Sound.next (h : s.Sound C π) {ev : Event P}
    (hguard : s.guardedEvent π ev = true) : (s.next ev).Sound C π := by
  cases ev with
  | crash p =>
      cases hp : s.phase p with
      | running session => simpa [System.next, hp] using h.abort p _
      | committed a => simpa [System.next, hp] using h
      | aborted message => simpa [System.next, hp] using h
  | step p =>
      cases hp : s.phase p with
      | running session =>
          cases hadvance : s.advance p session with
          | none => simpa [System.next, hp, hadvance] using h
          | some s' =>
              simpa [System.next, hp, hadvance] using h.advance hp hguard hadvance
      | committed a => simpa [System.next, hp] using h
      | aborted message => simpa [System.next, hp] using h

/-- Every guarded schedule keeps the contract. -/
theorem Sound.run (h : s.Sound C π) {evs : List (Event P)}
    (hguard : s.guarded π evs = true) : (s.run evs).Sound C π := by
  induction evs generalizing s with
  | nil => exact h
  | cons ev evs ih =>
      obtain ⟨hev, hevs⟩ := Bool.and_eq_true_iff.mp hguard
      exact ih (h.next hev) hevs

end Soundness

/-! ## Commit points -/

/-- The event commits transaction `p` with result `a`. -/
def Commits (s : System P K V L α) (ev : Event P) (p : P) (a : α) : Prop :=
  ev = .step p ∧ ∃ session, s.phase p = .running session ∧
    session.rest = .done a

theorem guarded_append {π : P → Promise V α} {s : System P K V L α}
    (evs evs' : List (Event P)) :
    s.guarded π (evs ++ evs') =
      (s.guarded π evs && (s.run evs).guarded π evs') := by
  induction evs generalizing s with
  | nil => rfl
  | cons ev evs ih => simp [guarded, ih, Bool.and_assoc]

/-- At every commit point of a guarded schedule the promise is kept. -/
theorem Sound.commits {C : Contract V} {π : P → Promise V α}
    {s : System P K V L α} (h : s.Sound C π) {evs evs' : List (Event P)}
    {ev : Event P} (hguard : s.guarded π (evs ++ ev :: evs') = true) {p : P}
    {a : α} (hcommit : (s.run evs).Commits ev p a) :
    (π p).post a ((s.run evs).next ev).db.row := by
  rw [guarded_append, Bool.and_eq_true_iff] at hguard
  obtain ⟨rfl, session, hp, hrest⟩ := hcommit
  have hsound := h.run hguard.1
  have hpost := (hsound.commit hp hrest).2
  obtain ⟨rest, writes, logged, seen⟩ := session
  subst hrest
  simpa [System.next, hp, System.advance] using hpost

end System

end AgentSkeptic.Support

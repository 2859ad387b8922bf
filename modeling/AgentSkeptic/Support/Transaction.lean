import Mathlib.Logic.Function.Basic
import Mathlib.Tactic.Common

/-!
# Database transactions as statement trees

A transaction is the tree of the statements it may issue: each read carries the
continuation for every row it can return.  Rows live under typed unique keys
`K` (`V k` is the row type of key `k`); `L` is the type of append-only rows,
which no statement reads back.

`Txn.perform` is the meaning of a transaction that runs alone: it commits all
its writes, or it fails and nothing is written.  The interleaved meaning of the
same tree is in `AgentSkeptic.Support.ReadCommitted`.
-/

namespace AgentSkeptic.Support

variable {K : Type} {V : K → Type} {L α β : Type}

/-- A transaction: the statements it issues and what it does with the answers. -/
inductive Txn (K : Type) (V : K → Type) (L α : Type) where
  /-- Return `a` and commit. -/
  | done (a : α)
  /-- Throw: the transaction is rolled back. -/
  | fail (message : String)
  /-- Plain `SELECT` of one key. -/
  | select (k : K) (next : Option (V k) → Txn K V L α)
  /-- `SELECT ... FOR UPDATE` of one key. -/
  | selectForUpdate (k : K) (next : Option (V k) → Txn K V L α)
  /-- `INSERT` under a unique key. -/
  | insert (k : K) (row : V k) (next : Txn K V L α)
  /-- `UPDATE ... WHERE`: `f` gives the new row, or `none` where the `WHERE`
  clause does not hold; the continuation is told whether a row was updated. -/
  | update (k : K) (f : V k → Option (V k)) (next : Bool → Txn K V L α)
  /-- `INSERT` into an append-only table. -/
  | append (entry : L) (next : Txn K V L α)
  /-- Draw an identifier that was never drawn before. -/
  | fresh (next : ℕ → Txn K V L α)

namespace Txn

/-- Run `t`, then the transaction that `f` makes of its result. -/
def bind : Txn K V L α → (α → Txn K V L β) → Txn K V L β
  | done a, f => f a
  | fail message, _ => fail message
  | select k next, f => select k fun row => (next row).bind f
  | selectForUpdate k next, f => selectForUpdate k fun row => (next row).bind f
  | insert k row next, f => insert k row (next.bind f)
  | update k g next, f => update k g fun hit => (next hit).bind f
  | append entry next, f => append entry (next.bind f)
  | fresh next, f => fresh fun n => (next n).bind f

instance : Monad (Txn K V L) where
  pure := done
  bind := bind

/-! ### Single statements -/

abbrev selectRow (k : K) : Txn K V L (Option (V k)) := select k done

abbrev selectRowForUpdate (k : K) : Txn K V L (Option (V k)) :=
  selectForUpdate k done

abbrev insertRow (k : K) (row : V k) : Txn K V L Unit := insert k row (done ())

abbrev updateRow (k : K) (f : V k → Option (V k)) : Txn K V L Bool :=
  update k f done

abbrev appendRow (entry : L) : Txn K V L Unit := append entry (done ())

abbrev freshId : Txn K V L ℕ := fresh done

/-- Use a row that must be there. -/
def expectRow {R : Type} : Option R → Txn K V L R
  | some row => done row
  | none => fail "Cannot read properties of undefined"

@[simp] theorem expectRow_some {R : Type} (row : R) :
    (expectRow (some row) : Txn K V L R) = done row := rfl

@[simp] theorem pure_eq_done (a : α) : (pure a : Txn K V L α) = done a := rfl

@[simp] theorem bind_eq (t : Txn K V L α) (f : α → Txn K V L β) :
    (t >>= f) = t.bind f := rfl

@[simp] theorem done_bind (a : α) (f : α → Txn K V L β) :
    (done a : Txn K V L α).bind f = f a := rfl

@[simp] theorem fail_bind (message : String) (f : α → Txn K V L β) :
    (fail message : Txn K V L α).bind f = fail message := rfl

@[simp] theorem select_bind (k : K) (next : Option (V k) → Txn K V L α)
    (f : α → Txn K V L β) :
    (select k next).bind f = select k fun row => (next row).bind f := rfl

@[simp] theorem selectForUpdate_bind (k : K)
    (next : Option (V k) → Txn K V L α) (f : α → Txn K V L β) :
    (selectForUpdate k next).bind f =
      selectForUpdate k fun row => (next row).bind f := rfl

@[simp] theorem insert_bind (k : K) (row : V k) (next : Txn K V L α)
    (f : α → Txn K V L β) :
    (insert k row next).bind f = insert k row (next.bind f) := rfl

@[simp] theorem update_bind (k : K) (g : V k → Option (V k))
    (next : Bool → Txn K V L α) (f : α → Txn K V L β) :
    (update k g next).bind f = update k g fun hit => (next hit).bind f := rfl

@[simp] theorem append_bind (entry : L) (next : Txn K V L α)
    (f : α → Txn K V L β) :
    (append entry next).bind f = append entry (next.bind f) := rfl

@[simp] theorem fresh_bind (next : ℕ → Txn K V L α) (f : α → Txn K V L β) :
    (fresh next).bind f = fresh fun n => (next n).bind f := rfl

end Txn

/-- The committed contents of a database. -/
structure Db (K : Type) (V : K → Type) (L : Type) where
  row : (k : K) → Option (V k)
  log : List L
  nextId : ℕ

namespace Db

/-- The database with no rows. -/
def empty : Db K V L := ⟨fun _ => none, [], 0⟩

/-- Append one row to the append-only tables. -/
def appendEntry (db : Db K V L) (entry : L) : Db K V L :=
  { db with log := db.log ++ [entry] }

@[simp] theorem appendEntry_row (db : Db K V L) (entry : L) :
    (db.appendEntry entry).row = db.row := rfl

@[simp] theorem appendEntry_log (db : Db K V L) (entry : L) :
    (db.appendEntry entry).log = db.log ++ [entry] := rfl

@[simp] theorem appendEntry_nextId (db : Db K V L) (entry : L) :
    (db.appendEntry entry).nextId = db.nextId := rfl

/-- Count one identifier as drawn. -/
def drawId (db : Db K V L) : Db K V L := { db with nextId := db.nextId + 1 }

@[simp] theorem drawId_row (db : Db K V L) : db.drawId.row = db.row := rfl

@[simp] theorem drawId_log (db : Db K V L) : db.drawId.log = db.log := rfl

@[simp] theorem drawId_nextId (db : Db K V L) :
    db.drawId.nextId = db.nextId + 1 := rfl

section Rows

variable [DecidableEq K]

/-- Write one row. -/
def setRow (db : Db K V L) (k : K) (row : V k) : Db K V L :=
  { db with row := Function.update db.row k (some row) }

@[simp] theorem setRow_row_self (db : Db K V L) (k : K) (row : V k) :
    (db.setRow k row).row k = some row := by
  simp [setRow]

@[simp] theorem setRow_row_ne (db : Db K V L) {k j : K} (row : V k)
    (h : j ≠ k) : (db.setRow k row).row j = db.row j := by
  simp [setRow, Function.update_of_ne h]

@[simp] theorem setRow_log (db : Db K V L) (k : K) (row : V k) :
    (db.setRow k row).log = db.log := rfl

@[simp] theorem setRow_nextId (db : Db K V L) (k : K) (row : V k) :
    (db.setRow k row).nextId = db.nextId := rfl

end Rows

end Db

/-- The error of an `INSERT` whose unique key is taken. -/
def uniqueViolation : String := "duplicate key value violates unique constraint"

namespace Txn

variable [DecidableEq K]

/-- Run a transaction alone: its result and the database it commits, or the
error it is rolled back with. -/
def perform : Txn K V L α → Db K V L → Except String (α × Db K V L)
  | done a, db => .ok (a, db)
  | fail message, _ => .error message
  | select k next, db => (next (db.row k)).perform db
  | selectForUpdate k next, db => (next (db.row k)).perform db
  | insert k row next, db =>
      match db.row k with
      | none => next.perform (db.setRow k row)
      | some _ => .error uniqueViolation
  | update k f next, db =>
      match (db.row k).bind f with
      | none => (next false).perform db
      | some row => (next true).perform (db.setRow k row)
  | append entry next, db => next.perform (db.appendEntry entry)
  | fresh next, db => (next db.nextId).perform db.drawId

@[simp] theorem perform_done (a : α) (db : Db K V L) :
    (done a : Txn K V L α).perform db = .ok (a, db) := rfl

@[simp] theorem perform_fail (message : String) (db : Db K V L) :
    (fail message : Txn K V L α).perform db = .error message := rfl

@[simp] theorem perform_select (k : K) (next : Option (V k) → Txn K V L α)
    (db : Db K V L) :
    (select k next).perform db = (next (db.row k)).perform db := rfl

@[simp] theorem perform_selectForUpdate (k : K)
    (next : Option (V k) → Txn K V L α) (db : Db K V L) :
    (selectForUpdate k next).perform db = (next (db.row k)).perform db := rfl

@[simp] theorem perform_append (entry : L) (next : Txn K V L α)
    (db : Db K V L) :
    (append entry next).perform db = next.perform (db.appendEntry entry) := rfl

@[simp] theorem perform_fresh (next : ℕ → Txn K V L α) (db : Db K V L) :
    (fresh next).perform db = (next db.nextId).perform db.drawId := rfl

theorem perform_insert_of_none {k : K} {row : V k} {next : Txn K V L α}
    {db : Db K V L} (h : db.row k = none) :
    (insert k row next).perform db = next.perform (db.setRow k row) := by
  simp [perform, h]

theorem perform_update_of_some {k : K} {f : V k → Option (V k)}
    {next : Bool → Txn K V L α} {db : Db K V L} {row : V k}
    (h : (db.row k).bind f = some row) :
    (update k f next).perform db =
      (next true).perform (db.setRow k row) := by
  simp [perform, h]

theorem perform_update_of_none {k : K} {f : V k → Option (V k)}
    {next : Bool → Txn K V L α} {db : Db K V L}
    (h : (db.row k).bind f = none) :
    (update k f next).perform db = (next false).perform db := by
  simp [perform, h]

/-- Sequencing: the second transaction runs on what the first one left. -/
theorem perform_bind (t : Txn K V L α) (f : α → Txn K V L β) (db : Db K V L) :
    (t.bind f).perform db =
      (t.perform db).bind fun result => (f result.1).perform result.2 := by
  induction t generalizing db with
  | done a => rfl
  | fail message => rfl
  | select k next ih => exact ih _ db
  | selectForUpdate k next ih => exact ih _ db
  | insert k row next ih =>
      simp only [insert_bind, perform]
      cases db.row k with
      | none => exact ih _
      | some _ => rfl
  | update k g next ih =>
      simp only [update_bind, perform]
      cases (db.row k).bind g with
      | none => exact ih false db
      | some row => exact ih true _
  | append entry next ih => exact ih _
  | fresh next ih => exact ih _ _

/-- Serve a transaction alone: on an error the database is left as it was. -/
def serveAlone (t : Txn K V L α) (db : Db K V L) :
    Db K V L × Except String α :=
  match t.perform db with
  | .ok (a, db') => (db', .ok a)
  | .error message => (db, .error message)

theorem serveAlone_of_ok {t : Txn K V L α} {db db' : Db K V L} {a : α}
    (h : t.perform db = .ok (a, db')) : t.serveAlone db = (db', .ok a) := by
  simp [serveAlone, h]

/-! ## What a transaction returns -/

/-- Whatever the database, what the transaction returns satisfies `Q`. -/
def Returns (Q : α → Prop) (t : Txn K V L α) : Prop :=
  ∀ db a db', t.perform db = .ok (a, db') → Q a

theorem Returns.pure {Q : α → Prop} {a : α} (h : Q a) :
    Returns Q (pure a : Txn K V L α) := by
  intro db b db' hperform
  cases hperform
  exact h

theorem Returns.fail {Q : α → Prop} (message : String) :
    Returns Q (fail message : Txn K V L α) := by
  intro db a db' hperform
  cases hperform

/-- What a transaction returns is what its last part returns. -/
theorem Returns.bind {Q : β → Prop} {t : Txn K V L α} {f : α → Txn K V L β}
    (h : ∀ a, Returns Q (f a)) : Returns Q (t >>= f) := by
  intro db b db' hperform
  rw [bind_eq, perform_bind] at hperform
  cases hfirst : t.perform db with
  | error message =>
      rw [hfirst] at hperform
      cases hperform
  | ok result =>
      rw [hfirst] at hperform
      exact h result.1 result.2 b db' hperform

end Txn

end AgentSkeptic.Support

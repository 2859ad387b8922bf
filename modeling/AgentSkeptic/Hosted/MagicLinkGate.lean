import AgentSkeptic.Support.JsString
import AgentSkeptic.Support.Machine
import AgentSkeptic.Support.Transaction
import Mathlib.Tactic.SplitIfs

/-!
# The magic-link send gate

`lib/magicLinkSendGate.ts`: one counter row for each email and for each client
IP, read and written by one serializable transaction for every link that is
sent.  The transaction carries the UTC hour that was read from the clock before
it started, so transactions may commit in another order than their hours.

`docs/website-magic-link-rate-limit.md` allows five reservations per email and
thirty per IP in an hour.  A row that is older than the hour of a transaction is
reset, but an accepted transaction that is older than its row sets the row back;
the caps hold in the runs in which that never happens (`accepted_le_cap`).
-/

namespace AgentSkeptic.Hosted.MagicLink

open AgentSkeptic.Support Txn

/-! ## The counter table -/

inductive CounterScope where
  | email | ip
  deriving DecidableEq, Repr

def MAGIC_LINK_EMAIL_CAP : ℕ := 5

def MAGIC_LINK_IP_CAP : ℕ := 30

def CounterScope.cap : CounterScope → ℕ
  | .email => MAGIC_LINK_EMAIL_CAP
  | .ip => MAGIC_LINK_IP_CAP

/-- The primary key of `magic_link_send_counter`. -/
structure CounterKey where
  scope : CounterScope
  scopeKey : String
  deriving DecidableEq, Repr

/-- The other columns; instants are milliseconds of the epoch. -/
structure CounterRow where
  windowStart : ℤ
  count : ℕ
  deriving DecidableEq, Repr

/-- The table of counters.  The gate writes no other table. -/
abbrev CounterDb := Db CounterKey (fun _ => CounterRow) Empty

abbrev GateTxn := Txn CounterKey (fun _ => CounterRow) Empty

/-- `new Date(Date.UTC(year, month, day, hours, 0, 0, 0))` of an instant. -/
def utcHourStart (now : ℤ) : ℤ := now - now % 3600000

def magicLinkRateLimited : String := "magic_link_rate_limited"

/-- The deny is thrown inside the transaction, which rolls it back. -/
def denyWithLog {α : Type} : GateTxn α := fail magicLinkRateLimited

/-! ## The transaction -/

/-- `INSERT ... ON CONFLICT DO NOTHING`. -/
def insertOnConflictDoNothing (k : CounterKey) (row : CounterRow) :
    GateTxn Unit := do
  match ← selectRow k with
  | none => insertRow k row
  | some _ => pure ()

/-- `SET count = 0, window_start = H WHERE window_start < H`. -/
def resetOlder (H : ℤ) (row : CounterRow) : Option CounterRow :=
  if row.windowStart < H then some ⟨H, 0⟩ else none

/-- `SET count = count + 1, window_start = H`. -/
def reserveIn (H : ℤ) (row : CounterRow) : Option CounterRow :=
  some ⟨H, row.count + 1⟩

def countOf (row : Option CounterRow) : ℕ := (row.map (·.count)).getD 0

/-- A row is created with count 0 where it is missing, and locked. -/
def lockRow (H : ℤ) (k : CounterKey) (missing : String) : GateTxn Unit := do
  insertOnConflictDoNothing k ⟨H, 0⟩
  if (← selectRowForUpdate k).isNone then
    fail missing
  else
    pure ()

/-- Both rows are locked, and reset where they are older than `H`. -/
def openWindow (H : ℤ) (email ip : CounterKey) : GateTxn Unit := do
  lockRow H email "magic_link_send_counter: email row missing after insert"
  lockRow H ip "magic_link_send_counter: ip row missing after insert"
  let _ ← updateRow email (resetOlder H)
  let _ ← updateRow ip (resetOlder H)

/-- Both counts are incremented and read back. -/
def addReservation (H : ℤ) (email ip : CounterKey) (eCount ipCount : ℕ) :
    GateTxn Unit := do
  let _ ← updateRow email (reserveIn H)
  let _ ← updateRow ip (reserveIn H)
  let eAfter ← selectRow email
  let ipAfter ← selectRow ip
  if eAfter.isNone || ipAfter.isNone then
    denyWithLog
  else if countOf eAfter ≠ eCount + 1 ∨ countOf ipAfter ≠ ipCount + 1 then
    denyWithLog
  else
    pure ()

/-- The body of `runReservationTxn`, after `H` was read from the clock. -/
def runReservationTxn (H : ℤ) (emailKey ipKey : String) : GateTxn Unit := do
  let email : CounterKey := ⟨.email, emailKey⟩
  let ip : CounterKey := ⟨.ip, ipKey⟩
  openWindow H email ip
  let eCount := countOf (← selectRowForUpdate email)
  let ipCount := countOf (← selectRowForUpdate ip)
  if MAGIC_LINK_EMAIL_CAP ≤ eCount then
    denyWithLog
  else if MAGIC_LINK_IP_CAP ≤ ipCount then
    denyWithLog
  else
    addReservation H email ip eCount ipCount

/-! ## What the transaction does when it runs alone -/

/-- The row a transaction of hour `H` finds after its insert and its reset. -/
def rowIn (H : ℤ) : Option CounterRow → CounterRow
  | none => ⟨H, 0⟩
  | some row => (resetOlder H row).getD row

/-- The table after both increments. -/
def reserve (H : ℤ) (email ip : CounterKey) (db : CounterDb) : CounterDb :=
  (db.setRow email ⟨H, (rowIn H (db.row email)).count + 1⟩).setRow ip
    ⟨H, (rowIn H (db.row ip)).count + 1⟩

theorem setRow_of_row {db : CounterDb} {k : CounterKey} {row : CounterRow}
    (h : db.row k = some row) : db.setRow k row = db := by
  have hrows : Function.update db.row k (some row) = db.row := by
    rw [← h, Function.update_eq_self]
  simp only [Db.setRow, hrows]

theorem setRow_setRow (db : CounterDb) (k : CounterKey) (row row' : CounterRow) :
    (db.setRow k row).setRow k row' = db.setRow k row' := by
  simp [Db.setRow]

theorem setRow_comm (db : CounterDb) {k j : CounterKey} (row row' : CounterRow)
    (h : k ≠ j) :
    (db.setRow k row).setRow j row' = (db.setRow j row').setRow k row := by
  simp only [Db.setRow, Function.update_comm h]

theorem perform_insertOnConflictDoNothing (k : CounterKey) (row : CounterRow)
    (db : CounterDb) :
    (insertOnConflictDoNothing k row).perform db =
      .ok ((), db.setRow k ((db.row k).getD row)) := by
  cases h : db.row k with
  | none => simp [insertOnConflictDoNothing, perform, h]
  | some old => simp [insertOnConflictDoNothing, h, setRow_of_row h]

theorem perform_resetOlder {α : Type} {k : CounterKey} {row : CounterRow}
    {db : CounterDb} (H : ℤ) (next : Bool → GateTxn α)
    (h : db.row k = some row) :
    (update k (resetOlder H) next).perform db =
      (next (decide (row.windowStart < H))).perform
        (db.setRow k ((resetOlder H row).getD row)) := by
  by_cases hlt : row.windowStart < H
  · simp [perform, h, resetOlder, hlt]
  · simp [perform, h, resetOlder, hlt, setRow_of_row h]

theorem perform_reserveIn {α : Type} {k : CounterKey} {row : CounterRow}
    {db : CounterDb} (H : ℤ) (next : Bool → GateTxn α)
    (h : db.row k = some row) :
    (update k (reserveIn H) next).perform db =
      (next true).perform (db.setRow k ⟨H, row.count + 1⟩) := by
  simp [perform, h, reserveIn]

theorem getD_resetOlder (H : ℤ) (row : Option CounterRow) :
    (resetOlder H (row.getD ⟨H, 0⟩)).getD (row.getD ⟨H, 0⟩) = rowIn H row := by
  cases row with
  | none => simp [rowIn, resetOlder]
  | some row => rfl

theorem perform_lockRow (H : ℤ) (k : CounterKey) (missing : String)
    (db : CounterDb) :
    (lockRow H k missing).perform db =
      .ok ((), db.setRow k ((db.row k).getD ⟨H, 0⟩)) := by
  simp only [lockRow, bind_eq, perform_bind, Except.bind,
    perform_insertOnConflictDoNothing, selectForUpdate_bind, done_bind,
    perform_selectForUpdate, Db.setRow_row_self]
  rfl

theorem perform_openWindow (H : ℤ) {email ip : CounterKey} (hne : email ≠ ip)
    (db : CounterDb) :
    (openWindow H email ip).perform db =
      .ok ((), (db.setRow email (rowIn H (db.row email))).setRow ip
        (rowIn H (db.row ip))) := by
  have hemail (db' : CounterDb) (row : CounterRow) :
      (db'.setRow ip row).row email = db'.row email := by
    simp [hne]
  have hip (db' : CounterDb) (row : CounterRow) :
      (db'.setRow email row).row ip = db'.row ip := by
    simp [hne.symm]
  simp only [openWindow, bind_eq, perform_bind, perform_lockRow, Except.bind,
    update_bind, done_bind, hip]
  rw [perform_resetOlder H _ (by rw [hemail, Db.setRow_row_self]),
    perform_resetOlder H _ (by rw [hip, Db.setRow_row_self])]
  simp only [setRow_comm _ _ _ hne, setRow_setRow, getD_resetOlder]
  rfl

theorem perform_addReservation (H : ℤ) {email ip : CounterKey} (hne : email ≠ ip)
    {db : CounterDb} {eRow ipRow : CounterRow} (he : db.row email = some eRow)
    (hip : db.row ip = some ipRow) :
    (addReservation H email ip eRow.count ipRow.count).perform db =
      .ok ((), (db.setRow email ⟨H, eRow.count + 1⟩).setRow ip
        ⟨H, ipRow.count + 1⟩) := by
  have hlocked : (db.setRow email ⟨H, eRow.count + 1⟩).row ip = some ipRow := by
    simp [hne.symm, hip]
  simp only [addReservation, bind_eq, update_bind, done_bind,
    perform_reserveIn H _ he, perform_reserveIn H _ hlocked]
  simp [hne, countOf]

/-- The transaction compares the two counts with the caps and then either adds
one to both rows or is rolled back. -/
theorem perform_runReservationTxn (H : ℤ) (emailKey ipKey : String)
    (db : CounterDb) :
    (runReservationTxn H emailKey ipKey).perform db =
      if MAGIC_LINK_EMAIL_CAP ≤ (rowIn H (db.row ⟨.email, emailKey⟩)).count ∨
          MAGIC_LINK_IP_CAP ≤ (rowIn H (db.row ⟨.ip, ipKey⟩)).count then
        .error magicLinkRateLimited
      else
        .ok ((), reserve H ⟨.email, emailKey⟩ ⟨.ip, ipKey⟩ db) := by
  have hne : (⟨.email, emailKey⟩ : CounterKey) ≠ ⟨.ip, ipKey⟩ := by simp
  simp only [runReservationTxn]
  generalize (⟨.email, emailKey⟩ : CounterKey) = email at hne ⊢
  generalize (⟨.ip, ipKey⟩ : CounterKey) = ip at hne ⊢
  have hemail (db' : CounterDb) (row : CounterRow) :
      (db'.setRow ip row).row email = db'.row email := by
    simp [hne]
  simp only [bind_eq, perform_bind, perform_openWindow H hne, Except.bind,
    selectForUpdate_bind, done_bind, perform_selectForUpdate, hemail,
    Db.setRow_row_self, countOf, Option.map_some, Option.getD_some]
  by_cases hcap : MAGIC_LINK_EMAIL_CAP ≤ (rowIn H (db.row email)).count
  · simp [hcap, denyWithLog]
  · by_cases hcap' : MAGIC_LINK_IP_CAP ≤ (rowIn H (db.row ip)).count
    · simp [hcap, hcap', denyWithLog]
    · rw [if_neg hcap, if_neg hcap', if_neg (by simp [hcap, hcap']),
        perform_addReservation H hne (by rw [hemail, Db.setRow_row_self])
          (Db.setRow_row_self _ _ _)]
      simp only [setRow_comm _ _ _ hne, setRow_setRow, reserve]

/-! ## Requests -/

/-- A send request, with the clock reading its transaction starts from. -/
structure SendRequest where
  header : String → Option String
  identifier : String
  now : ℤ

/-- `Headers.get` with a non-blank value, trimmed. -/
def trimmedHeader (header : String → Option String) (name other : String) :
    Option String :=
  match (header name).or (header other) with
  | none => none
  | some value => if jsTrim value = "" then none else some (jsTrim value)

def extractClientIpKey (header : String → Option String) : String :=
  let xff := (header "x-forwarded-for").or (header "X-Forwarded-For")
  let first := jsTrim (String.ofList ((xff.getD "").toList.takeWhile (· != ',')))
  if first ≠ "" then
    first
  else
    (trimmedHeader header "cf-connecting-ip" "CF-Connecting-IP").getD
      ((trimmedHeader header "x-real-ip" "X-Real-IP").getD "unknown")

namespace SendRequest

/-- `H`. -/
def stamp (r : SendRequest) : ℤ := utcHourStart r.now

/-- The row of one scope that the request is counted in. -/
def key (r : SendRequest) : CounterScope → CounterKey
  | .email => ⟨.email, r.identifier⟩
  | .ip => ⟨.ip, extractClientIpKey r.header⟩

end SendRequest

/-- One reservation transaction, committed or rolled back. -/
def reserveSlot (db : CounterDb) (r : SendRequest) : CounterDb × Except String Unit :=
  (runReservationTxn r.stamp r.identifier (extractClientIpKey r.header)).serveAlone db

/-- Both counts that the transaction finds are below their caps. -/
def HasRoom (db : CounterDb) (r : SendRequest) : Prop :=
  ∀ scope, (rowIn r.stamp (db.row (r.key scope))).count < scope.cap

theorem hasRoom_iff (db : CounterDb) (r : SendRequest) :
    HasRoom db r ↔
      ¬(MAGIC_LINK_EMAIL_CAP ≤ (rowIn r.stamp (db.row (r.key .email))).count ∨
        MAGIC_LINK_IP_CAP ≤ (rowIn r.stamp (db.row (r.key .ip))).count) := by
  constructor
  · intro hroom
    have hemail := hroom .email
    have hip := hroom .ip
    simp only [CounterScope.cap] at hemail hip
    omega
  · intro hroom scope
    cases scope <;> simp only [CounterScope.cap] <;> omega

instance (db : CounterDb) (r : SendRequest) : Decidable (HasRoom db r) :=
  decidable_of_iff _ (hasRoom_iff db r).symm

theorem reserveSlot_of_hasRoom {db : CounterDb} {r : SendRequest}
    (h : HasRoom db r) :
    reserveSlot db r = (reserve r.stamp (r.key .email) (r.key .ip) db, .ok ()) := by
  apply serveAlone_of_ok
  rw [perform_runReservationTxn]
  exact if_neg ((hasRoom_iff db r).mp h)

/-- A deny leaves the table as it was. -/
theorem reserveSlot_of_not_hasRoom {db : CounterDb} {r : SendRequest}
    (h : ¬HasRoom db r) :
    reserveSlot db r = (db, .error magicLinkRateLimited) := by
  have hfull := (not_iff_not.mpr (hasRoom_iff db r)).mp h
  have hperform := perform_runReservationTxn r.stamp r.identifier
    (extractClientIpKey r.header) db
  have hdenied := hperform.trans (if_pos (not_not.mp hfull))
  simp only [reserveSlot, serveAlone, hdenied]

/-! ## Retries -/

/-- What one attempt of a request came to. -/
inductive Attempt where
  | committed
  | rateLimited
  | serializationFailure
  | error (message : String)
  deriving DecidableEq, Repr

def SERIALIZATION_MAX_ATTEMPTS : ℕ := 64

/-- The loop of `reserveMagicLinkSendSlot` with `left` attempts to go. -/
def attemptFrom (outcome : ℕ → Attempt) (attempt : ℕ) :
    (left : ℕ) → Except String Unit
  | 0 => .error magicLinkRateLimited
  | left + 1 =>
      match outcome attempt with
      | .committed => .ok ()
      | .rateLimited => .error magicLinkRateLimited
      | .serializationFailure => attemptFrom outcome (attempt + 1) left
      | .error message => .error message

/-- `reserveMagicLinkSendSlot`; `funnel` is `E2E_COMMERCIAL_FUNNEL=1`. -/
def reserveMagicLinkSendSlot (funnel : Bool) (outcome : ℕ → Attempt) :
    Except String Unit :=
  if funnel then .ok () else attemptFrom outcome 0 SERIALIZATION_MAX_ATTEMPTS

/-! ## Accepted reservations of an hour -/

abbrev SendTurn := Turn CounterDb SendRequest (Except String Unit)

/-- The turn reserved a slot of hour `h` in the row `k`. -/
def AcceptedIn (h : ℤ) (k : CounterKey) (t : SendTurn) : Prop :=
  t.response.toBool = true ∧ t.request.stamp = h ∧ t.request.key k.scope = k

instance (h : ℤ) (k : CounterKey) : DecidablePred (AcceptedIn h k) :=
  fun _ => inferInstanceAs (Decidable (_ ∧ _ ∧ _))

/-- How many reservations of hour `h` were accepted in the row `k`. -/
def acceptedCount (h : ℤ) (k : CounterKey) (ts : List SendTurn) : ℕ :=
  ts.countP fun t => AcceptedIn h k t

/-- The row `k` is set back to an older hour: the request is counted in it, has
room in both rows, and is older than the hour of the row. -/
def Rewinds (k : CounterKey) (db : CounterDb) (r : SendRequest) : Prop :=
  HasRoom db r ∧ r.key k.scope = k ∧
    ∃ row ∈ db.row k, r.stamp < row.windowStart

instance (k : CounterKey) (db : CounterDb) (r : SendRequest) :
    Decidable (Rewinds k db r) :=
  inferInstanceAs (Decidable (_ ∧ _ ∧ _))

/-- No hour of `row` is over: it is not newer than `h`. -/
def NotNewer (h : ℤ) (row : Option CounterRow) : Prop :=
  ∀ r, row = some r → r.windowStart ≤ h

/-- `used h` reservations of each hour `h` are within the cap, and those of the
row's own hour and later ones are in its count. -/
def Accounted (k : CounterKey) (db : CounterDb) (used : ℤ → ℕ) : Prop :=
  ∀ h, used h ≤ k.scope.cap ∧
    (NotNewer h (db.row k) → used h ≤ (rowIn h (db.row k)).count)

theorem key_scope (r : SendRequest) (scope : CounterScope) :
    (r.key scope).scope = scope := by
  cases scope <;> rfl

theorem reserve_row_of_key {r : SendRequest} {k : CounterKey}
    (hk : r.key k.scope = k) (db : CounterDb) :
    (reserve r.stamp (r.key .email) (r.key .ip) db).row k =
      some ⟨r.stamp, (rowIn r.stamp (db.row k)).count + 1⟩ := by
  have hne : r.key .email ≠ r.key .ip := by simp [SendRequest.key]
  cases hscope : k.scope with
  | email =>
      rw [hscope] at hk
      rw [← hk, reserve, Db.setRow_row_ne _ _ hne, Db.setRow_row_self]
  | ip =>
      rw [hscope] at hk
      rw [← hk, reserve, Db.setRow_row_self]

theorem reserve_row_of_key_ne {r : SendRequest} {k : CounterKey}
    (hk : r.key k.scope ≠ k) (db : CounterDb) :
    (reserve r.stamp (r.key .email) (r.key .ip) db).row k = db.row k := by
  have hne (scope : CounterScope) : k ≠ r.key scope := by
    intro heq
    have hscope : k.scope = scope := by rw [heq, key_scope]
    exact hk (by rw [hscope, ← heq])
  rw [reserve, Db.setRow_row_ne _ _ (hne .ip), Db.setRow_row_ne _ _ (hne .email)]

theorem rowIn_count_self (H : ℤ) (c : ℕ) :
    (rowIn H (some ⟨H, c⟩)).count = c := by
  simp [rowIn, resetOlder]

/-- A row that a later hour finds reset has nothing in use in that hour. -/
theorem rowIn_count_of_notNewer {H h : ℤ} {row : Option CounterRow}
    (hrow : NotNewer H row) (hlt : H < h) : (rowIn h row).count = 0 := by
  cases row with
  | none => rfl
  | some row =>
      have hold : row.windowStart < h := lt_of_le_of_lt (hrow row rfl) hlt
      simp [rowIn, resetOlder, hold]

/-- One accepted reservation in a row that it does not set back. -/
theorem Accounted.accept {k : CounterKey} {db : CounterDb} {r : SendRequest}
    {used : ℤ → ℕ} (hused : Accounted k db used) (hroom : HasRoom db r)
    (hk : r.key k.scope = k) (hrow : NotNewer r.stamp (db.row k)) :
    Accounted k (reserve r.stamp (r.key .email) (r.key .ip) db)
      (Function.update used r.stamp (used r.stamp + 1)) := by
  have hcount : used r.stamp ≤ (rowIn r.stamp (db.row k)).count :=
    (hused r.stamp).2 hrow
  have hcap : (rowIn r.stamp (db.row k)).count < k.scope.cap := by
    have hscope := hroom k.scope
    rwa [hk] at hscope
  intro h
  rw [reserve_row_of_key hk]
  by_cases hh : h = r.stamp
  · rw [hh, Function.update_self, rowIn_count_self]
    exact ⟨by omega, fun _ => by omega⟩
  · rw [Function.update_of_ne hh]
    refine ⟨(hused h).1, fun hnew => ?_⟩
    -- The row is as old as the request, so `h` is a later hour.
    have hlt : r.stamp < h := lt_of_le_of_ne (hnew _ rfl) (Ne.symm hh)
    have hfresh : (rowIn h (db.row k)).count = 0 :=
      rowIn_count_of_notNewer hrow hlt
    have hnone : used h ≤ (rowIn h (db.row k)).count :=
      (hused h).2 fun row heq => (hrow row heq).trans hlt.le
    omega

/-- What one turn adds to the accepted reservations of each hour. -/
def countTurn (k : CounterKey) (used : ℤ → ℕ) (t : SendTurn) : ℤ → ℕ :=
  fun h => used h + acceptedCount h k [t]

/-- One transaction keeps the account of a row that it does not set back. -/
theorem Accounted.step {k : CounterKey} {db : CounterDb} {r : SendRequest}
    {used : ℤ → ℕ} (hused : Accounted k db used) (hkept : ¬Rewinds k db r) :
    Accounted k (reserveSlot db r).1
      (countTurn k used (turnOf reserveSlot db r)) := by
  by_cases hroom : HasRoom db r
  · have hserved := reserveSlot_of_hasRoom hroom
    by_cases hk : r.key k.scope = k
    · have hrow : NotNewer r.stamp (db.row k) := by
        intro row heq
        by_contra hlt
        exact hkept ⟨hroom, hk, row, heq, by omega⟩
      have hcounted : countTurn k used (turnOf reserveSlot db r) =
          Function.update used r.stamp (used r.stamp + 1) := by
        funext h
        by_cases hh : h = r.stamp
        · subst hh
          simp [countTurn, acceptedCount, AcceptedIn, hserved, hk, Except.toBool]
        · simp [countTurn, acceptedCount, AcceptedIn, hh, Ne.symm hh]
      rw [hcounted, hserved]
      exact hused.accept hroom hk hrow
    · have hcounted : countTurn k used (turnOf reserveSlot db r) = used := by
        funext h
        simp [countTurn, acceptedCount, AcceptedIn, hk]
      intro h
      rw [hcounted, hserved, reserve_row_of_key_ne hk]
      exact hused h
  · have hserved := reserveSlot_of_not_hasRoom hroom
    have hcounted : countTurn k used (turnOf reserveSlot db r) = used := by
      funext h
      simp [countTurn, acceptedCount, AcceptedIn, hserved, Except.toBool]
    rw [hcounted, hserved]
    exact hused

/-- Over a run, the account of a row that no transaction sets back. -/
theorem Accounted.run {k : CounterKey} {db : CounterDb} {used : ℤ → ℕ}
    (hused : Accounted k db used) {rs : List SendRequest}
    (hkept : ∀ t ∈ turns reserveSlot db rs, ¬Rewinds k t.before t.request) :
    Accounted k (finish reserveSlot db rs)
      fun h => used h + acceptedCount h k (turns reserveSlot db rs) := by
  induction rs generalizing db used with
  | nil => simpa [acceptedCount] using hused
  | cons r rs ih =>
      have hfirst : ¬Rewinds k db r := hkept (turnOf reserveSlot db r) (by simp)
      have hrest := ih (hused.step hfirst) fun t ht => hkept t (by simp [ht])
      intro h
      have hh := hrest h
      simp only [countTurn, acceptedCount, List.countP_cons, List.countP_nil] at hh
      simp only [turns_cons, acceptedCount, List.countP_cons, finish_cons]
      constructor
      · have hcap := hh.1
        omega
      · intro hrow
        have hcount := hh.2 hrow
        omega

/-- Where no accepted request is older than the hour of the row `k`, no hour has
more accepted reservations in that row than the cap of its scope. -/
theorem accepted_le_cap (db : CounterDb) (rs : List SendRequest) (k : CounterKey)
    (hkept : ∀ t ∈ turns reserveSlot db rs, ¬Rewinds k t.before t.request)
    (h : ℤ) : acceptedCount h k (turns reserveSlot db rs) ≤ k.scope.cap := by
  have hstart : Accounted k db fun _ => 0 :=
    fun _ => ⟨Nat.zero_le _, fun _ => Nat.zero_le _⟩
  have hrun := hstart.run hkept
  simpa using (hrun h).1

/-- A request of `ada@example.com` from no known address. -/
def adaAt (now : ℤ) : SendRequest := ⟨fun _ => none, "ada@example.com", now⟩

/-- Six requests between one and two o'clock and one after two. -/
theorem accepted_le_cap_in_order :
    acceptedCount 3600000 ⟨.email, "ada@example.com"⟩
        (turns reserveSlot Db.empty
          ((List.replicate 6 (adaAt 3600001)) ++ [adaAt 7200000])) ≤ 5 :=
  accepted_le_cap _ _ _ (by decide +kernel) _

/-- Four requests after one o'clock, one that read its clock before one and
commits after them, and five more after one: nine of one hour are accepted. -/
theorem nine_reservations_in_an_hour :
    ¬∀ (rs : List SendRequest) (h : ℤ) (k : CounterKey),
      acceptedCount h k (turns reserveSlot Db.empty rs) ≤ k.scope.cap := by
  intro hcap
  have hnine := hcap
    (List.replicate 4 (adaAt 3600000) ++ adaAt 3599999 ::
      List.replicate 5 (adaAt 3600000)) 3600000 ⟨.email, "ada@example.com"⟩
  revert hnine
  decide +kernel

end AgentSkeptic.Hosted.MagicLink
